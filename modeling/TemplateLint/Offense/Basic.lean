import TemplateLint.SourceMap

namespace TemplateLint

structure Message where
  symbol : String
  line : Int
  column : Int
  endLine : Option Int := none
  endColumn : Option Int := none
  text : String
  category : String
  deriving DecidableEq, Repr

structure Offense where
  check : String
  -- Lines count from one, columns from zero.
  line : Int
  column : Int
  lastLine : Int
  lastColumn : Int
  columnLength : Option Int
  message : String
  category : String
  deriving DecidableEq, Repr

namespace Offense

def ofMessage (m : Message) : Offense :=
  let lastLine := m.endLine.getD m.line
  let lastColumn := m.endColumn.getD m.column
  { check := m.symbol, line := m.line, column := m.column, lastLine, lastColumn
    -- A span over several lines has no length.
    columnLength := if lastLine = m.line then some (lastColumn - m.column) else none
    message := m.text, category := m.category }

def isError (o : Offense) : Bool := o.category == "error" || o.category == "fatal"

/-- The span in the template. An offense on a line with no counterpart goes to the last line of the template, one that
ends on such a line ends where it begins. -/
def location (o : Offense) (map : SourceMap) (lineCount : Int) : Location :=
  match map.get? o.line with
  | none => { line := lineCount, column := 0 }
  | some first =>
    let last := (map.get? o.lastLine).getD first
    Location.span (first.shift o.column) (last.shift o.lastColumn) o.columnLength

def kept (ignored : List String) (offenses : List Offense) : List Offense :=
  offenses.filter fun o => !ignored.contains o.check

end Offense

end TemplateLint
