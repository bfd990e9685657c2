import TemplateLint.Text.Lines

namespace TemplateLint

structure Location where
  line : Int
  column : Int
  endLine : Option Int := none
  endColumn : Option Int := none
  length : Option Int := none
  deriving DecidableEq, Repr

namespace Location

def shift (l : Location) (columns : Int) : Location := { l with column := l.column + columns }

def span (first last : Location) (length : Option Int) : Location :=
  ⟨first.line, first.column, some last.line, some last.column, length⟩

private def field : Option Int → String
  | none => "None"
  | some n => s!"{n}"

def describe (l : Location) : String :=
  s!"SourceLocation(line={l.line}, column={l.column}, end_line={field l.endLine}, end_column={field l.endColumn}, " ++
    s!"length={field l.length})"

end Location

structure SourceMap where
  entries : List (Int × Location)
  deriving DecidableEq, Repr

namespace SourceMap

def empty : SourceMap := ⟨[]⟩

def get? (m : SourceMap) (line : Int) : Option Location := (m.entries.find? (·.1 == line)).map (·.2)

def contains (m : SourceMap) (line : Int) : Bool := m.entries.any (·.1 == line)

def keys (m : SourceMap) : List Int := m.entries.map (·.1)

def size (m : SourceMap) : Nat := m.entries.length

def insert (m : SourceMap) (line : Int) (place : Location) : SourceMap :=
  if m.contains line then ⟨m.entries.map fun e => if e.1 == line then (line, place) else e⟩
  else ⟨m.entries ++ [(line, place)]⟩

def ofList (entries : List (Int × Location)) : SourceMap := entries.foldl (fun m e => m.insert e.1 e.2) empty

def agrees (m n : SourceMap) : Bool := m.size == n.size && m.entries.all fun e => n.get? e.1 == some e.2

def describe (m : SourceMap) : String :=
  let fields := m.entries.map fun (line, place) => s!"{line}: {place.describe}"
  "SourceMap(\x7b" ++ Text.joinStrings ", " fields ++ "\x7d)"

end SourceMap

end TemplateLint
