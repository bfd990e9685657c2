import TemplateLint.SourceMap
import TemplateLint.Path

namespace TemplateLint

inductive Severity where
  | error | warn
  deriving DecidableEq, Repr

def Severity.word : Severity → String
  | .error => "error"
  | .warn => "warn"

def Severity.heading : Severity → String
  | .error => "ERROR"
  | .warn => "WARN"

structure Diagnostic where
  file : Option Path
  location : Location
  linter : String
  code : String
  message : String
  severity : Severity
  sourceLine : Option String := none
  deriving DecidableEq, Repr

namespace Diagnostic

def rule (d : Diagnostic) : String := s!"{d.linter}/{d.code}"

def fileText (d : Diagnostic) : String := d.file.elim "" Path.toText

def le (d e : Diagnostic) : Bool :=
  d.fileText < e.fileText || (d.fileText == e.fileText &&
    (d.location.line < e.location.line || (d.location.line == e.location.line && d.location.column ≤ e.location.column)))

end Diagnostic

abbrev Diagnostics := List Diagnostic

namespace Diagnostics

def sorted (ds : Diagnostics) : Diagnostics := ds.mergeSort Diagnostic.le

def errorCount (ds : Diagnostics) : Nat := ds.countP (·.severity = .error)

def warningCount (ds : Diagnostics) : Nat := ds.countP (·.severity = .warn)

def hasErrors (ds : Diagnostics) : Bool := ds.any (·.severity = .error)

end Diagnostics

end TemplateLint
