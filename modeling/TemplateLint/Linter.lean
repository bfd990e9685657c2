import TemplateLint.Analyzer
import TemplateLint.Diagnostic.Basic
import TemplateLint.Fragment.Extract
import TemplateLint.Offense.Position
import TemplateLint.Template.Basic

namespace TemplateLint

namespace Template

def extract (t : Template) : Except Failure Extracted :=
  match t.content with
  | .ok nodes => .ok (.ofNodes t.lines nodes)
  | .error _ => .error .noTree

def rejection? (t : Template) : Option Diagnostic :=
  match t.content with
  | .ok _ => none
  | .error r => some {
      file := t.file, location := { line := r.line, column := r.column }
      linter := "Syntax", code := "syntax-error", message := r.message, severity := .error, sourceLine := r.sourceLine }

def rejection (t : Template) : Except Failure Diagnostic :=
  match t.rejection? with
  | some d => .ok d
  | none => .error .noRejection

def label (t : Template) : String := (t.file.map Path.toText).getD "None"

end Template

namespace Linter

abbrev Invoker := String → String → Traced (List Offense)

def fragmentName : Option Path → String
  | none => "python_script.py"
  | some file => file.toText ++ ".py"

def diagnostic (t : Template) (map : SourceMap) (o : Offense) : Diagnostic :=
  let location := o.location map t.lines.length
  { file := t.file, location, linter := linterName, code := o.check, message := Offense.normalized o.message
    severity := if o.isError then .error else .warn, sourceLine := Text.lineAt? t.lines location.line }

def checkExtracted (invoke : Invoker) (ignored : List String) (t : Template) (e : Extracted) : Traced (List Diagnostic) := do
  if Text.allBlank e.text.toList then
    Traced.log .debug .linter s!"No Python in {t.label}, skipping pylint"
    return []
  else
    let name := fragmentName t.file
    Traced.enter (.analyze e.text name)
    let offenses ← invoke e.text name
    let kept := Offense.kept ignored offenses
    Traced.log .debug .linter
      s!"pylint reported {offenses.length} offenses for {t.label}, {offenses.length - kept.length} ignored"
    return kept.map (diagnostic t e.map)

def check (invoke : Invoker) (ignored : List String) (t : Template) : Traced (List Diagnostic) := do
  checkExtracted invoke ignored t (← Traced.ofExcept t.extract)

end Linter

end TemplateLint
