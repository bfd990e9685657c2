import TemplateLint.Config.Basic
import TemplateLint.Value.Json.Printer

namespace TemplateLint.Config

open Text

def rcfileVariable : String := "MAKOLINT_PYLINT_RCFILE"

def excludedShown : Nat := 5

def joinTexts (index : Nat) : List Value → Except Failure (List String)
  | [] => .ok []
  | .str s :: vs => (joinTexts (index + 1) vs).map (s :: ·)
  | v :: _ => .error (.notText index v)

def commaSeparated (vs : List Value) : Except Failure String := (joinTexts 0 vs).map (joinStrings ", ")

def orElse (s default : String) : String := if s = "" then default else s

def truth (b : Bool) : String := if b then "True" else "False"

def rcfile? (rcfile : Option String) : Option String := rcfile.filter (· ≠ "")

def pathText (c : Config) : String := (c.path.map Path.toText).getD "(defaults)"

def describe (c : Config) (rcfile : Option String) : Except Failure String := do
  let excluded ← commaSeparated (c.excluded.take excludedShown)
  let included ← commaSeparated c.included
  let more := if excludedShown < c.excluded.length then "..." else ""
  return joinStrings "\n" [
    "MakoLint Configuration",
    String.ofList (List.replicate 40 '='),
    "",
    "Config file: " ++ c.pathText,
    "",
    "File Discovery:",
    "  Include: " ++ included,
    "  Exclude: " ++ excluded ++ more,
    "",
    "Output:",
    "  Format: " ++ c.format.word,
    "  Show source: " ++ truth c.showSource,
    "",
    "Linters:",
    "  Pylint: " ++ (if c.linter.enabled then "enabled" else "disabled"),
    "    Ignored checks: " ++ orElse (joinStrings ", " c.linter.ignored) "(none)",
    "    " ++ rcfileVariable ++ ": " ++ (rcfile? rcfile).getD "(unset)"]

def toValue (c : Config) (rcfile : Option String) : Value :=
  .table [
    ("config_path", .ofOption (c.path.map Path.toText)),
    ("include", .list c.included),
    ("exclude", .list c.excluded),
    ("output_format", .str c.format.word),
    ("show_source", .bool c.showSource),
    ("linters", .table [("pylint", .table [
      ("enabled", .bool c.linter.enabled),
      ("ignored_checks", .ofStrings c.linter.ignored),
      ("rcfile", .ofOption (rcfile? rcfile))])])]

def toJson (c : Config) (rcfile : Option String) : Except Failure String :=
  let v := c.toValue rcfile
  match v.moment? with
  -- JSON has no dates and times.
  | some moment => .error (.notJson moment)
  | none => .ok (Json.render v)

end TemplateLint.Config
