import TemplateLint.Text.Lines
import TemplateLint.Text.Literal

namespace TemplateLint

inductive Problem where
  | patternsNotList (key kind : String)
  | unknownFormat
  | showSourceNotBool
  | lintersNotTable
  | unknownLinters (names : List String)
  | linterNotTable
  | enabledNotBool
  | ignoredNotStrings
  | ignoredNotList
  deriving DecidableEq, Repr

def Problem.message : Problem → String
  | patternsNotList key kind => s!"{key} must be a list, got {kind}"
  | unknownFormat => "output_format must be one of ['text', 'json']"
  | showSourceNotBool => "show_source must be a boolean"
  | lintersNotTable => "linters must be a table"
  | unknownLinters names =>
    let names := Text.quotedList names
    s!"linters contains unknown linters: {names}"
  | linterNotTable => "linters.pylint must be a table"
  | enabledNotBool => "linters.pylint.enabled must be a boolean"
  | ignoredNotStrings => "linters.pylint.ignored_checks must contain only strings"
  | ignoredNotList => "linters.pylint.ignored_checks must be a list"

inductive ConfigFault where
  | problems (found : List Problem)
  | notToml
  | unreadable (reason : String)
  deriving DecidableEq, Repr

def ConfigFault.message : ConfigFault → String
  | problems found => Text.joinStrings "\n" ("Configuration errors:" :: found.map fun p => "  - " ++ p.message)
  -- The reason is in the words of the reader of documents and is left open.
  | notToml => "Invalid TOML: *"
  | unreadable reason => s!"Cannot read config file: {reason}"

end TemplateLint
