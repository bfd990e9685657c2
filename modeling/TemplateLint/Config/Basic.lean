import TemplateLint.Failure

namespace TemplateLint

inductive OutputFormat where
  | text | json
  deriving DecidableEq, Repr

namespace OutputFormat

def word : OutputFormat → String
  | text => "text"
  | json => "json"

def ofWord? : String → Option OutputFormat
  | "text" => some text
  | "json" => some json
  | _ => none

end OutputFormat

-- Checks that only fire because of the way in which a fragment is put together.
def defaultIgnored : List String :=
  ["missing-module-docstring", "missing-function-docstring", "undefined-variable", "pointless-statement",
    "expression-not-assigned", "line-too-long", "invalid-name"]

def defaultIncluded : List String := ["**/*.mako", "**/*.mak"]

def defaultExcluded : List String :=
  ["**/__pycache__/**", "**/.*", "**/.git/**", "**/.venv/**", "**/venv/**", "**/env/**", "**/node_modules/**", "build/**",
    "dist/**"]

structure LinterOptions where
  enabled : Bool := true
  ignored : List String := defaultIgnored
  deriving DecidableEq, Repr

def linterName : String := "Pylint"

structure Config where
  path : Option Path := none
  included : List Value := defaultIncluded.map .str
  excluded : List Value := defaultExcluded.map .str
  format : OutputFormat := .text
  showSource : Bool := true
  linter : LinterOptions := {}

namespace Config

def isEnabled (c : Config) (name : String) : Bool := name == linterName && c.linter.enabled

end Config

end TemplateLint
