import TemplateLint.Config.Report
import TemplateLint.Journal
import TemplateLint.Text.Lines

namespace TemplateLint

inductive Analysis where
  | reported (messages : List Message)
  | misreported (reporter : String)
  | crashed (message : String)
  | exited (code : Option Int)

abbrev Analyzer := Call → Analysis

namespace Analyzer

open Text

def flags (name : String) (rcfile : Option String) : List String :=
  ["--msg-template=\x7bmsg\x7d", "--persistent=n", "--score=n"] ++
    (match Config.rcfile? rcfile with
      | some file => ["--rcfile", file]
      | none => []) ++
    ["--from-stdin", name]

def stdin (fragment : String) : String :=
  -- What is read in the end has one line feed behind it, whatever the fragment ends in.
  String.ofList (unifyNewlines ((fragment.toList.reverse.dropWhile (· == '\n')).reverse ++ ['\n']))

def lineCount (fragment : String) : Nat := fragment.toList.count '\n' + 1

def offenses : Analysis → Except Failure (List Offense)
  | .reported messages => .ok (messages.map .ofMessage)
  | .misreported reporter => .error (.misreported reporter)
  | .crashed message => .error (.analyzerCrash message)
  | .exited code => .error (.analyzerExit code)

def run (analyzer : Analyzer) (rcfile : Option String) (fragment name : String) : Traced (List Offense) := do
  let call : Call := ⟨flags name rcfile, stdin fragment⟩
  let words := joinStrings " " call.flags
  Traced.log .debug .analyzer s!"Running pylint {words} on {lineCount fragment} lines"
  Traced.enter (.call call)
  Traced.ofExcept (offenses (analyzer call))

end Analyzer

end TemplateLint
