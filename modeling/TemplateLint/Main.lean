import TemplateLint.CommandLine.Words
import TemplateLint.Lexer.Reader
import TemplateLint.Value.Json.Reader

/-!
The program. Its arguments are the words of a call. What the call may see comes from standard input as one JSON object: under
`files` the texts by their paths, under `messages` what the analyzer has to say by the names of the fragments, and the working
directory under `cwd`. Under `faults` stands what is wrong with a piece of Python in a template, as a message and a line.
-/

namespace TemplateLint.Main

def members : Option Value → Table
  | some (.table entries) => entries
  | _ => []

def text (t : Table) (key : String) : String := ((t.get? key).bind Value.str?).getD ""

def int? (t : Table) (key : String) : Option Int :=
  match t.get? key with
  | some (.int n) => some n
  | _ => none

def message (t : Table) : Message where
  symbol := text t "symbol"
  line := (int? t "line").getD 0
  column := (int? t "column").getD 0
  endLine := int? t "end_line"
  endColumn := int? t "end_column"
  text := text t "message"
  category := text t "category"

def analyzer (messages : Table) : Analyzer := fun call =>
  match messages.get? (call.flags.getLastD "") with
  | some (.list items) => .reported (items.map fun v => message (members (some v)))
  | _ => .reported []

def compiler (faults : Table) : Lexer.Compiler := fun cs =>
  match faults.get? (String.ofList cs) with
  | some (.table fault) => some (text fault "message", ((int? fault "line").getD 0).toNat)
  | _ => none

def site (input : Table) : Discovery.Site where
  root := (members (input.get? "files")).foldl
    (fun root (path, content) =>
      FileTree.store root [] (.ofString path) (.file (Text.encodeUtf8 ((content.str?).getD "")))) (.directory [])
  cwd := ((Path.ofString (text input "cwd")).parts)

def output (words : List String) (rcfile : Option String) (input : Table) : CommandLine.Output :=
  let reader := Lexer.reader (compiler (members (input.get? "faults")))
  CommandLine.run CommandLine.parser reader (site input) (analyzer (members (input.get? "messages"))) rcfile words

end TemplateLint.Main

open TemplateLint in
def main (words : List String) : IO UInt32 := do
  let input ← (← IO.getStdin).readToEnd
  let rcfile ← IO.getEnv "MAKOLINT_PYLINT_RCFILE"
  let output := Main.output words rcfile (Main.members (Json.read? input))
  (← IO.getStdout).putStr output.stdout
  (← IO.getStderr).putStr (output.stderr ++ (output.failure.map fun f => f.message ++ "\n").getD "")
  return UInt32.ofNat (output.exit % 256).toNat
