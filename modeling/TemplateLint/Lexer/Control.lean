import TemplateLint.Text.Character
import TemplateLint.Text.Lines
import TemplateLint.Text.Word

namespace TemplateLint.Lexer

open Text

/-- The text up to the end of the line and the length with that end. A backslash takes the line break behind it along, as
long as some later line can be ended; a carriage return counts only before a line feed. -/
def logicalLine? : List Char → Option (List Char × Nat)
  | [] => some ([], 0)
  | '\n' :: _ => some ([], 1)
  | '\r' :: '\n' :: _ => some ([], 2)
  | '\r' :: _ => none
  | '\\' :: '\n' :: cs =>
    match logicalLine? cs with
    | some (text, n) => some ('\\' :: '\n' :: text, n + 2)
    | none => some (['\\'], 2)
  | '\\' :: '\r' :: '\n' :: cs =>
    match logicalLine? cs with
    | some (text, n) => some ('\\' :: '\r' :: '\n' :: text, n + 3)
    | none => some (['\\'], 3)
  | c :: cs => (logicalLine? cs).map fun (text, n) => (c :: text, n + 1)

inductive MarkedLine where
  | control (text : List Char)
  | comment

def markedLine? (cs : List Char) : Option (MarkedLine × Nat) :=
  let indent := cs.takeWhile isIndent
  let body (rest : List Char) (mark : Nat) (kind : List Char → MarkedLine) :=
    let gap := rest.takeWhile isIndent
    (logicalLine? (rest.drop gap.length)).map fun (text, n) => (kind text, indent.length + mark + gap.length + n)
  match cs.drop indent.length with
  | '%' :: rest => if rest.head? = some '%' then none else body rest 1 .control
  | '#' :: '#' :: rest => body rest 2 fun _ => .comment
  | _ => none

def keyword? (text : List Char) : Option (Bool × String) :=
  let word := text.takeWhile isWord
  if word = [] then none
  else if startsWith "end".toList word ∧ 3 < word.length then some (true, String.ofList (word.drop 3))
  else some (false, String.ofList word)

def opens (keyword : String) : Bool := ["for", "if", "while", "try", "with"].contains keyword

def headers : List String := ["for", "if", "while", "try", "elif", "else", "except", "with"]

def continuesBlock (opened keyword : String) : Bool :=
  match opened with
  | "if" => keyword == "else" || keyword == "elif"
  | "try" => keyword == "except" || keyword == "finally"
  | "for" => keyword == "else"
  | _ => false

end TemplateLint.Lexer
