import TemplateLint.Path
import TemplateLint.Text.Character
import TemplateLint.Text.Word

namespace TemplateLint

structure Place where
  line : Int
  column : Int
  deriving DecidableEq, Repr

-- Texts, comments and what a control line holds carry no Python of the document. They keep the nodes that they hold, but
-- nobody visits them.
inductive Node where
  | control (text keyword : String) (closes : Bool) (place : Place) (held : List Node)
  | code (text : String) (place : Place)
  | expression (text : String) (place : Place)
  | define (name : Option String) (place : Place) (body : List Node)
  | tag (body : List Node)
  | inert (held : List Node)
  deriving Inhabited

structure Rejection where
  line : Int
  column : Int
  message : String
  sourceLine : Option String
  deriving DecidableEq, Repr

structure Template where
  file : Option Path
  source : String
  lines : List String
  content : Except Rejection (List Node)

namespace Template

structure Fault where
  line : Option Int
  column : Option Int
  message : String
  deriving DecidableEq, Repr

/-- Takes a text and the name of its file, and gives the nodes in it or says what is wrong with it. It is not part of the
program, so everything that depends on it is said of every reader. -/
abbrev Reader := String → Option String → Except Fault (List Node)

def reject (lines : List String) (f : Fault) : Rejection :=
  let line := (f.line.filter (· ≠ 0)).getD 1
  { line, column := max 1 (f.column.getD 1), message := if f.message = "" then "Syntax error" else f.message,
    sourceLine := Text.lineAt? lines line }

def ofSource (reader : Reader) (source : String) (file : Option Path) : Template :=
  let lines := (Text.splitLines source.toList).map String.ofList
  { file, source, lines, content := (reader source (file.map Path.toText)).mapError (reject lines) }

def unreadable (file : Path) (message : String) : Template where
  file := some file
  source := ""
  lines := []
  content := .error ⟨1, 1, message, none⟩

open Text

inductive HeaderEnd where
  | nothing
  | comment (column : Nat)

def headerEnd? (cs : List Char) (column : Nat) : Option HeaderEnd :=
  match trimStart cs with
  | [] => some .nothing
  | c :: rest => if c = '#' then some (.comment (column + cs.length - rest.length - 1)) else none

def colon? (column : Nat) : List Char → Option HeaderEnd
  | [] => none
  | c :: cs => if c = ':' then (headerEnd? cs (column + 1)).or (colon? (column + 1) cs) else colon? (column + 1) cs

def header? (text : List Char) : Option (String × List Char) :=
  let stripped := trim text
  let word := stripped.takeWhile isWord
  let rest := stripped.drop word.length
  let found :=
    match rest with
    | c :: cs =>
      if c = ':' then headerEnd? cs (word.length + 1) else if isBlank c then colon? (word.length + 1) cs else none
    | [] => none
  if word = [] then none
  else found.map fun
    | .nothing => (String.ofList word, text)
    | .comment column => (String.ofList word, text.take column)

end Template

end TemplateLint
