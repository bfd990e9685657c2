import TemplateLint.Lexer.Control
import TemplateLint.Lexer.Python
import TemplateLint.Lexer.Tag
import TemplateLint.Template.Basic

namespace TemplateLint.Lexer

structure Cursor where
  rest : List Char
  line : Nat
  column : Nat
  fresh : Bool

namespace Cursor

def start (cs : List Char) : Cursor := ⟨cs, 1, 1, true⟩

def skip : Nat → Cursor → Cursor
  | 0, c => c
  | n + 1, c =>
    match c.rest with
    | [] => c
    | ch :: cs => skip n (if ch = '\n' then ⟨cs, c.line + 1, 1, false⟩ else ⟨cs, c.line, c.column + 1, false⟩)

theorem rest_skip (n : Nat) (c : Cursor) : (skip n c).rest = c.rest.drop n := by
  induction n generalizing c with
  | zero => rfl
  | succ n ih =>
    unfold skip
    split
    · next h => simp [h]
    · next h =>
      rw [ih, h]
      split <;> rfl

def place (c : Cursor) : Place := ⟨c.line, c.column⟩

def atLineStart (c : Cursor) : Bool := c.column == 1

def afterBreak (c : Cursor) : Bool := c.column == 1 && !c.fresh

end Cursor

open Text

inductive RawText where
  | unended | empty | complete
  deriving DecidableEq, Repr

inductive Construct where
  | expression (text filters : List Char)
  | code (text : List Char)
  | undelimited (delimiter : Delimiter) (start : Nat)
  | control (text : List Char)
  | tag (t : Tag)
  | rawText (t : Tag) (content : RawText)
  | closing (name : String)
  | comment
  | text

namespace Construct

def expression? : List Char → Option (Construct × Nat)
  | '$' :: '\x7b' :: cs =>
    match delimited? .filtersOrEnd .none cs with
    | none => some (.undelimited .filtersOrEnd 0, 2)
    | some n =>
      let text := dropReturns (cs.take n)
      match cs.drop n with
      | '|' :: filters =>
        match delimited? .expressionEnd .none filters with
        | none => some (.undelimited .expressionEnd (n + 2), n + 3)
        | some m => some (.expression text (trim (filters.take m)), n + m + 4)
      | _ => some (.expression text [], n + 3)
  | _ => none

def marked? (c : Cursor) : Option (Construct × Nat) :=
  if c.atLineStart then
    (markedLine? c.rest).map fun (line, n) =>
      match line with
      | .control words => (Construct.control words, n)
      | .comment => (Construct.comment, n)
  else none

def documentation? (cs : List Char) : Option (Construct × Nat) :=
  let first := "<%doc>".toList
  let last := "</%doc>".toList
  if startsWith first cs then
    (find? last (cs.drop first.length)).map fun i => (.comment, first.length + i + last.length)
  else none

def tag? (cs : List Char) : Option (Construct × Nat) :=
  (Tag.read? cs).map fun (t, n) =>
    if t.name ≠ "text" ∨ t.closed then (.tag t, n)
    else
      let last := "</%text>".toList
      match find? last (cs.drop n) with
      | none => (.rawText t .unended, n)
      -- Empty content is passed over as if it were not there, so that the end is not found any more.
      | some 0 => (.rawText t .empty, n + 1)
      | some (i + 1) => (.rawText t .complete, n + i + 1 + last.length)

def closing? (cs : List Char) : Option (Construct × Nat) := (Tag.closing? cs).map fun (name, n) => (.closing name, n)

def code? : List Char → Option (Construct × Nat)
  | '<' :: '%' :: cs =>
    let mark := if cs.head? = some '!' then 1 else 0
    match delimited? .codeEnd .none (cs.drop mark) with
    | none => some (.undelimited .codeEnd 0, 2 + mark)
    | some n => some (.code (withoutMargin ((cs.drop mark).take n) ++ ['\n']), 2 + mark + n + 2)
  | _ => none

def percent? (c : Cursor) : Option (Construct × Nat) :=
  let blanks := c.rest.takeWhile isBlank
  match c.rest.drop blanks.length with
  | '%' :: '%' :: cs =>
    if c.atLineStart then some (.text, blanks.length + 2 + (cs.takeWhile (· == '%')).length) else none
  | _ => none

def textSize (afterBreak : Bool) : List Char → Nat
  | [] => 0
  | '\\' :: '\n' :: _ => 2
  | '\\' :: '\r' :: '\n' :: _ => 3
  | c :: cs =>
    let marked := match (c :: cs).dropWhile isIndent with
      | '%' :: _ => true
      | '#' :: '#' :: _ => true
      | _ => false
    if (afterBreak && marked) || startsWith ['$', '\x7b'] (c :: cs) || startsWith ['<', '%'] (c :: cs) ||
        startsWith ['<', '/', '%'] (c :: cs) then 0
    else 1 + textSize (c == '\n') cs

def read (c : Cursor) : Construct × Nat :=
  ((expression? c.rest).or <| (marked? c).or <| (documentation? c.rest).or <| (tag? c.rest).or <| (closing? c.rest).or <|
    (code? c.rest).or (percent? c)).getD (.text, textSize c.afterBreak c.rest)

end Construct

end TemplateLint.Lexer
