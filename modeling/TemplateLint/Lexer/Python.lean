import TemplateLint.Text.Character
import TemplateLint.Text.Lines

namespace TemplateLint.Lexer

open Text

inductive Delimiter where
  | filtersOrEnd
  | expressionEnd
  | codeEnd
  deriving DecidableEq, Repr

def Delimiter.patterns : Delimiter → List String
  | .filtersOrEnd => ["\\|", "\x7d"]
  | .expressionEnd => ["\x7d"]
  | .codeEnd => ["%>"]

def Delimiter.nested : Delimiter → Bool
  | .codeEnd => false
  | _ => true

def Delimiter.size? : Delimiter → List Char → Option Nat
  | .filtersOrEnd, '|' :: _ => some 1
  | .filtersOrEnd, '\x7d' :: _ => some 1
  | .expressionEnd, '\x7d' :: _ => some 1
  | .codeEnd, '%' :: '>' :: _ => some 2
  | _, _ => none

def closingQuote? (quote : List Char) : List Char → Option Nat
  | [] => none
  | '\\' :: [] => none
  | '\\' :: _ :: cs => (closingQuote? quote cs).map (· + 2)
  | c :: cs => if startsWith quote (c :: cs) then some quote.length else (closingQuote? quote cs).map (· + 1)

def literalSize? (cs : List Char) : Option Nat :=
  let quotes := [['"', '"', '"'], ['\'', '\'', '\''], ['"'], ['\'']]
  quotes.findSome? fun quote =>
    if startsWith quote cs then (closingQuote? quote (cs.drop quote.length)).map (· + quote.length) else none

def commentSize? : List Char → Option Nat
  | '#' :: cs => (find? ['\n'] cs).map (· + 2)
  | _ => none

structure Nesting where
  braces : Int
  parens : Int
  brackets : Int

def Nesting.none : Nesting := ⟨0, 0, 0⟩

def Nesting.isOpen (n : Nesting) : Bool := 0 < n.braces || 0 < n.parens || 0 < n.brackets

def Nesting.count (n : Nesting) : Char → Nesting
  | '\x7b' => { n with braces := n.braces + 1 }
  | '\x7d' => { n with braces := n.braces - 1 }
  | '(' => { n with parens := n.parens + 1 }
  | ')' => { n with parens := n.parens - 1 }
  | '[' => { n with brackets := n.brackets + 1 }
  | ']' => { n with brackets := n.brackets - 1 }
  | _ => n

def delimited? (d : Delimiter) (open_ : Nesting) : List Char → Option Nat
  | [] => none
  | c :: cs =>
    match (commentSize? (c :: cs)).or (literalSize? (c :: cs)) with
    | some n => (delimited? d open_ (cs.drop (n - 1))).map (· + max n 1)
    | none =>
      if (d.size? (c :: cs)).isSome && !(d.nested && open_.isOpen) then some 0
      else (delimited? d (open_.count c) cs).map (· + 1)
termination_by cs => cs.length
decreasing_by all_goals simp only [List.length_cons, List.length_drop]; omega

def literalAfter : Option Char → List Char → Option Char
  | quote, [] => quote
  | some q, c :: cs => if startsWith [q, q, q] (c :: cs) then literalAfter none (cs.drop 2) else literalAfter (some q) cs
  | none, c :: cs =>
    if c = '#' then none
    else if (c = '"' ∨ c = '\'') ∧ startsWith [c, c] cs then literalAfter (some c) (cs.drop 2)
    else literalAfter none cs
termination_by _ cs => cs.length
decreasing_by all_goals simp only [List.length_cons, List.length_drop]; omega

def expandTabs (column : Nat) : List Char → List Char
  | [] => []
  | c :: cs =>
    if c = '\t' then List.replicate (8 - column % 8) ' ' ++ expandTabs 0 cs
    else c :: expandTabs (if c = '\r' ∨ c = '\n' then 0 else column + 1) cs

def indentation? (line : List Char) : Option (List Char) :=
  match line.dropWhile isIndent with
  | [] => none
  | c :: _ => if c = '#' then none else some (line.takeWhile isIndent)

def withoutMarginLines (margin : Option (List Char)) (literal : Option Char) (joined : Bool) :
    List (List Char) → List (List Char)
  | [] => []
  | line :: lines =>
    let literal' := literalAfter literal line
    let joined' := line.getLast? == some '\\'
    if literal.isSome || joined then line :: withoutMarginLines margin literal' joined' lines
    else
      let spaced := expandTabs 0 line
      let margin := margin.or (indentation? spaced)
      let bare := match margin with
        | some m => if startsWith m spaced then spaced.drop m.length else spaced
        | none => spaced
      bare :: withoutMarginLines margin literal' joined' lines

def withoutMargin (cs : List Char) : List Char :=
  join ['\n'] (withoutMarginLines none none false (splitOn '\n' (dropReturns cs)))

end TemplateLint.Lexer
