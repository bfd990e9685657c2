import TemplateLint.Lexer.Tree

namespace TemplateLint.Lexer

open Text

def encodingName? (cs : List Char) : Option Nat :=
  match cs with
  | sign :: rest =>
    let name := trimStart rest
    match name with
    | c :: _ =>
      if (sign = ':' ∨ sign = '=') ∧ (isWord c ∨ c = '-' ∨ c = '.') then
        (find? ['\n'] name).map fun i => cs.length - name.length + i + 1
      else none
    | [] => none
  | [] => none

def encodingSize? : List Char → Option Nat
  | '#' :: cs =>
    let line := cs.takeWhile (· ≠ '\n')
    let word := "coding".toList
    -- The last naming on the line counts.
    (List.range (line.length + 1)).reverse.findSome? fun i =>
      if startsWith word (line.drop i) then (encodingName? (cs.drop (i + word.length))).map (· + i + word.length + 1) else none
  | _ => none

def readFrom (compiler : Compiler) (s : Tree) (c : Cursor) : Except Fault (List Node) :=
  match h : c.rest with
  | [] => s.finish c
  | _ :: _ =>
    let (construct, n) := Construct.read c
    match s.addConstruct compiler c construct with
    | .error fault => .error fault
    | .ok s =>
      have : (Cursor.skip (max n 1) c).rest.length < c.rest.length := by
        rw [Cursor.rest_skip, h]
        simp only [List.length_cons, List.length_drop]
        omega
      readFrom compiler s (Cursor.skip (max n 1) c)
termination_by c.rest.length

def nodes? (compiler : Compiler) (cs : List Char) : Except Fault (List Node) :=
  readFrom compiler .empty (Cursor.skip ((encodingSize? cs).getD 0) (.start cs))

def reader (compiler : Compiler) : Template.Reader := fun source name =>
  (nodes? compiler source.toList).mapError fun f => ⟨some f.place.line, some f.place.column, f.message name⟩

end TemplateLint.Lexer
