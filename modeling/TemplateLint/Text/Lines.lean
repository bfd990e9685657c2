namespace TemplateLint.Text

def find? (needle : List Char) : List Char → Option Nat
  | [] => if needle = [] then some 0 else none
  | c :: cs => if needle.isPrefixOf (c :: cs) then some 0 else (find? needle cs).map (· + 1)

def findFrom? (needle : List Char) (start : Nat) (hay : List Char) : Option Nat :=
  if hay.length < start then none else (find? needle (hay.drop start)).map (· + start)

def contains (needle hay : List Char) : Bool := (find? needle hay).isSome

def startsWith (lead cs : List Char) : Bool := lead.isPrefixOf cs

def endsWith (tail cs : List Char) : Bool := tail.reverse.isPrefixOf cs.reverse

def cut? (sep : List Char) (cs : List Char) : Option (List Char × List Char) :=
  (find? sep cs).map fun i => (cs.take i, cs.drop (i + sep.length))

def splitOn (sep : Char) : List Char → List (List Char)
  | [] => [[]]
  | c :: cs =>
    if c = sep then [] :: splitOn sep cs
    else match splitOn sep cs with
      | [] => [[c]]
      | piece :: pieces => (c :: piece) :: pieces

@[simp, grind =] theorem splitOn_nil (sep : Char) : splitOn sep [] = [[]] := rfl

@[simp, grind =] theorem splitOn_cons_self (sep : Char) (cs : List Char) : splitOn sep (sep :: cs) = [] :: splitOn sep cs := by
  rw [splitOn, if_pos rfl]

@[grind =>] theorem splitOn_cons_of_ne {sep c : Char} {cs piece : List Char} {pieces : List (List Char)} (other : c ≠ sep)
    (cut : splitOn sep cs = piece :: pieces) : splitOn sep (c :: cs) = (c :: piece) :: pieces := by
  rw [splitOn, if_neg other, cut]

def join (sep : List Char) : List (List Char) → List Char
  | [] => []
  | [piece] => piece
  | piece :: pieces => piece ++ sep ++ join sep pieces

@[simp, grind =] theorem join_nil (sep : List Char) : join sep [] = [] := rfl

@[simp, grind =] theorem join_singleton (sep piece : List Char) : join sep [piece] = piece := rfl

def joinStrings (sep : String) (pieces : List String) : String :=
  String.ofList (join sep.toList (pieces.map String.toList))

def isLineBreak (c : Char) : Bool :=
  let n := c.toNat
  (0x0a ≤ n && n ≤ 0x0d) || (0x1c ≤ n && n ≤ 0x1e) || n == 0x85 || n == 0x2028 || n == 0x2029

def splitLines : List Char → List (List Char)
  | [] => []
  | '\r' :: '\n' :: cs => [] :: splitLines cs
  | c :: cs =>
    if isLineBreak c then [] :: splitLines cs
    else match splitLines cs with
      | [] => [[c]]
      | line :: lines => (c :: line) :: lines

def unifyNewlines : List Char → List Char
  | [] => []
  | '\r' :: '\n' :: cs => '\n' :: unifyNewlines cs
  | '\r' :: cs => '\n' :: unifyNewlines cs
  | c :: cs => c :: unifyNewlines cs

def dropReturns : List Char → List Char
  | [] => []
  | '\r' :: '\n' :: cs => '\n' :: dropReturns cs
  | c :: cs => c :: dropReturns cs

def lineAt? (lines : List String) (line : Int) : Option String := if 1 ≤ line then lines[(line - 1).toNat]? else none

end TemplateLint.Text
