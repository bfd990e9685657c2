namespace TemplateLint.Pattern

structure CharSet where
  negated : Bool
  singles : List Char
  ranges : List (Char × Char)
  deriving DecidableEq, Repr

def CharSet.holds (s : CharSet) (c : Char) : Bool :=
  (s.singles.contains c || s.ranges.any fun (low, high) => low ≤ c && c ≤ high) != s.negated

inductive Item where
  | run
  | any
  | set (s : CharSet)
  | char (c : Char)
  deriving DecidableEq, Repr

/-- The texts between the hyphens that make ranges. The first `free` characters make none, and a hyphen at the very end
stands for itself. -/
def rangeParts (free : Nat) (before : List Char) : List Char → List (List Char)
  | [] => [before]
  | c :: cs =>
    if 0 < free ∨ c ≠ '-' then rangeParts (free - 1) (before ++ [c]) cs
    else if cs = [] then [before ++ [c]]
    else before :: rangeParts 2 [] cs

def joinBackward (part : List Char) : List (List Char) → List (List Char)
  | [] => [part]
  | next :: parts =>
    match part.getLast?, next.head? with
    -- A hyphen that runs backwards goes, and both of its ends with it.
    | some low, some high => if high < low then (part.dropLast ++ next.tail) :: parts else part :: next :: parts
    | _, _ => part :: next :: parts

def dropBackward (parts : List (List Char)) : List (List Char) := parts.foldr joinBackward []

def rangesOf : List (List Char) → List (Char × Char)
  | part :: next :: parts =>
    match part.getLast?, next.head? with
    | some low, some high => (low, high) :: rangesOf (next :: parts)
    | _, _ => rangesOf (next :: parts)
  | _ => []

def charSet (inside : List Char) : CharSet :=
  let parts := rangeParts (if inside.head? = some '!' then 2 else 1) [] inside
  match dropBackward parts with
  -- The hyphen behind a mark that has come to the front stands for itself.
  | ['!'] :: part :: parts => ⟨true, '-' :: (part :: parts).flatten, rangesOf (part :: parts)⟩
  | ('!' :: first) :: parts => ⟨true, first ++ parts.flatten, rangesOf (first :: parts)⟩
  | parts => ⟨false, parts.flatten, rangesOf parts⟩

def setSize? (cs : List Char) : Option Nat :=
  -- A closing bracket right at the beginning does not end the set.
  let lead := match cs with
    | '!' :: ']' :: _ => 2
    | '!' :: _ => 1
    | ']' :: _ => 1
    | _ => 0
  let more := (cs.drop lead).takeWhile (· ≠ ']')
  if (cs.drop (lead + more.length)).isEmpty then none else some (lead + more.length)

def items : List Char → List Item
  | [] => []
  -- Stars side by side are one run.
  | '*' :: '*' :: cs => items ('*' :: cs)
  | '*' :: cs => .run :: items cs
  | '?' :: cs => .any :: items cs
  | '[' :: cs =>
    match setSize? cs with
    | some n => .set (charSet (cs.take n)) :: items (cs.drop (n + 1))
    | none => .char '[' :: items cs
  | c :: cs => .char c :: items cs
termination_by cs => cs.length
decreasing_by all_goals simp only [List.length_cons, List.length_drop]; omega

def matchItems : List Item → List Char → Bool
  | [], cs => cs.isEmpty
  | .run :: rest, [] => matchItems rest []
  | .run :: rest, c :: cs => matchItems rest (c :: cs) || matchItems (.run :: rest) cs
  | .any :: rest, _ :: cs => matchItems rest cs
  | .set s :: rest, c :: cs => s.holds c && matchItems rest cs
  | .char d :: rest, c :: cs => c == d && matchItems rest cs
  | _ :: _, [] => false
termination_by pattern cs => (pattern.length, cs.length)

def wildcard (pattern text : List Char) : Bool := matchItems (items pattern) text

end TemplateLint.Pattern
