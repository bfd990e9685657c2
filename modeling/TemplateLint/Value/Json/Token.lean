import TemplateLint.Decimal.Shortest
import TemplateLint.Value.Basic

namespace TemplateLint.Json

open Text

inductive Token where
  | mark (c : Char)
  | leaf (v : Value)

def isMark (c : Char) : Bool := c == '[' || c == ']' || c == '\x7b' || c == '\x7d' || c == ',' || c == ':'

def isSpace (c : Char) : Bool := c == ' ' || c == '\n' || c == '\r' || c == '\t'

def isSurrogate (n : Nat) : Bool := 0xd800 ≤ n && n < 0xe000

def short? : Char → Option Char
  | '"' => some '"'
  | '\\' => some '\\'
  | '/' => some '/'
  | 'b' => some '\x08'
  | 'f' => some '\x0c'
  | 'n' => some '\n'
  | 'r' => some '\r'
  | 't' => some '\t'
  | _ => none

def stringChar? : List Char → Option (Option Char × List Char)
  | '"' :: cs => some (none, cs)
  | '\\' :: 'u' :: a :: b :: c :: d :: cs =>
    match readNat? 16 [a, b, c, d], cs with
    | some high, '\\' :: 'u' :: e :: f :: g :: h :: rest =>
      match readNat? 16 [e, f, g, h] with
      | some low =>
        if 0xd800 ≤ high ∧ high < 0xdc00 ∧ 0xdc00 ≤ low ∧ low < 0xe000 then
          some (some (Char.ofNat (0x10000 + (high - 0xd800) * 0x400 + (low - 0xdc00))), rest)
        else if isSurrogate high then none
        else some (some (Char.ofNat high), cs)
      | none => if isSurrogate high then none else some (some (Char.ofNat high), cs)
    | some n, cs => if isSurrogate n then none else some (some (Char.ofNat n), cs)
    | none, _ => none
  | '\\' :: c :: cs => (short? c).map fun e => (some e, cs)
  | c :: cs => if c.toNat < 0x20 then none else some (some c, cs)
  | [] => none

theorem stringChar?_shorter {cs rest : List Char} {c : Option Char} (h : stringChar? cs = some (c, rest)) :
    rest.length < cs.length := by
  unfold stringChar? at h
  split at h
  · cases h; simp
  · split at h
    · split at h
      · split at h
        · cases h; simp only [List.length_cons]; omega
        · split at h
          · cases h
          · cases h; simp
      · split at h
        · cases h
        · cases h; simp
    · split at h
      · cases h
      · cases h; simp only [List.length_cons]; omega
    · cases h
  · simp only [Option.map_eq_some_iff] at h
    obtain ⟨_, _, h⟩ := h
    cases h; simp only [List.length_cons]; omega
  · split at h
    · cases h
    · cases h; simp
  · cases h

def string? (cs : List Char) : Option (List Char × List Char) :=
  match h : stringChar? cs with
  | none => none
  | some (none, rest) => some ([], rest)
  | some (some c, rest) =>
    have := stringChar?_shorter h
    (string? rest).map fun (text, after) => (c :: text, after)
termination_by cs.length

theorem string?_shorter {cs text rest : List Char} (h : string? cs = some (text, rest)) : rest.length < cs.length := by
  fun_induction string? cs generalizing text with
  | case1 => cases h
  | case2 cs after hc => cases h; exact stringChar?_shorter hc
  | case3 cs c after hc short ih =>
    obtain ⟨⟨t, r⟩, ht, he⟩ := Option.map_eq_some_iff.1 h
    cases he
    exact Nat.lt_trans (ih ht) short

def isNumeral (c : Char) : Bool := c.isDigit || c == '-' || c == '+' || c == '.' || c == 'e' || c == 'E'

def takeDigits (cs : List Char) : List Char × List Char := (cs.takeWhile Char.isDigit, cs.dropWhile Char.isDigit)

def number? (cs : List Char) : Option Value := do
  let (negative, cs) := match cs with
    | '-' :: rest => (true, rest)
    | _ => (false, cs)
  let (whole, cs) := takeDigits cs
  if whole = [] ∨ (whole.head? = some '0' ∧ whole.length ≠ 1) then none
  else
    let (fraction, cs) ← match cs with
      | '.' :: rest =>
        let (ds, rest) := takeDigits rest
        if ds = [] then none else some (some ds, rest)
      | _ => some (none, cs)
    let (exponent, cs) ← match cs with
      | e :: rest =>
        if e = 'e' ∨ e = 'E' then
          let (minus, rest) := match rest with
            | '-' :: r => (true, r)
            | '+' :: r => (false, r)
            | _ => (false, rest)
          let (ds, rest) := takeDigits rest
          (readNat? 10 ds).map fun n => (some (if minus then -(n : Int) else n), rest)
        else some (none, cs)
      | [] => some (none, cs)
    if cs ≠ [] then none
    else match fraction, exponent with
      | none, none => (readNat? 10 whole).map fun n => .int (if negative then -(n : Int) else n)
      | _, _ =>
        let ds := fraction.getD []
        (readNat? 10 (whole ++ ds)).map fun n => .real (Decimal.toFloat negative n (exponent.getD 0 - ds.length))

def word? (cs : List Char) : Option Value :=
  if cs = "null".toList then some .null
  else if cs = "true".toList then some (.bool true)
  else if cs = "false".toList then some (.bool false)
  else none

def token? (c : Char) (cs : List Char) : Option (Token × List Char) :=
  if isMark c then some (.mark c, cs)
  else if c = '"' then (string? cs).map fun (text, rest) => (.leaf (.str (String.ofList text)), rest)
  else if c.isAlpha then
    (word? (c :: cs.takeWhile Char.isAlpha)).map fun v => (.leaf v, cs.dropWhile Char.isAlpha)
  else (number? (c :: cs.takeWhile isNumeral)).map fun v => (.leaf v, cs.dropWhile isNumeral)

theorem length_dropWhile_le {α : Type} (p : α → Bool) (xs : List α) : (xs.dropWhile p).length ≤ xs.length :=
  (List.dropWhile_suffix p).length_le

theorem token?_shorter {c : Char} {cs rest : List Char} {t : Token} (h : token? c cs = some (t, rest)) :
    rest.length ≤ cs.length := by
  unfold token? at h
  split at h
  · cases h; simp
  · split at h
    · obtain ⟨⟨text, r⟩, ht, he⟩ := Option.map_eq_some_iff.1 h
      cases he
      exact Nat.le_of_lt (string?_shorter ht)
    · split at h
      · obtain ⟨_, _, he⟩ := Option.map_eq_some_iff.1 h
        cases he
        exact length_dropWhile_le _ _
      · obtain ⟨_, _, he⟩ := Option.map_eq_some_iff.1 h
        cases he
        exact length_dropWhile_le _ _

def tokens? : List Char → Option (List Token)
  | [] => some []
  | c :: cs =>
    if isSpace c then tokens? cs
    else
      match h : token? c cs with
      | none => none
      | some (t, rest) =>
        have := token?_shorter h
        (tokens? rest).map (t :: ·)
termination_by cs => cs.length
decreasing_by all_goals simp only [List.length_cons]; omega

end TemplateLint.Json
