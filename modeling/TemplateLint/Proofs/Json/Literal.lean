import Mathlib.Data.List.TakeWhile
import TemplateLint.Proofs.Text.Numeral
import TemplateLint.Value.Json.Printer
import TemplateLint.Value.Json.Token

namespace TemplateLint.Json

open Text

variable {n : Nat} {c : Char} {cs rest : List Char} {ts : List Token}

theorem unit_cons (small : n < 0x10000) :
    ∃ a b c d, unit n = ['\\', 'u', a, b, c, d] ∧ readNat? 16 [a, b, c, d] = some n :=
  ⟨_, _, _, _, rfl, readNat?_hex 3 small⟩

theorem stringChar?_verbatim (printable : 0x20 ≤ c.toNat) (quote : c ≠ '"') (slash : c ≠ '\\') :
    stringChar? (c :: rest) = some (some c, rest) := by
  have control : ¬c.toNat < 0x20 := by omega
  unfold stringChar?
  split
  · next opening => simp_all
  · next opening => simp_all
  · next opening => simp_all
  · next opening =>
    cases opening
    rw [if_neg control]
  · next opening => cases opening

theorem stringChar?_alone {a b c d : Char} (read : readNat? 16 [a, b, c, d] = some n)
    (alone : isSurrogate n = false) (rest : List Char) :
    stringChar? ('\\' :: 'u' :: a :: b :: c :: d :: rest) = some (some (Char.ofNat n), rest) := by
  have unpaired : ¬(0xd800 ≤ n ∧ n < 0xdc00) := by
    simp only [isSurrogate, Bool.and_eq_false_iff, decide_eq_false_iff_not] at alone
    omega
  simp only [stringChar?, read]
  -- The rest may go on with another unit, but `n` is not the first one of a pair.
  split
  · next same =>
    cases same
    split
    · rw [if_neg (by omega), if_neg (by simp [alone])]
    · rw [if_neg (by simp [alone])]
  · next same _ =>
    cases same
    rw [if_neg (by simp [alone])]
  · next none => cases none

theorem stringChar?_unit (small : n < 0x10000) (alone : isSurrogate n = false) :
    stringChar? (unit n ++ rest) = some (some (Char.ofNat n), rest) := by
  obtain ⟨a, b, c, d, written, read⟩ := unit_cons small
  rw [written]
  exact stringChar?_alone read alone rest

theorem stringChar?_pair {high low : Nat} (hh : 0xd800 ≤ high ∧ high < 0xdc00)
    (hl : 0xdc00 ≤ low ∧ low < 0xe000) :
    stringChar? (unit high ++ unit low ++ rest) =
      some (some (Char.ofNat (0x10000 + (high - 0xd800) * 0x400 + (low - 0xdc00))), rest) := by
  obtain ⟨a, b, c, d, hw, hr⟩ := unit_cons (n := high) (by omega)
  obtain ⟨e, f, g, h, lw, lr⟩ := unit_cons (n := low) (by omega)
  simp [hw, lw, stringChar?, hr, lr, hh, hl]

theorem toNat_valid (c : Char) : c.toNat < 0xd800 ∨ 0xdfff < c.toNat ∧ c.toNat < 0x110000 :=
  c.valid

theorem isSurrogate_toNat (c : Char) : isSurrogate c.toNat = false := by
  have valid := toNat_valid c
  simp only [isSurrogate, Bool.and_eq_false_iff, decide_eq_false_iff_not]
  omega

theorem stringChar?_escaped (c : Char) (rest : List Char) :
    stringChar? (escaped c ++ rest) = some (some c, rest) := by
  simp only [escaped]
  split_ifs with quoted feed ret tab back form printable small
  · rcases quoted with rfl | rfl <;> rfl
  · subst feed; rfl
  · subst ret; rfl
  · subst tab; rfl
  · subst back; rfl
  · subst form; rfl
  · obtain ⟨quote, slash⟩ := not_or.mp quoted
    exact stringChar?_verbatim printable.1 quote slash
  · rw [stringChar?_unit small (isSurrogate_toNat c), Char.ofNat_toNat]
  · have valid := toNat_valid c
    have joined : 0x10000 + (0xd800 + (c.toNat - 0x10000) / 0x400 - 0xd800) * 0x400 +
        (0xdc00 + (c.toNat - 0x10000) % 0x400 - 0xdc00) = c.toNat := by omega
    rw [stringChar?_pair (by omega) (by omega), joined, Char.ofNat_toNat]

theorem string?_cons (h : stringChar? cs = some (some c, rest)) :
    string? cs = (string? rest).map fun (text, after) => (c :: text, after) := by
  rw [string?]
  split <;> simp_all

theorem string?_escaped (text rest : List Char) :
    string? (text.flatMap escaped ++ '"' :: rest) = some (text, rest) := by
  induction text with
  | nil =>
    have closing : stringChar? ('"' :: rest) = some (none, rest) := rfl
    rw [List.flatMap_nil, List.nil_append, string?]
    split <;> simp_all
  | cons c text ih =>
    rw [List.flatMap_cons, List.append_assoc, string?_cons (stringChar?_escaped c _), ih]
    rfl

theorem takeDigits_digits (n : Nat) : takeDigits (digits n) = (digits n, []) := by
  have all : ∀ c ∈ digits n, c.isDigit = true := fun c hc => isDigit_of_mem_digits hc
  rw [takeDigits, List.takeWhile_eq_self_iff.mpr all, List.dropWhile_eq_nil_iff.mpr all]

theorem whole_digits (n : Nat) :
    ¬(digits n = [] ∨ (digits n).head? = some '0' ∧ (digits n).length ≠ 1) := by
  rintro (empty | ⟨zero, long⟩)
  · exact digits_ne_nil n empty
  · exact long (length_digits_of_head? zero)

theorem digits_ne_negative (n : Nat) (cs : List Char) : digits n ≠ '-' :: cs := by
  intro negative
  have digit : '-'.isDigit = true := isDigit_of_mem_digits (negative ▸ List.mem_cons_self)
  cases digit

theorem number?_signed (n : Int) : number? (signed n) = some (.int n) := by
  cases n with
  | ofNat n =>
    rw [signed, number?]
    · simp [takeDigits_digits, whole_digits, readNat?_digits]
    · exact digits_ne_negative n
  | negSucc n =>
    rw [signed, number?]
    simp [takeDigits_digits, whole_digits, readNat?_digits]
    omega

def Boundary (rest : List Char) : Prop :=
  ∀ c, rest.head? = some c → isNumeral c = false ∧ c.isAlpha = false

theorem outside_literals (h : isSpace c = true ∨ isMark c = true ∨ c = '"') :
    isNumeral c = false ∧ c.isAlpha = false := by
  simp only [isSpace, isMark, Bool.or_eq_true, beq_iff_eq] at h
  rcases h with (((rfl | rfl) | rfl) | rfl) | (((((rfl | rfl) | rfl) | rfl) | rfl) | rfl) | rfl <;>
    decide

theorem plain_of_literal (h : isNumeral c = true ∨ c.isAlpha = true) :
    ¬isSpace c = true ∧ ¬isMark c = true ∧ ¬c = '"' := by
  rw [← not_or, ← not_or]
  intro outside
  obtain ⟨numeral, letter⟩ := outside_literals outside
  rcases h with h | h
  · rw [numeral] at h
    cases h
  · rw [letter] at h
    cases h

theorem Boundary.cons (h : isSpace c = true ∨ isMark c = true) (rest : List Char) :
    Boundary (c :: rest) := by
  intro d hd
  cases hd
  exact outside_literals (h.imp_right .inl)

/-- The rest of a text is cut into these tokens, and nothing before it goes on in it. -/
structure Scans (rest : List Char) (ts : List Token) : Prop where
  tokens : tokens? rest = some ts
  boundary : Boundary rest

theorem takeWhile_of_stop {p : Char → Bool} (all : ∀ c ∈ cs, p c = true)
    (stop : ∀ c, rest.head? = some c → p c = false) :
    (cs ++ rest).takeWhile p = cs ∧ (cs ++ rest).dropWhile p = rest := by
  rw [List.takeWhile_append_of_pos all, List.dropWhile_append_of_pos all]
  cases rest with
  | nil => simp
  | cons c rest => simp [stop c rfl]

theorem tokens?_cons {t : Token} (space : ¬isSpace c = true) (h : token? c cs = some (t, rest)) :
    tokens? (c :: cs) = (tokens? rest).map (t :: ·) := by
  rw [tokens?, if_neg space]
  split <;> simp_all

theorem tokens?_of_token? {t : Token} (space : ¬isSpace c = true)
    (h : token? c cs = some (t, rest)) (later : tokens? rest = some ts) :
    tokens? (c :: cs) = some (t :: ts) := by
  rw [tokens?_cons space h, later]
  rfl

theorem Scans.mark (h : isMark c = true) (later : tokens? rest = some ts) :
    Scans (c :: rest) (.mark c :: ts) := by
  have read : token? c rest = some (.mark c, rest) := by rw [token?, if_pos h]
  have space : ¬isSpace c = true := by
    simp only [isMark, Bool.or_eq_true, beq_iff_eq] at h
    rcases h with ((((rfl | rfl) | rfl) | rfl) | rfl) | rfl <;> decide
  exact ⟨tokens?_of_token? space read later, Boundary.cons (.inr h) rest⟩

theorem tokens?_space (h : isSpace c = true) (rest : List Char) :
    tokens? (c :: rest) = tokens? rest := by
  rw [tokens?, if_pos h]

theorem tokens?_spaces (count : Nat) (later : tokens? rest = some ts) :
    tokens? (List.replicate count ' ' ++ rest) = some ts := by
  induction count with
  | zero => exact later
  | succ count ih =>
    rw [List.replicate_succ, List.cons_append, tokens?_space rfl]
    exact ih

theorem Scans.newline (depth : Nat) (later : tokens? rest = some ts) :
    Scans (newline depth ++ rest) ts := by
  refine ⟨?_, Boundary.cons (.inl rfl) _⟩
  rw [Json.newline, List.cons_append, tokens?_space rfl]
  exact tokens?_spaces (2 * depth) later

theorem tokens?_string (s : String) (later : tokens? rest = some ts) :
    tokens? (string s ++ rest) = some (.leaf (.str s) :: ts) := by
  have read := string?_escaped s.toList rest
  apply tokens?_of_token? (by decide) _ later
  rw [token?, if_neg (by decide), if_pos rfl]
  simp [read]

theorem tokens?_word {v : Value} (letters : (c :: cs).all Char.isAlpha = true)
    (h : word? (c :: cs) = some v) (later : Scans rest ts) :
    tokens? (c :: cs ++ rest) = some (.leaf v :: ts) := by
  obtain ⟨first, others⟩ := List.forall_mem_cons.mp (List.all_eq_true.mp letters)
  obtain ⟨space, mark, quote⟩ := plain_of_literal (.inr first)
  obtain ⟨taken, left⟩ := takeWhile_of_stop others fun d hd => (later.boundary d hd).2
  rw [List.cons_append]
  apply tokens?_of_token? space _ later.tokens
  rw [token?, if_neg mark, if_neg quote, if_pos first, taken, left, h]
  rfl

theorem digit_or_sign_of_mem_signed {n : Int} (h : c ∈ signed n) :
    (∃ d < 10, c = digitChar d) ∨ c = '-' := by
  cases n with
  | ofNat n => exact .inl (digitChar_of_mem_digits h)
  | negSucc n =>
    rcases List.mem_cons.mp h with rfl | digit
    · exact .inr rfl
    · exact .inl (digitChar_of_mem_digits digit)

theorem isNumeral_of_mem_signed {n : Int} (h : c ∈ signed n) : isNumeral c = true := by
  rcases digit_or_sign_of_mem_signed h with ⟨d, decimal, rfl⟩ | rfl
  · simp [isNumeral, isDigit_digitChar decimal]
  · rfl

theorem not_isAlpha_of_mem_signed {n : Int} (h : c ∈ signed n) : ¬c.isAlpha = true := by
  rcases digit_or_sign_of_mem_signed h with ⟨d, decimal, rfl⟩ | rfl
  · simp [isAlpha_digitChar decimal]
  · decide

theorem signed_ne_nil (n : Int) : signed n ≠ [] := by
  cases n with
  | ofNat n => exact digits_ne_nil n
  | negSucc n => exact List.cons_ne_nil _ _

theorem tokens?_signed (n : Int) (later : Scans rest ts) :
    tokens? (signed n ++ rest) = some (.leaf (.int n) :: ts) := by
  obtain ⟨c, cs, written⟩ := List.exists_cons_of_ne_nil (signed_ne_nil n)
  have numerals : ∀ d ∈ c :: cs, isNumeral d = true := fun d hd =>
    isNumeral_of_mem_signed (n := n) (written ▸ hd)
  obtain ⟨first, others⟩ := List.forall_mem_cons.mp numerals
  have letter : ¬c.isAlpha = true :=
    not_isAlpha_of_mem_signed (n := n) (written ▸ List.mem_cons_self)
  obtain ⟨space, mark, quote⟩ := plain_of_literal (.inl first)
  obtain ⟨taken, left⟩ := takeWhile_of_stop others fun d hd => (later.boundary d hd).1
  rw [written, List.cons_append]
  apply tokens?_of_token? space _ later.tokens
  rw [token?, if_neg mark, if_neg quote, if_neg letter, taken, left, ← written, number?_signed]
  rfl

end TemplateLint.Json
