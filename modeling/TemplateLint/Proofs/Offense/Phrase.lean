import Mathlib.Data.List.TakeWhile
import TemplateLint.Offense.Position

namespace TemplateLint.Offense

open Text

def Number (digits : List Char) : Prop := digits ≠ [] ∧ ∀ c ∈ digits, isDecimalDigit c = true

def phrase (line column : List Char) : List Char :=
  ' ' :: 'a' :: 't' :: ' ' :: (line ++ ',' :: ' ' :: column)

def Phrase (p : List Char) : Prop := ∃ line column, Number line ∧ Number column ∧ p = phrase line column

def Halts (rest : List Char) : Prop := ∀ c, rest.head? = some c → isDecimalDigit c = false

def PhraseAt (cs : List Char) (i : Nat) : Prop := ∃ p, Phrase p ∧ p <+: cs.drop i

theorem phrase_append (line column rest : List Char) :
    phrase line column ++ rest =
      ' ' :: (['a', 't'] ++ ' ' :: (line ++ [','] ++ ' ' :: (column ++ rest))) := by
  simp [phrase]

theorem halts_cons {c : Char} (h : isDecimalDigit c = false) (rest : List Char) :
    Halts (c :: rest) := by
  rintro d ⟨⟩
  exact h

theorem Number.head {digits : List Char} (h : Number digits) (rest : List Char) :
    ∃ c, (digits ++ rest).head? = some c ∧ isDecimalDigit c = true := by
  obtain ⟨c, more, rfl⟩ := List.exists_cons_of_ne_nil h.1
  exact ⟨c, rfl, h.2 c List.mem_cons_self⟩

theorem Number.not_mem {digits : List Char} (h : Number digits) {c : Char}
    (hc : isDecimalDigit c = false) : c ∉ digits := by
  intro mem
  rw [h.2 c mem] at hc
  cases hc

theorem Number.append_digits {digits : List Char} (h : Number digits) (more : List Char) :
    Number (digits ++ more.takeWhile isDecimalDigit) := by
  refine ⟨List.append_ne_nil_of_left_ne_nil h.1 _, ?_⟩
  intro c mem
  rcases List.mem_append.mp mem with mem | mem
  · exact h.2 c mem
  · exact List.mem_takeWhile_imp mem

theorem halts_dropWhile (cs : List Char) : Halts (cs.dropWhile isDecimalDigit) := by
  intro c hc
  have stop := List.head?_dropWhile_not isDecimalDigit cs
  rwa [hc] at stop

theorem phrase_pos {p : List Char} (h : Phrase p) : 0 < p.length := by
  obtain ⟨line, column, -, -, rfl⟩ := h
  exact Nat.succ_pos _

section

variable {cs rest : List Char}

theorem afterNumber?_eq_some_iff :
    afterNumber? cs = some rest ↔ ∃ digits, Number digits ∧ Halts rest ∧ cs = digits ++ rest := by
  constructor
  · intro h
    unfold afterNumber? at h
    split at h
    · cases h
    · next c cs =>
      split at h
      · next digit =>
        cases h
        have single : Number [c] := ⟨List.cons_ne_nil _ _, by simpa using digit⟩
        refine ⟨[c] ++ cs.takeWhile isDecimalDigit, single.append_digits cs, halts_dropWhile cs, ?_⟩
        rw [List.append_assoc, List.takeWhile_append_dropWhile, List.singleton_append]
      · cases h
  · rintro ⟨digits, ⟨some_digit, all⟩, halts, rfl⟩
    obtain ⟨c, more, rfl⟩ := List.exists_cons_of_ne_nil some_digit
    obtain ⟨hc, hmore⟩ := List.forall_mem_cons.mp all
    rw [List.cons_append, afterNumber?, if_pos hc, List.dropWhile_append_of_pos hmore]
    cases rest with
    | nil => rfl
    | cons d rest => rw [List.dropWhile_cons_of_neg (by simp [halts d rfl])]

theorem afterPosition?_eq_some_iff :
    afterPosition? cs = some rest ↔ ∃ p, Phrase p ∧ Halts rest ∧ cs = p ++ rest := by
  constructor
  · intro h
    unfold afterPosition? at h
    split at h
    · split at h
      · next between =>
        obtain ⟨line, hl, -, rfl⟩ := afterNumber?_eq_some_iff.mp between
        obtain ⟨column, hc, halts, rfl⟩ := afterNumber?_eq_some_iff.mp h
        exact ⟨phrase line column, ⟨line, column, hl, hc, rfl⟩, halts, by simp [phrase]⟩
      · cases h
    · cases h
  · rintro ⟨_, ⟨line, column, hl, hc, rfl⟩, halts, rfl⟩
    have first : afterNumber? (line ++ ',' :: ' ' :: (column ++ rest)) =
        some (',' :: ' ' :: (column ++ rest)) :=
      afterNumber?_eq_some_iff.mpr ⟨line, hl, halts_cons (by decide) _, rfl⟩
    have second : afterNumber? (column ++ rest) = some rest :=
      afterNumber?_eq_some_iff.mpr ⟨column, hc, halts, rfl⟩
    simp [phrase, afterPosition?, first, second]

theorem exists_afterPosition? (h : PhraseAt cs 0) : ∃ rest, afterPosition? cs = some rest := by
  obtain ⟨_, ⟨line, column, hl, hc, rfl⟩, more, rfl⟩ := h
  have whole : Phrase (phrase line (column ++ more.takeWhile isDecimalDigit)) :=
    ⟨line, _, hl, hc.append_digits more, rfl⟩
  refine ⟨_, afterPosition?_eq_some_iff.mpr ⟨_, whole, halts_dropWhile more, ?_⟩⟩
  simp [phrase, List.takeWhile_append_dropWhile]

theorem not_phraseAt_of_none (h : afterPosition? cs = none) : ¬ PhraseAt cs 0 := by
  intro here
  obtain ⟨rest, some_rest⟩ := exists_afterPosition? here
  rw [h] at some_rest
  cases some_rest

theorem phraseAt_front {p : List Char} (h : Phrase p) (rest : List Char) : PhraseAt (p ++ rest) 0 :=
  ⟨p, h, List.prefix_append p rest⟩

theorem phrase_eq {p q more : List Char} (hp : Phrase p) (hq : Phrase q) (halts : Halts rest)
    (halts' : Halts more) (same : p ++ rest = q ++ more) : p = q ∧ rest = more := by
  have left : afterPosition? (p ++ rest) = some rest :=
    afterPosition?_eq_some_iff.mpr ⟨p, hp, halts, rfl⟩
  have right : afterPosition? (p ++ rest) = some more :=
    afterPosition?_eq_some_iff.mpr ⟨q, hq, halts', same⟩
  obtain rfl := Option.some.inj (left.symm.trans right)
  exact ⟨List.append_cancel_right same, rfl⟩

end

section

variable {front cs : List Char} {i : Nat}

theorem phraseAt_cons {c : Char} : PhraseAt (c :: cs) (i + 1) ↔ PhraseAt cs i := Iff.rfl

theorem phraseAt_append_add : PhraseAt (front ++ cs) (front.length + i) ↔ PhraseAt cs i := by
  rw [PhraseAt, List.drop_length_add_append]
  rfl

theorem phraseAt_of_phraseAt_left (h : PhraseAt front i) : PhraseAt (front ++ cs) i := by
  obtain ⟨p, hp, here⟩ := h
  have inside : i ≤ front.length := by
    by_contra beyond
    rw [List.drop_of_length_le (by omega), List.prefix_nil] at here
    have := phrase_pos hp
    simp [here] at this
  refine ⟨p, hp, ?_⟩
  rw [List.drop_append_of_le_length inside]
  exact List.prefix_append_of_prefix here

theorem lt_of_phraseAt (h : PhraseAt cs i) : i < cs.length := by
  obtain ⟨p, hp, here⟩ := h
  have := here.length_le
  have := phrase_pos hp
  rw [List.length_drop] at *
  omega

theorem getElem?_of_phraseAt (h : PhraseAt cs i) : cs[i]? = some ' ' ∧ cs[i + 1]? = some 'a' := by
  obtain ⟨_, ⟨line, column, -, -, rfl⟩, rest, hrest⟩ := h
  have here : cs[i]? = (cs.drop i)[0]? ∧ cs[i + 1]? = (cs.drop i)[1]? := by simp
  rw [here.1, here.2, ← hrest]
  exact ⟨rfl, rfl⟩

theorem phraseAt_behind (no_blank : ' ' ∉ front) (h : PhraseAt (front ++ cs) i) :
    ∃ j, i = front.length + j ∧ PhraseAt cs j := by
  have beyond : front.length ≤ i := by
    by_contra inside
    have blank := (getElem?_of_phraseAt h).1
    rw [List.getElem?_append_left (by omega)] at blank
    exact no_blank (List.mem_of_getElem? blank)
  obtain ⟨j, rfl⟩ := Nat.exists_eq_add_of_le beyond
  exact ⟨j, rfl, phraseAt_append_add.mp h⟩

theorem phraseAt_behind_space (other : ∀ c, cs.head? = some c → c ≠ 'a')
    (h : PhraseAt (' ' :: cs) i) : ∃ j, i = j + 1 ∧ PhraseAt cs j := by
  cases i with
  | zero =>
    have letter := (getElem?_of_phraseAt h).2
    rw [List.getElem?_cons_succ, ← List.head?_eq_getElem?] at letter
    exact absurd rfl (other 'a' letter)
  | succ j => exact ⟨j, rfl, h⟩

theorem ne_letter_of_number {digits rest : List Char} (h : Number digits) :
    ∀ c, (digits ++ rest).head? = some c → c ≠ 'a' := by
  rintro c hc rfl
  obtain ⟨d, hd, digit⟩ := h.head rest
  rw [hc, Option.some.injEq] at hd
  subst hd
  exact absurd digit (by decide)

theorem length_le_of_phraseAt {p : List Char} (hp : Phrase p) (h : PhraseAt (p ++ cs) i)
    (hi : 0 < i) : p.length ≤ i := by
  obtain ⟨line, column, hl, hc, rfl⟩ := hp
  have blank : isDecimalDigit ' ' = false := by decide
  have to_comma : ' ' ∉ line ++ [','] := by simpa using hl.not_mem blank
  have behind_at : ∀ c, (line ++ [','] ++ ' ' :: (column ++ cs)).head? = some c → c ≠ 'a' := by
    rw [List.append_assoc]
    exact ne_letter_of_number hl
  rw [phrase_append] at h
  obtain ⟨i, rfl⟩ := Nat.exists_eq_add_one_of_ne_zero (Nat.pos_iff_ne_zero.mp hi)
  -- Behind each later blank of the phrase stands a digit, so that none begins another one.
  obtain ⟨j, hj, later⟩ := phraseAt_behind (by decide) (phraseAt_cons.mp h)
  obtain ⟨k, hk, in_line⟩ := phraseAt_behind_space behind_at later
  obtain ⟨l, hl, behind_comma⟩ := phraseAt_behind to_comma in_line
  obtain ⟨m, hm, in_column⟩ := phraseAt_behind_space (ne_letter_of_number hc) behind_comma
  obtain ⟨n, hn, -⟩ := phraseAt_behind (hc.not_mem blank) in_column
  simp only [phrase, List.length_append, List.length_cons, List.length_nil] at hj hl ⊢
  omega

end

end TemplateLint.Offense
