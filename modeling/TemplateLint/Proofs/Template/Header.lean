import Mathlib.Data.List.TakeWhile
import TemplateLint.Proofs.Text.Blank
import TemplateLint.Template.Basic

namespace TemplateLint.Template

open Text

def HeaderTail (cs : List Char) : Prop :=
  ∃ gap note, cs = gap ++ note ∧ allBlank gap = true ∧ ∀ c, note.head? = some c → c = '#'

def PartialStatement (cs : List Char) : Prop :=
  ∃ word middle tail, cs = word ++ (middle ++ ':' :: tail) ∧ word ≠ [] ∧
    (∀ c ∈ word, isWord c = true) ∧ (∀ c, middle.head? = some c → isBlank c = true) ∧ HeaderTail tail

def blanks : List Nat :=
  List.range' 0x09 5 ++ List.range' 0x1c 5 ++ [0x85, 0xa0, 0x1680] ++ List.range' 0x2000 11 ++
    [0x2028, 0x2029, 0x202f, 0x205f, 0x3000]

theorem mem_blanks_of_isBlank {c : Char} (h : isBlank c = true) : c.toNat ∈ blanks := by
  simp only [isBlank, Bool.or_eq_true, Bool.and_eq_true, decide_eq_true_eq, beq_iff_eq] at h
  simp only [blanks, List.mem_append, List.mem_range'_1, List.mem_cons, List.not_mem_nil, or_false]
  omega

theorem not_isWord_of_isBlank {c : Char} (h : isBlank c = true) : isWord c = false := by
  have none : ∀ n ∈ blanks, isWord (Char.ofNat n) = false := by decide +kernel
  rw [← Char.ofNat_toNat c]
  exact none _ (mem_blanks_of_isBlank h)

variable {cs : List Char}

theorem headerEnd?_isSome_iff (column : Nat) :
    (headerEnd? cs column).isSome = true ↔ HeaderTail cs := by
  constructor
  · intro h
    refine ⟨cs.takeWhile isBlank, trimStart cs, List.takeWhile_append_dropWhile.symm,
      List.all_eq_true.mpr fun c hc => List.mem_takeWhile_imp hc, ?_⟩
    intro c hc
    obtain ⟨rest, front⟩ := List.head?_eq_some_iff.mp hc
    rw [headerEnd?, front] at h
    by_contra other
    simp [other] at h
  · rintro ⟨gap, note, rfl, blank, mark⟩
    have start : trimStart (gap ++ note) = note := by
      rw [trimStart, List.dropWhile_append_of_pos (List.all_eq_true.mp blank)]
      cases note with
      | nil => rfl
      | cons c note =>
        rw [mark c rfl]
        exact List.dropWhile_cons_of_neg (by decide)
    rw [headerEnd?, start]
    cases note with
    | nil => rfl
    | cons c note => simp [mark c rfl]

theorem colon?_isSome_iff (column : Nat) :
    (colon? column cs).isSome = true ↔ ∃ front tail, cs = front ++ ':' :: tail ∧ HeaderTail tail := by
  induction cs generalizing column with
  | nil => simp [colon?]
  | cons c cs ih =>
    constructor
    · intro h
      rw [colon?] at h
      split at h
      · next here =>
        subst here
        rw [Option.isSome_or, Bool.or_eq_true, headerEnd?_isSome_iff, ih] at h
        rcases h with ends | ⟨front, tail, rfl, ends⟩
        · exact ⟨[], cs, rfl, ends⟩
        · exact ⟨':' :: front, tail, rfl, ends⟩
      · obtain ⟨front, tail, rfl, ends⟩ := (ih _).mp h
        exact ⟨c :: front, tail, rfl, ends⟩
    · rintro ⟨front, tail, same, h⟩
      rw [colon?]
      cases front with
      | nil =>
        obtain ⟨rfl, rfl⟩ := List.cons.inj same
        rw [if_pos rfl, Option.isSome_or, Bool.or_eq_true, headerEnd?_isSome_iff]
        exact .inl h
      | cons d front =>
        obtain ⟨rfl, rfl⟩ := List.cons.inj same
        have later := (ih (column + 1)).mpr ⟨front, tail, rfl, h⟩
        split
        · rw [Option.isSome_or, later, Bool.or_true]
        · exact later

theorem takeWhile_isWord {word rest : List Char} (letters : ∀ c ∈ word, isWord c = true)
    (stop : ∀ c, rest.head? = some c → isWord c = false) :
    (word ++ rest).takeWhile isWord = word := by
  rw [List.takeWhile_append_of_pos letters]
  cases rest with
  | nil => exact List.append_nil word
  | cons c rest => rw [List.takeWhile_cons_of_neg (by simp [stop c rfl]), List.append_nil]

theorem header?_isSome_iff (text : List Char) :
    (header? text).isSome = true ↔ PartialStatement (trim text) := by
  constructor
  · intro h
    have split : trim text = (trim text).takeWhile isWord ++
        (trim text).drop ((trim text).takeWhile isWord).length :=
      (List.prefix_iff_eq_append.mp (List.takeWhile_prefix isWord)).symm
    have letters : ∀ c ∈ (trim text).takeWhile isWord, isWord c = true :=
      fun c hc => List.mem_takeWhile_imp hc
    unfold header? at h
    simp only at h
    split at h
    · cases h
    · next some_word =>
      rw [Option.isSome_map] at h
      split at h
      · next c cs rest =>
        rw [rest] at split
        split at h
        · next colon =>
          subst colon
          exact ⟨_, [], cs, split, some_word, letters, by simp, (headerEnd?_isSome_iff _).mp h⟩
        · split at h
          · next blank =>
            obtain ⟨front, tail, rfl, ends⟩ := (colon?_isSome_iff _).mp h
            refine ⟨_, c :: front, tail, split, some_word, letters, ?_, ends⟩
            rintro d ⟨⟩
            exact blank
          · cases h
      · cases h
  · rintro ⟨word, middle, tail, same, some_word, letters, behind, ends⟩
    have stop : ∀ c, (middle ++ ':' :: tail).head? = some c → isWord c = false := by
      intro c hc
      cases middle with
      | nil =>
        cases hc
        decide
      | cons d front =>
        cases hc
        exact not_isWord_of_isBlank (behind c rfl)
    unfold header?
    simp only [same, takeWhile_isWord letters stop, List.drop_left, if_neg some_word,
      Option.isSome_map]
    cases middle with
    | nil => exact (headerEnd?_isSome_iff _).mpr ends
    | cons d front =>
      have blank := behind d rfl
      have no_colon : d ≠ ':' := by
        rintro rfl
        exact absurd blank (by decide)
      simp only [List.cons_append, if_neg no_colon, if_pos blank]
      exact (colon?_isSome_iff _).mpr ⟨front, tail, rfl, ends⟩

end TemplateLint.Template
