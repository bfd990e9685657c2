import Mathlib.Data.Nat.Find
import TemplateLint.Text.Lines

namespace TemplateLint.Text

def FirstAt (text cs : List Char) (i : Nat) : Prop :=
  text <+: cs.drop i ∧ ∀ j < i, ¬ text <+: cs.drop j

theorem firstAt_succ {text cs : List Char} {c : Char} {i : Nat} (h : ¬ text <+: c :: cs) :
    FirstAt text (c :: cs) (i + 1) ↔ FirstAt text cs i := by
  constructor
  · rintro ⟨here, before⟩
    exact ⟨here, fun j hj => before (j + 1) (by omega)⟩
  · rintro ⟨here, before⟩
    refine ⟨here, ?_⟩
    intro j hj
    cases j with
    | zero => exact h
    | succ j => exact before j (by omega)

@[simp] theorem find?_nil (text : List Char) : find? text [] = if text = [] then some 0 else none := rfl

theorem find?_of_front {text cs : List Char} {c : Char} (front : text <+: c :: cs) : find? text (c :: cs) = some 0 := by
  rw [find?, if_pos (List.isPrefixOf_iff_prefix.mpr front)]

theorem find?_of_later {text cs : List Char} {c : Char} (later : ¬ text <+: c :: cs) :
    find? text (c :: cs) = (find? text cs).map (· + 1) := by
  rw [find?, if_neg (mt List.isPrefixOf_iff_prefix.mp later)]

theorem find?_eq_some_iff {text cs : List Char} {i : Nat} :
    find? text cs = some i ↔ FirstAt text cs i := by
  induction cs generalizing i with
  | nil =>
    by_cases empty : text = []
    · subst empty
      cases i with
      | zero => simp [FirstAt]
      | succ i => simpa [FirstAt] using ⟨0, by omega⟩
    · simp [FirstAt, empty]
  | cons c cs ih =>
    by_cases front : text <+: c :: cs
    · rw [find?_of_front front]
      cases i with
      | zero => simpa [FirstAt] using front
      | succ i =>
        have none_before : ¬ FirstAt text (c :: cs) (i + 1) := fun h => h.2 0 (by omega) front
        simpa using none_before
    · rw [find?_of_later front]
      cases i with
      | zero => simpa [FirstAt] using front
      | succ i => simp [firstAt_succ front, ← ih]

theorem infix_iff_drop {text cs : List Char} : text <:+: cs ↔ ∃ i, text <+: cs.drop i := by
  constructor
  · rintro ⟨before, after, rfl⟩
    exact ⟨before.length, by simp⟩
  · rintro ⟨i, h⟩
    exact h.isInfix.trans (List.drop_suffix i cs).isInfix

theorem find?_of_infix {text cs : List Char} (h : text <:+: cs) :
    ∃ i, find? text cs = some i := by
  classical
  have some_place := infix_iff_drop.mp h
  refine ⟨Nat.find some_place, find?_eq_some_iff.mpr ⟨Nat.find_spec some_place, ?_⟩⟩
  intro j hj
  exact Nat.find_min some_place hj

theorem prefix_drop_of_findFrom? {text cs : List Char} {start i : Nat}
    (h : findFrom? text start cs = some i) : text <+: cs.drop i := by
  unfold findFrom? at h
  split at h
  · cases h
  · obtain ⟨j, hj, rfl⟩ := Option.map_eq_some_iff.mp h
    have := (find?_eq_some_iff.mp hj).1
    rwa [List.drop_drop, Nat.add_comm] at this

theorem find?_indent (n : Nat) {text : List Char} (ht : text ≠ []) (h : text.head? ≠ some ' ')
    (cs : List Char) :
    find? text (List.replicate n ' ' ++ cs) = (find? text cs).map (· + n) := by
  induction n with
  | zero => simp
  | succ n ih =>
    obtain ⟨c, rest, rfl⟩ := List.exists_cons_of_ne_nil ht
    have later : ¬ c :: rest <+: ' ' :: (List.replicate n ' ' ++ cs) := by
      rw [List.cons_prefix_cons]
      exact fun same => h (congrArg some same.1)
    rw [List.replicate_succ, List.cons_append, find?_of_later later, ih, Option.map_map]
    rfl

theorem contains_iff {text cs : List Char} : contains text cs = true ↔ text <:+: cs := by
  rw [contains, Option.isSome_iff_exists]
  constructor
  · rintro ⟨i, hi⟩
    exact infix_iff_drop.mpr ⟨i, (find?_eq_some_iff.mp hi).1⟩
  · exact find?_of_infix

theorem startsWith_iff {text cs : List Char} : startsWith text cs = true ↔ text <+: cs :=
  List.isPrefixOf_iff_prefix

theorem endsWith_iff {text cs : List Char} : endsWith text cs = true ↔ text <:+ cs := by
  rw [endsWith, List.isPrefixOf_iff_prefix, List.reverse_prefix]

theorem cut?_of_firstAt {sep before after : List Char}
    (h : FirstAt sep (before ++ sep ++ after) before.length) :
    cut? sep (before ++ sep ++ after) = some (before, after) := by
  rw [cut?, find?_eq_some_iff.mpr h, Option.map_some, List.append_assoc, List.take_left,
    ← List.append_assoc, ← List.length_append, List.drop_left]

end TemplateLint.Text
