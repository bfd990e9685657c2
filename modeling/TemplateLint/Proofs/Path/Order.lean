import Mathlib.Data.String.Basic
import TemplateLint.Path

namespace TemplateLint.Path

theorem namesLe_iff {a b : List String} : namesLe a b = true ↔ a < b ∨ a = b := by
  induction a generalizing b with
  | nil =>
    cases b with
    | nil => simp [namesLe]
    | cons y b => simp [namesLe, List.nil_lt_cons]
  | cons x a ih =>
    cases b with
    | nil => simp [namesLe]
    | cons y b =>
      rw [namesLe, List.cons_lt_cons_iff, List.cons.injEq, Bool.or_eq_true, Bool.and_eq_true,
        decide_eq_true_eq, beq_iff_eq, ih]
      tauto

theorem le_iff {p q : Path} : le p q = true ↔ p.key < q.key ∨ p.key = q.key := namesLe_iff

theorem le_absolute_iff {a b : List String} :
    le (absolute a) (absolute b) = true ↔ a < b ∨ a = b := by
  have key (names : List String) : (absolute names).key = "/" :: names := rfl
  rw [le_iff, key, key, List.cons_lt_cons_iff, List.cons.injEq]
  simp [-String.lt_iff_ltb]

theorem le_of_le_of_le (p q r : Path) (hpq : le p q = true) (hqr : le q r = true) :
    le p r = true := by
  rw [le_iff] at *
  rcases hpq with hpq | hpq
  · rcases hqr with hqr | hqr
    · exact .inl (lt_trans hpq hqr)
    · exact .inl (hqr ▸ hpq)
  · rwa [hpq]

theorem le_or_le (p q : Path) : (le p q || le q p) = true := by
  rw [Bool.or_eq_true, le_iff, le_iff]
  rcases lt_trichotomy p.key q.key with h | h | h
  · exact .inl (.inl h)
  · exact .inl (.inr h)
  · exact .inr (.inl h)

end TemplateLint.Path
