import Mathlib.Tactic.IntervalCases
import TemplateLint.Text.Literal

namespace TemplateLint.Text

variable {base d n : Nat}

theorem digitValue?_digitChar (single : d < 16) (below : d < base) :
    digitValue? base (digitChar d) = some d := by
  interval_cases d <;> simp [digitChar, digitValue?, below]

theorem foldlM_hex (width n : Nat) :
    (hex width n).foldlM (fun n c => (digitValue? 16 c).map (n * 16 + ·)) 0 =
      some (n % 16 ^ width) := by
  induction width generalizing n with
  | zero => simp [hex, Nat.mod_one]
  | succ width ih =>
    have single : n % 16 < 16 := Nat.mod_lt _ (by omega)
    have split : n % 16 ^ (width + 1) = n / 16 % 16 ^ width * 16 + n % 16 := by
      rw [Nat.pow_succ', Nat.mod_mul]
      omega
    rw [hex, List.foldlM_append, ih, split]
    simp [digitValue?_digitChar single single]

theorem readNat?_hex (width : Nat) (small : n < 16 ^ (width + 1)) :
    readNat? 16 (hex (width + 1) n) = some n := by
  have written : hex (width + 1) n ≠ [] := by simp [hex]
  rw [readNat?, if_neg written, foldlM_hex, Nat.mod_eq_of_lt small]

theorem digits_ne_nil (n : Nat) : digits n ≠ [] := by
  rw [digits]
  split <;> simp

theorem isDigit_digitChar (decimal : d < 10) : (digitChar d).isDigit = true := by
  interval_cases d <;> rfl

theorem isAlpha_digitChar (decimal : d < 10) : (digitChar d).isAlpha = false := by
  interval_cases d <;> rfl

theorem digitChar_of_mem_digits {c : Char} (h : c ∈ digits n) : ∃ d < 10, c = digitChar d := by
  fun_induction digits n with
  | case1 n small => exact ⟨n, small, List.mem_singleton.mp h⟩
  | case2 n _ ih =>
    rcases List.mem_append.mp h with front | last
    · exact ih front
    · exact ⟨n % 10, Nat.mod_lt _ (by omega), List.mem_singleton.mp last⟩

theorem isDigit_of_mem_digits {c : Char} (h : c ∈ digits n) : c.isDigit = true := by
  obtain ⟨d, decimal, rfl⟩ := digitChar_of_mem_digits h
  exact isDigit_digitChar decimal

theorem foldlM_digits (n : Nat) :
    (digits n).foldlM (fun n c => (digitValue? 10 c).map (n * 10 + ·)) 0 = some n := by
  fun_induction digits n with
  | case1 n small => simp [digitValue?_digitChar (by omega) small]
  | case2 n _ ih =>
    have decimal : n % 10 < 10 := Nat.mod_lt _ (by omega)
    rw [List.foldlM_append, ih]
    simp [digitValue?_digitChar (by omega) decimal]
    omega

theorem readNat?_digits (n : Nat) : readNat? 10 (digits n) = some n := by
  rw [readNat?, if_neg (digits_ne_nil n), foldlM_digits]

theorem head?_digits_ne_zero (positive : 0 < n) : (digits n).head? ≠ some '0' := by
  fun_induction digits n with
  | case1 n small => interval_cases n <;> decide
  | case2 n large ih =>
    obtain ⟨c, cs, front⟩ := List.exists_cons_of_ne_nil (digits_ne_nil (n / 10))
    rw [front] at ih ⊢
    exact ih (by omega)

theorem length_digits_of_head? (h : (digits n).head? = some '0') : (digits n).length = 1 := by
  by_cases positive : 0 < n
  · exact absurd h (head?_digits_ne_zero positive)
  · have zero : n = 0 := by omega
    subst zero
    simp [digits]

end TemplateLint.Text
