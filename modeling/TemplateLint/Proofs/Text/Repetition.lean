import Mathlib.Data.List.Infix
import TemplateLint.Proofs.Text.Blank

/-!
When a text is found before its own place. If a text that stands behind something already begins
where that begins, then it goes on as it began, in whole repetitions of what it stands behind.
-/

namespace TemplateLint.Text

def repeated (unit : List Char) (n : Nat) : List Char := (List.replicate n unit).flatten

theorem repeated_succ (unit : List Char) (n : Nat) :
    repeated unit (n + 1) = unit ++ repeated unit n := by
  rw [repeated, List.replicate_succ, List.flatten_cons]
  rfl

theorem repeated_succ' (unit : List Char) (n : Nat) :
    repeated unit (n + 1) = repeated unit n ++ unit := by
  rw [repeated, List.replicate_succ', List.flatten_append, List.flatten_singleton]
  rfl

theorem isPrefix_shifted_iff {unit text after : List Char} (hu : unit ≠ []) :
    text <+: unit ++ (text ++ after) ↔
      ∃ n part, part <+: unit ∧ text = repeated unit n ++ part := by
  constructor
  · intro h
    -- Each unit at the front is one less of the text.
    induction hn : text.length using Nat.strong_induction_on generalizing text with
    | h n ih =>
      rcases List.prefix_or_prefix_of_prefix h (List.prefix_append unit _) with short | ⟨rest, rfl⟩
      · exact ⟨0, text, short, rfl⟩
      · rw [List.prefix_append_right_inj, List.append_assoc] at h
        have shorter : rest.length < n := by
          have := List.length_pos_of_ne_nil hu
          rw [← hn, List.length_append]
          omega
        obtain ⟨m, part, hp, same⟩ := ih _ shorter h rfl
        exact ⟨m + 1, part, hp, by rw [same, repeated_succ, List.append_assoc]⟩
  · rintro ⟨n, part, hp, rfl⟩
    induction n with
    | zero => exact List.prefix_append_of_prefix hp
    | succ n ih =>
      rw [repeated_succ, List.append_assoc, List.append_assoc, List.prefix_append_right_inj]
      exact ih

theorem eq_nil_of_ends {front blanks : List Char} (hb : allBlank blanks = true)
    (ends : ∀ c, (front ++ blanks).getLast? = some c → isBlank c = false) : blanks = [] := by
  by_contra hne
  have last : (front ++ blanks).getLast? = some (blanks.getLast hne) := by
    rw [List.getLast?_append, List.getLast?_eq_some_getLast hne]
    rfl
  have blank : isBlank (blanks.getLast hne) = true :=
    List.all_eq_true.mp hb _ (List.getLast_mem hne)
  rw [ends _ last] at blank
  cases blank

/-- The text is written in nothing but `lead`, with these blanks between any two of them, and breaks
off inside the last one or at its end. -/
def Repeats (lead blanks text : List Char) : Prop :=
  ∃ n part, part ≠ [] ∧ part <+: lead ∧ text = repeated (lead ++ blanks) n ++ part

theorem head?_of_repeats {lead blanks text : List Char} (h : Repeats lead blanks text) :
    text.head? = lead.head? := by
  obtain ⟨n, part, hp, ⟨rest, rfl⟩, rfl⟩ := h
  obtain ⟨c, part, rfl⟩ := List.exists_cons_of_ne_nil hp
  cases n with
  | zero => rfl
  | succ n => rw [repeated_succ]; rfl

theorem isPrefix_behind_iff {lead blanks text after : List Char} (hl : lead ≠ [])
    (hb : allBlank blanks = true) (ht : text ≠ [])
    (ends : ∀ c, text.getLast? = some c → isBlank c = false) :
    text <+: lead ++ blanks ++ (text ++ after) ↔ Repeats lead blanks text := by
  rw [isPrefix_shifted_iff (List.append_ne_nil_of_left_ne_nil hl blanks)]
  constructor
  · rintro ⟨n, part, hp, rfl⟩
    by_cases none : part = []
    · subst none
      rw [List.append_nil] at ht ends ⊢
      cases n with
      | zero => exact absurd rfl ht
      | succ n =>
        rw [repeated_succ', ← List.append_assoc] at ends
        obtain rfl := eq_nil_of_ends hb ends
        rw [repeated_succ', List.append_nil]
        exact ⟨n, lead, hl, List.prefix_rfl, by rw [List.append_nil]⟩
    · rcases List.prefix_or_prefix_of_prefix hp (List.prefix_append lead blanks) with
        inside | ⟨more, rfl⟩
      · exact ⟨n, part, none, inside, rfl⟩
      · rw [List.prefix_append_right_inj] at hp
        have blank : allBlank more = true :=
          List.all_eq_true.mpr fun c hc => List.all_eq_true.mp hb c (hp.mem hc)
        rw [← List.append_assoc] at ends
        obtain rfl := eq_nil_of_ends blank ends
        exact ⟨n, lead, hl, List.prefix_rfl, by rw [List.append_nil]⟩
  · rintro ⟨n, part, -, hp, rfl⟩
    exact ⟨n, part, List.prefix_append_of_prefix hp, rfl⟩

end TemplateLint.Text
