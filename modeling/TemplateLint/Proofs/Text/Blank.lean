import Mathlib.Data.List.TakeWhile
import TemplateLint.Text.Character

namespace TemplateLint.Text

theorem trimEnd_isPrefix (cs : List Char) : trimEnd cs <+: cs := by
  have h := List.dropWhile_suffix isBlank (l := cs.reverse)
  simpa [trimEnd] using List.reverse_prefix.mpr h

theorem trimEnd_append (cs ds : List Char) :
    trimEnd (cs ++ ds) = if trimEnd ds = [] then trimEnd cs else cs ++ trimEnd ds := by
  simp only [trimEnd, List.reverse_append, List.dropWhile_append, List.isEmpty_iff,
    List.reverse_eq_nil_iff]
  split <;> simp

theorem trim_isSuffix_trimEnd (cs : List Char) : trim cs <:+ trimEnd cs := by
  obtain ⟨blanks, hb⟩ := List.dropWhile_suffix isBlank (l := cs)
  have split : trimEnd cs = trimEnd (blanks ++ trimStart cs) := by rw [trimStart, hb]
  rw [split, trimEnd_append]
  by_cases h : trimEnd (trimStart cs) = []
  · simp [trim, h]
  · simp [trim, h]

theorem trim_isInfix (cs : List Char) : trim cs <:+: cs :=
  (trim_isSuffix_trimEnd cs).isInfix.trans (trimEnd_isPrefix cs).isInfix

theorem not_blank_of_head?_trim {cs : List Char} {c : Char} (h : (trim cs).head? = some c) :
    isBlank c = false := by
  obtain ⟨rest, hrest⟩ := trimEnd_isPrefix (trimStart cs)
  have front : (cs.dropWhile isBlank).head? = some c := by
    rw [show cs.dropWhile isBlank = trim cs ++ rest from hrest.symm, List.head?_append, h]
    rfl
  have unblank := List.head?_dropWhile_not isBlank cs
  rwa [front] at unblank

theorem head?_trim_ne_space (cs : List Char) : (trim cs).head? ≠ some ' ' := by
  intro h
  have unblank := not_blank_of_head?_trim h
  exact absurd unblank (by decide)

theorem not_blank_of_getLast?_trim {cs : List Char} {c : Char} (h : (trim cs).getLast? = some c) :
    isBlank c = false := by
  rw [trim, trimEnd, List.getLast?_reverse] at h
  have unblank := List.head?_dropWhile_not isBlank (trimStart cs).reverse
  rwa [h] at unblank

theorem allBlank_trimStart (cs : List Char) : allBlank (trimStart cs) = allBlank cs := by
  induction cs with
  | nil => rfl
  | cons c cs ih =>
    cases blank : isBlank c with
    | true => simpa [trimStart, blank] using ih
    | false => simp [trimStart, blank]

theorem allBlank_trimEnd (cs : List Char) : allBlank (trimEnd cs) = allBlank cs := by
  have backward := allBlank_trimStart cs.reverse
  simpa [trimEnd, trimStart, allBlank] using backward

theorem allBlank_trim (cs : List Char) : allBlank (trim cs) = allBlank cs := by
  rw [trim, allBlank_trimEnd, allBlank_trimStart]

theorem trim_eq_nil_iff {cs : List Char} : trim cs = [] ↔ allBlank cs = true := by
  constructor
  · intro nothing
    rw [← allBlank_trim, nothing]
    rfl
  · intro blank
    have start : trimStart cs = [] := List.dropWhile_eq_nil_iff.mpr (List.all_eq_true.mp blank)
    rw [trim, start]
    rfl

end TemplateLint.Text
