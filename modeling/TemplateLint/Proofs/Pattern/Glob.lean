import TemplateLint.Pattern.Glob
import TemplateLint.Proofs.Text.Search

namespace TemplateLint.Pattern

open Text

variable {pattern path before rest : List Char}

theorem any_tails_iff {parts : List (List Char)} {f : List Char → Bool} :
    (tails parts).any f = true ↔
      ∃ skipped rest, parts = skipped ++ rest ∧ rest ≠ [] ∧ f (join ['/'] rest) = true := by
  simp only [tails, List.any_map, List.any_eq_true, List.mem_range, Function.comp_apply]
  constructor
  · rintro ⟨i, hi, h⟩
    refine ⟨parts.take i, parts.drop i, (List.take_append_drop i parts).symm, ?_, h⟩
    rw [Ne, List.drop_eq_nil_iff]
    omega
  · rintro ⟨skipped, rest, rfl, hr, h⟩
    have positive : 0 < rest.length := List.length_pos_iff.mpr hr
    refine ⟨skipped.length, ?_, by rwa [List.drop_left]⟩
    rw [List.length_append]
    omega

theorem glob_of_no_stars (h : '*' ∉ pattern) : glob pattern path = wildcard pattern path := by
  have none : ¬ contains ['*', '*'] pattern = true := by
    rw [contains_iff]
    intro found
    exact h (found.subset List.mem_cons_self)
  rw [glob, if_neg none]

theorem glob_of_stars (h : ['*', '*'] <:+: pattern) : glob pattern path = doubleStar pattern path := by
  rw [glob, if_pos (contains_iff.mpr h)]

theorem glob_around (middle path : List Char) :
    glob ("**/".toList ++ middle ++ "/**".toList) path =
      (splitOn '/' path).dropLast.any (wildcard middle) := by
  have starts : startsWith "**/".toList ("**/".toList ++ middle ++ "/**".toList) = true := by
    rw [startsWith_iff, List.append_assoc]
    exact List.prefix_append _ _
  have ends : endsWith "/**".toList ("**/".toList ++ middle ++ "/**".toList) = true := by
    rw [endsWith_iff]
    exact List.suffix_append _ _
  have inside : (("**/".toList ++ middle ++ "/**".toList).drop 3).take
      (("**/".toList ++ middle ++ "/**".toList).length - 6) = middle := by
    simp
  rw [glob_of_stars ⟨[], '/' :: middle ++ "/**".toList, by simp⟩, doubleStar]
  simp only [starts, ends, inside, Bool.and_self, if_true]

theorem glob_front (ends : endsWith "/**".toList ("**/".toList ++ rest) = false) :
    glob ("**/".toList ++ rest) path = (tails (splitOn '/' path)).any (wildcard rest) := by
  have starts : startsWith "**/".toList ("**/".toList ++ rest) = true :=
    startsWith_iff.mpr (List.prefix_append _ _)
  have later : ("**/".toList ++ rest).drop 3 = rest := rfl
  have stars : ['*', '*'] <:+: "**/".toList ++ rest := ⟨[], '/' :: rest, rfl⟩
  rw [glob_of_stars stars, doubleStar]
  simp only [starts, ends, later, Bool.and_false, Bool.false_eq_true, if_true, if_false]

theorem firstAt_inner (h : '*' ∉ before) (rest : List Char) :
    FirstAt "/**/".toList (before ++ "/**/".toList ++ rest) before.length := by
  constructor
  · rw [List.append_assoc, List.drop_left]
    exact List.prefix_append _ _
  · intro j hj found
    obtain ⟨after, same⟩ := found
    have star : (before ++ "/**/".toList ++ rest)[j + 1]? = some '*' := by
      rw [← List.getElem?_drop, ← same]
      rfl
    -- The slash in front of the stars is no star either.
    have front : before ++ "/**/".toList ++ rest = (before ++ ['/']) ++ ("**/".toList ++ rest) := by
      simp
    rw [front, List.getElem?_append_left (by simp; omega)] at star
    have member := List.mem_of_getElem? star
    simp [h] at member

theorem glob_inner (h : '*' ∉ before) :
    glob (before ++ "/**/".toList ++ rest) path =
      (startsWith (before ++ ['/']) path &&
        (tails (splitOn '/' (path.drop (before.length + 1)))).any (wildcard rest)) := by
  have starts : startsWith "**/".toList (before ++ "/**/".toList ++ rest) = false := by
    rw [Bool.eq_false_iff, Ne, startsWith_iff]
    rintro ⟨after, same⟩
    have front := congrArg List.head? same
    cases before with
    | nil => simp at front
    | cons c before =>
      have first : '*' = c := by simpa using front
      exact h (first ▸ List.mem_cons_self)
  have stars : ['*', '*'] <:+: before ++ "/**/".toList ++ rest :=
    ⟨before ++ ['/'], '/' :: rest, by simp⟩
  rw [glob_of_stars stars, doubleStar]
  simp only [starts, Bool.false_and, Bool.false_eq_true, if_false,
    cut?_of_firstAt (firstAt_inner h rest)]

end TemplateLint.Pattern
