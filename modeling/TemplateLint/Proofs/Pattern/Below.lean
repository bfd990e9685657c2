import Mathlib.Data.List.Infix
import TemplateLint.Proofs.Pattern.Glob
import TemplateLint.Proofs.Pattern.Wildcard
import TemplateLint.Proofs.Text.Lines

namespace TemplateLint.Pattern

open Text

variable {before path : List Char} {parts : List (List Char)}

theorem not_infix_below (single : ¬ ['*', '*'] <:+: before) :
    ¬ "**/".toList <:+: before ++ "/**".toList := by
  have shorter : ¬ ['*', '*'] <:+: before ++ ['/', '*'] := by
    rw [List.append_cons, List.infix_concat_iff, List.infix_concat_iff]
    rintro (⟨front, same⟩ | ⟨front, same⟩ | inside)
    · rw [← List.append_cons] at same
      cases List.append_inj_right' same rfl
    · simpa using congrArg List.getLast? same
    · exact single inside
  have longer : before ++ "/**".toList = before ++ ['/', '*'] ++ ['*'] := by simp
  rw [longer, List.infix_concat_iff]
  rintro (⟨front, same⟩ | inside)
  · simpa using congrArg List.getLast? same
  · have stars : ['*', '*'] <:+: "**/".toList := ⟨[], ['/'], rfl⟩
    exact shorter (stars.trans inside)

theorem glob_below (single : ¬ ['*', '*'] <:+: before) (path : List Char) :
    glob (before ++ "/**".toList) path = (startsWith (before ++ ['/']) path || path == before) := by
  have inner := not_infix_below single
  have starts : startsWith "**/".toList (before ++ "/**".toList) = false := by
    rw [Bool.eq_false_iff, Ne, startsWith_iff]
    exact fun front => inner front.isInfix
  have ends : endsWith "/**".toList (before ++ "/**".toList) = true :=
    endsWith_iff.mpr (List.suffix_append _ _)
  have uncut : cut? "/**/".toList (before ++ "/**".toList) = none := by
    have absent : ¬ contains "/**/".toList (before ++ "/**".toList) = true := by
      rw [contains_iff]
      have stars : "**/".toList <:+: "/**/".toList := ⟨['/'], [], rfl⟩
      exact fun found => inner (stars.trans found)
    rw [cut?, Option.map_eq_none_iff]
    simpa [contains] using absent
  have front : (before ++ "/**".toList).take ((before ++ "/**".toList).length - 3) = before := by
    simp
  have stars : ['*', '*'] <:+: before ++ "/**".toList := ⟨before ++ ['/'], [], by simp⟩
  rw [glob_of_stars stars, doubleStar]
  simp only [starts, ends, uncut, front, Bool.false_and, Bool.false_eq_true, if_true, if_false]

theorem glob_below_iff (written : before ≠ []) (single : ¬ ['*', '*'] <:+: before)
    (slashless : ∀ part ∈ parts, '/' ∉ part) :
    glob (before ++ "/**".toList) (join ['/'] parts) = true ↔
      ∃ front, front ≠ [] ∧ front <+: parts ∧ join ['/'] front = before := by
  have cut (after : List Char) : join ['/'] parts = before ++ '/' :: after ↔ _ :=
    join_eq_append_iff slashless
  rw [glob_below single, Bool.or_eq_true, startsWith_iff, beq_iff_eq]
  constructor
  · rintro (⟨after, same⟩ | rfl)
    · rw [← List.append_cons, eq_comm, cut] at same
      obtain ⟨front, back, hf, -, rfl, same, -⟩ := same
      exact ⟨front, hf, List.prefix_append _ _, same⟩
    · refine ⟨parts, ?_, List.prefix_rfl, rfl⟩
      rintro rfl
      exact written rfl
  · rintro ⟨front, hf, ⟨back, rfl⟩, rfl⟩
    by_cases hb : back = []
    · subst hb
      rw [List.append_nil]
      exact .inr rfl
    · rw [join_append _ hf hb]
      exact .inl (List.prefix_append _ _)

theorem glob_below_name_iff {name : List Char} (written : name ≠ []) (slashless : '/' ∉ name)
    (single : ¬ ['*', '*'] <:+: name) :
    glob (name ++ "/**".toList) path = true ↔ (splitOn '/' path).head? = some name := by
  have whole : ∀ part ∈ splitOn '/' path, '/' ∉ part := fun _ => not_mem_of_mem_splitOn
  have below := glob_below_iff written single whole
  rw [join_splitOn] at below
  rw [below, List.head?_eq_some_iff]
  constructor
  · rintro ⟨front, hf, ⟨back, same⟩, joined⟩
    have own : ∀ part ∈ front, '/' ∉ part := by
      intro part hp
      exact whole part (same ▸ List.mem_append_left back hp)
    have alone : front = [name] := (join_eq_iff_of_not_mem hf own slashless).mp joined
    exact ⟨back, by rw [← same, alone, List.singleton_append]⟩
  · rintro ⟨back, same⟩
    exact ⟨[name], List.cons_ne_nil _ _, ⟨back, same.symm⟩, rfl⟩

theorem wildcard_self {cs : List Char} (h : '[' ∉ cs) : wildcard cs cs = true := by
  rw [wildcard]
  fun_induction items cs with
  | case1 => simp [matchItems]
  | case2 cs ih =>
    obtain ⟨later, run⟩ := items_run cs
    have rest := ih (List.not_mem_of_not_mem_cons h)
    rw [run, matchItems_run_iff] at rest ⊢
    obtain ⟨skipped, after, same, matched⟩ := rest
    exact ⟨'*' :: skipped, after, by rw [same, List.cons_append], matched⟩
  | case3 cs _ ih =>
    rw [matchItems_run_iff]
    exact ⟨['*'], cs, rfl, ih (List.not_mem_of_not_mem_cons h)⟩
  | case4 cs ih =>
    rw [matchItems]
    exact ih (List.not_mem_of_not_mem_cons h)
  | case5 => exact absurd List.mem_cons_self h
  | case6 => exact absurd List.mem_cons_self h
  | case7 c cs _ _ _ _ ih =>
    rw [matchItems_char_iff]
    exact ⟨cs, rfl, ih (List.not_mem_of_not_mem_cons h)⟩

def MatchesOnWay (before : List Char) (parts : List (List Char)) : Prop :=
  ∃ front, front ≠ [] ∧ front <+: parts ∧ wildcard before (join ['/'] front) = true

theorem matchesOnWay_of_plain (plain : Plain before) :
    MatchesOnWay before parts ↔
      ∃ front, front ≠ [] ∧ front <+: parts ∧ join ['/'] front = before := by
  simp only [MatchesOnWay, wildcard_plain_iff plain]

/-- In front of a `**` at the end, a pattern selects what is below the one directory that is written
as it is itself. Where the directories of that pattern are more than this one, those below the others
are not selected. -/
theorem glob_below_exactly (written : before ≠ []) (single : ¬ ['*', '*'] <:+: before)
    (slashless : ∀ part ∈ parts, '/' ∉ part) :
    (glob (before ++ "/**".toList) (join ['/'] parts) = true ↔
        ∃ front, front ≠ [] ∧ front <+: parts ∧ join ['/'] front = before) ∧
      ('[' ∉ before → glob (before ++ "/**".toList) (join ['/'] parts) = true →
        MatchesOnWay before parts) ∧
      (Plain before →
        (glob (before ++ "/**".toList) (join ['/'] parts) = true ↔ MatchesOnWay before parts)) := by
  have exactly := glob_below_iff written single slashless
  refine ⟨exactly, ?_, ?_⟩
  · intro setless matched
    obtain ⟨front, hf, onward, rfl⟩ := exactly.mp matched
    exact ⟨front, hf, onward, wildcard_self setless⟩
  · intro plain
    rw [exactly, matchesOnWay_of_plain plain]

theorem glob_below_vendor :
    let before := "web/vendor".toList
    let parts := ["web".toList, "vendor".toList, "img".toList, "x.mako".toList]
    before ≠ [] ∧ ¬ ['*', '*'] <:+: before ∧ (∀ part ∈ parts, '/' ∉ part) ∧
      glob (before ++ "/**".toList) (join ['/'] parts) = true ∧ MatchesOnWay before parts := by
  intro before parts
  have written : before ≠ [] := by decide
  have single : ¬ ['*', '*'] <:+: before := by decide
  have slashless : ∀ part ∈ parts, '/' ∉ part := by decide
  obtain ⟨exactly, within, -⟩ := glob_below_exactly written single slashless
  have matched := exactly.mpr ⟨["web".toList, "vendor".toList], by decide, by decide, by decide⟩
  exact ⟨written, single, slashless, matched, within (by decide) matched⟩

theorem not_glob_below_star :
    let before := "build*".toList
    let parts := ["build-old".toList, "x.mako".toList]
    before ≠ [] ∧ ¬ ['*', '*'] <:+: before ∧ before.head? ≠ some '/' ∧ before.getLast? ≠ some '/' ∧
      (∀ part ∈ parts, part ≠ [] ∧ '/' ∉ part ∧ '\\' ∉ part) ∧ MatchesOnWay before parts ∧
      glob (before ++ "/**".toList) (join ['/'] parts) = false := by
  intro before parts
  have single : ¬ ['*', '*'] <:+: before := by decide
  have build : Plain "build".toList := by decide
  have matched : wildcard ("build".toList ++ ['*']) "build-old".toList = true :=
    (wildcard_append_iff build).mpr ⟨"-old".toList, by decide, wildcard_star _⟩
  have way : MatchesOnWay before parts := ⟨["build-old".toList], by decide, by decide, matched⟩
  refine ⟨by decide, single, by decide, by decide, by decide, way, ?_⟩
  rw [glob_below single]
  decide

end TemplateLint.Pattern
