import Mathlib.Data.List.Infix
import TemplateLint.Proofs.Pattern.Components
import TemplateLint.Proofs.Pattern.Glob

namespace TemplateLint.Pattern

open Text

variable {names parts : List (List Char)}

theorem plain_join (literal : ∀ cs ∈ names, Literal cs) : Plain (join ['/'] names) := by
  intro c hc
  rcases mem_of_mem_join hc with slash | ⟨cs, hcs, hc⟩
  · obtain rfl := List.mem_singleton.mp slash
    decide
  · exact (literal cs hcs).plain c hc

theorem any_directory_iff (some_name : names ≠ []) (literal : ∀ cs ∈ names, Literal cs)
    (slashless : ∀ part ∈ parts, '/' ∉ part) :
    parts.any (wildcard (join ['/'] names)) = true ↔ names.length = 1 ∧ names <:+: parts := by
  have own : ∀ cs ∈ names, '/' ∉ cs := fun cs hcs => (literal cs hcs).slashless
  have compared (part : List Char) (hp : part ∈ parts) :
      wildcard (join ['/'] names) part = true ↔ names = [part] := by
    rw [wildcard_plain_iff (plain_join literal), eq_comm,
      join_eq_iff_of_not_mem some_name own (slashless part hp)]
  rw [List.any_eq_true]
  constructor
  · rintro ⟨part, hp, matched⟩
    rw [compared part hp] at matched
    subst matched
    exact ⟨rfl, (List.singleton_infix_iff _ _).mpr hp⟩
  · rintro ⟨one, found⟩
    obtain ⟨part, rfl⟩ := List.length_eq_one_iff.mp one
    have hp : part ∈ parts := (List.singleton_infix_iff _ _).mp found
    exact ⟨part, hp, (compared part hp).mpr rfl⟩

theorem dropLast_splitOn_join (slashless : ∀ part ∈ parts, '/' ∉ part) :
    (splitOn '/' (join ['/'] parts)).dropLast = parts.dropLast := by
  by_cases some_part : parts = []
  · subst some_part
    rfl
  · rw [splitOn_join_of_not_mem some_part slashless]

/-- Between `**/` and `/**` one name selects what lies below the directories of that name, and several
names select nothing. -/
theorem glob_around_iff (some_name : names ≠ []) (literal : ∀ cs ∈ names, Literal cs)
    (slashless : ∀ part ∈ parts, '/' ∉ part) :
    glob ("**/".toList ++ join ['/'] names ++ "/**".toList) (join ['/'] parts) = true ↔
      names.length = 1 ∧ names <:+: parts.dropLast := by
  have directories : ∀ part ∈ parts.dropLast, '/' ∉ part := fun part hp =>
    slashless part (List.dropLast_subset parts hp)
  rw [glob_around, dropLast_splitOn_join slashless, any_directory_iff some_name literal directories]

theorem literal_vendor : Literal "vendor".toList := ⟨by simp, by simp, by decide⟩

theorem glob_around_vendor :
    let names := ["vendor".toList]
    let parts := ["site".toList, "vendor".toList, "w".toList, "x.mako".toList]
    names ≠ [] ∧ (∀ cs ∈ names, Literal cs) ∧ (∀ part ∈ parts, '/' ∉ part) ∧
      glob ("**/".toList ++ join ['/'] names ++ "/**".toList) (join ['/'] parts) = true := by
  intro names parts
  have some_name : names ≠ [] := List.cons_ne_nil _ _
  have literal : ∀ cs ∈ names, Literal cs := List.forall_mem_singleton.mpr literal_vendor
  have slashless : ∀ part ∈ parts, '/' ∉ part := by decide
  refine ⟨some_name, literal, slashless, ?_⟩
  exact (glob_around_iff some_name literal slashless).mpr ⟨rfl, by decide⟩

theorem not_glob_around_two :
    let names := ["web".toList, "vendor".toList]
    let parts := ["web".toList, "vendor".toList, "x.mako".toList]
    (∀ cs ∈ names, Literal cs) ∧ names <:+: parts.dropLast ∧
      glob ("**/".toList ++ join ['/'] names ++ "/**".toList) (join ['/'] parts) = false := by
  intro names parts
  have web : Literal "web".toList := ⟨by simp, by simp, by decide⟩
  have literal : ∀ cs ∈ names, Literal cs := by
    simp only [names, List.forall_mem_cons]
    exact ⟨web, literal_vendor, List.forall_mem_nil _⟩
  exact ⟨literal, by decide, by cbv⟩

end TemplateLint.Pattern
