import Mathlib.Data.List.Basic
import TemplateLint.Proofs.Pattern.Components
import TemplateLint.Proofs.Pattern.Glob

namespace TemplateLint.Pattern

open Text

variable {first later : Nat} {ps : List Component} {parts : List (List Char)}

theorem patternText_names (names : List (List Char)) :
    patternText (names.map .name) = join ['/'] names := by
  rw [patternText, List.map_map]
  exact congrArg _ (List.map_id names)

theorem patternText_inner {names : List (List Char)} (some_name : names ≠ []) (h : ps ≠ []) :
    patternText (names.map .name ++ .stars :: ps) =
      join ['/'] names ++ "/**/".toList ++ patternText ps := by
  rw [patternText_append (by simpa using some_name) (List.cons_ne_nil _ _), patternText_names,
    patternText_cons _ h, Component.text]
  simp

theorem star_not_mem_join {names : List (List Char)} (literal : ∀ cs ∈ names, Literal cs) :
    '*' ∉ join ['/'] names := by
  intro found
  rcases mem_of_mem_join found with slash | ⟨cs, hcs, found⟩
  · cases List.mem_singleton.mp slash
  · exact ((literal cs hcs).plain _ found).1 rfl

theorem EndsInName.split (h : EndsInName ps) :
    (∃ names : List (List Char), ps = names.map .name ∧ ∀ cs ∈ names, Literal cs) ∨
      ∃ (names : List (List Char)) (later : List Component), ps = names.map .name ++ .stars :: later ∧
        (∀ cs ∈ names, Literal cs) ∧ EndsInName later := by
  induction h with
  | @last cs literal => exact .inl ⟨[cs], rfl, List.forall_mem_singleton.mpr literal⟩
  | @name cs ps literal rest ih =>
    rcases ih with ⟨names, rfl, all⟩ | ⟨names, later, rfl, all, named⟩
    · exact .inl ⟨cs :: names, rfl, List.forall_mem_cons.mpr ⟨literal, all⟩⟩
    · exact .inr ⟨cs :: names, later, rfl, List.forall_mem_cons.mpr ⟨literal, all⟩, named⟩
  | @stars ps rest => exact .inr ⟨[], ps, rfl, List.forall_mem_nil _, rest⟩

theorem getLast?_patternText (h : EndsInName ps) :
    ∃ c, (patternText ps).getLast? = some c ∧ c ≠ '*' := by
  have onward {ps : List Component} (p : Component) (rest : EndsInName ps) {c : Char}
      (hc : (patternText ps).getLast? = some c) : (patternText (p :: ps)).getLast? = some c := by
    rw [patternText_cons _ rest.ne_nil, List.getLast?_append, List.getLast?_cons, hc]
    rfl
  induction h with
  | @last cs literal =>
    refine ⟨_, List.getLast?_eq_some_getLast literal.written, ?_⟩
    exact (literal.plain _ (List.getLast_mem _)).1
  | name _ rest ih =>
    obtain ⟨c, hc, plain⟩ := ih
    exact ⟨c, onward _ rest hc, plain⟩
  | stars rest ih =>
    obtain ⟨c, hc, plain⟩ := ih
    exact ⟨c, onward _ rest hc, plain⟩

theorem endsWith_patternText (h : EndsInName ps) :
    endsWith "/**".toList (patternText ps) = false := by
  obtain ⟨c, hc, plain⟩ := getLast?_patternText h
  rw [Bool.eq_false_iff, Ne, endsWith_iff]
  rintro ⟨front, same⟩
  rw [← same, List.getLast?_append] at hc
  exact plain (Option.some.inj hc).symm

theorem fills_names_iff {names : List (List Char)} :
    Fills first later (names.map .name ++ ps) parts ↔
      ∃ rest, parts = names ++ rest ∧ Fills first later ps rest := by
  induction names generalizing parts with
  | nil => simp
  | cons cs names ih =>
    rw [List.map_cons, List.cons_append, fills_name_iff]
    simp only [ih]
    constructor
    · rintro ⟨_, rfl, rest, rfl, h⟩
      exact ⟨rest, rfl, h⟩
    · rintro ⟨rest, rfl, h⟩
      exact ⟨names ++ rest, rfl, rest, rfl, h⟩

theorem any_tails_patternText_iff (named : EndsInName ps)
    (slashless : ∀ part ∈ parts, '/' ∉ part) :
    (tails (splitOn '/' (join ['/'] parts))).any (wildcard (patternText ps)) = true ↔
      Fills 0 1 (.stars :: ps) parts := by
  rw [any_tails_iff, fills_stars_iff]
  by_cases some_part : parts = []
  · subst some_part
    apply iff_of_false
    · rintro ⟨skipped, rest, same, hr, matched⟩
      obtain ⟨-, rfl⟩ | ⟨-, rfl⟩ := List.append_eq_singleton_iff.mp same.symm
      · have filled : Fills 1 1 ps [] := (wildcard_patternText_iff named slashless).mp matched
        exact filled.parts_ne_nil named rfl
      · exact hr rfl
    · rintro ⟨skipped, rest, same, -, filled⟩
      exact filled.parts_ne_nil named (List.append_eq_nil_iff.mp same.symm).2
  · rw [splitOn_join_of_not_mem some_part slashless]
    constructor
    · rintro ⟨skipped, rest, rfl, -, matched⟩
      have whole := (List.forall_mem_append.mp slashless).2
      exact ⟨skipped, rest, rfl, Nat.zero_le _, (wildcard_patternText_iff named whole).mp matched⟩
    · rintro ⟨skipped, rest, rfl, -, filled⟩
      have whole := (List.forall_mem_append.mp slashless).2
      exact ⟨skipped, rest, rfl, filled.parts_ne_nil named,
        (wildcard_patternText_iff named whole).mpr filled⟩

theorem glob_names_iff {names : List (List Char)} (some_name : names ≠ [])
    (literal : ∀ cs ∈ names, Literal cs) (named : EndsInName ps)
    (slashless : ∀ part ∈ parts, '/' ∉ part) :
    glob (join ['/'] names ++ "/**/".toList ++ patternText ps) (join ['/'] parts) = true ↔
      ∃ rest, parts = names ++ rest ∧ Fills 0 1 (.stars :: ps) rest := by
  have own : ∀ cs ∈ names, '/' ∉ cs := fun cs hcs => (literal cs hcs).slashless
  have beyond {back : List (List Char)} (hb : back ≠ []) :
      (join ['/'] (names ++ back)).drop ((join ['/'] names).length + 1) = join ['/'] back := by
    rw [join_append _ some_name hb]
    exact List.drop_left' (by simp)
  rw [glob_inner (star_not_mem_join literal), Bool.and_eq_true, startsWith_iff]
  constructor
  · rintro ⟨⟨after, same⟩, matched⟩
    rw [← List.append_cons, eq_comm, join_eq_join_append_iff slashless own some_name] at same
    obtain ⟨back, hb, rfl, -⟩ := same
    have whole := (List.forall_mem_append.mp slashless).2
    rw [beyond hb, any_tails_patternText_iff named whole] at matched
    exact ⟨back, rfl, matched⟩
  · rintro ⟨back, rfl, filled⟩
    have whole := (List.forall_mem_append.mp slashless).2
    have hb : back ≠ [] := filled.parts_ne_nil (.stars named)
    rw [beyond hb, any_tails_patternText_iff named whole]
    exact ⟨⟨join ['/'] back, by rw [join_append _ some_name hb]⟩, filled⟩

theorem glob_patternText_iff (h : EndsInName ps) (slashless : ∀ part ∈ parts, '/' ∉ part) :
    glob (patternText ps) (join ['/'] parts) = true ↔ Fills 0 1 ps parts := by
  have ends := endsWith_patternText h
  rcases h.split with ⟨names, rfl, literal⟩ | ⟨names, later, rfl, literal, named⟩
  · have none : (names.map Component.name).count .stars = 0 := by simp [List.count_eq_zero]
    have plain : '*' ∉ patternText (names.map .name) :=
      patternText_names names ▸ star_not_mem_join literal
    rw [glob_of_no_stars plain, wildcard_patternText_iff h slashless]
    exact ⟨fun filled => filled.of_no_stars none 0 1, fun filled => filled.of_no_stars none 1 1⟩
  · by_cases some_name : names = []
    · subst some_name
      have front : patternText (.stars :: later) = "**/".toList ++ patternText later :=
        patternText_cons _ named.ne_nil
      rw [List.map_nil, List.nil_append, front] at ends ⊢
      rw [glob_front ends, any_tails_patternText_iff named slashless]
    · rw [patternText_inner some_name named.ne_nil, fills_names_iff,
        glob_names_iff some_name literal named slashless]

/-- The first `**` of a pattern stands for any number of components, and a later one for at least
one. So no path matches but those that come from the pattern with components put in for each `**`,
and all of them match if it has one `**` at most. -/
theorem glob_of_components (h : EndsInName ps) (slashless : ∀ part ∈ parts, '/' ∉ part) :
    (glob (patternText ps) (join ['/'] parts) = true ↔ Fills 0 1 ps parts) ∧
      (glob (patternText ps) (join ['/'] parts) = true → Fills 0 0 ps parts) ∧
      (ps.count .stars ≤ 1 → Fills 0 0 ps parts →
        glob (patternText ps) (join ['/'] parts) = true) := by
  have exactly := glob_patternText_iff h slashless
  refine ⟨exactly, ?_, ?_⟩
  · intro matched
    exact (exactly.mp matched).mono (Nat.le_refl 0) (Nat.zero_le 1)
  · intro one filled
    exact exactly.mpr (filled.of_one_stars one 1)

def sitePages : List Component :=
  [.stars, .name "site".toList, .stars, .name "page.mako".toList]

theorem endsInName_sitePages : EndsInName sitePages := by
  have site : Literal "site".toList := ⟨by simp, by simp, by decide⟩
  have page : Literal "page.mako".toList := ⟨by simp, by simp, by decide⟩
  exact .stars (.name site (.stars (.last page)))

theorem glob_of_sitePages :
    let parts := ["x".toList, "site".toList, "a".toList, "b".toList, "page.mako".toList]
    EndsInName sitePages ∧ (∀ part ∈ parts, '/' ∉ part) ∧ Fills 0 1 sitePages parts ∧
      glob (patternText sitePages) (join ['/'] parts) = true ∧ Fills 0 0 sitePages parts := by
  intro parts
  have slashless : ∀ part ∈ parts, '/' ∉ part := by decide
  have pages : Fills 1 1 [.stars, .name "page.mako".toList] (parts.drop 2) :=
    fills_stars_iff.mpr ⟨["a".toList, "b".toList], _, rfl, by decide, .name _ (.nil 1 1)⟩
  have filled : Fills 0 1 sitePages parts :=
    fills_stars_iff.mpr ⟨["x".toList], _, rfl, Nat.zero_le _, .name _ pages⟩
  obtain ⟨exactly, within, -⟩ := glob_of_components endsInName_sitePages slashless
  have matched := exactly.mpr filled
  exact ⟨endsInName_sitePages, slashless, filled, matched, within matched⟩

theorem not_glob_of_later_stars_empty :
    let parts := ["site".toList, "page.mako".toList]
    EndsInName sitePages ∧ Fills 0 0 sitePages parts ∧
      glob (patternText sitePages) (join ['/'] parts) = false := by
  intro parts
  have page : Fills 0 0 [.stars, .name "page.mako".toList] ["page.mako".toList] :=
    fills_stars_iff.mpr ⟨[], _, rfl, Nat.zero_le _, .name _ (.nil 0 0)⟩
  refine ⟨endsInName_sitePages, ?_, by cbv⟩
  exact fills_stars_iff.mpr ⟨[], _, rfl, Nat.zero_le _, .name _ page⟩

end TemplateLint.Pattern
