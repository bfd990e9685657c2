import TemplateLint.Proofs.Pattern.Wildcard
import TemplateLint.Proofs.Text.Lines

/-!
Patterns whose components are names and `**`, the last one a name, and the paths that come from them
with components put in for each `**`. As a wildcard, such a pattern needs one component at least for
each.
-/

namespace TemplateLint.Pattern

open Text

inductive Component where
  | stars
  | name (cs : List Char)
  deriving DecidableEq, Repr

def Component.text : Component → List Char
  | stars => ['*', '*']
  | name cs => cs

def patternText (ps : List Component) : List Char := join ['/'] (ps.map Component.text)

structure Literal (cs : List Char) : Prop where
  written : cs ≠ []
  slashless : '/' ∉ cs
  plain : Plain cs

inductive EndsInName : List Component → Prop
  | last {cs : List Char} (literal : Literal cs) : EndsInName [.name cs]
  | name {cs : List Char} {ps : List Component} (literal : Literal cs) (rest : EndsInName ps) :
      EndsInName (.name cs :: ps)
  | stars {ps : List Component} (rest : EndsInName ps) : EndsInName (.stars :: ps)

/-- The parts come from the components of a pattern with parts put in for each `**`: `first` of them
at least for the first one, and `later` at least for every other. -/
inductive Fills : (first later : Nat) → List Component → List (List Char) → Prop
  | nil (first later : Nat) : Fills first later [] []
  | name {first later : Nat} {ps : List Component} {parts : List (List Char)} (cs : List Char)
      (rest : Fills first later ps parts) : Fills first later (.name cs :: ps) (cs :: parts)
  | stars {first later : Nat} {ps : List Component} {skipped parts : List (List Char)}
      (enough : first ≤ skipped.length) (rest : Fills later later ps parts) :
      Fills first later (.stars :: ps) (skipped ++ parts)

variable {first later : Nat} {ps : List Component} {parts : List (List Char)}

theorem Fills.mono (h : Fills first later ps parts) {first' later' : Nat} (hf : first' ≤ first)
    (hl : later' ≤ later) : Fills first' later' ps parts := by
  induction h generalizing first' later' with
  | nil => exact .nil _ _
  | name cs _ ih => exact .name cs (ih hf hl)
  | stars enough _ ih => exact .stars (Nat.le_trans hf enough) (ih hl hl)

theorem Fills.of_no_stars (h : Fills first later ps parts) (none : ps.count .stars = 0)
    (first' later' : Nat) : Fills first' later' ps parts := by
  induction h with
  | nil => exact .nil _ _
  | name cs _ ih => exact .name cs (ih (by simpa using none))
  | stars => simp at none

theorem Fills.of_one_stars (h : Fills first later ps parts) (one : ps.count .stars ≤ 1)
    (later' : Nat) : Fills first later' ps parts := by
  induction h with
  | nil => exact .nil _ _
  | name cs _ ih => exact .name cs (ih (by simpa using one))
  | stars enough rest =>
    rw [List.count_cons_self] at one
    exact .stars enough (rest.of_no_stars (by omega) later' later')

theorem fills_name_iff {cs : List Char} :
    Fills first later (.name cs :: ps) parts ↔
      ∃ rest, parts = cs :: rest ∧ Fills first later ps rest := by
  constructor
  · intro h
    cases h with
    | name _ rest => exact ⟨_, rfl, rest⟩
  · rintro ⟨rest, rfl, h⟩
    exact .name cs h

theorem fills_stars_iff :
    Fills first later (.stars :: ps) parts ↔
      ∃ skipped rest, parts = skipped ++ rest ∧ first ≤ skipped.length ∧
        Fills later later ps rest := by
  constructor
  · intro h
    cases h with
    | stars enough rest => exact ⟨_, _, rfl, enough, rest⟩
  · rintro ⟨skipped, rest, rfl, enough, h⟩
    exact .stars enough h

theorem EndsInName.ne_nil (h : EndsInName ps) : ps ≠ [] := by
  cases h <;> exact List.cons_ne_nil _ _

theorem Fills.parts_ne_nil (h : Fills first later ps parts) (named : EndsInName ps) :
    parts ≠ [] := by
  induction h with
  | nil => exact absurd rfl named.ne_nil
  | name => exact List.cons_ne_nil _ _
  | stars _ _ ih =>
    cases named with
    | stars rest => exact List.append_ne_nil_of_right_ne_nil _ (ih rest)

theorem patternText_append {front back : List Component} (hf : front ≠ []) (hb : back ≠ []) :
    patternText (front ++ back) = patternText front ++ '/' :: patternText back := by
  rw [patternText, List.map_append, join_append _ (by simpa using hf) (by simpa using hb)]
  simp [patternText]

theorem patternText_cons (p : Component) (h : ps ≠ []) :
    patternText (p :: ps) = p.text ++ '/' :: patternText ps :=
  patternText_append (List.cons_ne_nil p []) h

theorem wildcard_patternText_iff (h : EndsInName ps) (slashless : ∀ part ∈ parts, '/' ∉ part) :
    wildcard (patternText ps) (join ['/'] parts) = true ↔ Fills 1 1 ps parts := by
  induction h generalizing parts with
  | @last cs literal =>
    have text : patternText [.name cs] = cs := rfl
    rw [text, wildcard_plain_iff literal.plain, fills_name_iff]
    constructor
    · intro same
      have some_part : parts ≠ [] := by
        rintro rfl
        exact literal.written same.symm
      exact ⟨[], (join_eq_iff_of_not_mem some_part slashless literal.slashless).mp same, .nil 1 1⟩
    · rintro ⟨rest, rfl, filled⟩
      cases filled
      rfl
  | @name cs ps literal rest ih =>
    have front : Plain (cs ++ ['/']) := plain_append.mpr ⟨literal.plain, plain_slash⟩
    have own : ∀ piece ∈ [cs], '/' ∉ piece := List.forall_mem_singleton.mpr literal.slashless
    have next (after : List Char) : join ['/'] parts = cs ++ '/' :: after ↔
        ∃ back, back ≠ [] ∧ parts = cs :: back ∧ join ['/'] back = after :=
      join_eq_join_append_iff slashless own (List.cons_ne_nil _ _)
    rw [patternText_cons _ rest.ne_nil, Component.text, List.append_cons, wildcard_append_iff front,
      fills_name_iff]
    simp only [← List.append_cons, next]
    constructor
    · rintro ⟨_, ⟨back, -, rfl, rfl⟩, matched⟩
      exact ⟨back, rfl, (ih (List.forall_mem_cons.mp slashless).2).mp matched⟩
    · rintro ⟨back, rfl, filled⟩
      refine ⟨_, ⟨back, filled.parts_ne_nil rest, rfl, rfl⟩, ?_⟩
      exact (ih (List.forall_mem_cons.mp slashless).2).mpr filled
  | @stars ps rest ih =>
    rw [patternText_cons _ rest.ne_nil, Component.text, List.cons_append, List.singleton_append,
      wildcard_stars_iff (by simp), fills_stars_iff]
    have step (after : List Char) : wildcard ('/' :: patternText ps) after = true ↔
        ∃ t, after = '/' :: t ∧ wildcard (patternText ps) t = true :=
      wildcard_append_iff plain_slash
    constructor
    · rintro ⟨skipped, after, same, stepped⟩
      obtain ⟨t, rfl, matched⟩ := (step after).mp stepped
      rw [join_eq_append_iff slashless] at same
      obtain ⟨front, back, hf, -, rfl, -, rfl⟩ := same
      have whole := List.forall_mem_append.mp slashless
      exact ⟨front, back, rfl, List.length_pos_iff.mpr hf, (ih whole.2).mp matched⟩
    · rintro ⟨front, back, rfl, enough, filled⟩
      have whole := List.forall_mem_append.mp slashless
      have hf : front ≠ [] := List.length_pos_iff.mp enough
      refine ⟨join ['/'] front, '/' :: join ['/'] back, ?_,
        (step _).mpr ⟨_, rfl, (ih whole.2).mpr filled⟩⟩
      rw [join_append _ hf (filled.parts_ne_nil rest)]
      simp

end TemplateLint.Pattern
