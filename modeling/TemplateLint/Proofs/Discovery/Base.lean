import TemplateLint.Proofs.Discovery.Collecting

namespace TemplateLint.Discovery

/-- The base that an input leading to `place` has for a file: the directory of the file if it is the
input itself, and the input if that is no file and the file lies below it. -/
inductive GivesBase (site : Site) (file : Path) : (place base : Path) → Prop
  | itself (regular : IsFile site file) : GivesBase site file file file.parent
  | above {place : Path} (irregular : ¬ IsFile site place) (under : file.isUnder place = true) :
      GivesBase site file place place

inductive FirstBase (site : Site) (file : Path) : (places : List Path) → (base : Path) → Prop
  | here {place base : Path} (gives : GivesBase site file place base) (places : List Path) :
      FirstBase site file (place :: places) base
  | later {place base : Path} {places : List Path} (none : ∀ b, ¬ GivesBase site file place b)
      (next : FirstBase site file places base) : FirstBase site file (place :: places) base

section

variable {site : Site} {file place base : Path} {places : List Path}

theorem givesBase_unique {other : Path} (h : GivesBase site file place base)
    (h' : GivesBase site file place other) : base = other := by
  cases h with
  | itself regular =>
    cases h' with
    | itself => rfl
    | above irregular => exact absurd regular irregular
  | above irregular =>
    cases h' with
    | itself regular => exact absurd regular irregular
    | above => rfl

theorem firstBase_unique {other : Path} (h : FirstBase site file places base)
    (h' : FirstBase site file places other) : base = other := by
  induction h with
  | here gives =>
    cases h' with
    | here gives' => exact givesBase_unique gives gives'
    | later none => exact absurd gives (none _)
  | later none next ih =>
    cases h' with
    | here gives' => exact absurd gives' (none _)
    | later _ next' => exact ih next'

theorem exists_givesBase (regular : IsFile site file) (under : file.isUnder place = true) :
    ∃ base, GivesBase site file place base := by
  by_cases hplace : IsFile site place
  · obtain ⟨names, bytes, rfl, here⟩ := hplace
    obtain ⟨all, bytes', rfl, there⟩ := regular
    obtain ⟨more, rfl⟩ := isUnder_absolute.mp under
    rw [Entry.eq_nil_of_at?_append here there, List.append_nil]
    exact ⟨_, .itself ⟨names, bytes, rfl, here⟩⟩
  · exact ⟨place, .above hplace under⟩

theorem exists_firstBase (regular : IsFile site file)
    (h : ∃ place ∈ places, file.isUnder place = true) : ∃ base, FirstBase site file places base := by
  induction places with
  | nil => simp at h
  | cons next places ih =>
    by_cases hnext : ∃ b, GivesBase site file next b
    · obtain ⟨b, gives⟩ := hnext
      exact ⟨b, .here gives places⟩
    · have none : ∀ b, ¬ GivesBase site file next b := not_exists.mp hnext
      obtain ⟨place, hplace, under⟩ := h
      rcases List.mem_cons.mp hplace with rfl | hplace
      · exact absurd (exists_givesBase regular under) hnext
      · obtain ⟨b, first⟩ := ih ⟨place, hplace, under⟩
        exact ⟨b, .later none first⟩

theorem givesBase_of_firstBase (h : FirstBase site file places base) :
    ∃ place ∈ places, GivesBase site file place base := by
  induction h with
  | here gives => exact ⟨_, List.mem_cons_self, gives⟩
  | later none next ih =>
    obtain ⟨place, hplace, gives⟩ := ih
    exact ⟨place, List.mem_cons_of_mem _ hplace, gives⟩

theorem relativeTo?_of_givesBase (h : GivesBase site file place base) :
    file.relativeTo? base = some ⟨.relative, file.parts.drop base.parts.length⟩ := by
  have under : file.isUnder base = true := by
    cases h with
    | itself => exact Path.isUnder_iff.mpr ⟨rfl, List.dropLast_prefix _⟩
    | above _ under => exact under
  rw [Path.relativeTo?, if_pos under]

end

section

variable {site : Site} (plain : site.root.Plain)

include plain

theorem baseFor_cons (file p : Path) (paths : List Path) :
    (∃ base, GivesBase site file (resolved site p) base ∧
        baseFor site file (p :: paths) = .ok base) ∨
      (∀ base, ¬ GivesBase site file (resolved site p) base) ∧
        baseFor site file (p :: paths) = baseFor site file paths := by
  have regular := isFile_resolved plain p
  rw [baseFor, resolve_eq plain]
  simp only [ok_bind]
  by_cases hp : IsFile site (resolved site p)
  · rw [if_pos (regular.mpr hp)]
    by_cases same : file = resolved site p
    · subst same
      exact .inl ⟨_, .itself hp, if_pos rfl⟩
    · refine .inr ⟨?_, if_neg same⟩
      intro base gives
      cases gives with
      | itself => exact same rfl
      | above irregular => exact irregular hp
  · rw [if_neg (mt regular.mp hp)]
    by_cases under : file.isUnder (resolved site p) = true
    · exact .inl ⟨_, .above hp under, if_pos under⟩
    · refine .inr ⟨?_, if_neg under⟩
      intro base gives
      cases gives with
      | itself regular => exact hp regular
      | above _ below => exact under below

theorem baseFor_of_firstBase {file base : Path} {paths : List Path}
    (h : FirstBase site file (paths.map (resolved site)) base) :
    baseFor site file paths = .ok base := by
  induction paths with
  | nil => cases h
  | cons p paths ih =>
    rcases baseFor_cons plain file p paths with ⟨found, gives, here⟩ | ⟨none, skipped⟩
    · cases h with
      | here gives' => rw [here, givesBase_unique gives gives']
      | later none => exact absurd gives (none _)
    · rw [skipped]
      cases h with
      | here gives => exact absurd gives (none _)
      | later _ next => exact ih next

end

end TemplateLint.Discovery
