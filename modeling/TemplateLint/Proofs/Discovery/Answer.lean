import TemplateLint.Discovery
import TemplateLint.Proofs.Except
import TemplateLint.Proofs.Journal
import TemplateLint.Proofs.Pattern.Wildcard

namespace TemplateLint

structure Config.TextPatterns (c : Config) : Prop where
  included : ∀ v ∈ c.included, ∃ s, v = .str s
  excluded : ∀ v ∈ c.excluded, ∃ s, v = .str s

namespace Pattern

theorem anyMatch_iff (path : List Char) {vs : List Value} (h : ∀ v ∈ vs, ∃ s, v = .str s) :
    ∃ found, anyMatch path vs = .ok found ∧
      (found = true ↔ ∃ s, Value.str s ∈ vs ∧ glob s.toList path = true) := by
  induction vs with
  | nil => exact ⟨false, rfl, by simp⟩
  | cons v vs ih =>
    obtain ⟨⟨s, rfl⟩, later⟩ := List.forall_mem_cons.mp h
    rw [anyMatch, matchValue]
    cases hs : glob s.toList path with
    | true => exact ⟨true, rfl, iff_of_true rfl ⟨s, List.mem_cons_self, hs⟩⟩
    | false =>
      obtain ⟨found, hfound, iff⟩ := ih later
      refine ⟨found, hfound, iff.trans ?_⟩
      constructor
      · rintro ⟨t, ht, matched⟩
        exact ⟨t, List.mem_cons_of_mem _ ht, matched⟩
      · rintro ⟨t, ht, matched⟩
        rcases List.mem_cons.mp ht with same | ht
        · cases same
          rw [hs] at matched
          cases matched
        · exact ⟨t, ht, matched⟩

theorem anyMatch_of_texts (path : List Char) {vs : List Value} (h : ∀ v ∈ vs, ∃ s, v = .str s) :
    ∃ found, anyMatch path vs = .ok found := by
  obtain ⟨found, hfound, -⟩ := anyMatch_iff path h
  exact ⟨found, hfound⟩

theorem glob_star (path : List Char) : glob ['*'] path = true := by
  simp [glob, Text.contains, Text.find?, wildcard_star]

end Pattern

def Config.Takes (c : Config) (path : List Char) : Prop :=
  (∀ s, Value.str s ∈ c.excluded → Pattern.glob s.toList path = false) ∧
    ∃ s, Value.str s ∈ c.included ∧ Pattern.glob s.toList path = true

namespace Discovery

variable {site : Site} {config : Config} {paths : List Path}

theorem templatesBelow_of_resolve {p place : Path} (h : resolve site p = .ok place) :
    ∃ found, templatesBelow site p = .ok found := by
  rw [templatesBelow, h]
  simp only [ok_bind]
  split
  · split
    · exact ⟨_, rfl⟩
    · exact ⟨_, rfl⟩
  · exact ⟨_, rfl⟩

theorem templatesBelow_of_loop {p : Path} {failure : Failure}
    (h : resolve site p = .error failure) :
    templatesBelow site p = .error failure := by
  rw [templatesBelow, h]
  rfl

theorem baseFor_of_resolve (file : Path) (h : ∀ p ∈ paths, ∃ place, resolve site p = .ok place) :
    ∃ base, baseFor site file paths = .ok base := by
  induction paths with
  | nil => exact ⟨_, rfl⟩
  | cons p ps ih =>
    obtain ⟨⟨place, hp⟩, later⟩ := List.forall_mem_cons.mp h
    rw [baseFor, hp]
    simp only [ok_bind]
    split
    · split
      · exact ⟨_, rfl⟩
      · exact ih later
    · split
      · exact ⟨_, rfl⟩
      · exact ih later

theorem selected_iff (texts : config.TextPatterns) (base file : Path) :
    ∃ take, (selected config base file).outcome = .ok take ∧
      (take = true ↔ config.Takes (Pattern.relativeText file base)) := by
  obtain ⟨out, hout, excluded⟩ :=
    Pattern.anyMatch_iff (Pattern.relativeText file base) texts.excluded
  obtain ⟨into, hinto, included⟩ :=
    Pattern.anyMatch_iff (Pattern.relativeText file base) texts.included
  rw [selected, Pattern.matchesAny, Pattern.matchesAny, hout, Traced.bind_ofExcept_ok, Config.Takes]
  cases out with
  | true =>
    refine ⟨false, rfl, ?_⟩
    obtain ⟨s, hs, matched⟩ := excluded.mp rfl
    apply iff_of_false
    · simp
    · intro takes
      rw [takes.1 s hs] at matched
      cases matched
  | false =>
    refine ⟨into, hinto, included.trans ?_⟩
    have none_out : ∀ s, Value.str s ∈ config.excluded →
        Pattern.glob s.toList (Pattern.relativeText file base) = false := by
      intro s hs
      rw [Bool.eq_false_iff]
      intro matched
      exact absurd (excluded.mpr ⟨s, hs, matched⟩) Bool.false_ne_true
    exact (and_iff_right none_out).symm

theorem mem_keep (texts : config.TextPatterns)
    (h : ∀ p ∈ paths, ∃ place, resolve site p = .ok place) (files : List Path) :
    ∃ kept, (keep site paths config files).outcome = .ok kept ∧
      ∀ file, file ∈ kept ↔ file ∈ files ∧ ∃ base, baseFor site file paths = .ok base ∧
        config.Takes (Pattern.relativeText file base) := by
  induction files with
  | nil => exact ⟨[], rfl, by simp⟩
  | cons file files ih =>
    obtain ⟨base, hbase⟩ := baseFor_of_resolve file h
    obtain ⟨take, htake, takes⟩ := selected_iff texts base file
    obtain ⟨kept, hkept, rest⟩ := ih
    refine ⟨if take then file :: kept else kept, ?_, ?_⟩
    · rw [keep, hbase, Traced.bind_ofExcept_ok, Traced.outcome_bind_of_ok htake,
        Traced.outcome_bind_of_ok hkept]
      rfl
    · intro other
      have here : (∃ b, baseFor site file paths = .ok b ∧
          config.Takes (Pattern.relativeText file b)) ↔ take = true := by
        rw [takes]
        constructor
        · rintro ⟨b, hb, h⟩
          rw [hbase] at hb
          cases hb
          exact h
        · intro h
          exact ⟨base, hbase, h⟩
      rw [List.mem_cons, or_and_right, ← rest]
      by_cases same : other = file
      · subst same
        rw [here]
        cases take <;> simp
      · cases take <;> simp [same]

theorem resolve_cases (site : Site) (config : Config) (paths : List Path) :
    (∃ found, paths.mapM (templatesBelow site) = .ok found ∧
      ∀ p ∈ paths, ∃ place, resolve site p = .ok place) ∨
      ∃ p ∈ paths, ∃ loop, FileTree.resolve site.root site.cwd p = .error loop ∧
        (scan site paths config).outcome = .error (.linkLoop loop) := by
  rcases mapM_cases (templatesBelow site) paths with ⟨found, hfound, all⟩ | ⟨p, hp, e, he, failed⟩
  · refine .inl ⟨found, hfound, ?_⟩
    intro p hp
    obtain ⟨below, hbelow⟩ := all p hp
    cases hr : resolve site p with
    | ok place => exact ⟨place, rfl⟩
    | error failure =>
      rw [templatesBelow_of_loop hr] at hbelow
      cases hbelow
  · refine .inr ⟨p, hp, ?_⟩
    rw [scan, failed, Traced.outcome_bind_of_error (Traced.outcome_ofExcept _)]
    cases hr : FileTree.resolve site.root site.cwd p with
    | error loop =>
      rw [templatesBelow_of_loop (by rw [resolve, hr])] at he
      cases he
      exact ⟨loop, rfl, rfl⟩
    | ok place =>
      obtain ⟨below, hbelow⟩ := templatesBelow_of_resolve (p := p) (by rw [resolve, hr])
      rw [hbelow] at he
      cases he

theorem scan_cases (texts : config.TextPatterns) (site : Site) (paths : List Path) :
    (∃ files, (scan site paths config).outcome = .ok files) ∨
      ∃ p ∈ paths, ∃ loop, FileTree.resolve site.root site.cwd p = .error loop ∧
        (scan site paths config).outcome = .error (.linkLoop loop) := by
  rcases resolve_cases site config paths with ⟨found, hfound, resolved⟩ | loop
  · obtain ⟨kept, hkept, -⟩ := mem_keep texts resolved found.flatten
    rw [scan, hfound, Traced.bind_ofExcept_ok, Traced.outcome_bind_of_ok hkept]
    exact .inl ⟨_, rfl⟩
  · exact .inr loop

theorem analyses_selected (base file : Path) : (selected config base file).analyses = [] := by
  rw [selected, Traced.analyses_bind_of_silent]
  · rfl
  · intro out
    cases out <;> rfl

theorem analyses_keep (files : List Path) : (keep site paths config files).analyses = [] := by
  induction files with
  | nil => rfl
  | cons file files ih =>
    rw [keep, Traced.analyses_bind_of_silent]
    · rfl
    · intro base
      rw [Traced.analyses_bind_of_silent, analyses_selected]
      intro take
      rw [Traced.analyses_bind_of_silent fun _ => rfl, ih]

theorem analyses_scan : (scan site paths config).analyses = [] := by
  rw [scan, Traced.analyses_bind_of_silent]
  · rfl
  · intro found
    rw [Traced.analyses_bind_of_silent fun _ => rfl, analyses_keep]

end Discovery

end TemplateLint
