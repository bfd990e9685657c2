import TemplateLint.Proofs.Discovery.Selection

/-!
What the order of the inputs means to a search in a tree without links. It decides only which of two
inputs above the same template gives the base, so that inputs which never give one template different
bases may come in any order.
-/

namespace TemplateLint.Discovery

/-- Two places that give some template different bases. -/
def Rivals (site : Site) (x y : Path) : Prop :=
  ∃ file base base', IsTemplate site file ∧ GivesBase site file x base ∧
    GivesBase site file y base' ∧ base ≠ base'

section

variable {site : Site} {file x y base : Path} {places : List Path}

theorem isUnder_of_givesBase (h : GivesBase site file x base) : file.isUnder x = true := by
  cases h with
  | itself => exact Path.isUnder_iff.mpr ⟨rfl, List.prefix_rfl⟩
  | above _ under => exact under

theorem comparable_of_rivals (h : Rivals site x y) : x.isUnder y = true ∨ y.isUnder x = true := by
  obtain ⟨file, base, base', -, gives, gives', -⟩ := h
  have hx := isUnder_of_givesBase gives
  have hy := isUnder_of_givesBase gives'
  simp only [Path.isUnder_iff] at *
  rcases List.prefix_or_prefix_of_prefix hx.2 hy.2 with below | below
  · exact .inr ⟨hy.1.symm.trans hx.1, below⟩
  · exact .inl ⟨hx.1.symm.trans hy.1, below⟩

theorem earliest_of_firstBase (h : FirstBase site file places base) :
    ∃ x ∈ places, GivesBase site file x base ∧
      ∀ y ∈ places, (∃ b, GivesBase site file y b) → places.idxOf x ≤ places.idxOf y := by
  induction h with
  | here gives => exact ⟨_, List.mem_cons_self, gives, by simp⟩
  | @later head base places none next ih =>
    obtain ⟨x, hx, gives, first⟩ := ih
    have other {y : Path} (hy : ∃ b, GivesBase site file y b) : (head == y) = false := by
      obtain ⟨b, hb⟩ := hy
      rw [beq_eq_false_iff_ne]
      rintro rfl
      exact none b hb
    refine ⟨x, List.mem_cons_of_mem _ hx, gives, ?_⟩
    intro y hy hb
    rcases List.mem_cons.mp hy with rfl | hy
    · simpa using other hb
    · rw [List.idxOf_cons, List.idxOf_cons, other ⟨base, gives⟩, other hb]
      simpa using first y hy hb

theorem firstBase_of_order {places' : List Path} {base' : Path}
    (same : ∀ z, z ∈ places ↔ z ∈ places')
    (order : ∀ x y, Rivals site x y → places.idxOf x < places.idxOf y →
      places'.idxOf x < places'.idxOf y)
    (template : IsTemplate site file) (h : FirstBase site file places base)
    (h' : FirstBase site file places' base') : base = base' := by
  obtain ⟨x, hx, gives, first⟩ := earliest_of_firstBase h
  obtain ⟨y, hy, gives', first'⟩ := earliest_of_firstBase h'
  by_contra differ
  have rivals : Rivals site x y := ⟨file, base, base', template, gives, gives', differ⟩
  have apart : x ≠ y := by
    rintro rfl
    exact differ (givesBase_unique gives gives')
  have before : places.idxOf x < places.idxOf y := by
    have le := first y ((same y).mpr hy) ⟨base', gives'⟩
    have ne : places.idxOf x ≠ places.idxOf y := mt (List.idxOf_inj hx).mp apart
    omega
  have after := first' x ((same x).mp hx) ⟨base, gives⟩
  have := order x y rivals before
  omega

theorem eq_of_ascending {files files' : List Path}
    (ascending : files.Pairwise fun f g => f.parts < g.parts)
    (ascending' : files'.Pairwise fun f g => f.parts < g.parts)
    (same : ∀ file, file ∈ files ↔ file ∈ files') : files = files' := by
  have once {fs : List Path} (h : fs.Pairwise fun f g => f.parts < g.parts) : fs.Nodup := by
    apply h.imp
    rintro f g lt rfl
    exact lt_irrefl _ lt
  apply List.Perm.eq_of_pairwise _ ascending ascending'
  · exact (List.perm_ext_iff_of_nodup (once ascending) (once ascending')).mpr same
  · intro f g _ _ lt gt
    exact absurd gt (lt_asymm lt)

end

section

variable {site : Site} (plain : site.root.Plain) {config : Config} (texts : config.TextPatterns)
  {paths paths' : List Path}

include plain texts

theorem scan_of_bases (same : paths.Perm paths')
    (bases : ∀ file base base', IsTemplate site file →
      FirstBase site file (paths.map (resolved site)) base →
      FirstBase site file (paths'.map (resolved site)) base' → base = base') :
    ∃ files, (scan site paths config).outcome = .ok files ∧
      (scan site paths' config).outcome = .ok files := by
  obtain ⟨files, found, ascending, members⟩ := mem_scan plain texts paths
  obtain ⟨files', found', ascending', members'⟩ := mem_scan plain texts paths'
  have inputs (file : Path) : (∃ p ∈ paths, file.isUnder (resolved site p) = true) ↔
      ∃ p ∈ paths', file.isUnder (resolved site p) = true := by
    simp [same.mem_iff]
  have agree (file : Path) : file ∈ files ↔ file ∈ files' := by
    rw [members, members', inputs]
    apply and_congr_right
    intro template
    apply and_congr_right
    intro under
    obtain ⟨base, rel, first, -, hrel⟩ :=
      base_of_collected plain template ((inputs file).mpr under)
    obtain ⟨base', rel', first', -, hrel'⟩ := base_of_collected plain template under
    rw [takes_of_firstBase first, takes_of_firstBase first',
      bases file base base' template first first']
  exact ⟨files, found, (eq_of_ascending ascending ascending' agree) ▸ found'⟩

theorem scan_of_apart (same : paths.Perm paths')
    (apart : ∀ p ∈ paths, ∀ q ∈ paths, resolved site p ≠ resolved site q →
      (resolved site p).isUnder (resolved site q) = false) :
    ∃ files, (scan site paths config).outcome = .ok files ∧
      (scan site paths' config).outcome = .ok files := by
  apply scan_of_bases plain texts same
  intro file base base' template first first'
  obtain ⟨x, hx, gives⟩ := givesBase_of_firstBase first
  obtain ⟨y, hy, gives'⟩ := givesBase_of_firstBase first'
  obtain ⟨p, hp, rfl⟩ := List.mem_map.mp hx
  obtain ⟨q, hq, rfl⟩ := List.mem_map.mp hy
  have hq' := same.mem_iff.mpr hq
  by_contra differ
  have distinct : resolved site p ≠ resolved site q := by
    intro one
    rw [one] at gives
    exact differ (givesBase_unique gives gives')
  rcases comparable_of_rivals ⟨file, base, base', template, gives, gives', differ⟩ with below | below
  · rw [apart p hp q hq' distinct] at below
    cases below
  · rw [apart q hq' p hp distinct.symm] at below
    cases below

end

/-- A search has the same answer for every order of its inputs in which rivals are first mentioned
in the same order. -/
theorem scan_perm {site : Site} (plain : site.root.Plain) {config : Config}
    (texts : config.TextPatterns) {paths paths' : List Path} (same : paths.Perm paths')
    (order : ∀ x y, Rivals site x y →
      (paths.map (resolved site)).idxOf x < (paths.map (resolved site)).idxOf y →
      (paths'.map (resolved site)).idxOf x < (paths'.map (resolved site)).idxOf y) :
    ∃ files, (scan site paths config).outcome = .ok files ∧
      (scan site paths' config).outcome = .ok files := by
  apply scan_of_bases plain texts same
  intro file base base' template first first'
  have places (z : Path) : z ∈ paths.map (resolved site) ↔ z ∈ paths'.map (resolved site) :=
    (same.map _).mem_iff
  exact firstBase_of_order places order template first first'

theorem scan_perm_of_nested :
    nestedSite.root.Plain ∧ ({} : Config).TextPatterns ∧
      [outer, inner, beside].Perm [beside, outer, inner] ∧
      ∃ files, (scan nestedSite [outer, inner, beside] {}).outcome = .ok files ∧
        (scan nestedSite [beside, outer, inner] {}).outcome = .ok files := by
  have same : [outer, inner, beside].Perm [beside, outer, inner] := by decide
  have places : [outer, inner, beside].map (resolved nestedSite) = [outer, inner, beside] := by
    decide
  have places' : [beside, outer, inner].map (resolved nestedSite) = [beside, outer, inner] := by
    decide
  refine ⟨plain_nestedSite, texts_default, same, scan_perm plain_nestedSite texts_default same ?_⟩
  rw [places, places']
  intro x y rivals before
  have hx : x ∈ [outer, inner, beside] :=
    List.idxOf_lt_length_iff.mp (lt_of_lt_of_le before List.idxOf_le_length)
  by_cases hy : y ∈ [beside, outer, inner]
  · have kept : ∀ x ∈ [outer, inner, beside], ∀ y ∈ [beside, outer, inner],
        (x.isUnder y = true ∨ y.isUnder x = true) →
        [outer, inner, beside].idxOf x < [outer, inner, beside].idxOf y →
        [beside, outer, inner].idxOf x < [beside, outer, inner].idxOf y := by decide
    exact kept x hx y hy (comparable_of_rivals rivals) before
  · rw [List.idxOf_eq_length hy]
    exact List.idxOf_lt_length_iff.mpr (same.mem_iff.mp hx)

theorem firstBase_outer (places : List Path) :
    FirstBase nestedSite built (outer :: places) outer := by
  refine .here (.above ?_ (by decide)) places
  rw [outer, isFile_absolute]
  rintro ⟨bytes, file⟩
  cases file

theorem scan_depends_on_order :
    nestedSite.root.Plain ∧ ({} : Config).TextPatterns ∧ [outer, inner].Perm [inner, outer] ∧
      ∃ files files', (scan nestedSite [outer, inner] {}).outcome = .ok files ∧
        (scan nestedSite [inner, outer] {}).outcome = .ok files' ∧ built ∉ files ∧
        built ∈ files' := by
  obtain ⟨files, found, -, members⟩ := mem_scan plain_nestedSite texts_default [outer, inner]
  obtain ⟨files', found', -, members'⟩ := mem_scan plain_nestedSite texts_default [inner, outer]
  refine ⟨plain_nestedSite, texts_default, by decide, files, files', found, found', ?_, ?_⟩
  · rw [members]
    rintro ⟨-, -, takes⟩
    rw [show [outer, inner].map (resolved nestedSite) = [outer, inner] by decide,
      takes_of_firstBase (firstBase_outer _)] at takes
    obtain ⟨rel, hrel, none_out, -⟩ := takes
    cases hrel
    have left_out := none_out "build/**" (by simp [defaultExcluded])
    revert left_out
    decide
  · rw [members', show [inner, outer].map (resolved nestedSite) = [inner, outer] by decide,
      takes_of_firstBase (firstBase_inner _)]
    exact ⟨template_built, ⟨inner, List.mem_cons_self, by decide⟩, _, rfl, takes_inner⟩

end TemplateLint.Discovery
