import TemplateLint.Proofs.Discovery.Answer
import TemplateLint.Proofs.Discovery.Base
import TemplateLint.Proofs.Path.Order

namespace TemplateLint

namespace Pattern

def seen (rel : Path) : List Char := rel.toText.toList.map fun c => if c = '\\' then '/' else c

theorem relativeText_of_relativeTo? {path base rel : Path} (h : path.relativeTo? base = some rel) :
    relativeText path base = seen rel := by
  rw [relativeText, h]
  rfl

end Pattern

namespace Discovery

theorem nodup_distinct (files : List Path) : (distinct files).Nodup := by
  rw [distinct]
  induction hn : files.length using Nat.strongRecOn generalizing files with
  | ind n ih =>
    cases files with
    | nil => simp
    | cons file files =>
      have shorter := List.length_filter_le (fun g => !g == file) files
      rw [List.length_cons] at hn
      rw [List.eraseDups_cons, List.nodup_cons]
      constructor
      · simp
      · exact ih _ (by omega) _ rfl

section

variable {site : Site} {config : Config} {paths : List Path}

theorem scan_of_found (texts : config.TextPatterns) {found : List (List Path)}
    (hfound : paths.mapM (templatesBelow site) = .ok found)
    (h : ∀ p ∈ paths, ∃ place, resolve site p = .ok place) :
    ∃ files, (scan site paths config).outcome = .ok files ∧ files.Nodup ∧
      files.Pairwise (fun f g => f.le g = true) ∧
      ∀ file, file ∈ files ↔ file ∈ found.flatten ∧ ∃ base, baseFor site file paths = .ok base ∧
        config.Takes (Pattern.relativeText file base) := by
  obtain ⟨kept, hkept, taken⟩ := mem_keep texts h found.flatten
  refine ⟨(distinct kept).mergeSort Path.le, ?_, ?_, ?_, ?_⟩
  · rw [scan, hfound, Traced.bind_ofExcept_ok, Traced.outcome_bind_of_ok hkept]
    rfl
  · exact (List.mergeSort_perm _ Path.le).nodup_iff.mpr (nodup_distinct kept)
  · exact List.pairwise_mergeSort Path.le_of_le_of_le Path.le_or_le (distinct kept)
  · intro file
    rw [List.mem_mergeSort, distinct, List.mem_eraseDups, taken]

def Takes (site : Site) (config : Config) (places : List Path) (file : Path) : Prop :=
  ∃ base rel, FirstBase site file places base ∧ file.relativeTo? base = some rel ∧
    config.Takes (Pattern.seen rel)

theorem takes_of_firstBase {places : List Path} {file base : Path}
    (first : FirstBase site file places base) :
    Takes site config places file ↔
      ∃ rel, file.relativeTo? base = some rel ∧ config.Takes (Pattern.seen rel) := by
  constructor
  · rintro ⟨other, rel, first', hrel, takes⟩
    rw [firstBase_unique first first']
    exact ⟨rel, hrel, takes⟩
  · rintro ⟨rel, hrel, takes⟩
    exact ⟨base, rel, first, hrel, takes⟩

variable (plain : site.root.Plain)

include plain

theorem base_of_collected {file : Path} (template : IsTemplate site file)
    (under : ∃ p ∈ paths, file.isUnder (resolved site p) = true) :
    ∃ base rel, FirstBase site file (paths.map (resolved site)) base ∧
      baseFor site file paths = .ok base ∧ file.relativeTo? base = some rel := by
  obtain ⟨p, hp, below⟩ := under
  have contained : ∃ place ∈ paths.map (resolved site), file.isUnder place = true :=
    ⟨_, List.mem_map_of_mem hp, below⟩
  obtain ⟨base, first⟩ := exists_firstBase template.1 contained
  obtain ⟨place, -, gives⟩ := givesBase_of_firstBase first
  exact ⟨base, _, first, baseFor_of_firstBase plain first, relativeTo?_of_givesBase gives⟩

theorem takes_iff {file : Path} (template : IsTemplate site file)
    (under : ∃ p ∈ paths, file.isUnder (resolved site p) = true) :
    Takes site config (paths.map (resolved site)) file ↔
      ∃ base, baseFor site file paths = .ok base ∧
        config.Takes (Pattern.relativeText file base) := by
  obtain ⟨base, rel, first, hbase, hrel⟩ := base_of_collected plain template under
  have text := Pattern.relativeText_of_relativeTo? hrel
  rw [takes_of_firstBase first]
  constructor
  · rintro ⟨rel', hrel', takes⟩
    rw [hrel] at hrel'
    cases hrel'
    exact ⟨base, hbase, text ▸ takes⟩
  · rintro ⟨other, hother, takes⟩
    rw [hbase] at hother
    cases hother
    exact ⟨rel, hrel, text ▸ takes⟩

theorem mem_scan (texts : config.TextPatterns) (paths : List Path) :
    ∃ files, (scan site paths config).outcome = .ok files ∧
      files.Pairwise (fun f g => f.parts < g.parts) ∧
      ∀ file, file ∈ files ↔ IsTemplate site file ∧
        (∃ p ∈ paths, file.isUnder (resolved site p) = true) ∧
        Takes site config (paths.map (resolved site)) file := by
  obtain ⟨found, hfound, collected⟩ := templatesBelow_paths plain paths
  obtain ⟨files, answer, once, sorted, taken⟩ :=
    scan_of_found texts hfound fun p _ => ⟨_, resolve_eq plain p⟩
  have members (file : Path) : file ∈ files ↔
      IsTemplate site file ∧ (∃ p ∈ paths, file.isUnder (resolved site p) = true) ∧
        Takes site config (paths.map (resolved site)) file := by
    rw [taken, collected, and_assoc]
    apply and_congr_right
    intro template
    apply and_congr_right
    intro under
    exact (takes_iff plain template under).symm
  refine ⟨files, answer, (sorted.and once).imp_of_mem ?_, members⟩
  rintro f g hf hg ⟨le, ne⟩
  obtain ⟨⟨⟨names, -, rfl, -⟩, -⟩, -⟩ := (members f).mp hf
  obtain ⟨⟨⟨others, -, rfl, -⟩, -⟩, -⟩ := (members g).mp hg
  rcases Path.le_absolute_iff.mp le with lt | rfl
  · exact lt
  · exact absurd rfl ne

end

/-- A search answers with the templates that it takes, in strictly ascending order; the base of each
is that of its first input, and the input or its directory is above it. -/
theorem scan_answers {site : Site} (plain : site.root.Plain) {config : Config}
    (texts : config.TextPatterns) (paths : List Path) :
    (∀ p ∈ paths, resolve site p = .ok (resolved site p)) ∧
    (∀ file, IsTemplate site file → (∃ p ∈ paths, file.isUnder (resolved site p) = true) →
      ∃ base rel, FirstBase site file (paths.map (resolved site)) base ∧
        baseFor site file paths = .ok base ∧ file.relativeTo? base = some rel) ∧
    ∃ files, (scan site paths config).outcome = .ok files ∧
      files.Pairwise (fun f g => f.parts < g.parts) ∧
      ∀ file, file ∈ files ↔
        IsFile site file ∧ (∃ p ∈ paths, file.isUnder (resolved site p) = true) ∧
        (file.suffix = ".mako" ∨ file.suffix = ".mak") ∧
        ∃ base rel, FirstBase site file (paths.map (resolved site)) base ∧
          file.relativeTo? base = some rel ∧
          (∀ s, Value.str s ∈ config.excluded → Pattern.glob s.toList (Pattern.seen rel) = false) ∧
          ∃ s, Value.str s ∈ config.included ∧ Pattern.glob s.toList (Pattern.seen rel) = true := by
  obtain ⟨files, found, ascending, members⟩ := mem_scan plain texts paths
  refine ⟨fun p _ => resolve_eq plain p, fun file => base_of_collected plain, files, found,
    ascending, ?_⟩
  intro file
  rw [members, IsTemplate, and_assoc, and_left_comm (a := file.suffix = ".mako" ∨ _)]
  rfl

def nestedSite : Site :=
  ⟨.directory [("a", .directory [("build", .directory [("x.mako", .file [])])]),
    ("b", .directory [("y.mak", .file [])])], []⟩

def outer : Path := .absolute ["a"]

def inner : Path := .absolute ["a", "build"]

def beside : Path := .absolute ["b"]

def built : Path := .absolute ["a", "build", "x.mako"]

theorem plain_nestedSite : nestedSite.root.Plain := by
  have build : (Entry.directory [("x.mako", .file [])]).Plain :=
    .directory (by simp) (by decide) (by simp [Entry.Plain.file])
  have a : (Entry.directory [("build", .directory [("x.mako", .file [])])]).Plain :=
    .directory (by simp) (by decide) (by simp [build])
  have b : (Entry.directory [("y.mak", .file [])]).Plain :=
    .directory (by simp) (by decide) (by simp [Entry.Plain.file])
  exact .directory (by simp) (by decide) (by simp [a, b])

theorem texts_default : ({} : Config).TextPatterns :=
  ⟨by simp [defaultIncluded], by simp [defaultExcluded]⟩

theorem template_built : IsTemplate nestedSite built := by
  refine ⟨isFile_absolute.mpr ⟨[], ?_⟩, .inl (by decide)⟩
  rfl

theorem not_isFile_inner : ¬ IsFile nestedSite inner := by
  rw [inner, isFile_absolute]
  rintro ⟨bytes, file⟩
  cases file

theorem firstBase_inner (places : List Path) :
    FirstBase nestedSite built (inner :: places) inner :=
  .here (.above not_isFile_inner (by decide)) places

theorem takes_default {path : List Char}
    (none_out : (defaultExcluded.all fun s => !Pattern.glob s.toList path) = true)
    (into : Pattern.glob "**/*.mako".toList path = true) : ({} : Config).Takes path := by
  refine ⟨?_, "**/*.mako", by simp [defaultIncluded], into⟩
  intro s hs
  have hs' : s ∈ defaultExcluded := by simpa using hs
  simpa using List.all_eq_true.mp none_out s hs'

theorem takes_inner : ({} : Config).Takes (Pattern.seen ⟨.relative, ["x.mako"]⟩) := by
  have text : Pattern.seen ⟨.relative, ["x.mako"]⟩ = "x.mako".toList := by decide
  rw [text]
  exact takes_default (by cbv) (by cbv)

theorem scan_answers_of_nested :
    nestedSite.root.Plain ∧ ({} : Config).TextPatterns ∧
      ∃ files, (scan nestedSite [inner, outer] {}).outcome = .ok files ∧
        files.Pairwise (fun f g => f.parts < g.parts) ∧ built ∈ files := by
  obtain ⟨-, -, files, found, ascending, members⟩ :=
    scan_answers plain_nestedSite texts_default [inner, outer]
  refine ⟨plain_nestedSite, texts_default, files, found, ascending, (members built).mpr ?_⟩
  have places : [inner, outer].map (resolved nestedSite) = [inner, outer] := by decide
  have under : built.isUnder (resolved nestedSite inner) = true := by decide
  refine ⟨template_built.1, ⟨inner, List.mem_cons_self, under⟩, template_built.2, inner,
    ⟨.relative, ["x.mako"]⟩, ?_, by decide, takes_inner⟩
  rw [places]
  exact firstBase_inner _

end Discovery

end TemplateLint
