import TemplateLint.Proofs.Discovery.Ways

namespace TemplateLint.Discovery

def resolved (site : Site) (p : Path) : Path :=
  .absolute (FileTree.normalized (FileTree.namesFrom site.cwd p))

def IsFile (site : Site) (p : Path) : Prop :=
  ∃ names bytes, p = .absolute names ∧ site.root.at? names = some (.file bytes)

def IsTemplate (site : Site) (file : Path) : Prop :=
  IsFile site file ∧ (file.suffix = ".mako" ∨ file.suffix = ".mak")

theorem isFile_absolute {site : Site} {names : List String} :
    IsFile site (.absolute names) ↔ ∃ bytes, site.root.at? names = some (.file bytes) := by
  constructor
  · rintro ⟨names, bytes, same, file⟩
    cases same
    exact ⟨bytes, file⟩
  · rintro ⟨bytes, file⟩
    exact ⟨names, bytes, rfl, file⟩

theorem isUnder_absolute {names place : List String} :
    (Path.absolute names).isUnder (.absolute place) = true ↔ place <+: names := by
  simp [Path.isUnder_iff]

section

variable {site : Site} (plain : site.root.Plain)

include plain

theorem resolve_eq (p : Path) : resolve site p = .ok (resolved site p) := by
  rw [resolve, FileTree.resolve_plain plain]
  rfl

theorem isFile_resolved (p : Path) :
    FileTree.isFile site.root [] (resolved site p) = true ↔ IsFile site (resolved site p) := by
  rw [resolved, FileTree.isFile_absolute plain (FileTree.proper_normalized _), isFile_absolute]

theorem templatesBelow_plain (p : Path) :
    ∃ found, templatesBelow site p = .ok found ∧
      ∀ file, file ∈ found ↔ IsTemplate site file ∧ file.isUnder (resolved site p) = true := by
  obtain ⟨found, hfound, members⟩ := mem_templatesBelow plain.rooted (resolve_eq plain p)
  have top := FileTree.proper_normalized (FileTree.namesFrom site.cwd p)
  refine ⟨found, hfound, ?_⟩
  intro file
  rw [members]
  constructor
  · rintro ⟨more, rfl, proper, regular, template⟩
    rw [FileTree.isFile_absolute plain (List.forall_mem_append.mpr ⟨top, proper⟩)] at regular
    exact ⟨⟨isFile_absolute.mpr regular, template⟩, isUnder_absolute.mpr ⟨more, rfl⟩⟩
  · rintro ⟨⟨⟨names, bytes, rfl, regular⟩, template⟩, under⟩
    obtain ⟨more, rfl⟩ := isUnder_absolute.mp under
    have proper := Entry.proper_of_at? plain.named regular
    refine ⟨more, rfl, (List.forall_mem_append.mp proper).2, ?_, template⟩
    exact (FileTree.isFile_absolute plain proper).mpr ⟨bytes, regular⟩

theorem templatesBelow_paths (paths : List Path) :
    ∃ found, paths.mapM (templatesBelow site) = .ok found ∧
      ∀ file, file ∈ found.flatten ↔
        IsTemplate site file ∧ ∃ p ∈ paths, file.isUnder (resolved site p) = true := by
  obtain ⟨found, hfound, members⟩ :=
    mapM_flatten_of_each paths fun p _ => templatesBelow_plain plain p
  refine ⟨found, hfound, ?_⟩
  intro file
  rw [members]
  constructor
  · rintro ⟨p, hp, template, under⟩
    exact ⟨template, p, hp, under⟩
  · rintro ⟨template, p, hp, under⟩
    exact ⟨p, hp, template, under⟩

end

end TemplateLint.Discovery
