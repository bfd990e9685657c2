import TemplateLint.Proofs.Discovery.Selection

/-!
What a search finds in a tree with links. It goes through them, and lists each way by which a
template is reached: a file that is reached in several ways is listed under several paths, and of two
such paths one passes a link.
-/

namespace TemplateLint

namespace Discovery

open FileTree

def Reached (site : Site) (paths : List Path) (file : Path) : Prop :=
  ∃ p ∈ paths, ∃ top more, resolve site p = .ok (.absolute top) ∧
    file = .absolute (top ++ more) ∧ ∀ name ∈ more, ProperName name

structure Listed (site : Site) (config : Config) (paths : List Path) (file : Path) : Prop where
  reached : Reached site paths file
  regular : isFile site.root [] file = true
  template : file.suffix = ".mako" ∨ file.suffix = ".mak"
  taken : ∃ base, baseFor site file paths = .ok base ∧
    config.Takes (Pattern.relativeText file base)

def LinkBelow (site : Site) (top : List String) (file : Path) : Prop :=
  ∃ front target, top <+: front ∧ front ≠ top ∧ front <+: file.parts ∧
    site.root.at? front = some (.link target)

section

variable {site : Site} {config : Config} {paths : List Path} {names top : List String}

theorem resolve_absolute {p place : Path} (h : resolve site p = .ok place) :
    ∃ top, place = .absolute top ∧ FileTree.resolve site.root site.cwd p = .ok top := by
  rw [resolve] at h
  split at h
  · next top led =>
    cases h
    exact ⟨top, rfl, led⟩
  · cases h

theorem proper_of_resolve {p : Path} (h : resolve site p = .ok (.absolute top)) :
    ∀ name ∈ top, ProperName name := by
  obtain ⟨place, same, led⟩ := resolve_absolute h
  cases same
  rw [FileTree.resolve] at led
  split at led
  · cases led
  · cases led
    exact proper_normalized _

theorem proper_of_reached {file : Path} (h : Reached site paths file) :
    ∃ names, file = .absolute names ∧ ∀ name ∈ names, ProperName name := by
  obtain ⟨p, -, top, more, resolves, rfl, proper⟩ := h
  exact ⟨top ++ more, rfl, List.forall_mem_append.mpr ⟨proper_of_resolve resolves, proper⟩⟩

theorem linkBelow_of_not_straight (straight : site.root.Straight top) (under : top <+: names)
    (proper : ∀ name ∈ names, ProperName name) (h : ¬ site.root.Straight names) :
    LinkBelow site top (.absolute names) := by
  by_contra none_below
  refine h ⟨proper, ?_⟩
  intro front before target linked
  rcases List.prefix_or_prefix_of_prefix before under with above | below
  · exact straight.unlinked front above target linked
  · by_cases same : front = top
    · exact straight.unlinked front (same ▸ List.prefix_refl front) target linked
    · exact none_below ⟨front, target, below, same, before, linked⟩

variable (rooted : site.root.Rooted)

include rooted

theorem resolve_of_leads (h : Leads site.root linkLimit [] names) :
    ∃ place bytes, resolve site (.absolute names) = .ok (.absolute place) ∧
      site.root.at? place = some (.file bytes) ∧ site.root.Straight place ∧
      (site.root.Straight names → place = names) := by
  obtain ⟨place, left, bytes, led, file⟩ := h
  have from_root : namesFrom site.cwd (.absolute names) = names := rfl
  obtain ⟨resolves, straight⟩ := resolve_of_follow rooted (from_root ▸ led)
  refine ⟨place, bytes, by rw [resolve, resolves], file, straight, ?_⟩
  intro direct
  rw [← List.nil_append names] at direct
  rcases follow_of_straight linkLimit direct with found | missing | outside
  · rw [led] at found
    cases found
    rfl
  · rw [led] at missing
    cases missing
  · rw [led] at outside
    cases outside

theorem templatesBelow_reached (h : ∀ p ∈ paths, ∃ place, resolve site p = .ok place) :
    ∃ found, paths.mapM (templatesBelow site) = .ok found ∧
      ∀ file, file ∈ found.flatten ↔ Reached site paths file ∧ isFile site.root [] file = true ∧
        (file.suffix = ".mako" ∨ file.suffix = ".mak") := by
  have each : ∀ p ∈ paths, ∃ found, templatesBelow site p = .ok found ∧ ∀ file, file ∈ found ↔
      ∃ top more, resolve site p = .ok (.absolute top) ∧ file = .absolute (top ++ more) ∧
        (∀ name ∈ more, ProperName name) ∧ isFile site.root [] file = true ∧
        (file.suffix = ".mako" ∨ file.suffix = ".mak") := by
    intro p hp
    obtain ⟨place, resolves⟩ := h p hp
    obtain ⟨top, rfl, -⟩ := resolve_absolute resolves
    obtain ⟨found, hfound, members⟩ := mem_templatesBelow rooted resolves
    refine ⟨found, hfound, ?_⟩
    intro file
    rw [members]
    constructor
    · rintro ⟨more, way⟩
      exact ⟨top, more, resolves, way⟩
    · rintro ⟨other, more, again, way⟩
      cases resolves.symm.trans again
      exact ⟨more, way⟩
  obtain ⟨found, hfound, members⟩ := mapM_flatten_of_each paths each
  refine ⟨found, hfound, ?_⟩
  intro file
  rw [members]
  constructor
  · rintro ⟨p, hp, top, more, resolves, whole, proper, template⟩
    exact ⟨⟨p, hp, top, more, resolves, whole, proper⟩, template⟩
  · rintro ⟨⟨p, hp, top, more, resolves, whole, proper⟩, template⟩
    exact ⟨p, hp, top, more, resolves, whole, proper, template⟩

theorem mem_scan_linked (texts : config.TextPatterns)
    (h : ∀ p ∈ paths, ∃ place, resolve site p = .ok place) :
    ∃ files, (scan site paths config).outcome = .ok files ∧ files.Nodup ∧
      ∀ file, file ∈ files ↔ Listed site config paths file := by
  obtain ⟨found, hfound, below⟩ := templatesBelow_reached rooted h
  obtain ⟨files, answer, once, -, taken⟩ := scan_of_found texts hfound h
  refine ⟨files, answer, once, ?_⟩
  intro file
  rw [taken, below]
  constructor
  · rintro ⟨⟨reached, regular, template⟩, taken⟩
    exact ⟨reached, regular, template, taken⟩
  · rintro ⟨reached, regular, template, taken⟩
    exact ⟨⟨reached, regular, template⟩, taken⟩

theorem linkBelow_of_same {f g : Path} (hf : Listed site config paths f)
    (hg : Listed site config paths g) (ne : f ≠ g) (same : resolve site f = resolve site g) :
    ∃ h, (h = f ∨ h = g) ∧ ∀ top, site.root.Straight top → top <+: h.parts →
      LinkBelow site top h := by
  obtain ⟨names, rfl, proper⟩ := proper_of_reached hf.reached
  obtain ⟨others, rfl, proper'⟩ := proper_of_reached hg.reached
  obtain ⟨place, -, first, -, -, itself⟩ := resolve_of_leads rooted (isFile_iff_leads.mp hf.regular)
  obtain ⟨there, -, second, -, -, itself'⟩ :=
    resolve_of_leads rooted (isFile_iff_leads.mp hg.regular)
  by_cases straight : site.root.Straight names
  · by_cases straight' : site.root.Straight others
    · rw [first, second, itself straight, itself' straight'] at same
      cases same
      exact absurd rfl ne
    · refine ⟨_, .inr rfl, ?_⟩
      exact fun top htop under => linkBelow_of_not_straight htop under proper' straight'
  · refine ⟨_, .inl rfl, ?_⟩
    exact fun top htop under => linkBelow_of_not_straight htop under proper straight

end

/-- A search lists each way to a template that it takes. Two ways to one file are listed only if one
of them passes a link, and passes it below each input to which no loop of links leads. -/
theorem scan_lists_ways {site : Site} (rooted : site.root.Rooted) {config : Config}
    (texts : config.TextPatterns) (paths : List Path) :
    (∃ p ∈ paths, ∃ loop, FileTree.resolve site.root site.cwd p = .error loop ∧
        (scan site paths config).outcome = .error (.linkLoop loop)) ∨
      ∃ files, (scan site paths config).outcome = .ok files ∧ files.Nodup ∧
        (∀ file, file ∈ files ↔ Listed site config paths file) ∧
        (∀ file ∈ files, ∃ place bytes, resolve site file = .ok (.absolute place) ∧
          site.root.at? place = some (.file bytes) ∧ site.root.Straight place) ∧
        ∀ f ∈ files, ∀ g ∈ files, f ≠ g → resolve site f = resolve site g →
          ∃ h, (h = f ∨ h = g) ∧ LinkBelow site [] h ∧
            ∀ p ∈ paths, ∀ top, Loopless site.root site.cwd p →
              resolve site p = .ok (.absolute top) → h.isUnder (.absolute top) = true →
                LinkBelow site top h := by
  rcases resolve_cases site config paths with ⟨-, -, resolves⟩ | loop
  · obtain ⟨files, answer, once, members⟩ := mem_scan_linked rooted texts resolves
    refine .inr ⟨files, answer, once, members, ?_, ?_⟩
    · intro file hfile
      have listed := (members file).mp hfile
      obtain ⟨names, rfl, -⟩ := proper_of_reached listed.reached
      obtain ⟨place, bytes, resolved, stands, straight, -⟩ :=
        resolve_of_leads rooted (isFile_iff_leads.mp listed.regular)
      exact ⟨place, bytes, resolved, stands, straight⟩
    · intro f hf g hg ne same
      obtain ⟨h, which, below⟩ :=
        linkBelow_of_same rooted ((members f).mp hf) ((members g).mp hg) ne same
      refine ⟨h, which, below [] (Entry.straight_nil rooted) List.nil_prefix, ?_⟩
      intro p hp top loopless resolved under
      obtain ⟨place, here, led⟩ := resolve_absolute resolved
      cases here
      exact below top (straight_of_resolve rooted loopless led) (Path.isUnder_iff.mp under).2
  · exact .inl loop

-- A template, and a link to the directory that holds both.
def cyclicSite : Site := ⟨.directory [("page.mako", .file []), ("loop", .link ".")], []⟩

def aliasedSite : Site :=
  ⟨.directory [("page.mako", .file []), ("same.mako", .link "page.mako")], []⟩

theorem rooted_cyclicSite : cyclicSite.root.Rooted :=
  ⟨Entry.directory_ne_link _, .directory (by simp) (by decide)
    (by simp [Entry.Named.file, Entry.Named.link])⟩

theorem rooted_aliasedSite : aliasedSite.root.Rooted :=
  ⟨Entry.directory_ne_link _, .directory (by simp) (by decide)
    (by simp [Entry.Named.file, Entry.Named.link])⟩

theorem targetNames_dot : targetNames "." = ["."] := by decide +kernel

theorem targetNames_page : targetNames "page.mako" = ["page.mako"] := by decide +kernel

theorem isFile_page_cyclicSite : isFile cyclicSite.root [] (.absolute ["page.mako"]) = true := by
  simp [isFile, entry?, follow, cyclicSite, linkLimit]

theorem isFile_loop_cyclicSite :
    isFile cyclicSite.root [] (.absolute ["loop", "page.mako"]) = true := by
  simp [isFile, entry?, follow, cyclicSite, List.lookup_cons, linkLimit, isAbsolute, targetNames_dot]

theorem isFile_page_aliasedSite : isFile aliasedSite.root [] (.absolute ["page.mako"]) = true := by
  simp [isFile, entry?, follow, aliasedSite, linkLimit]

theorem isFile_same_aliasedSite : isFile aliasedSite.root [] (.absolute ["same.mako"]) = true := by
  simp [isFile, entry?, follow, aliasedSite, List.lookup_cons, linkLimit, isAbsolute, targetNames_page]

theorem resolve_page_aliasedSite :
    resolve aliasedSite (.absolute ["page.mako"]) = .ok (.absolute ["page.mako"]) := by
  simp [resolve, FileTree.resolve, resolveFrom, normalized, follow, aliasedSite, linkLimit]

theorem resolve_same_aliasedSite :
    resolve aliasedSite (.absolute ["same.mako"]) = .ok (.absolute ["page.mako"]) := by
  simp [resolve, FileTree.resolve, resolveFrom, normalized, follow, aliasedSite, List.lookup_cons,
    linkLimit, isAbsolute, targetNames_page, Entry.linkCount, Entry.linkCounts]

theorem listed_from_top {site : Site} (h : resolve site (.absolute []) = .ok (.absolute []))
    {names : List String} (proper : ∀ name ∈ names, ProperName name)
    (regular : isFile site.root [] (.absolute names) = true)
    (template : (Path.absolute names).suffix = ".mako")
    (base : baseFor site (.absolute names) [.absolute []] = .ok (.absolute []))
    (takes : ({} : Config).Takes (Pattern.relativeText (.absolute names) (.absolute []))) :
    Listed site {} [.absolute []] (.absolute names) :=
  ⟨⟨.absolute [], List.mem_singleton_self _, [], names, h, rfl, proper⟩, regular, .inl template,
    .absolute [], base, takes⟩

theorem scan_lists_ways_of_cycle :
    cyclicSite.root.Rooted ∧ ({} : Config).TextPatterns ∧
      ∃ files, (scan cyclicSite [.absolute []] {}).outcome = .ok files ∧
        .absolute ["page.mako"] ∈ files ∧ .absolute ["loop", "page.mako"] ∈ files := by
  refine ⟨rooted_cyclicSite, texts_default, ?_⟩
  rcases scan_lists_ways rooted_cyclicSite texts_default [.absolute []] with
    ⟨p, hp, loop, looped, -⟩ | ⟨files, answer, -, members, -⟩
  · obtain ⟨top, -, led⟩ := resolve_absolute (resolve_top cyclicSite)
    rw [List.mem_singleton.mp hp, led] at looped
    cases looped
  · refine ⟨files, answer, (members _).mpr ?_, (members _).mpr ?_⟩
    · exact listed_from_top (resolve_top _) (by decide) isFile_page_cyclicSite
        (by decide) (by cbv) (takes_default (by cbv) (by cbv))
    · exact listed_from_top (resolve_top _) (by decide) isFile_loop_cyclicSite
        (by decide) (by cbv) (takes_default (by cbv) (by cbv))

theorem file_under_two_paths :
    ∃ files, (scan aliasedSite [.absolute []] {}).outcome = .ok files ∧
      .absolute ["page.mako"] ∈ files ∧ .absolute ["same.mako"] ∈ files ∧
      resolve aliasedSite (.absolute ["page.mako"]) = .ok (.absolute ["page.mako"]) ∧
      resolve aliasedSite (.absolute ["same.mako"]) = .ok (.absolute ["page.mako"]) := by
  have resolves : ∀ p ∈ [Path.absolute []], ∃ place, resolve aliasedSite p = .ok place := by
    rw [List.forall_mem_singleton]
    exact ⟨_, resolve_top _⟩
  obtain ⟨files, answer, -, members⟩ := mem_scan_linked rooted_aliasedSite texts_default resolves
  refine ⟨files, answer, (members _).mpr ?_, (members _).mpr ?_, resolve_page_aliasedSite,
    resolve_same_aliasedSite⟩
  · exact listed_from_top (resolve_top _) (by decide) isFile_page_aliasedSite
      (by decide) (by cbv) (takes_default (by cbv) (by cbv))
  · exact listed_from_top (resolve_top _) (by decide) isFile_same_aliasedSite
      (by decide) (by cbv) (takes_default (by cbv) (by cbv))

end Discovery

end TemplateLint
