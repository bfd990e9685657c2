import TemplateLint.Proofs.Discovery.Answer
import TemplateLint.Proofs.Run.Files

/-!
The account of a whole run: what it collects from each file, what it hands to the analyzer, and when
it fails.
-/

namespace TemplateLint.Run

open Discovery

/-- What a run over these files amounts to when every call is answered. -/
structure Accounts (reader : Template.Reader) (site : Site) (invoke : Linter.Invoker)
    (config : Config) (files : List Path) (run : Traced Result) (r : Result) : Prop where
  diagnostics : ∃ share : Path → Diagnostics, r.diagnostics = files.flatMap share ∧
    ∀ file ∈ files,
      (∀ text, Reads site file text →
        (lintSource reader invoke config text (some file)).outcome = .ok (share file)) ∧
      (Rejected reader site file → ∃ d, share file = [d] ∧ d.file = some file ∧ d.linter = "Syntax" ∧
        d.code = "syntax-error" ∧ d.severity = .error)
  calls : run.analyses = (files.filterMap (call? reader site config)).flatMap (entries invoke)
  call_of_rejected : ∀ file ∈ files, Rejected reader site file → call? reader site config file = none
  call_of_parsed : ∀ file ∈ files, ∀ text e, Reads site file text →
    (Template.ofSource reader text (some file)).extract = .ok e →
    call? reader site config file =
      if config.linter.enabled && !Text.allBlank e.text.toList then
        some (e.text, file.toText ++ ".py")
      else none
  disabled : config.linter.enabled = false → run.analyses = []
  filesChecked : r.filesChecked = files.length
  exitCode : r.exitCode = 0 ∨ r.exitCode = 1
  fails_iff : r.exitCode = 1 ↔ (∃ file ∈ files, Rejected reader site file) ∨
    ∃ c ∈ files.filterMap (call? reader site config), ∃ offenses, (invoke c.1 c.2).outcome = .ok offenses ∧
      ∃ o ∈ offenses, o.Fails config.linter.ignored

section

variable {reader : Template.Reader} {site : Site} {invoke : Linter.Invoker} {config : Config}
  {paths files : List Path}

theorem lintPaths_of_scan (reader : Template.Reader) (invoke : Linter.Invoker)
    (h : (scan site paths config).outcome = .ok files) :
    (lintPaths reader site invoke config paths).outcome =
        (lintFiles reader site invoke config files).outcome.map (fun ds => ⟨ds, files.length⟩) ∧
      (lintPaths reader site invoke config paths).analyses =
        (lintFiles reader site invoke config files).analyses := by
  rw [lintPaths, Traced.outcome_bind_of_ok h, Traced.analyses_bind_of_ok h, analyses_scan,
    Traced.outcome_log_bind, Traced.analyses_log_bind, List.nil_append]
  exact ⟨Traced.outcome_bind_of_answers fun _ => rfl, Traced.analyses_bind_of_silent fun _ => rfl⟩

theorem lintPaths_of_error {failure : Failure}
    (h : (scan site paths config).outcome = .error failure) :
    (lintPaths reader site invoke config paths).outcome = .error failure ∧
      (lintPaths reader site invoke config paths).analyses = [] := by
  rw [lintPaths, Traced.outcome_bind_of_error h, Traced.analyses_bind_of_error h, analyses_scan]
  exact ⟨rfl, rfl⟩

theorem call?_of_disabled (h : config.linter.enabled = false) (file : Path) :
    call? reader site config file = none := by
  rw [call?, Template.handed]
  split
  · simp [h]
  · rfl

theorem call?_of_parsed {file : Path} {text : String} {e : Extracted} (h : Reads site file text)
    (he : (Template.ofSource reader text (some file)).extract = .ok e) :
    call? reader site config file =
      if config.linter.enabled && !Text.allBlank e.text.toList then
        some (e.text, file.toText ++ ".py")
      else none := by
  rw [call?, Template.handed, ofFile_of_reads h, he]
  rfl

theorem share_of_rejected {file : Path} (h : Rejected reader site file) :
    ∃ d, share reader site invoke config file = [d] ∧ d.file = some file ∧ d.linter = "Syntax" ∧
      d.code = "syntax-error" ∧ d.severity = .error := by
  obtain ⟨r, hr⟩ := content_of_rejected h
  obtain ⟨d, hd, told⟩ := rejection?_of_error hr
  refine ⟨d, ?_, by rw [told.1, file_ofFile], told.2⟩
  rw [share_of_ok (lintTemplate_of_none invoke (call?_of_rejected h)).1, hd]
  rfl

theorem exitCode_eq_one_iff (r : Result) :
    r.exitCode = 1 ↔ ∃ d ∈ r.diagnostics, d.severity = .error := by
  simp [Result.exitCode, Diagnostics.hasErrors]

theorem exists_error_shares :
    (∃ d ∈ files.flatMap (share reader site invoke config), d.severity = .error) ↔
      (∃ file ∈ files, Rejected reader site file) ∨
        ∃ c ∈ files.filterMap (call? reader site config), ∃ offenses,
          (invoke c.1 c.2).outcome = .ok offenses ∧ ∃ o ∈ offenses, o.Fails config.linter.ignored := by
  simp only [List.mem_flatMap, List.mem_filterMap]
  constructor
  · rintro ⟨d, ⟨file, hfile, hd⟩, grave⟩
    rcases exists_error_share.mp ⟨d, hd, grave⟩ with rejected | ⟨c, hc, told⟩
    · exact .inl ⟨file, hfile, rejected⟩
    · exact .inr ⟨c, ⟨file, hfile, hc⟩, told⟩
  · rintro (⟨file, hfile, rejected⟩ | ⟨c, ⟨file, hfile, hc⟩, told⟩)
    · obtain ⟨d, hd, grave⟩ := exists_error_share.mpr (.inl rejected)
      exact ⟨d, ⟨file, hfile, hd⟩, grave⟩
    · obtain ⟨d, hd, grave⟩ := exists_error_share.mpr (.inr ⟨c, hc, told⟩)
      exact ⟨d, ⟨file, hfile, hd⟩, grave⟩

theorem accounts_of_answered (h : (scan site paths config).outcome = .ok files)
    (answered : ∀ c ∈ files.filterMap (call? reader site config), Answered invoke c) :
    ∃ r, (lintPaths reader site invoke config paths).outcome = .ok r ∧
      Accounts reader site invoke config files (lintPaths reader site invoke config paths) r := by
  obtain ⟨outcome, analyses⟩ := lintPaths_of_scan reader invoke h
  obtain ⟨found, journal⟩ := lintFiles_of_answered answered
  rw [found] at outcome
  rw [journal] at analyses
  refine ⟨_, outcome, ⟨share reader site invoke config, rfl, ?_⟩, analyses,
    fun file _ => call?_of_rejected, fun file _ text e => call?_of_parsed, ?_, rfl, ?_, ?_⟩
  · intro file hfile
    refine ⟨?_, share_of_rejected⟩
    intro text reads
    have here := List.forall_mem_filterMap.mp answered file hfile
    rw [lintSource, ← ofFile_of_reads reads]
    exact (lintTemplate_of_answered here).1
  · intro disabled
    have no_calls : files.filterMap (call? reader site config) = [] :=
      List.filterMap_eq_nil_iff.mpr fun file _ => call?_of_disabled disabled file
    rw [analyses, no_calls]
    rfl
  · rw [Result.exitCode]
    split
    · exact .inr rfl
    · exact .inl rfl
  · rw [exitCode_eq_one_iff]
    exact exists_error_shares

end

def latin : Path := .absolute ["latin.mako"]

def page : Path := .absolute ["page.mako"]

def latinSite : Site :=
  ⟨.directory [("latin.mako", .file [0xe9]), ("page.mako", .file [0x24, 0x7b, 0x78, 0x7d])], []⟩

def allFiles : Config := { included := [.str "*"], excluded := [] }

def expressionReader : Template.Reader := fun source _ =>
  if source = "$\x7bx\x7d" then .ok [.expression "x" ⟨1, 1⟩] else .ok []

def silent : Linter.Invoker := fun _ _ => return []

theorem allFiles_texts : allFiles.TextPatterns :=
  ⟨by simp [allFiles], by simp [allFiles]⟩

theorem selected_allFiles (base file : Path) :
    (selected allFiles base file).outcome = .ok true := by
  rw [selected, show Pattern.matchesAny file base allFiles.excluded = .ok false from rfl,
    Traced.bind_ofExcept_ok]
  simp [allFiles, Pattern.matchesAny, Pattern.anyMatch, Pattern.matchValue, Pattern.glob_star]

theorem templatesBelow_latinSite : templatesBelow latinSite (.absolute []) = .ok [latin, page] := by
  have templates (links : Nat) : collect latinSite.root links [] [] latinSite.root =
      [["latin.mako"], ["page.mako"]] := by
    have first : isTemplateName ["latin.mako"] = true := by decide
    have second : isTemplateName ["page.mako"] = true := by decide
    simp [latinSite, collect, collectAll, first, second]
  rw [templatesBelow, resolve_top]
  simp only [ok_bind, Path.parts_absolute, FileTree.follow_nil, Entry.at?_nil, templates]
  rfl

theorem scan_latinSite :
    (scan latinSite [.absolute []] allFiles).outcome = .ok [latin, page] := by
  have resolved : ∀ p ∈ [Path.absolute []], ∃ place, resolve latinSite p = .ok place := by
    simp
  have kept : (keep latinSite [.absolute []] allFiles [latin, page]).outcome =
      .ok [latin, page] := by
    obtain ⟨base, hlatin⟩ := baseFor_of_resolve latin resolved
    obtain ⟨base', hpage⟩ := baseFor_of_resolve page resolved
    simp [keep, hlatin, hpage, Traced.outcome_bind_of_ok, selected_allFiles]
  have sorted : (distinct [latin, page]).mergeSort Path.le = [latin, page] := by
    have ordered : Path.le latin page = true := by decide
    rw [show distinct [latin, page] = [latin, page] by decide]
    simp [List.mergeSort, List.MergeSort.Internal.splitInTwo, ordered]
  have found : [Path.absolute []].mapM (templatesBelow latinSite) = .ok [[latin, page]] := by
    rw [List.mapM_cons, templatesBelow_latinSite]
    rfl
  rw [scan, found, Traced.bind_ofExcept_ok, show [[latin, page]].flatten = [latin, page] from rfl,
    Traced.outcome_bind_of_ok kept, Traced.outcome_pure, sorted]

theorem rejected_latin : Rejected expressionReader latinSite latin := by
  have bytes : FileTree.bytes latinSite.root latinSite.cwd latin = .ok [0xe9] := by
    simp [FileTree.bytes, FileTree.entry?, FileTree.follow, latin, latinSite]
  have fault : Text.decodeUtf8 [0xe9] = .error ⟨0, 1, 0xe9, .ended⟩ := by
    rw [Text.decodeUtf8, Text.decodeAt]
    rfl
  exact .undecodable bytes fault

end TemplateLint.Run
