import TemplateLint.Proofs.Linter.Check
import TemplateLint.Run

namespace TemplateLint

open Discovery

def Template.handed (config : Config) (t : Template) : Option (String × String) :=
  match t.extract with
  | .ok e =>
    if config.linter.enabled && !Text.allBlank e.text.toList then
      some (e.text, Linter.fragmentName t.file)
    else none
  | .error _ => none

def Offense.Fails (ignored : List String) (o : Offense) : Prop :=
  (o.category = "error" ∨ o.category = "fatal") ∧ o.check ∉ ignored

theorem isEnabled_linterName (config : Config) :
    config.isEnabled linterName = config.linter.enabled := by
  simp [Config.isEnabled]

theorem rejection?_of_error {t : Template} {r : Rejection} (h : t.content = .error r) :
    ∃ d, t.rejection? = some d ∧ d.file = t.file ∧ d.linter = "Syntax" ∧ d.code = "syntax-error" ∧
      d.severity = .error := by
  rw [Template.rejection?, h]
  exact ⟨_, rfl, rfl, rfl, rfl, rfl⟩

theorem rejection?_of_ok {t : Template} {nodes : List Node} (h : t.content = .ok nodes) :
    t.rejection? = none := by
  rw [Template.rejection?, h]

theorem handed_of_ok (config : Config) {t : Template} {nodes : List Node}
    (h : t.content = .ok nodes) :
    t.handed config =
      if config.linter.enabled &&
          !Text.allBlank (Extracted.ofNodes t.lines nodes).text.toList then
        some ((Extracted.ofNodes t.lines nodes).text, Linter.fragmentName t.file)
      else none := by
  rw [Template.handed, Template.extract, h]

theorem handed_of_error (config : Config) {t : Template} {r : Rejection}
    (h : t.content = .error r) :
    t.handed config = none := by
  rw [Template.handed, Template.extract, h]

namespace Run

variable (invoke : Linter.Invoker) {config : Config} {t : Template}

theorem lintTemplate_of_ok {nodes : List Node} (h : t.content = .ok nodes)
    (enabled : config.linter.enabled = true) :
    (lintTemplate invoke config t).outcome = (Linter.check invoke config.linter.ignored t).outcome ∧
      (lintTemplate invoke config t).analyses =
        (Linter.check invoke config.linter.ignored t).analyses := by
  rw [lintTemplate, rejection?_of_ok h]
  simp only [isEnabled_linterName, enabled, if_true]
  refine ⟨?_, Traced.analyses_bind_of_silent fun _ => rfl⟩
  rw [Traced.outcome_bind_of_answers fun _ => rfl]
  cases (Linter.check invoke config.linter.ignored t).outcome <;> rfl

theorem lintTemplate_of_none (h : t.handed config = none) :
    (lintTemplate invoke config t).outcome = .ok t.rejection?.toList ∧
      (lintTemplate invoke config t).analyses = [] := by
  cases hc : t.content with
  | error r =>
    obtain ⟨d, hd, -⟩ := rejection?_of_error hc
    rw [lintTemplate, hd]
    exact ⟨rfl, rfl⟩
  | ok nodes =>
    rw [rejection?_of_ok hc]
    cases enabled : config.linter.enabled with
    | false =>
      rw [lintTemplate, rejection?_of_ok hc]
      simp only [isEnabled_linterName, enabled]
      exact ⟨rfl, rfl⟩
    | true =>
      have blank : Text.allBlank (Extracted.ofNodes t.lines nodes).text.toList = true := by
        simpa [handed_of_ok config hc, enabled] using h
      obtain ⟨outcome, analyses⟩ := lintTemplate_of_ok invoke hc enabled
      rw [outcome, analyses]
      rw [Linter.check_of_blank invoke _ hc blank]
      exact ⟨rfl, rfl⟩

theorem lintTemplate_of_some {c : String × String} (h : t.handed config = some c) :
    (∃ map, (lintTemplate invoke config t).outcome = (invoke c.1 c.2).outcome.map fun offenses =>
        (Offense.kept config.linter.ignored offenses).map (Linter.diagnostic t map)) ∧
      (lintTemplate invoke config t).analyses = c :: (invoke c.1 c.2).analyses := by
  cases hc : t.content with
  | error r => rw [handed_of_error config hc] at h; cases h
  | ok nodes =>
    rw [handed_of_ok config hc] at h
    split at h
    · next condition =>
      cases h
      rw [Bool.and_eq_true, Bool.not_eq_true'] at condition
      obtain ⟨outcome, analyses⟩ := lintTemplate_of_ok invoke hc condition.1
      rw [outcome, analyses]
      exact ⟨⟨_, Linter.outcome_check_of_text invoke _ hc condition.2⟩,
        Linter.analyses_check_of_text invoke _ hc condition.2⟩
    · cases h

theorem severity_diagnostic (map : SourceMap) (o : Offense) :
    (Linter.diagnostic t map o).severity = .error ↔
      o.category = "error" ∨ o.category = "fatal" := by
  have grave : o.isError = true ↔ o.category = "error" ∨ o.category = "fatal" := by
    simp [Offense.isError]
  rw [← grave, Linter.diagnostic]
  cases o.isError <;> simp

theorem exists_error_kept (map : SourceMap) (ignored : List String) (offenses : List Offense) :
    (∃ d ∈ (Offense.kept ignored offenses).map (Linter.diagnostic t map), d.severity = .error) ↔
      ∃ o ∈ offenses, o.Fails ignored := by
  simp only [List.mem_map, Offense.kept, List.mem_filter, Offense.Fails]
  constructor
  · rintro ⟨d, ⟨o, ⟨ho, unignored⟩, rfl⟩, grave⟩
    exact ⟨o, ho, (severity_diagnostic map o).mp grave, by simpa using unignored⟩
  · rintro ⟨o, ho, grave, unignored⟩
    exact ⟨_, ⟨o, ⟨ho, by simpa using unignored⟩, rfl⟩, (severity_diagnostic map o).mpr grave⟩

def Reads (site : Site) (file : Path) (text : String) : Prop :=
  ∃ bytes decoded, FileTree.bytes site.root site.cwd file = .ok bytes ∧
    Text.decodeUtf8 bytes = .ok decoded ∧ text = String.ofList (Text.unifyNewlines decoded.toList)

inductive Rejected (reader : Template.Reader) (site : Site) (file : Path) : Prop
  | unreadable {fault : AccessFault} (h : FileTree.bytes site.root site.cwd file = .error fault)
  | undecodable {bytes : List UInt8} {fault : Text.DecodeFault}
      (h : FileTree.bytes site.root site.cwd file = .ok bytes)
      (hd : Text.decodeUtf8 bytes = .error fault)
  | unparsable {text : String} {fault : Template.Fault} (h : Reads site file text)
      (hp : reader text (some file.toText) = .error fault)

section

variable {reader : Template.Reader} {site : Site} {file : Path} {text : String}

theorem ofFile_of_reads (h : Reads site file text) :
    Template.ofFile reader site file = .ofSource reader text (some file) := by
  obtain ⟨bytes, decoded, hb, hd, rfl⟩ := h
  simp only [Template.ofFile, hb, hd]

theorem content_of_reads (h : Reads site file text) :
    (Template.ofFile reader site file).content = (reader text (some file.toText)).mapError
      (Template.reject (Template.ofFile reader site file).lines) := by
  rw [ofFile_of_reads h]
  rfl

theorem content_of_rejected (h : Rejected reader site file) :
    ∃ r, (Template.ofFile reader site file).content = .error r := by
  cases h with
  | unreadable h => simp only [Template.ofFile, h]; exact ⟨_, rfl⟩
  | undecodable h hd => simp only [Template.ofFile, h, hd]; exact ⟨_, rfl⟩
  | unparsable h hp => rw [content_of_reads h, hp]; exact ⟨_, rfl⟩

theorem rejected_of_content {r : Rejection} (h : (Template.ofFile reader site file).content = .error r) :
    Rejected reader site file := by
  cases hb : FileTree.bytes site.root site.cwd file with
  | error fault => exact .unreadable hb
  | ok bytes =>
    cases hd : Text.decodeUtf8 bytes with
    | error fault => exact .undecodable hb hd
    | ok decoded =>
      have reads : Reads site file _ := ⟨bytes, decoded, hb, hd, rfl⟩
      rw [content_of_reads reads] at h
      cases hp : reader (String.ofList (Text.unifyNewlines decoded.toList)) (some file.toText) with
      | error fault => exact .unparsable reads hp
      | ok nodes => rw [hp] at h; cases h

theorem exists_error_rejection :
    (∃ d ∈ (Template.ofFile reader site file).rejection?.toList, d.severity = .error) ↔
      Rejected reader site file := by
  cases content : (Template.ofFile reader site file).content with
  | error r =>
    obtain ⟨d, hd, -, -, -, grave⟩ := rejection?_of_error content
    rw [hd]
    exact iff_of_true ⟨d, List.mem_singleton_self d, grave⟩ (rejected_of_content content)
  | ok nodes =>
    rw [rejection?_of_ok content]
    refine iff_of_false (by simp) ?_
    intro rejected
    obtain ⟨r, hr⟩ := content_of_rejected rejected
    rw [content] at hr
    cases hr

theorem file_ofFile (reader : Template.Reader) (site : Site) (file : Path) :
    (Template.ofFile reader site file).file = some file := by
  rw [Template.ofFile]
  split
  · rfl
  · split <;> rfl

end

/-- The call that a file leads to, if it leads to one. -/
def call? (reader : Template.Reader) (site : Site) (config : Config) (file : Path) :
    Option (String × String) :=
  (Template.ofFile reader site file).handed config

def Answered (invoke : Linter.Invoker) (c : String × String) : Prop :=
  ∃ offenses, (invoke c.1 c.2).outcome = .ok offenses

def entries (invoke : Linter.Invoker) (c : String × String) : List (String × String) :=
  c :: (invoke c.1 c.2).analyses

def share (reader : Template.Reader) (site : Site) (invoke : Linter.Invoker) (config : Config)
    (file : Path) : Diagnostics :=
  match (lintTemplate invoke config (.ofFile reader site file)).outcome with
  | .ok ds => ds
  | .error _ => []

section

variable {reader : Template.Reader} {site : Site} {invoke : Linter.Invoker} {config : Config}
  {file : Path} {files : List Path} {failure : Failure}

theorem call?_of_rejected (h : Rejected reader site file) : call? reader site config file = none := by
  obtain ⟨r, hr⟩ := content_of_rejected h
  exact handed_of_error config hr

theorem share_of_ok {ds : Diagnostics}
    (h : (lintTemplate invoke config (.ofFile reader site file)).outcome = .ok ds) :
    share reader site invoke config file = ds := by
  rw [share, h]

theorem lintTemplate_of_answered (h : ∀ c, call? reader site config file = some c → Answered invoke c) :
    (lintTemplate invoke config (.ofFile reader site file)).outcome =
        .ok (share reader site invoke config file) ∧
      (lintTemplate invoke config (.ofFile reader site file)).analyses =
        (call? reader site config file).toList.flatMap (entries invoke) := by
  cases hc : call? reader site config file with
  | none =>
    obtain ⟨outcome, analyses⟩ := lintTemplate_of_none invoke hc
    exact ⟨by rw [share_of_ok outcome, outcome], analyses⟩
  | some c =>
    obtain ⟨⟨map, outcome⟩, analyses⟩ := lintTemplate_of_some invoke hc
    obtain ⟨offenses, answer⟩ := h c hc
    rw [answer] at outcome
    refine ⟨by rw [share_of_ok outcome, outcome]; rfl, ?_⟩
    rw [analyses, Option.toList_some, List.flatMap_singleton, entries]

theorem exists_error_share :
    (∃ d ∈ share reader site invoke config file, d.severity = .error) ↔
      Rejected reader site file ∨ ∃ c, call? reader site config file = some c ∧
        ∃ offenses, (invoke c.1 c.2).outcome = .ok offenses ∧
          ∃ o ∈ offenses, o.Fails config.linter.ignored := by
  cases hc : call? reader site config file with
  | none =>
    rw [share_of_ok (lintTemplate_of_none invoke hc).1, exists_error_rejection]
    simp
  | some c =>
    have unrejected : ¬ Rejected reader site file := by
      intro rejected
      rw [call?_of_rejected rejected] at hc
      cases hc
    obtain ⟨⟨map, outcome⟩, -⟩ := lintTemplate_of_some invoke hc
    cases answer : (invoke c.1 c.2).outcome with
    | error failure =>
      rw [answer] at outcome
      rw [share, outcome]
      exact iff_of_false (by simp [Except.map]) (by simp [unrejected, answer])
    | ok offenses =>
      rw [answer] at outcome
      rw [share_of_ok outcome, exists_error_kept]
      simp [unrejected, answer]

end

end Run

end TemplateLint
