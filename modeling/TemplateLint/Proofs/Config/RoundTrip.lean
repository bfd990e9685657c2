import TemplateLint.Config.Report
import TemplateLint.Config.Settings
import TemplateLint.Proofs.Config.Spelling
import TemplateLint.Proofs.Discovery.Answer
import TemplateLint.Proofs.Json.RoundTrip

namespace TemplateLint

variable {c : Config} {rcfile : Option String}

namespace Config

def shown (c : Config) (rcfile : Option String) : Table :=
  match c.toValue rcfile with
  | .table entries => entries
  | _ => []

def shownLinter (c : Config) (rcfile : Option String) : Table := [
  ("enabled", .bool c.linter.enabled),
  ("ignored_checks", .ofStrings c.linter.ignored),
  ("rcfile", .ofOption (Config.rcfile? rcfile))]

theorem exact_shownLinter : Json.Exact (.table (c.shownLinter rcfile)) := by
  apply Json.Exact.table
  · simp [shownLinter]
  · simp [shownLinter, Json.Exact.bool, Json.Exact.ofStrings, Json.Exact.ofOption]

theorem exact_shown (texts : c.TextPatterns) : Json.Exact (.table (c.shown rcfile)) := by
  have linters : Json.Exact (.table [("pylint", .table (c.shownLinter rcfile))]) :=
    .table (by simp) (List.forall_mem_singleton.mpr exact_shownLinter)
  unfold shown toValue
  apply Json.Exact.table
  · simp
  · simp only [List.forall_mem_cons]
    exact ⟨.ofOption _, .texts texts.included, .texts texts.excluded, .str _, .bool _, linters,
      List.forall_mem_nil _⟩

theorem toJson_of_texts (texts : c.TextPatterns) :
    c.toJson rcfile = .ok (Json.render (.table (c.shown rcfile))) := by
  have dateless : (c.toValue rcfile).moment? = none := (exact_shown texts).moment?
  rw [toJson, dateless]
  rfl

end Config

namespace Settings

theorem included_shown (default : List String) :
    patterns (c.shown rcfile) "include" default = .good c.included := rfl

theorem excluded_shown (default : List String) :
    patterns (c.shown rcfile) "exclude" default = .good c.excluded := rfl

theorem format_shown : format (c.shown rcfile) = .good c.format := by
  have found : Table.get? (c.shown rcfile) "output_format" = some (.str c.format.word) := rfl
  have read : (Value.str c.format.word).str?.bind OutputFormat.ofWord? = some c.format :=
    str?_bind_ofWord?_eq_some_iff.mpr rfl
  simp only [format, setting_of_some found, read]

theorem showSource_shown : showSource (c.shown rcfile) = .good c.showSource := rfl

theorem linters_shown : linters (c.shown rcfile) = .good c.linter := by
  have found : Table.get? (c.shown rcfile) "linters" =
      some (.table [("pylint", .table (c.shownLinter rcfile))]) := rfl
  have entry : Table.get? [("pylint", .table (c.shownLinter rcfile))] "pylint" =
      some (.table (c.shownLinter rcfile)) := rfl
  have known : unknownLinters [("pylint", .table (c.shownLinter rcfile))] = [] := by
    simp [unknownLinters, show isLinterKey "pylint" = true by decide]
  have options : linterOptions (c.shownLinter rcfile) = .good c.linter :=
    linterOptions_eq_good_iff.mpr ⟨.inr rfl, .inr rfl⟩
  rw [linters, table, setting_of_some found]
  simp only [linterTable, table, setting_of_some entry, options, known]
  rfl

theorem problems_shown : problems (c.shown rcfile) = [] := by
  rw [problems, included_shown, excluded_shown, format_shown, showSource_shown, linters_shown]
  rfl

theorem toConfig_shown : toConfig (c.shown rcfile) c.path = .ok c := by
  rw [toConfig, problems_shown, included_shown, excluded_shown, format_shown, showSource_shown,
    linters_shown]
  rfl

/-- Shown as JSON and read again as settings, a configuration whose patterns are texts is the same,
whatever file of its own the analyzer is given. -/
theorem toConfig_of_toJson (texts : c.TextPatterns) (rcfile : Option String) :
    ∃ text settings, c.toJson rcfile = .ok text ∧ Json.read? text = some (.table settings) ∧
      toConfig settings c.path = .ok c := by
  refine ⟨_, c.shown rcfile, Config.toJson_of_texts texts, ?_, toConfig_shown⟩
  exact Json.read?_render (Config.exact_shown texts)

def marked : Config where
  path := some (.absolute ["sites", "\"été\"", "pyproject.toml"])
  included := [.str "\"\\\n\x01é𝄞", .str ""]
  excluded := []
  format := .json
  showSource := false
  linter := ⟨false, ["\t\x7f", "𝄞𝄞"]⟩

theorem texts_marked : marked.TextPatterns where
  included := by simp [marked]
  excluded := by simp [marked]

theorem toConfig_of_toJson_marked :
    marked.TextPatterns ∧ ∃ text settings, marked.toJson (some "réglages.toml") = .ok text ∧
      Json.read? text = some (.table settings) ∧ toConfig settings marked.path = .ok marked :=
  ⟨texts_marked, toConfig_of_toJson texts_marked (some "réglages.toml")⟩

end Settings

end TemplateLint
