import TemplateLint.CommandLine.Run
import TemplateLint.Proofs.Diagnostic.RoundTrip
import TemplateLint.Proofs.Json.Appended
import TemplateLint.Proofs.Text.Lines

namespace TemplateLint

open Text

namespace Diagnostics

theorem line_of_counted (n : Nat) {noun : String} (h : '\n' ∉ noun.toList) :
    '\n' ∉ (counted n noun).toList := by
  have spelt : counted n noun =
      if n = 1 then n.repr ++ " " ++ noun else n.repr ++ " " ++ noun ++ "s" := rfl
  have digits : '\n' ∉ Nat.toDigits 10 n := by
    intro mem
    cases Nat.isDigit_of_mem_toDigits (by decide) (by decide) mem
  rw [spelt]
  split
  · simp [h, digits]
  · simp [h, digits]

def checked (n : Nat) : String := "Checked " ++ counted n "file" ++ "."

theorem line_of_checked (n : Nat) : '\n' ∉ (checked n).toList := by
  have count : '\n' ∉ (counted n "file").toList := line_of_counted n (by decide)
  simp [checked, count]

theorem summary_cases (ds : Diagnostics) :
    ds.summary = "No issues found." ∨
      ∃ tally, ds.summary = "Found " ++ joinStrings ", " tally ++ "." ∧
        ∀ piece ∈ tally, '\n' ∉ piece.toList := by
  have lines : ∀ piece ∈ (if ds.errorCount = 0 then [] else [counted ds.errorCount "error"]) ++
      (if ds.warningCount = 0 then [] else [counted ds.warningCount "warning"]),
      '\n' ∉ piece.toList := by
    rw [List.forall_mem_append]
    constructor
    · split
      · simp
      · simpa using line_of_counted _ (by decide)
    · split
      · simp
      · simpa using line_of_counted _ (by decide)
  rw [summary]
  split
  · exact .inl rfl
  · exact .inr ⟨_, rfl, lines⟩

theorem line_of_summary (ds : Diagnostics) : '\n' ∉ ds.summary.toList := by
  rcases ds.summary_cases with fine | ⟨tally, found, lines⟩
  · rw [fine]
    decide
  · have inside : '\n' ∉ join ", ".toList (tally.map String.toList) := by
      intro mem
      rcases mem_of_mem_join mem with between | ⟨piece, hpiece, h⟩
      · exact absurd between (by decide)
      · obtain ⟨text, htext, rfl⟩ := List.mem_map.mp hpiece
        exact lines text htext h
    rw [found]
    simpa [joinStrings] using inside

theorem tokens?_summary (ds : Diagnostics) (more : List Char) :
    Json.tokens? ('\n' :: (ds.summary.toList ++ more)) = none := by
  -- A summary begins with a word that is in no document.
  rw [Json.tokens?_space rfl]
  rcases ds.summary_cases with fine | ⟨tally, found, -⟩
  · have spelt : ds.summary.toList ++ more =
        'N' :: 'o' :: ' ' :: ("issues found.".toList ++ more) := by
      rw [fine]
      rfl
    rw [spelt]
    exact Json.tokens?_of_no_word rfl rfl
  · have spelt : ds.summary.toList ++ more =
        'F' :: 'o' :: 'u' :: 'n' :: 'd' :: ' ' ::
          ((joinStrings ", " tally).toList ++ '.' :: more) := by
      rw [found]
      simp
    rw [spelt]
    exact Json.tokens?_of_no_word rfl rfl

variable (ds : Diagnostics) (showSource : Bool) (n : Nat)

theorem toList_results :
    (ds.results .json showSource n).toList =
      (ds.jsonReport showSource).toList ++
        '\n' :: (ds.summary.toList ++ '\n' :: (checked n).toList) := by
  have written : ds.jsonReport showSource ≠ "" := by
    intro empty
    have read := objects_of_jsonReport ds showSource
    rw [empty, show Json.read? "" = none by cbv] at read
    cases read
  rw [results, report, if_neg written]
  simp [joinStrings, join, checked]

theorem read?_results_append (after : List Char) :
    Json.read? (String.ofList ((ds.results .json showSource n).toList ++ after)) = none := by
  rw [toList_results, List.append_assoc]
  apply Json.read?_append_eq_none
  · rw [String.ofList_toList]
    exact objects_of_jsonReport ds showSource
  · exact Json.Boundary.cons (.inl rfl) _
  · rw [List.cons_append, List.append_assoc]
    exact tokens?_summary ds _

theorem lines_results :
    splitOn '\n' (ds.results .json showSource n).toList =
      splitOn '\n' (ds.jsonReport showSource).toList ++
        [ds.summary.toList, (checked n).toList] := by
  rw [toList_results, splitOn_append, splitOn_append, splitOn_of_not_mem (line_of_summary ds),
    splitOn_of_not_mem (line_of_checked n)]
  rfl

def withoutTally (text : String) : String :=
  String.ofList (join ['\n'] (splitOn '\n' text.toList).dropLast.dropLast)

theorem withoutTally_results :
    withoutTally (ds.results .json showSource n) = ds.jsonReport showSource := by
  have cut : (splitOn '\n' (ds.results .json showSource n).toList).dropLast.dropLast =
      splitOn '\n' (ds.jsonReport showSource).toList := by
    rw [lines_results]
    simp
  rw [withoutTally, cut, join_splitOn, String.ofList_toList]

end Diagnostics

namespace CommandLine

open Discovery

theorem stdout_failed (f : Failure) : (Output.failed f).stdout = "" := by
  cases f <;> rfl

theorem stdout_runLint (reader : Template.Reader) (site : Site) (analyzer : Analyzer)
    (rcfile : Option String) (s : Settings) (config : Config) (paths : List Path)
    (format : OutputFormat) (showSource : Option Bool) :
    let output := runLint reader site analyzer rcfile s config paths (some format) showSource
    output.stdout = "" ∨ ∃ (r : Run.Result) (own : Config), own.format = format ∧
      output.stdout = Output.line (r.report own) := by
  intro output
  simp only [output, runLint]
  split
  · exact .inr ⟨_, _, rfl, rfl⟩
  · exact .inl (stdout_failed _)

end CommandLine

open Diagnostics CommandLine Discovery

/-- The lines of the tally are added in JSON format, too. They alone spoil the document in front of
them, and so does what is printed for it. -/
theorem report_around_document (r : Run.Result) (config : Config) :
    let text := r.report { config with format := .json }
    Json.read? text = none ∧
      splitOn '\n' text.toList =
        splitOn '\n' (r.diagnostics.jsonReport config.showSource).toList ++
          [r.diagnostics.summary.toList, (checked r.filesChecked).toList] ∧
      (∃ objects : List Table,
        Json.read? (withoutTally text) = some (.list (objects.map .table)) ∧
        List.Forall₂ (Diagnostic.Shows config.showSource) objects r.diagnostics.sorted) ∧
      ∀ reader site analyzer rcfile s config paths showSource,
        let output := runLint reader site analyzer rcfile s config paths (some .json) showSource
        output.stdout = "" ∨ ∃ (r : Run.Result) (own : Config), own.format = .json ∧
          output.stdout = Output.line (r.report own) ∧
          Json.read? (Output.line (r.report own)) = none := by
  intro text
  refine ⟨?_, lines_results _ _ _, ⟨_, ?_, shows_members _ _⟩, ?_⟩
  · have alone := read?_results_append r.diagnostics config.showSource r.filesChecked []
    rwa [List.append_nil, String.ofList_toList] at alone
  · rw [show withoutTally text = _ from withoutTally_results _ _ _]
    exact objects_of_jsonReport r.diagnostics config.showSource
  · intro reader site analyzer rcfile s config paths showSource output
    apply (stdout_runLint reader site analyzer rcfile s config paths .json showSource).imp_right
    rintro ⟨r, own, json, printed⟩
    have line := read?_results_append r.diagnostics own.showSource r.filesChecked ['\n']
    rw [String.ofList_append, String.ofList_toList, ← json] at line
    exact ⟨r, own, json, printed, line⟩

def nothingFound : Run.Result := ⟨[], 0⟩

def tallied : String := "[]\nNo issues found.\nChecked 0 files."

def emptySite : Site := ⟨.directory [], []⟩

theorem report_of_nothing :
    nothingFound.report { format := .json } = tallied ∧
      (runLint (fun _ _ => .ok []) emptySite (fun _ => .reported []) none ⟨none, false, false⟩ {}
        [] (some .json) none).stdout = Output.line tallied ∧
      ¬ ∃ objects : List Table, Json.read? tallied = some (.list (objects.map .table)) ∧
        List.Forall₂ (Diagnostic.Shows true) objects nothingFound.diagnostics.sorted := by
  have unread : Json.read? tallied = none := by cbv
  refine ⟨by cbv, by cbv, ?_⟩
  rintro ⟨objects, read, -⟩
  rw [unread] at read
  cases read

end TemplateLint
