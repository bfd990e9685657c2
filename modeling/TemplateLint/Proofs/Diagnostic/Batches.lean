import TemplateLint.Diagnostic.Report
import TemplateLint.Proofs.Diagnostic.Order

namespace TemplateLint

namespace Diagnostics

/-- No two batches are about the same file, and at most one has diagnostics without a file. -/
structure FilesApart (batches : List Diagnostics) : Prop where
  canonical : ∀ batch ∈ batches, ∀ d ∈ batch, d.FileCanonical
  apart : batches.Pairwise fun batch other => ∀ d ∈ batch, ∀ e ∈ other, d.file ≠ e.file

structure Agree (ds es : Diagnostics) : Prop where
  sorted : ds.sorted = es.sorted
  report : ∀ format showSource, ds.report format showSource = es.report format showSource
  results : ∀ format showSource files,
    ds.results format showSource files = es.results format showSource files
  summary : ds.summary = es.summary
  errorCount : ds.errorCount = es.errorCount
  warningCount : ds.warningCount = es.warningCount
  hasErrors : ds.hasErrors = es.hasErrors

variable {ds es batch : Diagnostics} {batches batches' : List Diagnostics} {d : Diagnostic}

theorem report_eq_of_sorted (same : ds.sorted = es.sorted) (format : OutputFormat)
    (showSource : Bool) : ds.report format showSource = es.report format showSource := by
  cases format with
  | text => rw [report, report, textReport, textReport, same]
  | json => rw [report, report, jsonReport, jsonReport, same]

theorem agree_of_sorted (same : ds.sorted = es.sorted) : Agree ds es := by
  have perm : ds.Perm es := (sorted_perm ds).symm.trans (same ▸ sorted_perm es)
  have errors : ds.errorCount = es.errorCount := perm.countP_eq _
  have warnings : ds.warningCount = es.warningCount := perm.countP_eq _
  have tally : ds.summary = es.summary := by rw [summary, summary, errors, warnings]
  refine ⟨same, report_eq_of_sorted same, ?_, tally, errors, warnings, perm.any_eq⟩
  intro format showSource files
  rw [results, results, report_eq_of_sorted same, tally]

theorem errorCount_add_warningCount (ds : Diagnostics) :
    ds.errorCount + ds.warningCount = ds.length := by
  have other (d : Diagnostic) : (!decide (d.severity = .error)) = decide (d.severity = .warn) := by
    cases d.severity <;> rfl
  rw [errorCount, warningCount, List.length_eq_countP_add_countP (·.severity = .error)]
  simp [other]

theorem FilesApart.perm (h : FilesApart batches) (same : batches.Perm batches') : FilesApart batches' where
  canonical batch hb := h.canonical batch (same.mem_iff.mpr hb)
  apart := h.apart.perm same fun differ d hd e he => (differ e he d hd).symm

theorem FilesApart.tail (h : FilesApart (batch :: batches)) : FilesApart batches where
  canonical other ho := h.canonical other (List.mem_cons_of_mem _ ho)
  apart := h.apart.of_cons

theorem FilesApart.key_ne (h : FilesApart (batch :: batches)) (hd : d ∈ batch) {e : Diagnostic}
    (he : e ∈ batches.flatten) : d.key ≠ e.key := by
  obtain ⟨other, ho, he⟩ := List.mem_flatten.mp he
  apply Diagnostic.key_ne_of_file_ne
  · exact h.canonical batch List.mem_cons_self d hd
  · exact h.canonical other (List.mem_cons_of_mem _ ho) e he
  · exact (List.pairwise_cons.mp h.apart).1 other ho d hd e he

theorem tied_append (ds es : Diagnostics) (d : Diagnostic) :
    tied (ds ++ es) d = ds.tied d ++ es.tied d := List.filter_append ..

theorem tied_eq_nil (h : ∀ e ∈ ds, e.key ≠ d.key) : ds.tied d = [] := by
  simpa [tied] using h

theorem tied_flatten (h : FilesApart batches) (hb : batch ∈ batches) (hd : d ∈ batch) :
    tied batches.flatten d = batch.tied d := by
  induction batches with
  | nil => cases hb
  | cons first rest ih =>
    rw [List.flatten_cons, tied_append]
    rcases List.mem_cons.mp hb with rfl | hb
    · rw [tied_eq_nil fun e he => (h.key_ne hd he).symm, List.append_nil]
    · have later : d ∈ rest.flatten := List.mem_flatten.mpr ⟨batch, hb, hd⟩
      rw [tied_eq_nil fun e he => h.key_ne he later, List.nil_append, ih h.tail hb]

theorem tied_flatten_perm (h : FilesApart batches) (same : batches.Perm batches') (d : Diagnostic) :
    tied batches.flatten d = tied batches'.flatten d := by
  by_cases found : ∃ batch ∈ batches, ∃ e ∈ batch, e.key = d.key
  · obtain ⟨batch, hb, e, he, level⟩ := found
    have here := tied_flatten h hb he
    have there := tied_flatten (h.perm same) (same.mem_iff.mp hb) he
    simp only [tied, level] at here there ⊢
    rw [here, there]
  · have none (e : Diagnostic) (he : e ∈ batches.flatten) : e.key ≠ d.key := by
      intro level
      obtain ⟨batch, hb, he⟩ := List.mem_flatten.mp he
      exact found ⟨batch, hb, e, he, level⟩
    rw [tied_eq_nil none, tied_eq_nil]
    intro e he
    exact none e (same.flatten.mem_iff.mpr he)

/-- Batches about different files may be put together in any order: the diagnostics are shown by file,
line and column, those of one place as they came in their batch, and nothing said of them changes. -/
theorem agree_of_batches (h : FilesApart batches) (same : batches.Perm batches') :
    let ds : Diagnostics := batches.flatten
    let es : Diagnostics := batches'.flatten
    Agree ds es ∧ ds.sorted.Perm ds ∧ (ds.sorted.Pairwise fun d e => d.key ≤ e.key) ∧
      (∀ batch ∈ batches, ∀ d ∈ batch, ds.sorted.tied d = batch.tied d) ∧
      ds.errorCount + ds.warningCount = ds.length := by
  intro ds es
  have one : ds.sorted = es.sorted := sorted_eq_of_tied (tied_flatten_perm h same)
  refine ⟨agree_of_sorted one, sorted_perm ds, pairwise_sorted ds, ?_,
    errorCount_add_warningCount ds⟩
  intro batch hb d hd
  rw [tied_sorted]
  exact tied_flatten h hb hd

def reported (file : Option Path) (line column : Int) (code : String) : Diagnostic where
  file := file
  location := { line, column }
  linter := linterName
  code := code
  message := code
  severity := .warn

def mixed : List Diagnostics := [
  [reported none 7 1 "unused-import"],
  [reported (some (.ofString "b.mako")) 2 5 "unused-variable",
    reported (some (.ofString "b.mako")) 2 5 "invalid-name",
    reported (some (.ofString "b.mako")) 1 0 "bad-indentation"],
  [reported (some (.ofString "a.mako")) 9 1 "unused-import"]]

theorem filesApart_mixed : FilesApart mixed where
  canonical := by
    simp [mixed, reported, Diagnostic.FileCanonical, Path.canonical_ofString]
  apart := by decide

theorem agree_of_mixed :
    FilesApart mixed ∧ mixed.Perm mixed.reverse ∧
      Agree (List.flatten mixed) (List.flatten mixed.reverse) ∧
      (sorted (List.flatten mixed)).tied (reported (some (.ofString "b.mako")) 2 5 "invalid-name") =
        [reported (some (.ofString "b.mako")) 2 5 "unused-variable",
          reported (some (.ofString "b.mako")) 2 5 "invalid-name"] := by
  have same : mixed.Perm mixed.reverse := (List.reverse_perm mixed).symm
  obtain ⟨agree, -, -, tied, -⟩ := agree_of_batches filesApart_mixed same
  refine ⟨filesApart_mixed, same, agree, ?_⟩
  rw [tied (mixed[1]) (by decide) _ (by decide)]
  decide

end Diagnostics

end TemplateLint
