import Mathlib.Data.List.Forall2
import TemplateLint.Diagnostic.Report
import TemplateLint.Proofs.Diagnostic.Order
import TemplateLint.Proofs.Json.RoundTrip

namespace TemplateLint

def Severity.ofWord? : String → Option Severity
  | "error" => some .error
  | "warn" => some .warn
  | _ => none

theorem Severity.ofWord?_word (s : Severity) : Severity.ofWord? s.word = some s := by
  cases s <;> rfl

namespace Value

def int? : Value → Option Int
  | int n => some n
  | _ => none

def strOrNull? : Value → Option (Option String)
  | null => some none
  | str s => some (some s)
  | _ => none

def intOrNull? : Value → Option (Option Int)
  | null => some none
  | int n => some (some n)
  | _ => none

theorem strOrNull?_ofOption (s : Option String) : (ofOption s).strOrNull? = some s := by
  cases s <;> rfl

theorem intOrNull?_ofInt? (n : Option Int) : (ofInt? n).intOrNull? = some n := by
  cases n <;> rfl

end Value

namespace Diagnostic

structure Record where
  file : Option String
  location : Location
  linter : String
  code : String
  severity : Severity
  message : String
  sourceLine : Option (Option String)

def record (showSource : Bool) (d : Diagnostic) : Record where
  file := d.file.map Path.toText
  location := d.location
  linter := d.linter
  code := d.code
  severity := d.severity
  message := d.message
  sourceLine := if showSource then some d.sourceLine else none

def Record.ofTable? (t : Table) : Option Record := do
  let file ← t.get? "file" >>= Value.strOrNull?
  let line ← t.get? "line" >>= Value.int?
  let column ← t.get? "column" >>= Value.int?
  let endLine ← t.get? "end_line" >>= Value.intOrNull?
  let endColumn ← t.get? "end_column" >>= Value.intOrNull?
  let length ← t.get? "length" >>= Value.intOrNull?
  let linter ← t.get? "linter" >>= Value.str?
  let code ← t.get? "code" >>= Value.str?
  let severity ← t.get? "severity" >>= Value.str? >>= Severity.ofWord?
  let message ← t.get? "message" >>= Value.str?
  let sourceLine ← (t.get? "source_line").mapM Value.strOrNull?
  let location : Location := { line, column, endLine, endColumn, length }
  return { file, location, linter, code, severity, message, sourceLine }

def members (showSource : Bool) (d : Diagnostic) : Table :=
  match d.toValue showSource with
  | .table entries => entries
  | _ => []

theorem ofTable?_members (showSource : Bool) (d : Diagnostic) :
    Record.ofTable? (d.members showSource) = some (d.record showSource) := by
  cases showSource <;>
    simp [Record.ofTable?, members, toValue, Table.get?, record, Value.strOrNull?_ofOption,
      Value.intOrNull?_ofInt?, Severity.ofWord?_word, Value.int?, Value.str?]

theorem has_source_line (showSource : Bool) (d : Diagnostic) :
    Table.has (d.members showSource) "source_line" = showSource := by
  cases showSource <;> rfl

theorem distinct_members (showSource : Bool) (d : Diagnostic) :
    ((d.members showSource).map Prod.fst).Nodup := by
  have keys : (d.members showSource).map Prod.fst =
      ["file", "line", "column", "end_line", "end_column", "length", "linter", "code", "severity",
        "message"] ++ if showSource then ["source_line"] else [] := by
    cases showSource <;> rfl
  rw [keys]
  cases showSource <;> decide

theorem exact_toValue (showSource : Bool) (d : Diagnostic) : Json.Exact (d.toValue showSource) := by
  have distinct := d.distinct_members showSource
  unfold members toValue at distinct
  unfold toValue
  apply Json.Exact.table distinct
  simp only [List.forall_mem_append, List.forall_mem_cons]
  refine ⟨⟨.ofOption _, .int _, .int _, .ofInt? _, .ofInt? _, .ofInt? _, .str _, .str _, .str _,
    .str _, List.forall_mem_nil _⟩, ?_⟩
  cases showSource with
  | false => exact List.forall_mem_nil _
  | true => exact List.forall_mem_singleton.mpr (.ofOption _)

theorem file_of_record {showSource : Bool} {d : Diagnostic} (h : d.FileCanonical) :
    (d.record showSource).file.map Path.ofString = d.file := by
  cases hf : d.file with
  | none => simp [record, hf]
  | some p => simp [record, hf, Path.ofString_toText (h p hf)]

structure Shows (showSource : Bool) (object : Table) (d : Diagnostic) : Prop where
  record : Record.ofTable? object = some (d.record showSource)
  source : object.has "source_line" = showSource

end Diagnostic

namespace Diagnostics

variable {ds es : Diagnostics} {showSource showSource' : Bool}

theorem objects_of_jsonReport (ds : Diagnostics) (showSource : Bool) :
    Json.read? (ds.jsonReport showSource) =
      some (.list ((ds.sorted.map (Diagnostic.members showSource)).map .table)) := by
  have exact_list : Json.Exact (.list (ds.sorted.map (Diagnostic.toValue showSource))) := by
    apply Json.Exact.list
    rw [List.forall_mem_map]
    intro d _
    exact d.exact_toValue showSource
  rw [jsonReport, Json.read?_render exact_list, List.map_map]
  rfl

theorem shows_members (ds : Diagnostics) (showSource : Bool) :
    List.Forall₂ (Diagnostic.Shows showSource) (ds.map (Diagnostic.members showSource)) ds := by
  rw [List.forall₂_map_left_iff, List.forall₂_same]
  intro d _
  exact ⟨d.ofTable?_members showSource, d.has_source_line showSource⟩

theorem records_of_jsonReport (same : ds.jsonReport showSource = es.jsonReport showSource') :
    ds.sorted.map (Diagnostic.record showSource) =
      es.sorted.map (Diagnostic.record showSource') := by
  have objects := objects_of_jsonReport ds showSource
  rw [same, objects_of_jsonReport es showSource', Option.some.injEq, Value.list.injEq] at objects
  have tables := List.map_injective_iff.mpr (fun _ _ => Value.table.inj) objects
  have read := congrArg (List.map Diagnostic.Record.ofTable?) tables
  simp only [List.map_map, Function.comp_def, Diagnostic.ofTable?_members] at read
  apply List.map_injective_iff.mpr (Option.some_injective _)
  rw [List.map_map, List.map_map]
  exact read.symm

theorem files_of_records (h : ∀ d ∈ ds, d.FileCanonical) :
    (ds.map (Diagnostic.record showSource)).map (fun r => r.file.map Path.ofString) =
      ds.map (·.file) := by
  rw [List.map_map]
  apply List.map_congr_left
  intro d hd
  exact Diagnostic.file_of_record (h d hd)

/-- The JSON report is read as a list with one object for each diagnostic, in the order in which they
are shown, and the object tells what the diagnostic says. So collections with one report agree in all
that it shows. -/
theorem read?_jsonReport (ds : Diagnostics) (showSource : Bool) :
    (∃ objects : List Table,
      Json.read? (ds.jsonReport showSource) = some (.list (objects.map .table)) ∧
      List.Forall₂ (Diagnostic.Shows showSource) objects ds.sorted) ∧
    ∀ (es : Diagnostics) (showSource' : Bool),
      ds.jsonReport showSource = es.jsonReport showSource' →
      ds.sorted.map (Diagnostic.record showSource) =
        es.sorted.map (Diagnostic.record showSource') ∧
      ((∀ d ∈ ds, d.FileCanonical) → (∀ e ∈ es, e.FileCanonical) →
        ds.sorted.map (·.file) = es.sorted.map (·.file)) := by
  refine ⟨⟨_, objects_of_jsonReport ds showSource, shows_members ds.sorted showSource⟩, ?_⟩
  intro es showSource' same
  have records := records_of_jsonReport same
  refine ⟨records, ?_⟩
  intro hd he
  have hd' : ∀ d ∈ ds.sorted, d.FileCanonical := fun d h => hd d ((sorted_perm ds).mem_iff.mp h)
  have he' : ∀ e ∈ es.sorted, e.FileCanonical := fun e h => he e ((sorted_perm es).mem_iff.mp h)
  rw [← files_of_records hd', records, files_of_records he']

def quoting : Diagnostics := [
  { file := some (.ofString "/a b/\"é\".mako")
    location := { line := 18446744073709551616, column := -4, endLine := some 2, length := some 0 }
    linter := "Pylint"
    code := "\\\n\x01"
    message := "𝄞\x7f"
    severity := .error
    sourceLine := some "$\x7bx\x7d\t" },
  { file := none
    location := { line := 1, column := 0 }
    linter := ""
    code := "c"
    message := ""
    severity := .warn }]

theorem read?_jsonReport_of_quoting :
    quoting.jsonReport true = (sorted quoting).jsonReport true ∧
      (∀ d ∈ quoting, d.FileCanonical) ∧
      (∃ objects : List Table,
        Json.read? (quoting.jsonReport true) = some (.list (objects.map .table)) ∧
        List.Forall₂ (Diagnostic.Shows true) objects (sorted quoting)) ∧
      (sorted quoting).map (Diagnostic.record true) =
        (sorted (sorted quoting)).map (Diagnostic.record true) ∧
      (sorted quoting).map (·.file) = (sorted (sorted quoting)).map (·.file) := by
  have canonical : ∀ d ∈ quoting, d.FileCanonical := by
    simp [quoting, Diagnostic.FileCanonical, Path.canonical_ofString]
  have canonical' : ∀ d ∈ sorted quoting, d.FileCanonical :=
    fun d h => canonical d ((sorted_perm quoting).mem_iff.mp h)
  have same : quoting.jsonReport true = (sorted quoting).jsonReport true := by
    rw [jsonReport, jsonReport, sorted_eq_of_tied (tied_sorted quoting)]
  obtain ⟨objects, agree⟩ := read?_jsonReport quoting true
  obtain ⟨records, files⟩ := agree (sorted quoting) true same
  exact ⟨same, canonical, objects, records, files canonical canonical'⟩

end Diagnostics

end TemplateLint
