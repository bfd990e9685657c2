import Mathlib.Data.Prod.Lex
import Mathlib.Data.String.Basic
import TemplateLint.Diagnostic.Basic
import TemplateLint.Proofs.Path.Text

/-!
The order in which diagnostics are shown. It separates the files, and those that agree in file, line
and column stay as they came, so that a sorted list is determined by what came for each such place.
-/

namespace TemplateLint

namespace Diagnostic

variable {d e : Diagnostic}

def key (d : Diagnostic) : String ×ₗ Int ×ₗ Int :=
  toLex (d.fileText, toLex (d.location.line, d.location.column))

theorem le_iff : le d e = true ↔ d.key ≤ e.key := by
  simp only [le, key, Prod.Lex.toLex_le_toLex, Bool.or_eq_true, Bool.and_eq_true,
    decide_eq_true_eq, beq_iff_eq]

theorem le_of_le_of_le (a b c : Diagnostic) (hab : le a b = true) (hbc : le b c = true) :
    le a c = true := by
  rw [le_iff] at *
  exact le_trans hab hbc

theorem le_or_le (a b : Diagnostic) : (le a b || le b a) = true := by
  rw [Bool.or_eq_true, le_iff, le_iff]
  exact le_total a.key b.key

def FileCanonical (d : Diagnostic) : Prop := ∀ p, d.file = some p → p.Canonical

theorem fileText_inj (hd : d.FileCanonical) (he : e.FileCanonical) :
    d.fileText = e.fileText ↔ d.file = e.file := by
  unfold fileText
  cases hf : d.file with
  | none =>
    cases hg : e.file with
    | none => simp
    | some q => simpa using (Path.toText_ne_empty (he q hg)).symm
  | some p =>
    cases hg : e.file with
    | none => simpa using Path.toText_ne_empty (hd p hf)
    | some q => simpa using Path.toText_inj (hd p hf) (he q hg)

theorem key_ne_of_file_ne (hd : d.FileCanonical) (he : e.FileCanonical) (h : d.file ≠ e.file) :
    d.key ≠ e.key := by
  intro level
  apply h
  rw [← fileText_inj hd he]
  exact congrArg (fun k => (ofLex k).1) level

end Diagnostic

namespace Diagnostics

variable {ds es : Diagnostics}

def tied (ds : Diagnostics) (d : Diagnostic) : Diagnostics := ds.filter fun e => e.key = d.key

theorem mem_tied {d e : Diagnostic} : e ∈ ds.tied d ↔ e ∈ ds ∧ e.key = d.key := by
  simp [tied]

theorem mem_of_tied (same : ∀ d, ds.tied d = es.tied d) {d : Diagnostic} (h : d ∈ ds) : d ∈ es := by
  have here : d ∈ ds.tied d := mem_tied.mpr ⟨h, rfl⟩
  rw [same] at here
  exact (mem_tied.mp here).1

theorem sorted_perm (ds : Diagnostics) : ds.sorted.Perm ds := List.mergeSort_perm ds Diagnostic.le

theorem pairwise_sorted (ds : Diagnostics) : ds.sorted.Pairwise fun d e => d.key ≤ e.key := by
  have ordered := List.pairwise_mergeSort Diagnostic.le_of_le_of_le Diagnostic.le_or_le ds
  exact ordered.imp Diagnostic.le_iff.mp

theorem tied_sorted (ds : Diagnostics) (d : Diagnostic) : ds.sorted.tied d = ds.tied d := by
  have equal : (ds.tied d).Pairwise fun a b => Diagnostic.le a b = true := by
    apply List.pairwise_of_forall_mem_list
    intro a ha b hb
    rw [Diagnostic.le_iff, (mem_tied.mp ha).2, (mem_tied.mp hb).2]
  have kept : (ds.tied d).Sublist ds.sorted :=
    List.sublist_mergeSort Diagnostic.le_of_le_of_le Diagnostic.le_or_le equal List.filter_sublist
  have own : (ds.tied d).tied d = ds.tied d := by simp [tied, List.filter_filter]
  have within : (ds.tied d).Sublist (ds.sorted.tied d) := own ▸ kept.filter _
  have many : (ds.sorted.tied d).length = (ds.tied d).length :=
    ((sorted_perm ds).filter _).length_eq
  exact (within.eq_of_length many.symm).symm

theorem head_le {d e : Diagnostic} (h : (d :: ds).Pairwise fun d e => d.key ≤ e.key)
    (he : e ∈ d :: ds) : d.key ≤ e.key := by
  rcases List.mem_cons.mp he with rfl | later
  · exact le_rfl
  · exact (List.pairwise_cons.mp h).1 e later

theorem eq_of_pairwise_of_tied (hd : ds.Pairwise fun d e => d.key ≤ e.key)
    (he : es.Pairwise fun d e => d.key ≤ e.key) (same : ∀ d, ds.tied d = es.tied d) : ds = es := by
  induction ds generalizing es with
  | nil =>
    cases es with
    | nil => rfl
    | cons e es => cases mem_of_tied (fun d => (same d).symm) List.mem_cons_self
  | cons d ds ih =>
    cases es with
    | nil => cases mem_of_tied same List.mem_cons_self
    | cons e es =>
      -- Each head is in the other list as well, so that neither lies before the other.
      have below : d.key ≤ e.key :=
        head_le hd (mem_of_tied (fun a => (same a).symm) List.mem_cons_self)
      have above : e.key ≤ d.key := head_le he (mem_of_tied same List.mem_cons_self)
      have level : e.key = d.key := le_antisymm above below
      have here := same d
      simp only [tied, List.filter_cons, level, decide_true, if_true, List.cons.injEq] at here
      obtain ⟨rfl, -⟩ := here
      have later (a : Diagnostic) : tied ds a = tied es a := by
        have both := same a
        simp only [tied, List.filter_cons] at both ⊢
        split at both
        · exact (List.cons.inj both).2
        · exact both
      rw [ih (List.pairwise_cons.mp hd).2 (List.pairwise_cons.mp he).2 later]

theorem sorted_eq_of_tied (same : ∀ d, ds.tied d = es.tied d) : ds.sorted = es.sorted := by
  apply eq_of_pairwise_of_tied (pairwise_sorted ds) (pairwise_sorted es)
  intro d
  rw [tied_sorted, tied_sorted, same]

end Diagnostics

end TemplateLint
