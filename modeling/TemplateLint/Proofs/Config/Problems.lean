import Mathlib.Data.List.Sort
import Mathlib.Data.String.Basic
import TemplateLint.Config.Settings

namespace TemplateLint

open Table

theorem OutputFormat.ofWord?_eq_some_iff {s : String} {f : OutputFormat} :
    ofWord? s = some f ↔ s = f.word := by
  constructor
  · intro read
    unfold ofWord? at read
    split at read
    · cases read; rfl
    · cases read; rfl
    · cases read
  · rintro rfl
    cases f <;> rfl

theorem str?_bind_ofWord?_eq_some_iff {v : Value} {f : OutputFormat} :
    v.str?.bind OutputFormat.ofWord? = some f ↔ v = .str f.word := by
  cases v <;> simp [OutputFormat.ofWord?_eq_some_iff]

theorem mapM_str?_eq_none_iff {items : List Value} :
    items.mapM Value.str? = none ↔ ∃ item ∈ items, ∀ text, item ≠ .str text := by
  induction items with
  | nil => simp
  | cons item rest ih =>
    cases item with
    | str text => cases read : rest.mapM Value.str? <;> simpa [read] using ih
    | _ => simp

theorem mapM_str?_eq_some_iff {items : List Value} {texts : List String} :
    items.mapM Value.str? = some texts ↔ items = texts.map .str := by
  induction items generalizing texts with
  | nil => cases texts <;> simp
  | cons item rest ih =>
    cases item with
    | str text => cases texts <;> simp [Option.bind_eq_some_iff, ih, and_comm]
    | _ => cases texts <;> simp

def Problem.rank : Problem → Nat
  | patternsNotList key _ => if key = "include" then 0 else 1
  | unknownFormat => 2
  | showSourceNotBool => 3
  | lintersNotTable => 4
  | unknownLinters _ => 5
  | linterNotTable => 6
  | enabledNotBool => 7
  | ignoredNotStrings => 8
  | ignoredNotList => 8

namespace Settings

variable {α : Type} {s : Table} {key : String} {p : Problem}

theorem mem_setting_iff {default : α} {check : Value → Checked α} :
    p ∈ (setting s key default check).problems ↔ ∃ v, get? s key = some v ∧ p ∈ (check v).problems := by
  cases given : get? s key with
  | none => simp [setting_of_none given]
  | some v => simp [setting_of_some given]

theorem setting_eq_good_iff {default a : α} {check : Value → Checked α} :
    setting s key default check = .good a ↔
      get? s key = none ∧ a = default ∨ ∃ v, get? s key = some v ∧ check v = .good a := by
  cases given : get? s key with
  | none => simp [setting_of_none given, eq_comm]
  | some v => simp [setting_of_some given]

theorem mem_patterns_iff {default : List String} :
    p ∈ (patterns s key default).problems ↔
      ∃ v, get? s key = some v ∧ (∀ items, v ≠ .list items) ∧ p = .patternsNotList key v.kind := by
  rw [patterns, mem_setting_iff]
  refine exists_congr fun v => and_congr_right fun _ => ?_
  cases v <;> simp

theorem mem_format_iff :
    p ∈ (format s).problems ↔
      ∃ v, get? s "output_format" = some v ∧ (∀ f : OutputFormat, v ≠ .str f.word) ∧ p = .unknownFormat := by
  rw [format, mem_setting_iff]
  refine exists_congr fun v => and_congr_right fun _ => ?_
  split
  · next f read =>
    have good : v = .str f.word := str?_bind_ofWord?_eq_some_iff.mp read
    simp [good]
  · next unread =>
    have bad : ∀ f : OutputFormat, v ≠ .str f.word := by
      intro f same
      rw [str?_bind_ofWord?_eq_some_iff.mpr same] at unread
      cases unread
    simp [bad]

theorem mem_flag_iff {problem : Problem} :
    p ∈ (flag s key problem).problems ↔ ∃ v, get? s key = some v ∧ (∀ b, v ≠ .bool b) ∧ p = problem := by
  rw [flag, mem_setting_iff]
  refine exists_congr fun v => and_congr_right fun _ => ?_
  cases v <;> simp

theorem mem_table_iff {default : α} {problem : Problem} {check : Table → Checked α} :
    p ∈ (table s key default problem check).problems ↔
      (∃ v, get? s key = some v ∧ (∀ entries, v ≠ .table entries) ∧ p = problem) ∨
        ∃ entries, get? s key = some (.table entries) ∧ p ∈ (check entries).problems := by
  rw [table, mem_setting_iff]
  constructor
  · rintro ⟨v, given, wrong⟩
    cases v with
    | table entries => exact .inr ⟨entries, given, wrong⟩
    | _ => exact .inl ⟨_, given, by simp, List.mem_singleton.mp wrong⟩
  · rintro (⟨v, given, bad, rfl⟩ | ⟨entries, given, wrong⟩)
    · refine ⟨v, given, ?_⟩
      cases v with
      | table entries => exact absurd rfl (bad entries)
      | _ => exact List.mem_singleton_self _
    · exact ⟨_, given, wrong⟩

theorem mem_ignored_iff :
    p ∈ (ignored s).problems ↔
      ∃ v, get? s "ignored_checks" = some v ∧
        ((∃ items, v = .list items ∧ (∃ item ∈ items, ∀ text, item ≠ .str text) ∧ p = .ignoredNotStrings) ∨
          (∀ items, v ≠ .list items) ∧ p = .ignoredNotList) := by
  rw [ignored, mem_setting_iff]
  refine exists_congr fun v => and_congr_right fun _ => ?_
  cases v with
  | list items =>
    simp only [← mapM_str?_eq_none_iff]
    cases read : items.mapM Value.str? <;> simp [read]
  | _ => simp

theorem mem_unknownLinters_iff :
    p ∈ unknownLinters s ↔
      ∃ names, names ≠ [] ∧ names.Perm ((s.map (·.1)).filter fun key => !isLinterKey key) ∧
        names.Pairwise (· ≤ ·) ∧ p = .unknownLinters names := by
  rw [unknownLinters]
  split
  · next none =>
    rw [none]
    simp
  · next nonempty =>
    constructor
    · intro h
      refine ⟨_, ?_, List.mergeSort_perm _ _, List.pairwise_mergeSort' (· ≤ ·) _, List.mem_singleton.mp h⟩
      intro empty
      exact nonempty (List.nil_perm.mp (empty ▸ List.mergeSort_perm _ _))
    · rintro ⟨names, -, same, sorted, rfl⟩
      rw [List.mem_singleton]
      congr 1
      exact (same.trans (List.mergeSort_perm _ _).symm).eq_of_pairwise' sorted (List.pairwise_mergeSort' (· ≤ ·) _)

inductive WrongOption (options : Table) : Problem → Prop
  | enabled {v : Value} : get? options "enabled" = some v → (∀ b, v ≠ .bool b) → WrongOption options .enabledNotBool
  | ignoredItem {items : List Value} {item : Value} : get? options "ignored_checks" = some (.list items) →
      item ∈ items → (∀ text, item ≠ .str text) → WrongOption options .ignoredNotStrings
  | ignored {v : Value} : get? options "ignored_checks" = some v → (∀ items, v ≠ .list items) →
      WrongOption options .ignoredNotList

inductive WrongLinter (entries : Table) : Problem → Prop
  | names {names : List String} : names ≠ [] →
      names.Perm ((entries.map (·.1)).filter fun key => !isLinterKey key) → names.Pairwise (· ≤ ·) →
      WrongLinter entries (.unknownLinters names)
  | notTable {v : Value} : get? entries "pylint" = some v → (∀ options, v ≠ .table options) →
      WrongLinter entries .linterNotTable
  | option {options : Table} {p : Problem} : get? entries "pylint" = some (.table options) →
      WrongOption options p → WrongLinter entries p

inductive Wrong (settings : Table) : Problem → Prop
  | patterns {key : String} {v : Value} : key = "include" ∨ key = "exclude" → get? settings key = some v →
      (∀ items, v ≠ .list items) → Wrong settings (.patternsNotList key v.kind)
  | format {v : Value} : get? settings "output_format" = some v → (∀ f : OutputFormat, v ≠ .str f.word) →
      Wrong settings .unknownFormat
  | showSource {v : Value} : get? settings "show_source" = some v → (∀ b, v ≠ .bool b) →
      Wrong settings .showSourceNotBool
  | notTable {v : Value} : get? settings "linters" = some v → (∀ entries, v ≠ .table entries) →
      Wrong settings .lintersNotTable
  | linter {entries : Table} {p : Problem} : get? settings "linters" = some (.table entries) →
      WrongLinter entries p → Wrong settings p

theorem mem_linterOptions_iff : p ∈ (linterOptions s).problems ↔ WrongOption s p := by
  simp only [linterOptions, enabled, List.mem_append, mem_flag_iff, mem_ignored_iff]
  constructor
  · rintro (⟨v, given, bad, rfl⟩ | ⟨v, given, ⟨items, rfl, ⟨item, mem, bad⟩, rfl⟩ | ⟨bad, rfl⟩⟩)
    · exact .enabled given bad
    · exact .ignoredItem given mem bad
    · exact .ignored given bad
  · intro h
    cases h with
    | enabled given bad => exact .inl ⟨_, given, bad, rfl⟩
    | ignoredItem given mem bad => exact .inr ⟨_, given, .inl ⟨_, rfl, ⟨_, mem, bad⟩, rfl⟩⟩
    | ignored given bad => exact .inr ⟨_, given, .inr ⟨bad, rfl⟩⟩

theorem wrongLinter_iff :
    WrongLinter s p ↔
      p ∈ unknownLinters s ∨
        (∃ v, get? s "pylint" = some v ∧ (∀ options, v ≠ .table options) ∧ p = .linterNotTable) ∨
          ∃ options, get? s "pylint" = some (.table options) ∧ p ∈ (linterOptions options).problems := by
  simp only [mem_unknownLinters_iff, mem_linterOptions_iff]
  constructor
  · intro h
    cases h with
    | names nonempty same sorted => exact .inl ⟨_, nonempty, same, sorted, rfl⟩
    | notTable given bad => exact .inr (.inl ⟨_, given, bad, rfl⟩)
    | option given wrong => exact .inr (.inr ⟨_, given, wrong⟩)
  · rintro (⟨names, nonempty, same, sorted, rfl⟩ | ⟨v, given, bad, rfl⟩ | ⟨options, given, wrong⟩)
    · exact .names nonempty same sorted
    · exact .notTable given bad
    · exact .option given wrong

theorem mem_linterTable_iff : p ∈ (linterTable s).problems ↔ WrongLinter s p := by
  simp only [linterTable, wrongLinter_iff, List.mem_append, mem_table_iff]

theorem mem_linters_iff :
    p ∈ (linters s).problems ↔
      (∃ v, get? s "linters" = some v ∧ (∀ entries, v ≠ .table entries) ∧ p = .lintersNotTable) ∨
        ∃ entries, get? s "linters" = some (.table entries) ∧ WrongLinter entries p := by
  simp only [linters, mem_table_iff, mem_linterTable_iff]

theorem mem_problems_iff : p ∈ problems s ↔ Wrong s p := by
  simp only [problems, List.mem_append, mem_patterns_iff, mem_format_iff, showSource, mem_flag_iff,
    mem_linters_iff]
  constructor
  · rintro ((((⟨v, given, bad, rfl⟩ | ⟨v, given, bad, rfl⟩) | ⟨v, given, bad, rfl⟩) | ⟨v, given, bad, rfl⟩) |
      ⟨v, given, bad, rfl⟩ | ⟨entries, given, wrong⟩)
    · exact .patterns (.inl rfl) given bad
    · exact .patterns (.inr rfl) given bad
    · exact .format given bad
    · exact .showSource given bad
    · exact .notTable given bad
    · exact .linter given wrong
  · intro h
    cases h with
    | patterns which given bad =>
      left; left; left
      rcases which with rfl | rfl
      · exact .inl ⟨_, given, bad, rfl⟩
      · exact .inr ⟨_, given, bad, rfl⟩
    | format given bad => exact .inl (.inl (.inr ⟨_, given, bad, rfl⟩))
    | showSource given bad => exact .inl (.inr ⟨_, given, bad, rfl⟩)
    | notTable given bad => exact .inr (.inl ⟨_, given, bad, rfl⟩)
    | linter given wrong => exact .inr (.inr ⟨_, given, wrong⟩)

def Within (low high : Nat) (found : List Problem) : Prop :=
  found.Pairwise (fun p q => p.rank < q.rank) ∧ ∀ p ∈ found, low ≤ p.rank ∧ p.rank < high

theorem Within.nil {low high : Nat} : Within low high [] :=
  ⟨.nil, fun _ h => nomatch h⟩

theorem Within.single {low high : Nat} (below : low ≤ p.rank) (above : p.rank < high) : Within low high [p] := by
  refine ⟨List.pairwise_singleton _ _, fun q h => ?_⟩
  rw [List.mem_singleton.mp h]
  exact ⟨below, above⟩

theorem Within.append {low mid high : Nat} {found more : List Problem} (h : Within low mid found)
    (h' : Within mid high more) (below : low ≤ mid) (above : mid ≤ high) : Within low high (found ++ more) := by
  refine ⟨List.pairwise_append.mpr ⟨h.1, h'.1, fun p hp q hq => ?_⟩, fun p hp => ?_⟩
  · exact (h.2 p hp).2.trans_le (h'.2 q hq).1
  · rcases List.mem_append.mp hp with hp | hp
    · exact ⟨(h.2 p hp).1, (h.2 p hp).2.trans_le above⟩
    · exact ⟨below.trans (h'.2 p hp).1, (h'.2 p hp).2⟩

theorem within_setting {low high : Nat} {default : α} {check : Value → Checked α}
    (each : ∀ v, Within low high (check v).problems) : Within low high (setting s key default check).problems := by
  cases given : get? s key with
  | none =>
    rw [setting_of_none given]
    exact .nil
  | some v =>
    rw [setting_of_some given]
    exact each v

theorem within_patterns {low high : Nat} {default : List String}
    (h : ∀ kind, low ≤ (Problem.patternsNotList key kind).rank ∧ (Problem.patternsNotList key kind).rank < high) :
    Within low high (patterns s key default).problems := by
  refine within_setting fun v => ?_
  split
  · exact .nil
  · exact .single (h _).1 (h _).2

theorem within_format (s : Table) : Within 2 3 (format s).problems := by
  refine within_setting fun v => ?_
  split
  · exact .nil
  · exact .single (by decide) (by decide)

theorem within_flag {low high : Nat} {problem : Problem} (below : low ≤ problem.rank) (above : problem.rank < high) :
    Within low high (flag s key problem).problems := by
  refine within_setting fun v => ?_
  split
  · exact .nil
  · exact .single below above

theorem within_table {low high : Nat} {default : α} {problem : Problem} {check : Table → Checked α}
    (below : low ≤ problem.rank) (above : problem.rank < high)
    (each : ∀ entries, Within low high (check entries).problems) :
    Within low high (table s key default problem check).problems := by
  refine within_setting fun v => ?_
  split
  · exact each _
  · exact .single below above

theorem within_unknownLinters (s : Table) : Within 4 6 (unknownLinters s) := by
  rw [unknownLinters]
  split
  · exact .nil
  · exact .single (by simp [Problem.rank]) (by simp [Problem.rank])

theorem within_ignored (s : Table) : Within 8 9 (ignored s).problems := by
  refine within_setting fun v => ?_
  split
  · split
    · exact .nil
    · exact .single (by decide) (by decide)
  · exact .single (by decide) (by decide)

theorem within_linterOptions (s : Table) : Within 6 9 (linterOptions s).problems := by
  have enabled : Within 6 8 (enabled s).problems := within_flag (by decide) (by decide)
  exact enabled.append (within_ignored s) (by decide) (by decide)

theorem within_linterTable (s : Table) : Within 4 9 (linterTable s).problems :=
  (within_unknownLinters s).append (within_table (by decide) (by decide) within_linterOptions) (by decide) (by decide)

theorem within_linters (s : Table) : Within 4 9 (linters s).problems :=
  within_table (by decide) (by decide) within_linterTable

theorem within_problems (s : Table) : Within 0 9 (problems s) := by
  have first : Within 0 1 (patterns s "include" defaultIncluded).problems :=
    within_patterns fun _ => by simp [Problem.rank]
  have second : Within 1 2 (patterns s "exclude" defaultExcluded).problems :=
    within_patterns fun _ => by simp [Problem.rank]
  have shown : Within 3 4 (showSource s).problems := within_flag (by decide) (by decide)
  exact (((first.append second (by decide) (by decide)).append (within_format s) (by decide) (by decide)).append
    shown (by decide) (by decide)).append (within_linters s) (by decide) (by decide)

end Settings

end TemplateLint
