import TemplateLint.Proofs.Config.Problems

namespace TemplateLint

namespace Table

def only (t : Table) (key : String) : Table :=
  match get? t key with
  | none => []
  | some v => [(key, v)]

theorem only_of_absent {t : Table} {key : String} (h : get? t key = none) : t.only key = [] := by
  rw [only, h]

theorem get?_only (t : Table) (key other : String) :
    get? (t.only key) other = if other = key then get? t key else none := by
  cases h : get? t key with
  | none =>
    rw [only_of_absent h, ite_self]
    rfl
  | some v =>
    rw [only, h]
    by_cases same : other = key
    · simp [get?, same]
    · simp [get?, same, Ne.symm same]

end Table

open Table

namespace Settings

def keys : List String := ["include", "exclude", "output_format", "show_source", "linters"]

def problemsOf (settings : Table) (key : String) : List Problem :=
  match key with
  | "include" => (patterns settings "include" defaultIncluded).problems
  | "exclude" => (patterns settings "exclude" defaultExcluded).problems
  | "output_format" => (format settings).problems
  | "show_source" => (showSource settings).problems
  | "linters" => (linters settings).problems
  | _ => []

def mended (settings : Table) (path : Option Path) : Config where
  path := path
  included := (patterns settings "include" defaultIncluded).value
  excluded := (patterns settings "exclude" defaultExcluded).value
  format := (format settings).value
  showSource := (showSource settings).value
  linter := (linters settings).value

def reported : Except Failure Config → List Problem
  | .error (.config (.problems found) _) => found
  | _ => []

variable {s t : Table} {key : String} {path : Option Path}

theorem toConfig_of_nil (h : problems s = []) : toConfig s path = .ok (mended s path) := by
  rw [toConfig, h]
  rfl

theorem toConfig_of_ne_nil (h : problems s ≠ []) :
    toConfig s path = .error (.config (.problems (problems s)) path) := by
  rw [toConfig]
  split
  · next none => exact absurd none h
  · rfl

theorem toConfig_eq_ok_iff {c : Config} :
    toConfig s path = .ok c ↔ problems s = [] ∧ mended s path = c := by
  by_cases h : problems s = []
  · rw [toConfig_of_nil h, Except.ok.injEq]
    exact ⟨fun same => ⟨h, same⟩, And.right⟩
  · rw [toConfig_of_ne_nil h]
    exact ⟨nofun, fun both => absurd both.1 h⟩

theorem reported_toConfig (s : Table) (path : Option Path) :
    reported (toConfig s path) = problems s := by
  by_cases h : problems s = []
  · rw [toConfig_of_nil h, h]
    rfl
  · rw [toConfig_of_ne_nil h]
    rfl

theorem setting_congr {α : Type} (h : get? s key = get? t key) (default : α) (check : Value → Checked α) :
    setting s key default check = setting t key default check := by
  rw [setting, setting, h]

theorem problemsOf_congr (h : get? s key = get? t key) : problemsOf s key = problemsOf t key := by
  unfold problemsOf
  split
  · rw [patterns, patterns, setting_congr h]
  · rw [patterns, patterns, setting_congr h]
  · rw [format, format, setting_congr h]
  · rw [showSource, showSource, flag, flag, setting_congr h]
  · rw [linters, linters, table, table, setting_congr h]
  · rfl

theorem mended_eq_own (s : Table) (path : Option Path) :
    mended s path = {
      path
      included := (mended (s.only "include") path).included
      excluded := (mended (s.only "exclude") path).excluded
      format := (mended (s.only "output_format") path).format
      showSource := (mended (s.only "show_source") path).showSource
      linter := (mended (s.only "linters") path).linter } := by
  have own (key : String) : get? s key = get? (s.only key) key := by rw [get?_only, if_pos rfl]
  simp only [mended, patterns, format, showSource, flag, linters, table]
  rw [← setting_congr (own "include"), ← setting_congr (own "exclude"), ← setting_congr (own "output_format"),
    ← setting_congr (own "show_source"), ← setting_congr (own "linters")]

theorem problemsOf_nil (key : String) : problemsOf [] key = [] := by
  unfold problemsOf
  split <;> rfl

theorem problems_eq_flatMap (s : Table) : problems s = keys.flatMap (problemsOf s) := by
  simp [problems, keys, problemsOf]

theorem problemsOf_only (s : Table) (key other : String) :
    problemsOf (s.only key) other = if other = key then problemsOf s key else [] := by
  by_cases same : other = key
  · subst same
    rw [if_pos rfl]
    exact problemsOf_congr (by rw [get?_only, if_pos rfl])
  · rw [if_neg same, ← problemsOf_nil other]
    exact problemsOf_congr (by rw [get?_only, if_neg same]; rfl)

theorem problems_only (h : key ∈ keys) : problems (s.only key) = problemsOf s key := by
  have alone : problemsOf (s.only key) = fun other => if other = key then problemsOf s key else [] :=
    funext (problemsOf_only s key)
  rw [problems_eq_flatMap, alone]
  simp only [keys, List.mem_cons, List.not_mem_nil, or_false] at h
  rcases h with rfl | rfl | rfl | rfl | rfl <;> simp [keys]

theorem toConfig_only_of_absent (h : get? s key = none) (path : Option Path) :
    toConfig (s.only key) path = .ok { path } := by
  rw [only_of_absent h]
  rfl

/-- Nothing is reported or set for one key because of another. -/
theorem toConfig_keywise (settings : Table) (path : Option Path) :
    let found := reported (toConfig settings path)
    found = keys.flatMap (fun key => reported (toConfig (settings.only key) path)) ∧
      (∀ key, get? settings key = none → toConfig (settings.only key) path = .ok { path }) ∧
      (∀ p, p ∈ found ↔ Wrong settings p) ∧ found.Pairwise (fun p q => p.rank < q.rank) ∧
      (found ≠ [] ∧ toConfig settings path = .error (.config (.problems found) path) ∨
        found = [] ∧ ∃ own : String → Config,
          (∀ key ∈ keys, toConfig (settings.only key) path = .ok (own key)) ∧
          toConfig settings path = .ok {
            path
            included := (own "include").included
            excluded := (own "exclude").excluded
            format := (own "output_format").format
            showSource := (own "show_source").showSource
            linter := (own "linters").linter }) := by
  simp only [reported_toConfig]
  refine ⟨?_, fun key absent => toConfig_only_of_absent absent path, fun p => mem_problems_iff,
    (within_problems settings).1, ?_⟩
  · rw [problems_eq_flatMap settings]
    apply List.flatMap_congr
    intro key known
    exact (problems_only known).symm
  · by_cases none : problems settings = []
    · refine .inr ⟨none, fun key => mended (settings.only key) path, ?_, ?_⟩
      · intro key known
        apply toConfig_of_nil
        rw [problems_only known]
        rw [problems_eq_flatMap, List.flatMap_eq_nil_iff] at none
        exact none key known
      · rw [toConfig_of_nil none, mended_eq_own]
    · exact .inl ⟨none, toConfig_of_ne_nil none⟩

example :
    reported (toConfig [("show_source", .str "yes"), ("linters", .table [("pylint", .table [("enabled", .null),
      ("ignored_checks", .list [.int 1])])]), ("output_format", .str "xml"), ("include", .str "*.mako")] none) =
      [.patternsNotList "include" "str", .unknownFormat, .showSourceNotBool, .enabledNotBool, .ignoredNotStrings] := by
  cbv

end Settings

end TemplateLint
