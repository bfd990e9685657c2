import TemplateLint.Config.Basic

namespace TemplateLint.Settings

structure Checked (α : Type) where
  value : α
  problems : List Problem

namespace Checked

variable {α : Type}

def good (value : α) : Checked α := ⟨value, []⟩

def bad (default : α) (problem : Problem) : Checked α := ⟨default, [problem]⟩

@[simp] theorem value_good (value : α) : (good value).value = value := rfl

@[simp] theorem problems_good (value : α) : (good value).problems = [] := rfl

@[simp] theorem problems_bad (default : α) (problem : Problem) : (bad default problem).problems = [problem] := rfl

@[simp] theorem good_inj {a b : α} : good a = good b ↔ a = b := by simp [good]

@[simp] theorem bad_ne_good {default value : α} {problem : Problem} : bad default problem ≠ good value := by
  simp [bad, good]

theorem eq_good_iff {c : Checked α} {value : α} : c = good value ↔ c.value = value ∧ c.problems = [] := by
  cases c
  simp [good]

end Checked

def setting {α : Type} (settings : Table) (key : String) (default : α) (check : Value → Checked α) : Checked α :=
  match Table.get? settings key with
  | none => .good default
  | some v => check v

theorem setting_of_none {α : Type} {settings : Table} {key : String} {default : α} {check : Value → Checked α}
    (absent : Table.get? settings key = none) : setting settings key default check = .good default := by
  rw [setting, absent]

theorem setting_of_some {α : Type} {settings : Table} {key : String} {default : α} {check : Value → Checked α}
    {v : Value} (given : Table.get? settings key = some v) : setting settings key default check = check v := by
  rw [setting, given]

def patterns (settings : Table) (key : String) (default : List String) : Checked (List Value) :=
  setting settings key (default.map .str) fun
    | .list items => .good items
    | v => .bad (default.map .str) (.patternsNotList key v.kind)

def format (settings : Table) : Checked OutputFormat :=
  setting settings "output_format" .text fun v =>
    match v.str?.bind OutputFormat.ofWord? with
    | some f => .good f
    | none => .bad .text .unknownFormat

def flag (settings : Table) (key : String) (problem : Problem) : Checked Bool :=
  setting settings key true fun
    | .bool b => .good b
    | _ => .bad true problem

def showSource (settings : Table) : Checked Bool := flag settings "show_source" .showSourceNotBool

def table {α : Type} (settings : Table) (key : String) (default : α) (problem : Problem) (check : Table → Checked α) :
    Checked α :=
  setting settings key default fun
    | .table entries => check entries
    | _ => .bad default problem

def lower (s : String) : String :=
  String.ofList (s.toList.map fun c => if 'A' ≤ c ∧ c ≤ 'Z' then Char.ofNat (c.toNat + 32) else c)

def isLinterKey (key : String) : Bool := lower key == "pylint"

def unknownLinters (linters : Table) : List Problem :=
  match (linters.map (·.1)).filter fun key => !isLinterKey key with
  | [] => []
  | names => [.unknownLinters (names.mergeSort fun a b => decide (a ≤ b))]

def enabled (options : Table) : Checked Bool := flag options "enabled" .enabledNotBool

def ignored (options : Table) : Checked (List String) :=
  setting options "ignored_checks" defaultIgnored fun
    | .list items =>
      match items.mapM Value.str? with
      | some checks => .good checks
      | none => .bad defaultIgnored .ignoredNotStrings
    | _ => .bad defaultIgnored .ignoredNotList

def linterOptions (options : Table) : Checked LinterOptions :=
  let enabled := enabled options
  let ignored := ignored options
  ⟨⟨enabled.value, ignored.value⟩, enabled.problems ++ ignored.problems⟩

def linterTable (entries : Table) : Checked LinterOptions :=
  let found := table entries "pylint" {} .linterNotTable linterOptions
  ⟨found.value, unknownLinters entries ++ found.problems⟩

def linters (settings : Table) : Checked LinterOptions := table settings "linters" {} .lintersNotTable linterTable

def problems (settings : Table) : List Problem :=
  (patterns settings "include" defaultIncluded).problems ++ (patterns settings "exclude" defaultExcluded).problems ++
    (format settings).problems ++ (showSource settings).problems ++ (linters settings).problems

def toConfig (settings : Table) (path : Option Path) : Except Failure Config :=
  match problems settings with
  | [] => .ok {
      path
      included := (patterns settings "include" defaultIncluded).value
      excluded := (patterns settings "exclude" defaultExcluded).value
      format := (format settings).value
      showSource := (showSource settings).value
      linter := (linters settings).value }
  | found => .error (.config (.problems found) path)

end TemplateLint.Settings
