import TemplateLint.Proofs.Config.Keywise

namespace TemplateLint

open Table

theorem Table.mem_keys_of_get? {t : Table} {key : String} {v : Value} (h : get? t key = some v) :
    key ∈ t.map (·.1) := by
  obtain ⟨entry, found, -⟩ := Option.map_eq_some_iff.mp h
  have same : entry.1 = key := by simpa using List.find?_some found
  exact same ▸ List.mem_map_of_mem (List.mem_of_find?_eq_some found)

namespace Settings

structure Sets (options : Table) (o : LinterOptions) : Prop where
  enabled : get? options "enabled" = none ∧ o.enabled = ({} : LinterOptions).enabled ∨
    get? options "enabled" = some (.bool o.enabled)
  ignored : get? options "ignored_checks" = none ∧ o.ignored = ({} : LinterOptions).ignored ∨
    get? options "ignored_checks" = some (.ofStrings o.ignored)

section

variable {s options entries : Table} {key : String} {v : Value} {path : Option Path} {c : Config}

theorem flag_eq_good_iff {problem : Problem} {b : Bool} :
    flag s key problem = .good b ↔ get? s key = none ∧ b = true ∨ get? s key = some (.bool b) := by
  rw [flag, setting_eq_good_iff]
  refine or_congr_right ⟨?_, fun given => ⟨_, given, rfl⟩⟩
  rintro ⟨v, given, good⟩
  cases v <;> simp_all

theorem ignored_eq_good_iff {checks : List String} :
    ignored options = .good checks ↔
      get? options "ignored_checks" = none ∧ checks = defaultIgnored ∨
        get? options "ignored_checks" = some (.ofStrings checks) := by
  rw [ignored, setting_eq_good_iff, Value.ofStrings]
  refine or_congr_right ⟨?_, fun given => ⟨_, given, by simp only [mapM_str?_eq_some_iff.mpr rfl]⟩⟩
  rintro ⟨v, given, good⟩
  cases v with
  | list items =>
    dsimp only at good
    split at good
    · next read => rw [given, mapM_str?_eq_some_iff.mp read, Checked.good_inj.mp good]
    · exact absurd good Checked.bad_ne_good
  | _ => exact absurd good Checked.bad_ne_good

theorem linterOptions_eq_good_iff {o : LinterOptions} :
    linterOptions options = .good o ↔ Sets options o := by
  have parts : linterOptions options = .good o ↔
      enabled options = .good o.enabled ∧ ignored options = .good o.ignored := by
    cases o
    simp only [linterOptions, Checked.eq_good_iff, LinterOptions.mk.injEq, List.append_eq_nil_iff]
    tauto
  rw [parts, enabled, flag_eq_good_iff, ignored_eq_good_iff]
  exact ⟨fun h => ⟨h.1, h.2⟩, fun h => ⟨h.enabled, h.ignored⟩⟩

theorem linters_of_own (table : get? s "linters" = some (.table entries))
    (given : get? entries "pylint" = some v) (good : (linters s).problems = []) :
    ∃ options, v = .table options ∧ Sets options (linters s).value := by
  rw [linters, Settings.table, setting_of_some table] at good ⊢
  simp only [linterTable, Settings.table, setting_of_some given, List.append_eq_nil_iff] at good ⊢
  cases v with
  | table options =>
    exact ⟨options, rfl, linterOptions_eq_good_iff.mp (Checked.eq_good_iff.mpr ⟨rfl, good.2⟩)⟩
  | _ => exact absurd good.2 (List.cons_ne_nil _ _)

theorem linters_of_other (table : get? s "linters" = some (.table entries))
    (absent : get? entries "pylint" = none) : linters s = ⟨{}, unknownLinters entries⟩ := by
  rw [linters, Settings.table, setting_of_some table]
  simp [linterTable, Settings.table, setting_of_none absent]

theorem get?_of_other (only : (entries.map (·.1)).filter isLinterKey = [key])
    (other : key ≠ "pylint") : get? entries "pylint" = none := by
  by_contra present
  obtain ⟨v, hv⟩ := Option.ne_none_iff_exists'.mp present
  have mem : "pylint" ∈ (entries.map (·.1)).filter isLinterKey :=
    List.mem_filter.mpr ⟨mem_keys_of_get? hv, by decide⟩
  rw [only, List.mem_singleton] at mem
  exact other mem.symm

theorem toConfig_of_other {t : Table} {w : Value} (accepted : toConfig s path = .ok c)
    (default : c.linter = {}) (known : isLinterKey key = true) (other : key ≠ "pylint")
    (table : get? t "linters" = some (.table [(key, w)]))
    (same : ∀ setting, setting ≠ "linters" → get? t setting = get? s setting) :
    toConfig t path = .ok c := by
  have here : linters t = .good {} := by
    have absent : get? [(key, w)] "pylint" = none := by simp [get?, other]
    rw [linters_of_other table absent]
    simp [unknownLinters, known, Checked.eq_good_iff]
  obtain ⟨none, rfl⟩ := toConfig_eq_ok_iff.mp accepted
  rw [toConfig_eq_ok_iff]
  constructor
  · rw [problems_eq_flatMap, List.flatMap_eq_nil_iff] at none ⊢
    intro setting known
    by_cases own : setting = "linters"
    · subst own
      change (linters t).problems = []
      rw [here]
      rfl
    · rw [problemsOf_congr (same setting own)]
      exact none setting known
  · have linter : (linters s).value = (linters t).value := default.trans (by rw [here]; rfl)
    simp only [mended, linter, patterns, format, showSource, flag, setting_congr (same "include" (by decide)),
      setting_congr (same "exclude" (by decide)), setting_congr (same "output_format" (by decide)),
      setting_congr (same "show_source" (by decide))]

/-- One table of linter settings in whatever spelling: under `pylint` it has the form that settings
must have and takes effect; under another spelling the defaults stand, whatever is written there. -/
theorem linter_of_spelling (table : get? s "linters" = some (.table entries))
    (only : (entries.map (·.1)).filter isLinterKey = [key]) (given : get? entries key = some v)
    (accepted : toConfig s path = .ok c) :
    (key = "pylint" → ∃ options, v = .table options ∧ Sets options c.linter) ∧
      (key ≠ "pylint" → c.linter = {} ∧
        ∀ t w, get? t "linters" = some (.table [(key, w)]) →
          (∀ setting, setting ≠ "linters" → get? t setting = get? s setting) →
          toConfig t path = .ok c) := by
  obtain ⟨none, rfl⟩ := toConfig_eq_ok_iff.mp accepted
  have good : (linters s).problems = [] := by
    rw [problems_eq_flatMap, List.flatMap_eq_nil_iff] at none
    exact none "linters" (by decide)
  constructor
  · rintro rfl
    exact linters_of_own table given good
  · intro other
    have default : (mended s path).linter = {} := by
      change (linters s).value = {}
      rw [linters_of_other table (get?_of_other only other)]
    have known : isLinterKey key = true :=
      (List.mem_filter.mp (only ▸ List.mem_singleton_self key)).2
    exact ⟨default, fun t w => toConfig_of_other accepted default known other⟩

end

def ownOptions : Table := [("ignored_checks", .ofStrings ["unused-import"])]

def ownSettings : Table :=
  [("show_source", .bool false), ("linters", .table [("pylint", .table ownOptions)])]

theorem linter_of_own_spelling :
    get? ownSettings "linters" = some (.table [("pylint", .table ownOptions)]) ∧
      ["pylint"].filter isLinterKey = ["pylint"] ∧
      ∃ c, toConfig ownSettings none = .ok c ∧ Sets ownOptions c.linter ∧
        c.linter = ⟨true, ["unused-import"]⟩ := by
  have only : ["pylint"].filter isLinterKey = ["pylint"] := by decide
  have accepted : toConfig ownSettings none = .ok (mended ownSettings none) := toConfig_of_nil rfl
  have own := linter_of_spelling (s := ownSettings) (v := .table ownOptions) rfl only rfl accepted
  obtain ⟨options, same, sets⟩ := own.1 rfl
  cases same
  exact ⟨rfl, only, _, accepted, sets, rfl⟩

def otherSettings : Table :=
  [("linters", .table [("Pylint", .table [("enabled", .bool false)])])]

theorem other_spelling_has_no_effect :
    isLinterKey "Pylint" = true ∧ ∃ c, toConfig otherSettings none = .ok c ∧
      c.linter.enabled = true ∧ ¬ Sets [("enabled", .bool false)] c.linter := by
  refine ⟨by decide, mended otherSettings none, toConfig_of_nil rfl, rfl, ?_⟩
  intro sets
  rcases sets.enabled with ⟨absent, -⟩ | given
  · cases absent
  · cases given

end Settings

end TemplateLint
