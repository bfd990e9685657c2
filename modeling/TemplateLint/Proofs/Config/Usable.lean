import TemplateLint.Config.Report
import TemplateLint.Proofs.Config.Keywise
import TemplateLint.Proofs.Discovery.Answer

/-!
What can be done with a configuration that was accepted. The items of its lists of patterns are taken
as they are given. If all of them are texts, it can be shown and matched against every path. If not,
the first other item is what ends both, unless a pattern in front of it matches or it is not among
the patterns that are shown.
-/

namespace TemplateLint

open Table

def Texts (vs : List Value) : Prop := ∀ v ∈ vs, ∃ s, v = .str s

structure FirstOther (vs : List Value) (index : Nat) (v : Value) : Prop where
  here : vs[index]? = some v
  other : ∀ s, v ≠ .str s
  texts : Texts (vs.take index)

theorem text_or_other (v : Value) : (∃ s, v = .str s) ∨ ∀ s, v ≠ .str s := by
  cases v <;> simp

section

variable {vs : List Value} {v w : Value} {s : String} {index : Nat}

@[simp] theorem texts_nil : Texts [] := List.forall_mem_nil _

@[simp] theorem texts_cons_text : Texts (.str s :: vs) ↔ Texts vs := by
  simp [Texts]

@[simp] theorem not_firstOther_nil : ¬ FirstOther [] index v :=
  fun h => nomatch h.here

@[simp] theorem firstOther_cons_text :
    FirstOther (.str s :: vs) index v ↔ ∃ behind, index = behind + 1 ∧ FirstOther vs behind v := by
  constructor
  · rintro ⟨here, other, texts⟩
    cases index with
    | zero => exact absurd (Option.some.inj here).symm (other s)
    | succ behind => exact ⟨behind, rfl, here, other, texts_cons_text.mp texts⟩
  · rintro ⟨behind, rfl, here, other, texts⟩
    exact ⟨here, other, texts_cons_text.mpr texts⟩

theorem firstOther_cons_other (h : ∀ s, v ≠ .str s) :
    FirstOther (v :: vs) index w ↔ index = 0 ∧ w = v := by
  constructor
  · rintro ⟨here, -, texts⟩
    cases index with
    | zero => exact ⟨rfl, (Option.some.inj here).symm⟩
    | succ behind =>
      obtain ⟨s, hs⟩ := texts v (by simp)
      exact absurd hs (h s)
  · rintro ⟨rfl, rfl⟩
    exact ⟨rfl, h, texts_nil⟩

theorem texts_iff : Texts vs ↔ ¬ ∃ index v, FirstOther vs index v := by
  induction vs with
  | nil => simp
  | cons v vs ih =>
    rcases text_or_other v with ⟨s, rfl⟩ | other
    · rw [texts_cons_text, ih]
      simp only [firstOther_cons_text]
      constructor
      · rintro none ⟨_, w, behind, -, first⟩
        exact none ⟨behind, w, first⟩
      · rintro none ⟨behind, w, first⟩
        exact none ⟨_, w, behind, rfl, first⟩
    · refine iff_of_false (fun texts => ?_)
        (not_not_intro ⟨0, v, (firstOther_cons_other other).mpr ⟨rfl, rfl⟩⟩)
      obtain ⟨s, hs⟩ := texts v List.mem_cons_self
      exact other s hs

end

namespace Config

variable {vs : List Value} {failure : Failure}

theorem joinTexts_eq_error_iff {start : Nat} :
    joinTexts start vs = .error failure ↔
      ∃ index v, FirstOther vs index v ∧ failure = .notText (start + index) v := by
  induction vs generalizing start with
  | nil => simp [joinTexts]
  | cons v vs ih =>
    rcases text_or_other v with ⟨s, rfl⟩ | other
    · have skip : joinTexts start (.str s :: vs) = .error failure ↔
          joinTexts (start + 1) vs = .error failure := by
        rw [joinTexts]
        cases joinTexts (start + 1) vs <;> simp [Except.map]
      rw [skip, ih]
      simp only [firstOther_cons_text]
      constructor
      · rintro ⟨behind, w, first, rfl⟩
        exact ⟨behind + 1, w, ⟨behind, rfl, first⟩, by rw [Nat.add_assoc, Nat.add_comm 1]⟩
      · rintro ⟨_, w, ⟨behind, rfl, first⟩, rfl⟩
        exact ⟨behind, w, first, by rw [Nat.add_assoc, Nat.add_comm 1]⟩
    · have stop : joinTexts start (v :: vs) = .error (.notText start v) := by
        cases v with
        | str s => exact absurd rfl (other s)
        | _ => rfl
      simp only [stop, Except.error.injEq, firstOther_cons_other other]
      constructor
      · rintro rfl
        exact ⟨0, v, ⟨rfl, rfl⟩, rfl⟩
      · rintro ⟨_, _, ⟨rfl, rfl⟩, rfl⟩
        rfl

theorem commaSeparated_eq_error_iff :
    commaSeparated vs = .error failure ↔
      ∃ index v, FirstOther vs index v ∧ failure = .notText index v := by
  have same : commaSeparated vs = .error failure ↔ joinTexts 0 vs = .error failure := by
    rw [commaSeparated]
    cases joinTexts 0 vs <;> simp [Except.map]
  rw [same, joinTexts_eq_error_iff]
  simp only [Nat.zero_add]

theorem exists_commaSeparated_iff : (∃ text, commaSeparated vs = .ok text) ↔ Texts vs := by
  rw [texts_iff]
  cases h : commaSeparated vs with
  | ok text =>
    refine iff_of_true ⟨text, rfl⟩ ?_
    rintro ⟨index, v, first⟩
    have failed := commaSeparated_eq_error_iff.mpr ⟨index, v, first, rfl⟩
    rw [h] at failed
    cases failed
  | error failure =>
    obtain ⟨index, v, first, -⟩ := commaSeparated_eq_error_iff.mp h
    exact iff_of_false (fun ⟨_, made⟩ => nomatch made) (not_not_intro ⟨index, v, first⟩)

theorem describe_eq_error_iff {c : Config} {rcfile : Option String} :
    c.describe rcfile = .error failure ↔
      ∃ index v, failure = .notText index v ∧ (FirstOther (c.excluded.take excludedShown) index v ∨
        Texts (c.excluded.take excludedShown) ∧ FirstOther c.included index v) := by
  have steps : c.describe rcfile = .error failure ↔
      commaSeparated (c.excluded.take excludedShown) = .error failure ∨
        (∃ text, commaSeparated (c.excluded.take excludedShown) = .ok text) ∧
          commaSeparated c.included = .error failure := by
    rw [describe]
    cases commaSeparated (c.excluded.take excludedShown) with
    | error e => simp
    | ok text => cases commaSeparated c.included <;> simp
  rw [steps, exists_commaSeparated_iff, commaSeparated_eq_error_iff, commaSeparated_eq_error_iff]
  constructor
  · rintro (⟨index, v, first, rfl⟩ | ⟨texts, index, v, first, rfl⟩)
    · exact ⟨index, v, rfl, .inl first⟩
    · exact ⟨index, v, rfl, .inr ⟨texts, first⟩⟩
  · rintro ⟨index, v, rfl, first | ⟨texts, first⟩⟩
    · exact .inl ⟨index, v, first, rfl⟩
    · exact .inr ⟨texts, index, v, first, rfl⟩

end Config

namespace Pattern

theorem matchValue_of_other (path : List Char) {v : Value} (h : ∀ s, v ≠ .str s) :
    ∃ failure, matchValue path v = .error failure := by
  cases v with
  | str s => exact absurd rfl (h s)
  | list items =>
    rw [matchValue]
    split <;> exact ⟨_, rfl⟩
  | table entries =>
    rw [matchValue]
    split <;> exact ⟨_, rfl⟩
  | _ => exact ⟨_, rfl⟩

theorem anyMatch_eq_error_iff {path : List Char} {vs : List Value} {failure : Failure} :
    anyMatch path vs = .error failure ↔
      ∃ index v, FirstOther vs index v ∧ matchValue path v = .error failure ∧
        ∀ s, .str s ∈ vs.take index → glob s.toList path = false := by
  induction vs with
  | nil => simp [anyMatch]
  | cons v vs ih =>
    rcases text_or_other v with ⟨s, rfl⟩ | other
    · rw [anyMatch, matchValue]
      simp only [firstOther_cons_text]
      cases found : glob s.toList path with
      | true =>
        simp only [reduceCtorEq, false_iff]
        rintro ⟨_, w, ⟨behind, rfl, -⟩, -, unmatched⟩
        rw [unmatched s (by simp)] at found
        cases found
      | false =>
        rw [ih]
        constructor
        · rintro ⟨behind, w, first, failed, unmatched⟩
          refine ⟨behind + 1, w, ⟨behind, rfl, first⟩, failed, fun t ht => ?_⟩
          rcases List.mem_cons.mp ht with same | ht
          · cases same
            exact found
          · exact unmatched t ht
        · rintro ⟨_, w, ⟨behind, rfl, first⟩, failed, unmatched⟩
          exact ⟨behind, w, first, failed, fun t ht => unmatched t (List.mem_cons_of_mem _ ht)⟩
    · obtain ⟨e, failed⟩ := matchValue_of_other path other
      simp only [anyMatch, failed, Except.error.injEq, firstOther_cons_other other]
      constructor
      · rintro rfl
        exact ⟨0, v, ⟨rfl, rfl⟩, failed, by simp⟩
      · rintro ⟨_, _, ⟨rfl, rfl⟩, same, -⟩
        rw [failed, Except.error.injEq] at same
        exact same

end Pattern

structure Config.Usable (c : Config) : Prop where
  texts : c.TextPatterns
  described (rcfile : Option String) : ∃ text, c.describe rcfile = .ok text
  matched {patterns : List Value} (own : patterns = c.included ∨ patterns = c.excluded)
    (file base : Path) : ∃ found, Pattern.matchesAny file base patterns = .ok found

theorem Config.usable_of_texts {c : Config} (texts : c.TextPatterns) : c.Usable where
  texts := texts
  described rcfile := by
    cases h : c.describe rcfile with
    | ok text => exact ⟨text, rfl⟩
    | error failure =>
      obtain ⟨index, v, -, first | ⟨-, first⟩⟩ := describe_eq_error_iff.mp h
      · have shown : Texts (c.excluded.take excludedShown) :=
          fun v hv => texts.excluded v (List.mem_of_mem_take hv)
        exact absurd ⟨index, v, first⟩ (texts_iff.mp shown)
      · exact absurd ⟨index, v, first⟩ (texts_iff.mp texts.included)
  matched := by
    rintro patterns (rfl | rfl) file base
    · exact Pattern.anyMatch_of_texts _ texts.included
    · exact Pattern.anyMatch_of_texts _ texts.excluded

namespace Settings

def Takes (settings : Table) (key : String) (default : List String) (vs : List Value) : Prop :=
  get? settings key = none ∧ vs = default.map .str ∨ get? settings key = some (.list vs)

variable {settings : Table} {key : String} {default : List String} {vs : List Value}

theorem patterns_eq_good_iff :
    patterns settings key default = .good vs ↔ Takes settings key default vs := by
  rw [patterns, setting_eq_good_iff, Takes]
  refine or_congr_right ⟨?_, fun given => ⟨_, given, rfl⟩⟩
  rintro ⟨v, given, good⟩
  cases v with
  | list items => rw [given, Checked.good_inj.mp good]
  | _ => exact absurd good Checked.bad_ne_good

theorem texts_iff_of_takes (h : Takes settings key default vs) :
    Texts vs ↔ ∀ items, get? settings key = some (.list items) → Texts items := by
  rcases h with ⟨absent, rfl⟩ | given
  · simp [absent, Texts]
  · simp [given]

theorem takes_of_nil (h : (patterns settings key default).problems = []) :
    Takes settings key default (patterns settings key default).value :=
  patterns_eq_good_iff.mp (Checked.eq_good_iff.mpr ⟨rfl, h⟩)

/-- An accepted configuration is usable if the items of the given lists are texts, and only then;
otherwise the first that is none ends whatever comes to it. -/
theorem usable_iff_given_texts {path : Option Path} {c : Config}
    (accepted : toConfig settings path = .ok c) :
    Takes settings "include" defaultIncluded c.included ∧
      Takes settings "exclude" defaultExcluded c.excluded ∧
      (c.Usable ↔ ∀ key, key = "include" ∨ key = "exclude" →
        ∀ items, get? settings key = some (.list items) → Texts items) ∧
      (∀ rcfile failure, c.describe rcfile = .error failure ↔
        ∃ index v, failure = .notText index v ∧
          (FirstOther (c.excluded.take Config.excludedShown) index v ∨
            Texts (c.excluded.take Config.excludedShown) ∧ FirstOther c.included index v)) ∧
      ∀ patterns, patterns = c.included ∨ patterns = c.excluded → ∀ file base failure,
        Pattern.matchesAny file base patterns = .error failure ↔
          ∃ index v, FirstOther patterns index v ∧
            Pattern.matchValue (Pattern.relativeText file base) v = .error failure ∧
            ∀ s, .str s ∈ patterns.take index →
              Pattern.glob s.toList (Pattern.relativeText file base) = false := by
  obtain ⟨none, rfl⟩ := toConfig_eq_ok_iff.mp accepted
  rw [problems_eq_flatMap, List.flatMap_eq_nil_iff] at none
  have included := takes_of_nil (none "include" (by decide))
  have excluded := takes_of_nil (none "exclude" (by decide))
  refine ⟨included, excluded, ?_, fun _ _ => Config.describe_eq_error_iff,
    fun _ _ _ _ _ => Pattern.anyMatch_eq_error_iff⟩
  constructor
  · rintro usable key (rfl | rfl)
    · exact (texts_iff_of_takes included).mp usable.texts.included
    · exact (texts_iff_of_takes excluded).mp usable.texts.excluded
  · intro given
    exact Config.usable_of_texts ⟨(texts_iff_of_takes included).mpr (given _ (.inl rfl)),
      (texts_iff_of_takes excluded).mpr (given _ (.inr rfl))⟩

def sitePatterns : Table := [("include", .ofStrings ["site/**/*.mako", "*.mak"]), ("exclude", .list [])]

theorem usable_sitePatterns : ∃ c, toConfig sitePatterns none = .ok c ∧ c.excluded = [] ∧ c.Usable := by
  have accepted : toConfig sitePatterns none = .ok (mended sitePatterns none) := toConfig_of_nil rfl
  obtain ⟨-, excluded, usable, -⟩ := usable_iff_given_texts accepted
  refine ⟨_, accepted, ?_, usable.mpr ?_⟩
  · rcases excluded with ⟨absent, -⟩ | given
    · cases absent
    · cases given
      rfl
  · rintro key (rfl | rfl) items given
    · cases given
      simp [Texts]
    · cases given
      simp [Texts]

def numberPatterns : Table := [("include", .list [.int 1])]

theorem accepted_not_usable :
    ∃ c, toConfig numberPatterns none = .ok c ∧ ¬ c.TextPatterns ∧
      c.describe none = .error (.notText 0 (.int 1)) ∧
      ∀ file base, Pattern.matchesAny file base c.included = .error (.notSearchable (.int 1)) := by
  refine ⟨mended numberPatterns none, toConfig_of_nil rfl, ?_, rfl, fun file base => rfl⟩
  intro texts
  obtain ⟨s, hs⟩ := texts.included (.int 1) (List.mem_singleton_self _)
  cases hs

end Settings

end TemplateLint
