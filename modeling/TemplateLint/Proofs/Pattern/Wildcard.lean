import TemplateLint.Pattern.Wildcard

namespace TemplateLint.Pattern

def Plain (cs : List Char) : Prop := ∀ c ∈ cs, c ≠ '*' ∧ c ≠ '?' ∧ c ≠ '['

instance (cs : List Char) : Decidable (Plain cs) := List.decidableBAll _ cs

variable {cs rest text : List Char}

theorem plain_append : Plain (cs ++ rest) ↔ Plain cs ∧ Plain rest := List.forall_mem_append

theorem plain_slash : Plain ['/'] := by decide

theorem items_cons_plain {c : Char} (h : c ≠ '*' ∧ c ≠ '?' ∧ c ≠ '[') (rest : List Char) :
    items (c :: rest) = .char c :: items rest := by
  obtain ⟨star, mark, bracket⟩ := h
  rw [items] <;> simp [star, mark, bracket]

theorem items_star (h : rest.head? ≠ some '*') : items ('*' :: rest) = .run :: items rest := by
  rw [items]
  intro cs same
  rw [same] at h
  exact h rfl

theorem items_stars (h : rest.head? ≠ some '*') :
    items ('*' :: '*' :: rest) = .run :: items rest := by
  rw [items, items_star h]

theorem items_run (cs : List Char) : ∃ later, items ('*' :: cs) = .run :: later := by
  induction cs with
  | nil => exact ⟨_, items_star (by simp)⟩
  | cons c cs ih =>
    by_cases star : c = '*'
    · subst star
      rwa [items]
    · exact ⟨_, items_star (by simpa using star)⟩

theorem matchItems_char_iff {c : Char} {later : List Item} :
    matchItems (.char c :: later) text = true ↔
      ∃ after, text = c :: after ∧ matchItems later after = true := by
  cases text with
  | nil => simp [matchItems]
  | cons d text =>
    rw [matchItems, Bool.and_eq_true, beq_iff_eq]
    constructor
    · rintro ⟨rfl, h⟩
      exact ⟨text, rfl, h⟩
    · rintro ⟨after, same, h⟩
      cases same
      exact ⟨rfl, h⟩

theorem matchItems_run_iff {later : List Item} :
    matchItems (.run :: later) text = true ↔
      ∃ skipped after, text = skipped ++ after ∧ matchItems later after = true := by
  induction text with
  | nil =>
    rw [matchItems]
    constructor
    · intro h
      exact ⟨[], [], rfl, h⟩
    · rintro ⟨skipped, after, same, h⟩
      obtain ⟨-, rfl⟩ := List.append_eq_nil_iff.mp same.symm
      exact h
  | cons c text ih =>
    rw [matchItems, Bool.or_eq_true, ih]
    constructor
    · rintro (here | ⟨skipped, after, rfl, h⟩)
      · exact ⟨[], c :: text, rfl, here⟩
      · exact ⟨c :: skipped, after, rfl, h⟩
    · rintro ⟨skipped, after, same, h⟩
      cases skipped with
      | nil => exact .inl (same ▸ h)
      | cons d skipped =>
        cases same
        exact .inr ⟨skipped, after, rfl, h⟩

theorem wildcard_nil_iff : wildcard [] text = true ↔ text = [] := by
  simp [wildcard, items, matchItems]

theorem wildcard_append_iff (plain : Plain cs) :
    wildcard (cs ++ rest) text = true ↔ ∃ after, text = cs ++ after ∧ wildcard rest after = true := by
  induction cs generalizing text with
  | nil => simp
  | cons c cs ih =>
    obtain ⟨first, others⟩ := List.forall_mem_cons.mp plain
    have step {text : List Char} : wildcard (c :: cs ++ rest) text = true ↔
        ∃ after, text = c :: after ∧ wildcard (cs ++ rest) after = true := by
      rw [wildcard, List.cons_append, items_cons_plain first, matchItems_char_iff]
      rfl
    rw [step]
    simp only [ih others]
    constructor
    · rintro ⟨_, rfl, after, rfl, h⟩
      exact ⟨after, rfl, h⟩
    · rintro ⟨after, rfl, h⟩
      exact ⟨cs ++ after, rfl, after, rfl, h⟩

theorem wildcard_plain_iff (plain : Plain cs) : wildcard cs text = true ↔ text = cs := by
  have whole : wildcard (cs ++ []) text = true ↔ _ := wildcard_append_iff plain
  rw [List.append_nil] at whole
  simp [whole, wildcard_nil_iff]

theorem wildcard_star_iff (h : rest.head? ≠ some '*') :
    wildcard ('*' :: rest) text = true ↔
      ∃ skipped after, text = skipped ++ after ∧ wildcard rest after = true := by
  rw [wildcard, items_star h, matchItems_run_iff]
  rfl

theorem wildcard_star (text : List Char) : wildcard ['*'] text = true := by
  rw [wildcard_star_iff (by simp)]
  exact ⟨text, [], (List.append_nil text).symm, wildcard_nil_iff.mpr rfl⟩

theorem wildcard_stars_iff (h : rest.head? ≠ some '*') :
    wildcard ('*' :: '*' :: rest) text = true ↔
      ∃ skipped after, text = skipped ++ after ∧ wildcard rest after = true := by
  rw [← wildcard_star_iff h, wildcard, wildcard, items_stars h, items_star h]

end TemplateLint.Pattern
