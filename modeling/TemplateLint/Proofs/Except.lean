namespace TemplateLint

section

variable {ε α β : Type}

@[simp] theorem ok_bind (a : α) (f : α → Except ε β) : (.ok a : Except ε α) >>= f = f a := rfl

@[simp] theorem error_bind (e : ε) (f : α → Except ε β) :
    (.error e : Except ε α) >>= f = .error e := rfl

@[simp] theorem pure_eq_ok (a : α) : (pure a : Except ε α) = .ok a := rfl

theorem mapM_cases (f : α → Except ε β) (xs : List α) :
    (∃ ys, xs.mapM f = .ok ys ∧ ∀ x ∈ xs, ∃ y, f x = .ok y) ∨
      ∃ x ∈ xs, ∃ e, f x = .error e ∧ xs.mapM f = .error e := by
  induction xs with
  | nil => exact .inl ⟨[], rfl, by simp⟩
  | cons x xs ih =>
    rw [List.mapM_cons]
    cases hx : f x with
    | error e => exact .inr ⟨x, List.mem_cons_self, e, hx, rfl⟩
    | ok y =>
      rcases ih with ⟨ys, hys, all⟩ | ⟨z, hz, e, he, hxs⟩
      · refine .inl ⟨y :: ys, by simp [hys], ?_⟩
        exact List.forall_mem_cons.mpr ⟨⟨y, hx⟩, all⟩
      · exact .inr ⟨z, List.mem_cons_of_mem x hz, e, he, by simp [hxs]⟩

theorem mapM_flatten_of_each {f : α → Except ε (List β)} {Gives : α → β → Prop} (xs : List α)
    (each : ∀ x ∈ xs, ∃ ys, f x = .ok ys ∧ ∀ y, y ∈ ys ↔ Gives x y) :
    ∃ yss, xs.mapM f = .ok yss ∧ ∀ y, y ∈ yss.flatten ↔ ∃ x ∈ xs, Gives x y := by
  induction xs with
  | nil => exact ⟨[], rfl, by simp⟩
  | cons x xs ih =>
    obtain ⟨⟨here, hhere, first⟩, others⟩ := List.forall_mem_cons.mp each
    obtain ⟨later, hlater, rest⟩ := ih others
    refine ⟨here :: later, by simp [hhere, hlater], ?_⟩
    intro y
    simp [first, rest]

end

end TemplateLint
