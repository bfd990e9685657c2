import TemplateLint.Journal

namespace TemplateLint.Traced

variable {α β γ : Type}

@[simp] theorem outcome_pure (a : α) : (Pure.pure a : Traced α).outcome = .ok a := rfl

@[simp] theorem outcome_ofExcept (x : Except Failure α) : (ofExcept x).outcome = x := rfl

@[simp] theorem outcome_enter (event : Event) : (enter event).outcome = .ok () := rfl

@[simp] theorem analyses_enter_analyze (fragment name : String) :
    (enter (.analyze fragment name)).analyses = [(fragment, name)] := rfl

section

variable {x : Traced α} {a : α} {failure : Failure}

theorem bind_of_ok (h : x.outcome = .ok a) (f : α → Traced β) :
    x >>= f = ⟨x.events ++ (f a).events, (f a).outcome⟩ := by
  change Traced.bind x f = _
  rw [Traced.bind, h]

theorem bind_of_error (h : x.outcome = .error failure) (f : α → Traced β) :
    x >>= f = ⟨x.events, .error failure⟩ := by
  change Traced.bind x f = _
  rw [Traced.bind, h]

theorem outcome_bind_of_ok (h : x.outcome = .ok a) (f : α → Traced β) :
    (x >>= f).outcome = (f a).outcome := by
  rw [bind_of_ok h]

theorem outcome_bind_of_error (h : x.outcome = .error failure) (f : α → Traced β) :
    (x >>= f).outcome = .error failure := by
  rw [bind_of_error h]

theorem analyses_bind_of_ok (h : x.outcome = .ok a) (f : α → Traced β) :
    (x >>= f).analyses = x.analyses ++ (f a).analyses := by
  rw [bind_of_ok h, analyses, List.filterMap_append]
  rfl

theorem analyses_bind_of_error (h : x.outcome = .error failure) (f : α → Traced β) :
    (x >>= f).analyses = x.analyses := by
  rw [bind_of_error h]
  rfl

end

theorem outcome_bind_of_answers {x : Traced α} {f : α → Traced β} {g : α → β}
    (h : ∀ a, (f a).outcome = .ok (g a)) : (x >>= f).outcome = x.outcome.map g := by
  cases hx : x.outcome with
  | error failure => rw [outcome_bind_of_error hx]; rfl
  | ok a => rw [outcome_bind_of_ok hx, h]; rfl

theorem analyses_bind_of_silent {x : Traced α} {f : α → Traced β} (h : ∀ a, (f a).analyses = []) :
    (x >>= f).analyses = x.analyses := by
  cases hx : x.outcome with
  | error failure => exact analyses_bind_of_error hx f
  | ok a => rw [analyses_bind_of_ok hx, h, List.append_nil]

@[simp] theorem outcome_log_bind (level : Level) (part : Part) (text : String) (f : Unit → Traced β) :
    (log level part text >>= f).outcome = (f ()).outcome := rfl

@[simp] theorem analyses_log_bind (level : Level) (part : Part) (text : String) (f : Unit → Traced β) :
    (log level part text >>= f).analyses = (f ()).analyses := rfl

@[simp] theorem bind_ofExcept_ok (a : α) (f : α → Traced β) : ofExcept (.ok a) >>= f = f a := by
  rw [bind_of_ok (outcome_ofExcept _)]
  rfl

def map (g : α → β) (x : Traced α) : Traced β := ⟨x.events, x.outcome.map g⟩

theorem map_bind (g : β → γ) (x : Traced α) (f : α → Traced β) :
    (x >>= f).map g = x >>= fun a => (f a).map g := by
  cases h : x.outcome with
  | error failure => rw [bind_of_error h, bind_of_error h]; rfl
  | ok a => rw [bind_of_ok h, bind_of_ok h]; rfl

end TemplateLint.Traced
