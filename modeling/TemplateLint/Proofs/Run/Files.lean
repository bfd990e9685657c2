import TemplateLint.Proofs.Run.Share

namespace TemplateLint.Run

open Discovery

variable {reader : Template.Reader} {site : Site} {invoke : Linter.Invoker} {config : Config}
  {file : Path} {files : List Path} {failure : Failure}

theorem lintFiles_cons_of_ok {ds : Diagnostics}
    (h : (lintTemplate invoke config (.ofFile reader site file)).outcome = .ok ds) (files : List Path) :
    (lintFiles reader site invoke config (file :: files)).outcome =
        (lintFiles reader site invoke config files).outcome.map (ds ++ ·) ∧
      (lintFiles reader site invoke config (file :: files)).analyses =
        (lintTemplate invoke config (.ofFile reader site file)).analyses ++
          (lintFiles reader site invoke config files).analyses := by
  rw [lintFiles, Traced.outcome_log_bind, Traced.outcome_bind_of_ok h, Traced.analyses_log_bind,
    Traced.analyses_bind_of_ok h, Traced.analyses_bind_of_silent fun _ => rfl]
  exact ⟨Traced.outcome_bind_of_answers fun _ => rfl, rfl⟩

theorem lintFiles_cons_of_error
    (h : (lintTemplate invoke config (.ofFile reader site file)).outcome = .error failure)
    (files : List Path) :
    (lintFiles reader site invoke config (file :: files)).outcome = .error failure ∧
      (lintFiles reader site invoke config (file :: files)).analyses =
        (lintTemplate invoke config (.ofFile reader site file)).analyses := by
  rw [lintFiles, Traced.outcome_log_bind, Traced.analyses_log_bind]
  exact ⟨Traced.outcome_bind_of_error h _, Traced.analyses_bind_of_error h _⟩

theorem lintFiles_of_answered (h : ∀ c ∈ files.filterMap (call? reader site config), Answered invoke c) :
    (lintFiles reader site invoke config files).outcome =
        .ok (files.flatMap (share reader site invoke config)) ∧
      (lintFiles reader site invoke config files).analyses =
        (files.filterMap (call? reader site config)).flatMap (entries invoke) := by
  rw [List.forall_mem_filterMap] at h
  induction files with
  | nil => exact ⟨rfl, rfl⟩
  | cons file files ih =>
    obtain ⟨here, later⟩ := List.forall_mem_cons.mp h
    obtain ⟨outcome, analyses⟩ := lintTemplate_of_answered here
    obtain ⟨outcomes, journal⟩ := lintFiles_cons_of_ok outcome files
    rw [outcomes, journal, analyses, (ih later).1, (ih later).2, List.flatMap_cons,
      List.filterMap_cons]
    cases call? reader site config file with
    | none => exact ⟨rfl, rfl⟩
    | some c => exact ⟨rfl, by simp⟩

theorem lintFiles_of_failing {before after : List (String × String)} {c : String × String}
    (order : files.filterMap (call? reader site config) = before ++ c :: after)
    (answered : ∀ b ∈ before, Answered invoke b)
    (fails : (invoke c.1 c.2).outcome = .error failure) :
    (lintFiles reader site invoke config files).outcome = .error failure ∧
      (lintFiles reader site invoke config files).analyses = (before ++ [c]).flatMap (entries invoke) := by
  induction files generalizing before with
  | nil => simp at order
  | cons file files ih =>
    rw [List.filterMap_cons] at order
    cases hf : call? reader site config file with
    | none =>
      rw [hf] at order
      obtain ⟨outcome, analyses⟩ := lintTemplate_of_none invoke hf
      obtain ⟨outcomes, journal⟩ := lintFiles_cons_of_ok outcome files
      obtain ⟨failed, calls⟩ := ih order answered
      rw [outcomes, journal, analyses, failed, calls]
      exact ⟨rfl, rfl⟩
    | some b =>
      rw [hf] at order
      obtain ⟨⟨map, outcome⟩, analyses⟩ := lintTemplate_of_some invoke hf
      cases before with
      | nil =>
        obtain ⟨rfl, -⟩ := List.cons.inj order
        rw [fails] at outcome
        obtain ⟨failed, journal⟩ := lintFiles_cons_of_error outcome files
        rw [failed, journal, analyses]
        exact ⟨rfl, by simp [entries]⟩
      | cons first before =>
        obtain ⟨rfl, later⟩ := List.cons.inj order
        obtain ⟨⟨offenses, answer⟩, answered⟩ := List.forall_mem_cons.mp answered
        rw [answer] at outcome
        obtain ⟨outcomes, journal⟩ := lintFiles_cons_of_ok outcome files
        obtain ⟨failed, calls⟩ := ih later answered
        rw [outcomes, journal, analyses, failed, calls]
        exact ⟨rfl, by simp [entries]⟩

end TemplateLint.Run
