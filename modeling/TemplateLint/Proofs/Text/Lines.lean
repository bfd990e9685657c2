import TemplateLint.Text.Lines

namespace TemplateLint.Text

variable {sep : Char}

theorem splitOn_ne_nil (sep : Char) (cs : List Char) : splitOn sep cs ≠ [] := by
  cases cs with
  | nil => simp
  | cons c cs =>
    unfold splitOn
    split
    · simp
    · split <;> simp

theorem splitOn_append (cs ds : List Char) :
    splitOn sep (cs ++ sep :: ds) = splitOn sep cs ++ splitOn sep ds := by
  induction cs with
  | nil => simp
  | cons c cs ih =>
    by_cases hc : c = sep
    · simp [hc, ih]
    · obtain ⟨piece, pieces, hp⟩ := List.exists_cons_of_ne_nil (splitOn_ne_nil sep cs)
      grind

theorem splitOn_of_not_mem {cs : List Char} (h : sep ∉ cs) : splitOn sep cs = [cs] := by
  induction cs with
  | nil => rfl
  | cons c cs ih =>
    obtain ⟨hc, hcs⟩ := not_or.mp (mt List.mem_cons.mpr h)
    exact splitOn_cons_of_ne (Ne.symm hc) (ih hcs)

theorem length_splitOn (cs : List Char) : (splitOn sep cs).length = cs.count sep + 1 := by
  induction cs with
  | nil => rfl
  | cons c cs ih =>
    by_cases hc : c = sep
    · simp [hc, ih]
    · obtain ⟨piece, pieces, hp⟩ := List.exists_cons_of_ne_nil (splitOn_ne_nil sep cs)
      grind

theorem not_mem_of_mem_splitOn {cs piece : List Char} (h : piece ∈ splitOn sep cs) :
    sep ∉ piece := by
  induction cs generalizing piece with
  | nil => simp_all
  | cons c cs ih =>
    by_cases hc : c = sep
    · rw [hc, splitOn_cons_self, List.mem_cons] at h
      rcases h with rfl | h
      · simp
      · exact ih h
    · obtain ⟨first, pieces, hp⟩ := List.exists_cons_of_ne_nil (splitOn_ne_nil sep cs)
      rw [splitOn_cons_of_ne hc hp, List.mem_cons] at h
      rcases h with rfl | h
      · simpa [Ne.symm hc] using ih (hp ▸ List.mem_cons_self)
      · exact ih (hp ▸ List.mem_cons_of_mem _ h)

theorem splitOn_join {pieces : List (List Char)} (h : pieces ≠ []) :
    splitOn sep (join [sep] pieces) = pieces.flatMap (splitOn sep) := by
  induction pieces with
  | nil => exact absurd rfl h
  | cons piece pieces ih =>
    cases pieces with
    | nil => simp
    | cons next pieces =>
      rw [List.flatMap_cons, ← ih (by simp), ← splitOn_append]
      simp [join]

@[grind =] theorem join_cons_of_ne_nil (sep piece : List Char) {pieces : List (List Char)} (h : pieces ≠ []) :
    join sep (piece :: pieces) = piece ++ sep ++ join sep pieces := by
  cases pieces with
  | nil => exact absurd rfl h
  | cons next pieces => rfl

theorem splitOn_join_of_not_mem {pieces : List (List Char)} (h : pieces ≠ [])
    (whole : ∀ piece ∈ pieces, sep ∉ piece) : splitOn sep (join [sep] pieces) = pieces := by
  rw [splitOn_join h]
  clear h
  induction pieces with
  | nil => rfl
  | cons piece pieces ih =>
    obtain ⟨first, others⟩ := List.forall_mem_cons.mp whole
    rw [List.flatMap_cons, splitOn_of_not_mem first, ih others, List.singleton_append]

theorem join_eq_iff_of_not_mem {pieces : List (List Char)} {text : List Char} (h : pieces ≠ [])
    (whole : ∀ piece ∈ pieces, sep ∉ piece) (one : sep ∉ text) :
    join [sep] pieces = text ↔ pieces = [text] := by
  constructor
  · intro same
    have cut := splitOn_join_of_not_mem h whole
    rw [same, splitOn_of_not_mem one] at cut
    exact cut.symm
  · rintro rfl
    exact join_singleton _ _

theorem join_splitOn (sep : Char) (cs : List Char) : join [sep] (splitOn sep cs) = cs := by
  induction cs with
  | nil => rfl
  | cons c cs ih =>
    by_cases hc : c = sep
    · rw [hc, splitOn_cons_self, join_cons_of_ne_nil _ _ (splitOn_ne_nil sep cs), ih]
      rfl
    · obtain ⟨piece, pieces, hp⟩ := List.exists_cons_of_ne_nil (splitOn_ne_nil sep cs)
      rw [hp] at ih
      rw [splitOn_cons_of_ne hc hp, ← ih]
      cases pieces <;> rfl

theorem join_append (sep : List Char) {front back : List (List Char)} (hf : front ≠ [])
    (hb : back ≠ []) : join sep (front ++ back) = join sep front ++ sep ++ join sep back := by
  induction front with
  | nil => exact absurd rfl hf
  | cons piece pieces ih =>
    cases pieces with
    | nil => grind
    | cons next pieces => grind

theorem map_join (f : Char → Char) (sep : List Char) (pieces : List (List Char)) :
    (join sep pieces).map f = join (sep.map f) (pieces.map (List.map f)) := by
  induction pieces with
  | nil => rfl
  | cons piece pieces ih =>
    by_cases last : pieces = []
    · subst last
      rfl
    · rw [List.map_cons, join_cons_of_ne_nil _ _ last,
        join_cons_of_ne_nil _ _ (by simpa using last), List.map_append, List.map_append, ih]

theorem isSuffix_join_concat (sep last : List Char) (front : List (List Char)) :
    last <:+ join sep (front ++ [last]) := by
  by_cases hf : front = []
  · subst hf
    exact List.suffix_rfl
  · rw [join_append sep hf (List.cons_ne_nil last [])]
    exact List.suffix_append _ _

theorem join_eq_append_iff {pieces : List (List Char)} (whole : ∀ piece ∈ pieces, sep ∉ piece)
    {before after : List Char} :
    join [sep] pieces = before ++ sep :: after ↔
      ∃ front back, front ≠ [] ∧ back ≠ [] ∧ pieces = front ++ back ∧ join [sep] front = before ∧
        join [sep] back = after := by
  constructor
  · intro same
    have some_piece : pieces ≠ [] := by
      rintro rfl
      cases before <;> cases same
    have cut := splitOn_join_of_not_mem some_piece whole
    rw [same, splitOn_append] at cut
    exact ⟨_, _, splitOn_ne_nil sep before, splitOn_ne_nil sep after, cut.symm,
      join_splitOn sep before, join_splitOn sep after⟩
  · rintro ⟨front, back, hf, hb, rfl, rfl, rfl⟩
    rw [join_append [sep] hf hb]
    simp

theorem join_eq_join_append_iff {pieces front : List (List Char)}
    (whole : ∀ piece ∈ pieces, sep ∉ piece) (whole' : ∀ piece ∈ front, sep ∉ piece)
    (hf : front ≠ []) {after : List Char} :
    join [sep] pieces = join [sep] front ++ sep :: after ↔
      ∃ back, back ≠ [] ∧ pieces = front ++ back ∧ join [sep] back = after := by
  rw [join_eq_append_iff whole]
  constructor
  · rintro ⟨own, back, ho, hb, rfl, same, rfl⟩
    have cut := splitOn_join_of_not_mem ho (List.forall_mem_append.mp whole).1
    rw [same, splitOn_join_of_not_mem hf whole'] at cut
    exact ⟨back, hb, by rw [cut], rfl⟩
  · rintro ⟨back, hb, rfl, rfl⟩
    exact ⟨front, back, hf, hb, rfl, rfl, rfl⟩

theorem mem_of_mem_join {c : Char} {between : List Char} {pieces : List (List Char)}
    (h : c ∈ join between pieces) : c ∈ between ∨ ∃ piece ∈ pieces, c ∈ piece := by
  induction pieces with
  | nil => cases h
  | cons piece pieces ih =>
    by_cases last : pieces = []
    · subst last
      exact .inr ⟨piece, List.mem_cons_self, h⟩
    · rw [join_cons_of_ne_nil _ _ last, List.append_assoc, List.mem_append, List.mem_append] at h
      rcases h with here | separator | later
      · exact .inr ⟨piece, List.mem_cons_self, here⟩
      · exact .inl separator
      · rcases ih later with separator | ⟨next, hn, h⟩
        · exact .inl separator
        · exact .inr ⟨next, List.mem_cons_of_mem _ hn, h⟩

end TemplateLint.Text
