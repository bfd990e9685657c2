import TemplateLint.Proofs.Fragment.Passage

namespace TemplateLint.Fragment

open Builder

inductive Closing (source : List String) (nodes : List Node) : Builder → Prop
  | within {before after : List Step} {s : Step} (order : steps nodes = before ++ s :: after)
      (closes : s.closes (empty.run source before) = true) :
      Closing source nodes (empty.run source before)
  | behind {n : Nat} (left : n < (empty.run source (steps nodes)).bodies.length) :
      Closing source nodes (closeBlock^[n] (empty.run source (steps nodes)))

theorem chars_pass (depth : Nat) : (pass depth).chars = indented depth "pass".toList := by
  simp [Line.chars, pass]

theorem lines_closeBlock_of_empty {b : Builder} (h : b.bodies.head? = some false) :
    b.closeBlock.lines = b.lines ++ [pass b.depth] := by
  cases hs : b.bodies with
  | nil => rw [hs] at h; cases h
  | cons body bodies =>
    rw [hs, List.head?_cons, Option.some.injEq] at h
    rw [closeBlock_of_cons hs, h]
    rfl

def Explained (states : Builder → Prop) (ls : List Line) : Prop :=
  ∀ i l, ls[i]? = some l → l.mapped = false →
    ∃ b, states b ∧ b.bodies.head? = some false ∧ ls.take i = b.lines ∧
      ls.take (i + 1) = b.closeBlock.lines

section

variable {states : Builder → Prop} {ls : List Line} {b : Builder}

theorem explained_append {l : Line} (h : Explained states ls)
    (new : l.mapped = false → ∃ b, states b ∧ b.bodies.head? = some false ∧ ls = b.lines ∧
      ls ++ [l] = b.closeBlock.lines) :
    Explained states (ls ++ [l]) := by
  intro i m hm unmapped
  rcases Nat.lt_trichotomy i ls.length with old | rfl | beyond
  · rw [List.getElem?_append_left old] at hm
    rw [List.take_append_of_le_length (by omega), List.take_append_of_le_length (by omega)]
    exact h i m hm unmapped
  · rw [List.getElem?_concat_length, Option.some.injEq] at hm
    subst hm
    obtain ⟨b, hb, empty_body, before, after⟩ := new unmapped
    refine ⟨b, hb, empty_body, by rw [List.take_left, before], ?_⟩
    rw [List.take_of_length_le (by simp), after]
  · rw [List.getElem?_eq_none (by simp; omega)] at hm
    cases hm

theorem explained_put (source : List String) (x : Excerpt) (h : Explained states b.lines) :
    Explained states (b.put source x).lines := by
  rw [put_eq]
  refine explained_append h ?_
  rw [mapped_at]
  intro unmapped
  cases unmapped

theorem explained_closeBlock (h : Explained states b.lines) (hb : states b) :
    Explained states b.closeBlock.lines := by
  cases hs : b.bodies with
  | nil => rwa [closeBlock_of_nil hs]
  | cons body bodies =>
    cases body with
    | true => rw [closeBlock_of_cons hs]; exact h
    | false =>
      have empty_body : b.bodies.head? = some false := by rw [hs]; rfl
      have added := lines_closeBlock_of_empty empty_body
      rw [added]
      exact explained_append h fun _ => ⟨b, hb, empty_body, rfl, added.symm⟩

theorem explained_iterate {n : Nat} (h : Explained states b.lines)
    (hb : ∀ m < n, states (closeBlock^[m] b)) : Explained states (closeBlock^[n] b).lines := by
  induction n with
  | zero => exact h
  | succ n ih =>
    rw [Function.iterate_succ_apply']
    exact explained_closeBlock (ih fun m hm => hb m (by omega)) (hb n (by omega))

theorem explained_step (source : List String) {s : Step} (h : Explained states b.lines)
    (hb : s.closes b = true → states b) : Explained states (b.step source s).lines := by
  have before : Explained states (if s.closes b then b.closeBlock else b).lines := by
    cases closes : s.closes b with
    | true => exact explained_closeBlock h (hb closes)
    | false => exact h
  rw [step_eq]
  cases s.excerpt? with
  | none => exact before
  | some x =>
    have written := explained_put source x before
    cases s.opens b with
    | true => exact written
    | false => exact written

end

section

variable (source : List String) {nodes : List Node}

theorem explained_run {before after : List Step} (order : steps nodes = before ++ after)
    (h : Explained (Closing source nodes) (empty.run source before).lines) :
    Explained (Closing source nodes) (empty.run source (steps nodes)).lines := by
  induction after generalizing before with
  | nil => rwa [order, List.append_nil]
  | cons s after ih =>
    have later : steps nodes = (before ++ [s]) ++ after := by rw [order, List.append_assoc]; rfl
    apply ih later
    rw [run_append]
    exact explained_step source h fun closes => .within order closes

theorem explained_lines (nodes : List Node) :
    Explained (Closing source nodes) (lines source nodes) := by
  have start : Explained (Closing source nodes) (empty.run source []).lines := by
    intro i l hl
    cases hl
  have run := explained_run source (show steps nodes = [] ++ steps nodes from rfl) start
  rw [lines_eq_run, finish_eq_iterate]
  exact explained_iterate run fun m hm => .behind hm

end

/-- The lines with an entry in the source map are the passages of the tree, in order and on their
template lines. A line without one reads `pass` and was written to end a block. -/
theorem entered_lines_are_passages (source : List String) (nodes : List Node) :
    let ls := lines source nodes
    let e := Extracted.ofNodes source nodes
    e.text = String.ofList (Text.join ['\n'] (ls.map Line.chars)) ∧
      List.Forall₂ (fun row p => row.1.chars = indented row.1.depth p.code) (entered e.map ls)
        (passages nodes) ∧
      e.map.keys = (entered e.map ls).map (fun row => (row.2 + 1 : Int)) ∧
      e.map.entries.map (fun entry => entry.2.line) = (passages nodes).map Passage.line ∧
      ∀ (i : Nat) l, ls[i]? = some l → e.map.contains (i + 1) = false →
        ∃ b, Closing source nodes b ∧ b.bodies.head? = some false ∧ ls.take i = b.lines ∧
          b.closeBlock.lines = b.lines ++ [l] ∧ l.chars = indented b.depth "pass".toList := by
  refine ⟨rfl, ?_, keys_ofLines _, lines_entries source nodes, ?_⟩
  · have copies := mapped_lines source nodes
    rw [← lines_entered, List.forall₂_map_left_iff] at copies
    rw [← passages_excerpts, List.forall₂_map_right_iff]
    refine copies.imp ?_
    intro row x copy
    rw [Line.chars, copy, Excerpt.at, String.toList_ofList]
    rfl
  · intro i l hl no_entry
    have unmapped : l.mapped = false := (contains_ofLines hl).symm.trans no_entry
    obtain ⟨b, closing, empty_body, before, after⟩ := explained_lines source nodes i l hl unmapped
    have added : b.closeBlock.lines = b.lines ++ [l] := by
      rw [← after, List.take_add_one, hl, before]
      rfl
    have same : pass b.depth = l := by
      simpa [lines_closeBlock_of_empty empty_body] using added
    exact ⟨b, closing, empty_body, before, added, by rw [← same, chars_pass]⟩

end TemplateLint.Fragment
