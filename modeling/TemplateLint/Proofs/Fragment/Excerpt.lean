import Mathlib.Data.List.Forall2
import TemplateLint.Proofs.Fragment.Edit

namespace TemplateLint.Fragment

open Text

def Line.mapped (l : Line) : Bool := l.anchor.isSome

@[simp] theorem not_mapped_pass (depth : Nat) : (pass depth).mapped = false := rfl

@[simp] theorem mapped_at (x : Excerpt) (source : List String) (depth : Nat) :
    (x.at source depth).mapped = true := rfl

def mappedLines (ls : List Line) : List Line := ls.filter Line.mapped

@[simp] theorem mappedLines_nil : mappedLines [] = [] := rfl

@[simp] theorem mappedLines_append (ls ms : List Line) :
    mappedLines (ls ++ ms) = mappedLines ls ++ mappedLines ms := List.filter_append ..

@[simp] theorem mappedLines_cons (l : Line) (ls : List Line) :
    mappedLines (l :: ls) = if l.mapped then l :: mappedLines ls else mappedLines ls := List.filter_cons

def Copies (source : List String) (l : Line) (x : Excerpt) : Prop := l = x.at source l.depth

namespace Builder

variable (source : List String)

@[simp] theorem mapped_closeBlock (b : Builder) : mappedLines b.closeBlock.lines = mappedLines b.lines := by
  cases h : b.bodies with
  | nil => rw [closeBlock_of_nil h]
  | cons body bodies =>
    rw [closeBlock_of_cons h]
    cases body with
    | true => rfl
    | false => simp

theorem mapped_finish (b : Builder) : mappedLines b.finish.lines = mappedLines b.lines :=
  finish_induction (P := fun c => mappedLines c.lines = mappedLines b.lines) rfl fun c h =>
    (mapped_closeBlock c).trans h

theorem mapped_step (b : Builder) (s : Step) :
    ∃ depth, mappedLines (b.step source s).lines =
      mappedLines b.lines ++ (s.excerpt?.toList.map fun x => x.at source depth) := by
  rcases step_cases source b s with ⟨nothing, same | left⟩ | ⟨x, shown, b₀, before, written⟩
  · exact ⟨0, by simp [same, nothing]⟩
  · exact ⟨0, by simp [left, nothing]⟩
  · have kept : mappedLines b₀.lines = mappedLines b.lines := by
      rcases before with rfl | rfl
      · rfl
      · exact mapped_closeBlock b
    refine ⟨b₀.depth, ?_⟩
    have added : mappedLines (b₀.put source x).lines =
        mappedLines b.lines ++ [x.at source b₀.depth] := by
      simp [put_eq, kept]
    rcases written with ⟨-, written⟩ | ⟨-, -, written⟩
    · simpa [written, shown] using added
    · simpa [written, shown] using added

theorem mapped_run {b : Builder} {xs : List Excerpt}
    (h : List.Forall₂ (Copies source) (mappedLines b.lines) xs) (ss : List Step) :
    List.Forall₂ (Copies source) (mappedLines (b.run source ss).lines)
      (xs ++ ss.filterMap Step.excerpt?) := by
  induction ss generalizing b xs with
  | nil => simpa [run] using h
  | cons s ss ih =>
    obtain ⟨depth, hs⟩ := mapped_step source b s
    have next : List.Forall₂ (Copies source) (mappedLines (b.step source s).lines)
        (xs ++ s.excerpt?.toList) := by
      rw [hs]
      apply List.rel_append h
      cases s.excerpt? with
      | none => exact .nil
      | some x => exact .cons rfl .nil
    have done := ih next
    rw [List.append_assoc] at done
    cases hx : s.excerpt? <;> simpa [hx, run] using done

theorem unmapped_of_edit {b c : Builder} (h : Edit b c)
    (hb : ∀ l ∈ b.lines, l.mapped = false → l = pass l.depth) :
    ∀ l ∈ c.lines, l.mapped = false → l = pass l.depth := by
  cases h with
  | write code statement anchor =>
    simp only [lines_push, List.mem_append, List.mem_singleton]
    rintro l (old | rfl) hl
    · exact hb l old hl
    · cases hl
  | enter code anchor =>
    simp only [lines_openBlock, lines_push, List.mem_append, List.mem_singleton]
    rintro l (old | rfl) hl
    · exact hb l old hl
    · cases hl
  | leave =>
    cases hs : b.bodies with
    | nil => rwa [closeBlock_of_nil hs]
    | cons body bodies =>
      rw [closeBlock_of_cons hs]
      cases body with
      | true => exact hb
      | false =>
        simp only [Bool.false_eq_true, if_false, List.mem_append, List.mem_singleton]
        rintro l (old | rfl) hl
        · exact hb l old hl
        · rfl

theorem edits_lines (nodes : List Node) :
    ∃ b, Edits empty b ∧ b.lines = Fragment.lines source nodes :=
  ⟨_, (edits_run source empty (steps nodes)).trans (edits_finish _),
    (lines_eq_run source nodes).symm⟩

end Builder

open Builder

theorem mapped_lines (source : List String) (nodes : List Node) :
    List.Forall₂ (Copies source) (mappedLines (lines source nodes)) (excerpts nodes) := by
  rw [lines_eq_run, mapped_finish]
  exact mapped_run (b := empty) source .nil (steps nodes)

theorem eq_pass_of_not_mapped (source : List String) (nodes : List Node) {l : Line}
    (h : l ∈ lines source nodes) (hl : l.mapped = false) : l = pass l.depth := by
  obtain ⟨b, edits, hb⟩ := edits_lines source nodes
  rw [← hb] at h
  clear hb
  induction edits generalizing l with
  | refl => cases h
  | tail _ edit ih => exact unmapped_of_edit edit (fun l hm hl => ih hl hm) l h hl

def entriesFrom (start : Nat) (ls : List Line) : List (Int × Location) :=
  (ls.zipIdx start).filterMap fun (line, i) => line.anchor.map fun place => ((i + 1 : Int), place)

theorem entries_ofLines (ls : List Line) :
    (Extracted.ofLines ls).map.entries = entriesFrom 0 ls := rfl

theorem entriesFrom_append (start : Nat) (ls ms : List Line) :
    entriesFrom start (ls ++ ms) = entriesFrom start ls ++ entriesFrom (start + ls.length) ms := by
  simp [entriesFrom, List.zipIdx_append]

theorem entriesFrom_cons (start : Nat) (l : Line) (ls : List Line) :
    entriesFrom start (l :: ls) =
      (l.anchor.map fun place => ((start + 1 : Int), place)).toList ++
        entriesFrom (start + 1) ls := by
  cases h : l.anchor <;> simp [entriesFrom, h]

theorem length_entriesFrom (start : Nat) (ls : List Line) :
    (entriesFrom start ls).length = (mappedLines ls).length := by
  induction ls generalizing start with
  | nil => rfl
  | cons l ls ih =>
    rw [entriesFrom_cons, List.length_append, ih]
    cases h : l.anchor with
    | none => simp [Line.mapped, h]
    | some place => simp [Line.mapped, h, Nat.add_comm]

theorem lt_of_mem_entriesFrom {start : Nat} {ls : List Line} {e : Int × Location}
    (h : e ∈ entriesFrom start ls) : start < e.1 := by
  induction ls generalizing start with
  | nil => cases h
  | cons l ls ih =>
    rw [entriesFrom_cons, List.mem_append] at h
    rcases h with h | h
    · cases ha : l.anchor with
      | none => simp [ha] at h
      | some place => simp [ha] at h; subst h; simp only; omega
    · have := ih h; omega

theorem find?_entriesFrom (start i : Nat) (ls : List Line) :
    ((entriesFrom start ls).find? (·.1 == ((start + i : Nat) : Int) + 1)).map (·.2) =
      ls[i]?.bind Line.anchor := by
  induction ls generalizing start i with
  | nil => rfl
  | cons l ls ih =>
    rw [entriesFrom_cons]
    cases i with
    | zero =>
      cases ha : l.anchor with
      | some place => simp [ha]
      | none =>
        have none_later :
            (entriesFrom (start + 1) ls).find? (·.1 == ((start : Nat) : Int) + 1) = none := by
          apply List.find?_eq_none.mpr
          intro e he
          have := lt_of_mem_entriesFrom he
          simp only [beq_iff_eq]; omega
        simp [ha, none_later]
    | succ i =>
      have later := ih (start + 1) i
      rw [show start + 1 + i = start + (i + 1) by omega] at later
      cases ha : l.anchor with
      | none => simpa [ha] using later
      | some place =>
        have differs : ((start : Int) + 1 == ((start + (i + 1) : Nat) : Int) + 1) = false := by
          apply beq_false_of_ne; omega
        rw [Option.map_some, Option.toList_some, List.singleton_append, List.find?_cons, differs]
        exact later

theorem get?_ofLines (ls : List Line) (i : Nat) :
    (Extracted.ofLines ls).map.get? (i + 1) = ls[i]?.bind Line.anchor := by
  simpa [SourceMap.get?, entries_ofLines] using find?_entriesFrom 0 i ls

theorem split_of_mappedLines {ls : List Line} {k : Nat} {l : Line}
    (h : (mappedLines ls)[k]? = some l) :
    ∃ before after, ls = before ++ l :: after ∧ mappedLines before = (mappedLines ls).take k := by
  obtain ⟨hk, hl⟩ := List.getElem?_eq_some_iff.mp h
  have cut : mappedLines ls = (mappedLines ls).take k ++ l :: (mappedLines ls).drop (k + 1) := by
    rw [← hl, List.getElem_cons_drop, List.take_append_drop]
  obtain ⟨first, rest, hls, hfirst, hrest⟩ := List.filter_eq_append_iff.mp cut
  obtain ⟨skipped, after, rfl, hskipped, -, -⟩ := List.filter_eq_cons_iff.mp hrest
  refine ⟨first ++ skipped, after, by rw [List.append_assoc]; exact hls, ?_⟩
  have none_skipped : mappedLines skipped = [] := List.filter_eq_nil_iff.mpr hskipped
  rw [mappedLines_append, none_skipped, List.append_nil]
  exact hfirst

theorem excerpt_line (source : List String) {nodes : List Node} {k : Nat} {x : Excerpt}
    (h : (excerpts nodes)[k]? = some x) :
    ∃ before after depth, lines source nodes = before ++ x.at source depth :: after ∧
      List.Forall₂ (Copies source) (mappedLines before) ((excerpts nodes).take k) ∧
      (Extracted.ofNodes source nodes).map.entries[k]? =
        some ((before.length : Int) + 1, x.piece.anchor source (indented depth x.code)) := by
  have copies := mapped_lines source nodes
  obtain ⟨hk, hx⟩ := List.getElem?_eq_some_iff.mp h
  have hk' : k < (mappedLines (lines source nodes)).length := by rw [copies.length_eq]; exact hk
  obtain ⟨depth, here⟩ :
      ∃ depth, (mappedLines (lines source nodes))[k]? = some (x.at source depth) := by
    have hget := copies.get hk' hk
    rw [List.get_eq_getElem, List.get_eq_getElem, hx] at hget
    exact ⟨_, List.getElem?_eq_some_iff.mpr ⟨hk', hget⟩⟩
  obtain ⟨before, after, hls, hbefore⟩ := split_of_mappedLines here
  refine ⟨before, after, depth, hls, hbefore ▸ List.forall₂_take k copies, ?_⟩
  have hlen : (entriesFrom 0 before).length = k := by
    rw [length_entriesFrom, hbefore, List.length_take]; omega
  rw [Extracted.ofNodes, hls, entries_ofLines, entriesFrom_append, entriesFrom_cons]
  simp [← hlen, Excerpt.at]

theorem length_entries (source : List String) (nodes : List Node) :
    (Extracted.ofNodes source nodes).map.entries.length = (excerpts nodes).length := by
  rw [← (mapped_lines source nodes).length_eq]
  exact length_entriesFrom 0 _

end TemplateLint.Fragment
