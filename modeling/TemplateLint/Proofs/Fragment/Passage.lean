import TemplateLint.Proofs.Fragment.Excerpt

namespace TemplateLint.Fragment

open Text

structure Passage where
  code : List Char
  line : Int

def rows (text : String) : List (List Char × Nat) :=
  (splitOn '\n' text.toList).zipIdx.filter fun row => trim row.1 ≠ []

mutual

@[simp]
def nodePassages : Node → List Passage
  | .control text _ closes place _ =>
    if closes then [] else [⟨trim text.toList, place.line⟩]
  | .code text place => (rows text).map fun row => ⟨trimEnd row.1, place.line + row.2⟩
  | .expression text place => (rows text).map fun row => ⟨trim row.1, place.line + row.2⟩
  | .define name place body =>
    ⟨"def ".toList ++ trim (name.getD "").toList ++ [':'], place.line⟩ :: passages body
  | .tag body => passages body
  | .inert _ => []

@[simp]
def passages : List Node → List Passage
  | [] => []
  | node :: nodes => nodePassages node ++ passages nodes

end

def Excerpt.passage (x : Excerpt) : Passage := ⟨x.code, x.piece.line⟩

theorem passages_copySteps (keepIndent : Bool) (text : String) (place : Place) :
    ((copySteps keepIndent text place).filterMap Step.excerpt?).map Excerpt.passage =
      (rows text).map fun row =>
        ⟨if keepIndent then trimEnd row.1 else trim row.1, place.line + row.2⟩ := by
  rw [copySteps, rows]
  induction (splitOn '\n' text.toList).zipIdx with
  | nil => rfl
  | cons row rest ih =>
    obtain ⟨raw, i⟩ := row
    by_cases blank : trim raw = []
    · simpa [blank] using ih
    · simpa [blank, Excerpt.passage] using ih

mutual

theorem passages_nodeSteps (node : Node) :
    ((nodeSteps node).filterMap Step.excerpt?).map Excerpt.passage = nodePassages node := by
  cases node with
  | control text keyword closes place held =>
    cases closes <;> simp [Excerpt.passage]
  | code text place => exact passages_copySteps true text place
  | expression text place => exact passages_copySteps false text place
  | define name place body =>
    have inside := passages_excerpts body
    rw [excerpts] at inside
    simp [Excerpt.passage, inside]
  | tag body => exact passages_excerpts body
  | inert held => rfl

theorem passages_excerpts (nodes : List Node) :
    (excerpts nodes).map Excerpt.passage = passages nodes := by
  cases nodes with
  | nil => rfl
  | cons node nodes =>
    have first := passages_nodeSteps node
    have rest := passages_excerpts nodes
    rw [excerpts] at rest
    rw [excerpts, steps, passages, List.filterMap_append, List.map_append, first, rest]

end

def Within (source : List String) (nodes : List Node) : Prop :=
  ∀ p ∈ passages nodes, 1 ≤ p.line ∧ p.line ≤ source.length

theorem lines_entriesFrom {source : List String} {ls : List Line} {xs : List Excerpt} (start : Nat)
    (copies : List.Forall₂ (Copies source) (mappedLines ls) xs) :
    (entriesFrom start ls).map (fun e => e.2.line) = xs.map fun x => x.piece.line := by
  induction ls generalizing start xs with
  | nil => cases copies; rfl
  | cons l ls ih =>
    rw [entriesFrom_cons, List.map_append]
    cases hl : l.mapped with
    | false =>
      rw [mappedLines_cons, hl, if_neg Bool.false_ne_true] at copies
      have none_here : l.anchor = none := by simpa [Line.mapped] using hl
      rw [ih _ copies, none_here]
      rfl
    | true =>
      rw [mappedLines_cons, if_pos hl] at copies
      cases copies with
      | cons copy copies =>
        rw [ih _ copies, copy]
        rfl

theorem lines_entries (source : List String) (nodes : List Node) :
    (Extracted.ofNodes source nodes).map.entries.map (fun e => e.2.line) =
      (passages nodes).map Passage.line := by
  rw [← passages_excerpts, List.map_map]
  exact lines_entriesFrom 0 (mapped_lines source nodes)

theorem run_of_no_excerpts (source : List String) {ss : List Step}
    (h : ∀ s ∈ ss, s.excerpt? = none) : Builder.empty.run source ss = .empty := by
  induction ss with
  | nil => rfl
  | cons s ss ih =>
    obtain ⟨here, later⟩ := List.forall_mem_cons.mp h
    have same : Builder.empty.step source s = .empty := by
      rw [Builder.step_eq, here]
      cases s.closes .empty <;> rfl
    rw [Builder.run, List.foldl_cons, same]
    exact ih later

theorem lines_eq_nil {source : List String} {nodes : List Node} (h : passages nodes = []) :
    lines source nodes = [] := by
  rw [← passages_excerpts, List.map_eq_nil_iff, excerpts, List.filterMap_eq_nil_iff] at h
  rw [Builder.lines_eq_run, run_of_no_excerpts source h]
  rfl

theorem contains_eq_isSome (map : SourceMap) (line : Int) :
    map.contains line = (map.get? line).isSome := by
  rw [SourceMap.contains, SourceMap.get?, Option.isSome_map, List.isSome_find?]

def entered (map : SourceMap) (ls : List Line) : List (Line × Nat) :=
  ls.zipIdx.filter fun row => map.contains (row.2 + 1)

theorem contains_ofLines {ls : List Line} {i : Nat} {l : Line} (h : ls[i]? = some l) :
    (Extracted.ofLines ls).map.contains (i + 1) = l.mapped := by
  rw [contains_eq_isSome, get?_ofLines, h, Option.bind_some, Line.mapped]

theorem entered_ofLines (ls : List Line) :
    entered (Extracted.ofLines ls).map ls = ls.zipIdx.filter fun row => row.1.mapped := by
  apply List.filter_congr
  intro row hrow
  exact contains_ofLines (List.mk_mem_zipIdx_iff_getElem?.mp hrow)

theorem lines_entered (ls : List Line) :
    (entered (Extracted.ofLines ls).map ls).map Prod.fst = mappedLines ls := by
  have h := List.filter_map (f := Prod.fst) (p := Line.mapped) (l := ls.zipIdx)
  rw [entered_ofLines, mappedLines, ← List.zipIdx_map_fst 0 ls, h, List.zipIdx_map_fst]
  rfl

theorem keys_ofLines (ls : List Line) :
    (Extracted.ofLines ls).map.keys =
      (entered (Extracted.ofLines ls).map ls).map fun row => (row.2 + 1 : Int) := by
  rw [entered_ofLines, SourceMap.keys, entries_ofLines, entriesFrom]
  induction ls.zipIdx with
  | nil => rfl
  | cons row rest ih =>
    obtain ⟨l, i⟩ := row
    cases ha : l.anchor <;> simpa [Line.mapped, ha] using ih

end TemplateLint.Fragment
