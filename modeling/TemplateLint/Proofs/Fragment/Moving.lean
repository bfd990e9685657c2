import TemplateLint.Proofs.Fragment.Passage

namespace TemplateLint

open Fragment

def Place.down (n : Nat) (p : Place) : Place := { p with line := p.line + n }

mutual

def Node.down (n : Nat) : Node → Node
  | .control text keyword closes place held =>
    .control text keyword closes (place.down n) (Node.downAll n held)
  | .code text place => .code text (place.down n)
  | .expression text place => .expression text (place.down n)
  | .define name place body => .define name (place.down n) (Node.downAll n body)
  | .tag body => .tag (Node.downAll n body)
  | .inert held => .inert (Node.downAll n held)

def Node.downAll (n : Nat) : List Node → List Node
  | [] => []
  | node :: nodes => node.down n :: Node.downAll n nodes

end

def Location.down (n : Nat) (l : Location) : Location :=
  { l with line := l.line + n, endLine := l.endLine.map (· + n) }

def SourceMap.down (n : Nat) (m : SourceMap) : SourceMap :=
  ⟨m.entries.map fun entry => (entry.1, entry.2.down n)⟩

def Extracted.down (n : Nat) (e : Extracted) : Extracted := { e with map := e.map.down n }

theorem SourceMap.get?_down (n : Nat) (m : SourceMap) (line : Int) :
    (m.down n).get? line = (m.get? line).map (Location.down n) := by
  simp [SourceMap.down, SourceMap.get?, List.find?_map, Function.comp_def]

namespace Fragment

def Line.down (n : Nat) (l : Line) : Line := { l with anchor := l.anchor.map (Location.down n) }

theorem chars_down (n : Nat) (l : Line) : (l.down n).chars = l.chars := rfl

theorem ofLines_down (n : Nat) (ls : List Line) :
    Extracted.ofLines (ls.map (Line.down n)) = (Extracted.ofLines ls).down n := by
  have text : (ls.map (Line.down n)).map Line.chars = ls.map Line.chars := by
    simp [chars_down]
  simp only [Extracted.ofLines, Extracted.down, SourceMap.down, text]
  simp [Line.down, List.zipIdx_map, List.filterMap_map, List.map_filterMap, Function.comp_def]

def Excerpt.down (n : Nat) (x : Excerpt) : Excerpt :=
  { x with piece := { x.piece with line := x.piece.line + n } }

def Step.down (n : Nat) : Step → Step
  | .control text keyword closes line => .control text keyword closes (line + n)
  | .copy keepIndent raw line start => .copy keepIndent raw (line + n) start
  | .header name place => .header name (place.down n)
  | .leave => .leave

theorem excerpt?_down (n : Nat) (s : Step) :
    (s.down n).excerpt? = s.excerpt?.map (Excerpt.down n) := by
  cases s with
  | control text keyword closes line => cases closes <;> rfl
  | copy keepIndent raw line start =>
    by_cases blank : Text.trim raw = []
    · simp [Step.down, blank]
    · simp [Step.down, blank, Excerpt.down]
  | header name place => rfl
  | leave => rfl

theorem copySteps_down (n : Nat) (keepIndent : Bool) (text : String) (place : Place) :
    copySteps keepIndent text (place.down n) =
      (copySteps keepIndent text place).map (Step.down n) := by
  rw [copySteps, copySteps, List.map_map]
  apply List.map_congr_left
  intro row _
  simp only [Function.comp, Step.down, Place.down]
  rw [Int.add_right_comm]

mutual

theorem nodeSteps_down (n : Nat) (node : Node) :
    nodeSteps (node.down n) = (nodeSteps node).map (Step.down n) := by
  cases node with
  | control text keyword closes place held => rfl
  | code text place => exact copySteps_down n true text place
  | expression text place => exact copySteps_down n false text place
  | define name place body =>
    simp only [Node.down, nodeSteps, steps_down n body, List.map_cons, List.map_append]
    rfl
  | tag body => exact steps_down n body
  | inert held => rfl

theorem steps_down (n : Nat) (nodes : List Node) :
    steps (Node.downAll n nodes) = (steps nodes).map (Step.down n) := by
  cases nodes with
  | nil => rfl
  | cons node nodes =>
    rw [Node.downAll, steps, steps, nodeSteps_down, steps_down, List.map_append]

end

theorem lineAt?_append (extra : List String) {source : List String} {line : Int} (h : 1 ≤ line) :
    Text.lineAt? (extra ++ source) (line + extra.length) = Text.lineAt? source line := by
  rw [Text.lineAt?, Text.lineAt?, if_pos h, if_pos (by omega),
    List.getElem?_append_right (by omega)]
  congr 1
  omega

theorem at_down (extra : List String) {source : List String} {x : Excerpt}
    (h : 1 ≤ x.piece.line) (depth : Nat) :
    (x.down extra.length).at (extra ++ source) depth = (x.at source depth).down extra.length := by
  simp [Excerpt.at, Excerpt.down, Line.down, Location.down, Piece.anchor, templateColumn,
    lineAt?_append extra h]

namespace Builder

def down (n : Nat) (b : Builder) : Builder := { b with lines := b.lines.map (Line.down n) }

theorem closeBlock_down (n : Nat) (b : Builder) : (b.down n).closeBlock = b.closeBlock.down n := by
  cases hs : b.bodies with
  | nil => rw [closeBlock_of_nil hs, closeBlock_of_nil (show (b.down n).bodies = [] from hs)]
  | cons body bodies =>
    rw [closeBlock_of_cons hs, closeBlock_of_cons (show (b.down n).bodies = _ from hs)]
    cases body <;> simp [down, pass, Line.down]

theorem finish_down (n : Nat) (b : Builder) : (b.down n).finish = b.finish.down n := by
  have moved : Function.Semiconj (down n) closeBlock closeBlock :=
    fun c => (closeBlock_down n c).symm
  rw [finish_eq_iterate, finish_eq_iterate]
  exact (moved.iterate_right b.bodies.length b).symm

theorem closes_down (n : Nat) (b : Builder) (s : Step) :
    (s.down n).closes (b.down n) = s.closes b := by
  cases s <;> rfl

theorem opens_down (n : Nat) (b : Builder) (s : Step) :
    (s.down n).opens (b.down n) = s.opens b := by
  cases s <;> rfl

variable (extra source : List String)

theorem put_down {x : Excerpt} (h : 1 ≤ x.piece.line) (b : Builder) :
    (b.down extra.length).put (extra ++ source) (x.down extra.length) =
      (b.put source x).down extra.length := by
  rw [put_eq, put_eq, at_down extra h]
  simp [down, Excerpt.down]

theorem step_down {s : Step} (h : ∀ x, s.excerpt? = some x → 1 ≤ x.piece.line) (b : Builder) :
    (b.down extra.length).step (extra ++ source) (s.down extra.length) =
      (b.step source s).down extra.length := by
  have before : (if s.closes b then (b.down extra.length).closeBlock else b.down extra.length) =
      (if s.closes b then b.closeBlock else b).down extra.length := by
    split
    · exact closeBlock_down _ b
    · rfl
  rw [step_eq, step_eq, excerpt?_down, closes_down, opens_down, before]
  cases hx : s.excerpt? with
  | none => rfl
  | some x =>
    simp only [Option.map_some, put_down extra source (h x hx)]
    split
    · rfl
    · rfl

theorem run_down {ss : List Step} (h : ∀ x ∈ ss.filterMap Step.excerpt?, 1 ≤ x.piece.line)
    (b : Builder) :
    (b.down extra.length).run (extra ++ source) (ss.map (Step.down extra.length)) =
      (b.run source ss).down extra.length := by
  induction ss generalizing b with
  | nil => rfl
  | cons s ss ih =>
    have here : ∀ x, s.excerpt? = some x → 1 ≤ x.piece.line :=
      fun x hx => h x (List.mem_filterMap.mpr ⟨s, List.mem_cons_self, hx⟩)
    have later : ∀ x ∈ ss.filterMap Step.excerpt?, 1 ≤ x.piece.line := by
      intro x hx
      obtain ⟨t, ht, hx⟩ := List.mem_filterMap.mp hx
      exact h x (List.mem_filterMap.mpr ⟨t, List.mem_cons_of_mem s ht, hx⟩)
    have rest := ih later (b.step source s)
    rw [← step_down extra source here] at rest
    exact rest

end Builder

theorem lines_down (extra : List String) {source : List String} {nodes : List Node}
    (within : Within source nodes) :
    lines (extra ++ source) (Node.downAll extra.length nodes) =
      (lines source nodes).map (Line.down extra.length) := by
  have positive : ∀ x ∈ excerpts nodes, 1 ≤ x.piece.line := by
    intro x hx
    apply (within x.passage _).1
    rw [← passages_excerpts]
    exact List.mem_map_of_mem hx
  have run := Builder.run_down extra source positive .empty
  rw [Builder.lines_eq_run, Builder.lines_eq_run, steps_down]
  exact congrArg Builder.lines ((congrArg Builder.finish run).trans (Builder.finish_down ..))

theorem ofNodes_down (extra : List String) {source : List String} {nodes : List Node}
    (within : Within source nodes) :
    Extracted.ofNodes (extra ++ source) (Node.downAll extra.length nodes) =
      (Extracted.ofNodes source nodes).down extra.length := by
  rw [Extracted.ofNodes, lines_down extra within, ofLines_down]
  rfl

end Fragment

end TemplateLint
