import TemplateLint.Fragment.Extract

/-!
A tree in document order. Visiting it takes one step for each construct and one for the end of each
definition, and what a step adds to the lines of the fragment, apart from an open or closed block,
depends on the construct alone: its excerpt.
-/

namespace TemplateLint.Fragment

open Text

inductive Step where
  | control (text keyword : String) (closes : Bool) (line : Int)
  | copy (keepIndent : Bool) (raw : List Char) (line start : Int)
  | header (name : Option String) (place : Place)
  | leave

def copySteps (keepIndent : Bool) (text : String) (place : Place) : List Step :=
  (splitOn '\n' text.toList).zipIdx.map fun (raw, i) =>
    .copy keepIndent raw (place.line + i) (if i = 0 then place.column - 1 else 0)

mutual

@[simp]
def nodeSteps : Node → List Step
  | .control text keyword closes place _ => [.control text keyword closes place.line]
  | .code text place => copySteps true text place
  | .expression text place => copySteps false text place
  | .define name place body => .header name place :: (steps body ++ [.leave])
  | .tag body => steps body
  | .inert _ => []

@[simp]
def steps : List Node → List Step
  | [] => []
  | node :: nodes => nodeSteps node ++ steps nodes

end

structure Excerpt where
  code : List Char
  statement : Bool
  piece : Piece

def Excerpt.at (x : Excerpt) (source : List String) (depth : Nat) : Line :=
  ⟨depth, String.ofList x.code, x.statement,
    some (x.piece.anchor source (indented depth x.code))⟩

def Step.excerpt? : Step → Option Excerpt
  | .control text _ closes line =>
    let code := trim text.toList
    if closes then none else some ⟨code, true, ⟨line, code, 0⟩⟩
  | .copy keepIndent raw line start =>
    let text := trim raw
    if text = [] then none
    else
      some ⟨if keepIndent then trimEnd raw else text, text.head? ≠ some '#', ⟨line, text, start⟩⟩
  | .header name place =>
    let name := trim (name.getD "").toList
    some ⟨"def ".toList ++ name ++ [':'], true, ⟨place.line, name, place.column - 1⟩⟩
  | .leave => none

namespace Step

@[simp] theorem excerpt?_end (text keyword : String) (line : Int) : (control text keyword true line).excerpt? = none := rfl

@[simp] theorem excerpt?_control (text keyword : String) (line : Int) :
    (control text keyword false line).excerpt? =
      some ⟨trim text.toList, true, ⟨line, trim text.toList, 0⟩⟩ := rfl

@[simp] theorem excerpt?_copy_of_blank {raw : List Char} (blank : trim raw = []) (keepIndent : Bool)
    (line start : Int) : (copy keepIndent raw line start).excerpt? = none := by
  rw [excerpt?, if_pos blank]

@[simp] theorem excerpt?_copy {raw : List Char} (written : trim raw ≠ []) (keepIndent : Bool) (line start : Int) :
    (copy keepIndent raw line start).excerpt? =
      some ⟨if keepIndent then trimEnd raw else trim raw, (trim raw).head? ≠ some '#',
        ⟨line, trim raw, start⟩⟩ := by
  rw [excerpt?, if_neg written]

@[simp] theorem excerpt?_header (name : Option String) (place : Place) :
    (header name place).excerpt? =
      some ⟨"def ".toList ++ trim (name.getD "").toList ++ [':'], true,
        ⟨place.line, trim (name.getD "").toList, place.column - 1⟩⟩ := rfl

@[simp] theorem excerpt?_leave : leave.excerpt? = none := rfl

end Step

def excerpts (nodes : List Node) : List Excerpt := (steps nodes).filterMap Step.excerpt?

namespace Builder

variable (source : List String)

def step (b : Builder) : Step → Builder
  | .control text keyword closes line => b.control source text keyword closes line
  | .copy keepIndent raw line start => b.copyLine source keepIndent raw line start
  | .header name place => b.header source name place
  | .leave => b.closeBlock

def run (b : Builder) (ss : List Step) : Builder := ss.foldl (step source) b

theorem run_append (b : Builder) (ss ts : List Step) :
    b.run source (ss ++ ts) = (b.run source ss).run source ts :=
  List.foldl_append

theorem copy_eq_run (b : Builder) (keepIndent : Bool) (text : String) (place : Place) :
    b.copy source keepIndent text place = b.run source (copySteps keepIndent text place) := by
  simp [copy, run, copySteps, List.foldl_map, step]

mutual

theorem visit_eq_run (b : Builder) (node : Node) :
    b.visit source node = b.run source (nodeSteps node) := by
  cases node with
  | control text keyword closes place held => simp [visit, nodeSteps, run, step]
  | code text place => simp [visit, nodeSteps, copy_eq_run]
  | expression text place => simp [visit, nodeSteps, copy_eq_run]
  | define name place body =>
    rw [visit, visitAll_eq_run, nodeSteps, ← List.cons_append, run_append]
    rfl
  | tag body => rw [visit, visitAll_eq_run, nodeSteps]
  | inert held => rfl

theorem visitAll_eq_run (b : Builder) (nodes : List Node) :
    b.visitAll source nodes = b.run source (steps nodes) := by
  cases nodes with
  | nil => rfl
  | cons node nodes => rw [visitAll, visit_eq_run, visitAll_eq_run, steps, run_append]

end

theorem lines_eq_run (nodes : List Node) :
    Fragment.lines source nodes = (empty.run source (steps nodes)).finish.lines := by
  rw [Fragment.lines, visitAll_eq_run]

end Builder

def Step.opens (b : Builder) : Step → Bool
  | .control text keyword closes _ =>
    !closes && (continues keyword && !b.bodies.isEmpty || opensBlock (trim text.toList))
  | .copy .. => false
  | .header .. => true
  | .leave => false

def Step.closes (b : Builder) : Step → Bool
  | .control _ keyword closes _ => closes || continues keyword && !b.bodies.isEmpty
  | .copy .. => false
  | .header .. => false
  | .leave => true

@[simp] theorem opens_copy (b : Builder) (keepIndent : Bool) (raw : List Char) (line start : Int) :
    (Step.copy keepIndent raw line start).opens b = false := rfl

@[simp] theorem closes_copy (b : Builder) (keepIndent : Bool) (raw : List Char) (line start : Int) :
    (Step.copy keepIndent raw line start).closes b = false := rfl

theorem opens_eq_false_of_excerpt?_eq_none {b : Builder} {s : Step} (h : s.excerpt? = none) :
    s.opens b = false := by
  cases s with
  | control text keyword closes line =>
    cases closes with
    | true => rfl
    | false => cases h
  | copy => rfl
  | header => cases h
  | leave => rfl

theorem statement_of_opens {b : Builder} {s : Step} {x : Excerpt} (h : s.excerpt? = some x)
    (opens : s.opens b = true) : x.statement = true := by
  cases s with
  | control text keyword closes line =>
    cases closes with
    | true => cases h
    | false => cases h; rfl
  | copy => cases opens
  | header => cases h; rfl
  | leave => cases opens

namespace Builder

variable (source : List String)

def put (b : Builder) (x : Excerpt) : Builder := b.emit source x.code x.statement x.piece

theorem step_eq (b : Builder) (s : Step) :
    b.step source s =
      let b₀ := if s.closes b then b.closeBlock else b
      match s.excerpt? with
      | none => b₀
      | some x => if s.opens b then (b₀.put source x).openBlock else b₀.put source x := by
  cases s with
  | control text keyword closes line =>
    cases closes with
    | true => rfl
    | false =>
      simp only [step, control, Step.closes, Step.opens, Step.excerpt?_control, put]
      by_cases going : (continues keyword && !b.bodies.isEmpty) = true
      · simp [going]
      · simp [going]
  | copy keepIndent raw line start =>
    by_cases blank : trim raw = []
    · simp [step, copyLine, blank]
    · simp [step, copyLine, blank, put]
  | header name place => rfl
  | leave => rfl

theorem step_cases (b : Builder) (s : Step) :
    (s.excerpt? = none ∧ (b.step source s = b ∨ b.step source s = b.closeBlock)) ∨
      ∃ x, s.excerpt? = some x ∧ ∃ b₀, (b₀ = b ∨ b₀ = b.closeBlock) ∧
        ((s.opens b = false ∧ b.step source s = b₀.put source x) ∨
          (s.opens b = true ∧ x.statement = true ∧
            b.step source s = (b₀.put source x).openBlock)) := by
  have before : (if s.closes b then b.closeBlock else b) = b ∨
      (if s.closes b then b.closeBlock else b) = b.closeBlock := by
    cases s.closes b with
    | true => exact .inr rfl
    | false => exact .inl rfl
  rw [step_eq]
  cases hx : s.excerpt? with
  | none => exact .inl ⟨rfl, before⟩
  | some x =>
    refine .inr ⟨x, rfl, _, before, ?_⟩
    cases opens : s.opens b with
    | true => exact .inr ⟨rfl, statement_of_opens hx opens, rfl⟩
    | false => exact .inl ⟨rfl, rfl⟩

end Builder

end TemplateLint.Fragment
