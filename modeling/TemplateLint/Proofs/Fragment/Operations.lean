import TemplateLint.Proofs.Fragment.Excerpt

/-!
The single operations of a builder: writing a line, entering a block and leaving one. A tree decides
which of them are carried out and in which order; whatever it is, the depth is the number of open
blocks all the time, and what was written and noted stays.
-/

namespace TemplateLint.Fragment

inductive Operation where
  | write (code : List Char) (statement : Bool) (piece : Option Piece)
  | enter
  | leave

def closing (body : Bool) : List Operation :=
  if body then [.leave] else [.write "pass".toList true none, .leave]

def Step.operations (b : Builder) (s : Step) : List Operation :=
  (if s.closes b then (b.bodies.take 1).flatMap closing else []) ++
    s.excerpt?.elim [] fun x =>
      .write x.code x.statement (some x.piece) :: if s.opens b then [.enter] else []

namespace Builder

section

variable (source : List String)

def operate (b : Builder) : Operation → Builder
  | .write code statement piece =>
    b.push code statement (piece.map (Piece.anchor source (indented b.depth code)))
  | .enter => b.openBlock
  | .leave => { b with depth := b.depth - 1, bodies := b.bodies.tail }

def operateAll (b : Builder) (ops : List Operation) : Builder := ops.foldl (operate source) b

def operations (b : Builder) : List Step → List Operation
  | [] => []
  | s :: ss => s.operations b ++ operations (b.step source s) ss

def Legal (b : Builder) : List Operation → Prop
  | [] => True
  | op :: ops => (op = .leave → b.bodies ≠ []) ∧ Legal (b.operate source op) ops

theorem operateAll_cons (b : Builder) (op : Operation) (ops : List Operation) :
    b.operateAll source (op :: ops) = (b.operate source op).operateAll source ops := rfl

theorem operateAll_append (b : Builder) (ops more : List Operation) :
    b.operateAll source (ops ++ more) = (b.operateAll source ops).operateAll source more :=
  List.foldl_append

theorem legal_append (b : Builder) (ops more : List Operation) :
    b.Legal source (ops ++ more) ↔
      b.Legal source ops ∧ (b.operateAll source ops).Legal source more := by
  induction ops generalizing b with
  | nil => simp [Legal, operateAll]
  | cons op ops ih => rw [List.cons_append, Legal, ih, Legal, operateAll_cons, and_assoc]

theorem legal_of_not_leave (b : Builder) {ops : List Operation} (h : .leave ∉ ops) :
    b.Legal source ops := by
  induction ops generalizing b with
  | nil => exact trivial
  | cons op ops ih =>
    rw [List.mem_cons, not_or] at h
    exact ⟨fun same => absurd same.symm h.1, ih _ h.2⟩

theorem operateAll_closing {b : Builder} {body : Bool} {bodies : List Bool}
    (h : b.bodies = body :: bodies) :
    b.operateAll source (closing body) = b.closeBlock ∧ b.Legal source (closing body) := by
  rw [closeBlock_of_cons h]
  cases body with
  | true => exact ⟨by simp [closing, operateAll, operate, h], by simp [closing, Legal, h]⟩
  | false =>
    constructor
    · simp [closing, operateAll, operate, h, pass]
    · simp [closing, Legal, operate, h]

theorem operateAll_closeBlock (b : Builder) :
    b.operateAll source ((b.bodies.take 1).flatMap closing) = b.closeBlock ∧
      b.Legal source ((b.bodies.take 1).flatMap closing) := by
  cases h : b.bodies with
  | nil => exact ⟨(closeBlock_of_nil h).symm, trivial⟩
  | cons body bodies => simpa using operateAll_closing source h

theorem operateAll_step (b : Builder) (s : Step) :
    b.operateAll source (s.operations b) = b.step source s ∧
      b.Legal source (s.operations b) := by
  rw [step_eq, Step.operations, operateAll_append, legal_append]
  have before : b.operateAll source (if s.closes b then (b.bodies.take 1).flatMap closing else []) =
        (if s.closes b then b.closeBlock else b) ∧
      b.Legal source (if s.closes b then (b.bodies.take 1).flatMap closing else []) := by
    cases s.closes b with
    | true => exact operateAll_closeBlock source b
    | false => exact ⟨rfl, trivial⟩
  rw [before.1]
  cases s.excerpt? with
  | none => exact ⟨rfl, before.2, trivial⟩
  | some x =>
    refine ⟨?_, before.2, legal_of_not_leave source _ ?_⟩
    · cases s.opens b <;> rfl
    · cases s.opens b <;> simp

theorem operateAll_run (b : Builder) (ss : List Step) :
    b.operateAll source (b.operations source ss) = b.run source ss ∧
      b.Legal source (b.operations source ss) := by
  induction ss generalizing b with
  | nil => exact ⟨rfl, trivial⟩
  | cons s ss ih =>
    obtain ⟨first, legal⟩ := operateAll_step source b s
    rw [operations, operateAll_append, legal_append, first]
    exact ⟨(ih _).1, legal, (ih _).2⟩

theorem finish_of_nil {b : Builder} (h : b.bodies = []) : b.finish = b := by
  rw [finish, h, List.foldl_nil]

theorem finish_of_cons {b : Builder} {body : Bool} {bodies : List Bool}
    (h : b.bodies = body :: bodies) : b.finish = b.closeBlock.finish := by
  have left : b.closeBlock.bodies = bodies := by rw [closeBlock_bodies, h, List.tail_cons]
  rw [finish, finish, h, left, List.foldl_cons]

theorem operateAll_finish (b : Builder) :
    b.operateAll source (b.bodies.flatMap closing) = b.finish ∧
      b.Legal source (b.bodies.flatMap closing) := by
  induction h : b.bodies generalizing b with
  | nil => exact ⟨(finish_of_nil h).symm, trivial⟩
  | cons body bodies ih =>
    obtain ⟨left, legal⟩ := operateAll_closing source h
    have rest := ih b.closeBlock (by rw [closeBlock_bodies, h, List.tail_cons])
    rw [List.flatMap_cons, operateAll_append, legal_append, left, finish_of_cons h]
    exact ⟨rest.1, legal, rest.2⟩

end

inductive Closes : Builder → Builder → Prop
  | done {b : Builder} (closed : b.bodies = []) : Closes b b
  | close {b c : Builder} (opened : b.bodies ≠ []) (rest : Closes b.closeBlock c) : Closes b c

theorem closes_finish (b : Builder) : Closes b b.finish := by
  induction h : b.bodies generalizing b with
  | nil =>
    rw [finish_of_nil h]
    exact .done h
  | cons body bodies ih =>
    rw [finish_of_cons h]
    apply Closes.close (by rw [h]; exact List.cons_ne_nil _ _)
    exact ih _ (by rw [closeBlock_bodies, h, List.tail_cons])

theorem closes_iff {b c : Builder} : Closes b c ↔ c = b.finish := by
  constructor
  · intro h
    induction h with
    | done closed => exact (finish_of_nil closed).symm
    | close opened rest ih =>
      obtain ⟨body, bodies, h⟩ := List.exists_cons_of_ne_nil opened
      rw [ih, finish_of_cons h]
  · rintro rfl
    exact closes_finish b

def anchors (b : Builder) : SourceMap := (Extracted.ofLines b.lines).map

theorem entries_push (b : Builder) (code : List Char) (statement : Bool)
    (anchor : Option Location) :
    (b.push code statement anchor).anchors.entries = b.anchors.entries ++
      (anchor.map fun place => ((b.lines.length + 1 : Int), place)).toList := by
  rw [push_eq, anchors, anchors, entries_ofLines, entries_ofLines, entriesFrom_append,
    entriesFrom_cons, Nat.zero_add]
  exact congrArg _ (List.append_nil _)

/-- The depth is the number of open blocks, and the anchors were noted under ascending numbers of
lines that are there. -/
structure Kept (b : Builder) : Prop where
  depth : b.depth = b.bodies.length
  ascending : b.anchors.keys.Pairwise (· < ·)
  within : ∀ key ∈ b.anchors.keys, 1 ≤ key ∧ key ≤ b.lines.length

structure Grows (b c : Builder) : Prop where
  lines : b.lines <+: c.lines
  anchors : b.anchors.entries <+: c.anchors.entries

theorem kept_empty : empty.Kept := ⟨rfl, List.Pairwise.nil, List.forall_mem_nil _⟩

variable {b : Builder}

theorem anchors_push (kept : b.Kept) (code : List Char) (statement : Bool) (place : Location) :
    (b.push code statement (some place)).anchors =
      b.anchors.insert (b.lines.length + 1) place := by
  have fresh : b.anchors.contains (b.lines.length + 1) = false := by
    rw [SourceMap.contains, List.any_eq_false]
    intro e he same
    have bound := (kept.within e.1 (List.mem_map_of_mem he)).2
    rw [beq_iff_eq] at same
    omega
  have noted := entries_push b code statement (some place)
  rw [SourceMap.insert, fresh, if_neg Bool.false_ne_true]
  exact congrArg SourceMap.mk noted

theorem kept_push (kept : b.Kept) (code : List Char) (statement : Bool)
    (anchor : Option Location) : (b.push code statement anchor).Kept := by
  have keys : (b.push code statement anchor).anchors.keys =
      b.anchors.keys ++ (anchor.map fun _ => (b.lines.length + 1 : Int)).toList := by
    rw [SourceMap.keys, entries_push, List.map_append]
    cases anchor <;> rfl
  have more : (b.push code statement anchor).lines.length = b.lines.length + 1 := by
    rw [lines_push, List.length_append, List.length_singleton]
  have last : ∀ key ∈ (anchor.map fun _ => (b.lines.length + 1 : Int)).toList,
      key = b.lines.length + 1 := by
    cases anchor <;> simp
  constructor
  · simpa using kept.depth
  · rw [keys, List.pairwise_append]
    refine ⟨kept.ascending, ?_, ?_⟩
    · cases anchor <;> simp
    · intro old hold new hnew
      have bound := (kept.within old hold).2
      have := last new hnew
      omega
  · rw [keys, more]
    intro key hkey
    rcases List.mem_append.mp hkey with old | new
    · have bound := kept.within key old
      omega
    · have := last key new
      omega

section

variable (source : List String)

theorem kept_operate (kept : b.Kept) (op : Operation) : (b.operate source op).Kept := by
  cases op with
  | write code statement piece => exact kept_push kept code statement _
  | enter => exact ⟨congrArg (· + 1) kept.depth, kept.ascending, kept.within⟩
  | leave =>
    have depth : b.depth - 1 = b.bodies.tail.length := by rw [kept.depth, List.length_tail]
    exact ⟨depth, kept.ascending, kept.within⟩

theorem kept_operateAll (kept : b.Kept) (ops : List Operation) :
    (b.operateAll source ops).Kept := by
  induction ops generalizing b with
  | nil => exact kept
  | cons op ops ih => exact ih (kept_operate source kept op)

theorem grows_operate (b : Builder) (op : Operation) : b.Grows (b.operate source op) := by
  cases op with
  | write code statement piece =>
    constructor
    · rw [operate, lines_push]
      exact List.prefix_append _ _
    · rw [operate, entries_push]
      exact List.prefix_append _ _
  | enter => exact ⟨List.prefix_rfl, List.prefix_rfl⟩
  | leave => exact ⟨List.prefix_rfl, List.prefix_rfl⟩

theorem grows_operateAll (b : Builder) (ops : List Operation) :
    b.Grows (b.operateAll source ops) := by
  induction ops generalizing b with
  | nil => exact ⟨List.prefix_rfl, List.prefix_rfl⟩
  | cons op ops ih =>
    have first := grows_operate source b op
    have later := ih (b.operate source op)
    exact ⟨first.lines.trans later.lines, first.anchors.trans later.anchors⟩

theorem operateAll_take_succ (b : Builder) {ops : List Operation} {k : Nat} {op : Operation}
    (h : ops[k]? = some op) :
    b.operateAll source (ops.take (k + 1)) =
      (b.operateAll source (ops.take k)).operate source op := by
  rw [List.take_add_one, h, operateAll_append]
  rfl

theorem bodies_of_legal {ops : List Operation} (legal : b.Legal source ops) {k : Nat}
    (h : ops[k]? = some .leave) : (b.operateAll source (ops.take k)).bodies ≠ [] := by
  obtain ⟨hk, hop⟩ := List.getElem?_eq_some_iff.mp h
  have cut : ops = ops.take k ++ .leave :: ops.drop (k + 1) := by
    rw [← hop, List.getElem_cons_drop, List.take_append_drop]
  rw [cut, legal_append] at legal
  exact legal.2.1 rfl

end

theorem finish_closed (kept : b.Kept) : b.finish.bodies = [] ∧ b.finish.depth = 0 := by
  have closed := bodies_finish b
  have depth : b.finish.depth = b.finish.bodies.length :=
    aligned_of_edits (edits_finish b) kept.depth
  exact ⟨closed, by rw [depth, closed, List.length_nil]⟩

end Builder

open Builder

/-- Between any two operations of a run over a tree and of the closing after it. -/
theorem kept_between_operations (source : List String) (nodes : List Node) :
    let visits := empty.operations source (steps nodes)
    let ops := visits ++ (empty.visitAll source nodes).bodies.flatMap closing
    let state (k : Nat) := empty.operateAll source (ops.take k)
    state visits.length = empty.visitAll source nodes ∧
      state ops.length = (empty.visitAll source nodes).finish ∧
      (∀ k, (state k).Kept) ∧
      (∀ k, ops[k]? = some .leave → 0 < (state k).depth) ∧
      (∀ k code statement piece, ops[k]? = some (.write code statement (some piece)) →
        (state (k + 1)).anchors = (state k).anchors.insert (state (k + 1)).lines.length
          (piece.anchor source (indented (state k).depth code))) ∧
      (∀ j k, j ≤ k → (state j).Grows (state k)) ∧
      ∀ k, (∀ c, Closes (state k) c ↔ c = (state k).finish) ∧
        (state k).finish.bodies = [] ∧ (state k).finish.depth = 0 := by
  intro visits ops state
  have run := operateAll_run source empty (steps nodes)
  rw [← visitAll_eq_run] at run
  have closes := operateAll_finish source (empty.visitAll source nodes)
  have legal : empty.Legal source ops := by
    rw [legal_append, run.1]
    exact ⟨run.2, closes.2⟩
  have kept (k : Nat) : (state k).Kept := kept_operateAll source kept_empty _
  refine ⟨?_, ?_, kept, ?_, ?_, ?_, fun k => ⟨fun c => closes_iff, finish_closed (kept k)⟩⟩
  · simp only [state, ops, List.take_left, visits, run.1]
  · simp only [state, List.take_length, ops, visits, operateAll_append, run.1, closes.1]
  · intro k hk
    rw [(kept k).depth]
    exact List.length_pos_of_ne_nil (bodies_of_legal source legal hk)
  · intro k code statement piece hk
    have next : state (k + 1) = _ := operateAll_take_succ source empty hk
    have more : (state (k + 1)).lines.length = (state k).lines.length + 1 := by
      rw [next, operate, push_eq, List.length_append, List.length_singleton]
    rw [more, next]
    exact anchors_push (kept k) code statement _
  · intro j k hjk
    have front : (ops.take k).take j = ops.take j := by rw [List.take_take, Nat.min_eq_left hjk]
    have cut := List.take_append_drop j (ops.take k)
    have later := grows_operateAll source (state j) ((ops.take k).drop j)
    rwa [← operateAll_append, ← front, cut] at later

end TemplateLint.Fragment
