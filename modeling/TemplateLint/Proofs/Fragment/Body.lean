import TemplateLint.Proofs.Fragment.Excerpt

/-!
Every header has a body. The lines after a header and deeper than it are its block; while the block
is open its flag says whether the template has put a statement straight into it, and if not by the
time it is closed, it ends in `pass`.
-/

namespace TemplateLint.Fragment

def Stated (d : Nat) (block : List Line) : Prop :=
  ∃ l ∈ block, l.depth = d + 1 ∧ l.statement = true ∧ l.mapped = true

structure Filled (d : Nat) (block : List Line) : Prop where
  deeper : ∀ l ∈ block, d < l.depth
  first : ∃ l, block.head? = some l ∧ l.depth = d + 1
  statement : ∃ l ∈ block, l.depth = d + 1 ∧ l.statement = true
  pass_iff : (∃ l ∈ block, l.depth = d + 1 ∧ l.mapped = false) ↔ ¬ Stated d block
  pass_last : ¬ Stated d block → ∃ notes, block = notes ++ [pass (d + 1)] ∧
    ∀ l ∈ notes, l.depth = d + 1 ∧ l.statement = false ∧ l.mapped = true

structure Opened (d : Nat) (flag : Bool) (t : List Line) : Prop where
  deeper : ∀ l ∈ t, d < l.depth
  first : ∀ l, t.head? = some l → l.depth = d + 1
  mapped : ∀ l ∈ t, l.depth = d + 1 → l.mapped = true
  flag_iff : flag = true ↔ ∃ l ∈ t, l.depth = d + 1 ∧ l.statement = true
  flat : flag = false → ∀ l ∈ t, l.depth = d + 1

variable {d : Nat} {flag : Bool} {t : List Line} {l : Line}

theorem opened_nil (d : Nat) : Opened d false [] := by
  constructor <;> simp

theorem opened_here (h : Opened d flag t) (hd : l.depth = d + 1) (hl : l.mapped = true) :
    Opened d (flag || l.statement) (t ++ [l]) := by
  constructor
  · simp only [List.mem_append, List.mem_singleton]
    rintro m (hm | rfl)
    · exact h.deeper m hm
    · omega
  · intro m first
    cases t with
    | nil => simp at first; exact first ▸ hd
    | cons n t => exact h.first m first
  · simp only [List.mem_append, List.mem_singleton]
    rintro m (old | rfl) hmd
    · exact h.mapped m old hmd
    · exact hl
  · simp only [Bool.or_eq_true, h.flag_iff, List.mem_append, List.mem_singleton]
    constructor
    · rintro (⟨m, old, hm⟩ | stated)
      · exact ⟨m, .inl old, hm⟩
      · exact ⟨l, .inr rfl, hd, stated⟩
    · rintro ⟨m, old | rfl, hm⟩
      · exact .inl ⟨m, old, hm⟩
      · exact .inr hm.2
  · simp only [Bool.or_eq_false_iff, List.mem_append, List.mem_singleton]
    rintro ⟨unflagged, -⟩ m (old | rfl)
    · exact h.flat unflagged m old
    · exact hd

theorem opened_deeper (h : Opened d true t) (hd : d + 1 < l.depth) : Opened d true (t ++ [l]) := by
  obtain ⟨m, hm, hmd⟩ := h.flag_iff.mp rfl
  constructor
  · simp only [List.mem_append, List.mem_singleton]
    rintro m (old | rfl)
    · exact h.deeper m old
    · omega
  · intro n first
    cases t with
    | nil => cases hm
    | cons n t => exact h.first _ first
  · simp only [List.mem_append, List.mem_singleton]
    rintro n (old | rfl) hn
    · exact h.mapped n old hn
    · omega
  · simp only [true_iff]
    exact ⟨m, List.mem_append_left _ hm, hmd⟩
  · simp

theorem filled_of_opened (h : Opened d flag t) :
    Filled d (if flag then t else t ++ [pass (d + 1)]) := by
  cases flag with
  | true =>
    obtain ⟨m, hm, hmd, stated⟩ := h.flag_iff.mp rfl
    have here : Stated d t := ⟨m, hm, hmd, stated, h.mapped m hm hmd⟩
    refine ⟨h.deeper, ?_, ⟨m, hm, hmd, stated⟩, ?_, fun none => absurd here none⟩
    · cases t with
      | nil => cases hm
      | cons n t => exact ⟨n, rfl, h.first n rfl⟩
    · constructor
      · rintro ⟨n, hn, hnd, unmapped⟩
        rw [h.mapped n hn hnd] at unmapped
        cases unmapped
      · intro none
        exact absurd here none
  | false =>
    have notes : ∀ m ∈ t, m.depth = d + 1 ∧ m.statement = false ∧ m.mapped = true := by
      intro m hm
      have hmd := h.flat rfl m hm
      refine ⟨hmd, ?_, h.mapped m hm hmd⟩
      have unstated := mt h.flag_iff.mpr Bool.false_ne_true
      exact Bool.eq_false_iff.mpr fun stated => unstated ⟨m, hm, hmd, stated⟩
    have last : pass (d + 1) ∈ t ++ [pass (d + 1)] := List.mem_append_right _ List.mem_cons_self
    have unstated : ¬ Stated d (t ++ [pass (d + 1)]) := by
      rintro ⟨m, hm, -, stated, mapped⟩
      rcases List.mem_append.mp hm with hm | hm
      · rw [(notes m hm).2.1] at stated
        cases stated
      · rw [List.mem_singleton.mp hm, not_mapped_pass] at mapped
        cases mapped
    refine ⟨?_, ?_, ⟨_, last, rfl, rfl⟩, ?_, fun _ => ⟨t, rfl, notes⟩⟩
    · intro m hm
      rcases List.mem_append.mp hm with hm | hm
      · exact h.deeper m hm
      · rw [List.mem_singleton.mp hm]; exact Nat.lt_succ_self d
    · cases t with
      | nil => exact ⟨_, rfl, rfl⟩
      | cons n t => exact ⟨n, rfl, h.first n rfl⟩
    · constructor
      · intro _; exact unstated
      · intro _; exact ⟨_, last, rfl, rfl⟩

/-- The lines after a header at depth `d` and the flags of the open blocks: the block of the header
is among these, below the ones opened later, or it is closed and the line behind is not deeper. -/
inductive Phase (d : Nat) : List Line → List Bool → Prop
  | opened {inner outer : List Bool} {flag : Bool} {t : List Line} (level : outer.length = d)
      (below : inner ≠ [] → flag = true) (here : Opened d flag t) :
      Phase d t (inner ++ flag :: outer)
  | closed {block rest : List Line} {bodies : List Bool} (filled : Filled d block)
      (left : rest = [] → bodies.length ≤ d) (next : ∀ l, rest.head? = some l → l.depth ≤ d) :
      Phase d (block ++ rest) bodies

theorem phase_nil {outer : List Bool} (level : outer.length = d) : Phase d [] (false :: outer) :=
  @Phase.opened d [] outer false [] level (fun h => absurd rfl h) (opened_nil d)

theorem phase_closed_append {block rest more : List Line} {bodies later : List Bool}
    (filled : Filled d block) (left : rest = [] → bodies.length ≤ d)
    (next : ∀ l, rest.head? = some l → l.depth ≤ d) (hmore : ∀ l ∈ more, l.depth = bodies.length)
    (hlater : more = [] → later.length ≤ bodies.length) :
    Phase d ((block ++ rest) ++ more) later := by
  rw [List.append_assoc]
  apply Phase.closed filled
  · intro none
    obtain ⟨hr, hm⟩ := List.append_eq_nil_iff.mp none
    exact Nat.le_trans (hlater hm) (left hr)
  · intro l first
    cases rest with
    | nil =>
      have deep := hmore l (List.mem_of_head? first)
      have := left rfl
      omega
    | cons m rest => exact next l first

theorem phase_write (new : List Bool) {bodies : List Bool} (phase : Phase d t bodies)
    (hd : l.depth = bodies.length) (hl : l.mapped = true) (hnew : new ≠ [] → l.statement = true) :
    Phase d (t ++ [l]) (new ++ mark l.statement bodies) := by
  cases phase with
  | @opened inner outer flag t level below here =>
    cases inner with
    | nil =>
      apply Phase.opened level _ (opened_here here (by simpa [level] using hd) hl)
      intro entered
      rw [hnew entered, Bool.or_true]
    | cons body inner =>
      have flagged := below (by simp)
      subst flagged
      simp only [List.cons_append, List.length_cons, List.length_append] at hd
      rw [List.cons_append, mark_cons, ← List.cons_append, ← List.append_assoc]
      exact .opened level (fun _ => rfl) (opened_deeper here (by omega))
  | closed filled left next =>
    apply phase_closed_append filled left next
    · simpa using hd
    · simp

theorem phase_leave {body : Bool} {bodies : List Bool} (phase : Phase d t (body :: bodies)) :
    Phase d (if body then t else t ++ [pass (bodies.length + 1)]) bodies := by
  generalize hs : body :: bodies = open_ at phase
  cases phase with
  | @opened inner outer flag t level below here =>
    cases inner with
    | nil =>
      obtain ⟨rfl, rfl⟩ := List.cons.inj hs
      have done : Phase d (_ ++ []) bodies :=
        .closed (filled_of_opened here) (fun _ => by omega) (by simp)
      rw [List.append_nil] at done
      rwa [level]
    | cons inside inner =>
      obtain ⟨rfl, rfl⟩ := List.cons.inj hs
      have flagged := below (by simp)
      subst flagged
      have deep : d + 1 < (pass ((inner ++ true :: outer).length + 1)).depth := by
        simp only [pass, List.length_append, List.length_cons]; omega
      cases body with
      | true => exact .opened level (fun _ => rfl) here
      | false => exact .opened level (fun _ => rfl) (opened_deeper here deep)
  | closed filled left next =>
    subst hs
    cases body with
    | true =>
      apply Phase.closed filled _ next
      intro none
      exact Nat.le_of_succ_le (left none)
    | false =>
      apply phase_closed_append filled left next
      · simp [pass]
      · simp

namespace Builder

theorem phase_of_edit {b c : Builder} (h : Edit b c) (aligned : b.Aligned) {shown : List Line}
    (hb : b.lines = shown ++ t) (phase : Phase d t b.bodies) :
    ∃ u, c.lines = shown ++ u ∧ Phase d u c.bodies := by
  cases h with
  | write code statement anchor =>
    rw [push_eq, hb, List.append_assoc]
    exact ⟨_, rfl, phase_write [] phase aligned rfl (fun h => absurd rfl h)⟩
  | enter code anchor =>
    rw [push_eq, openBlock, hb, List.append_assoc]
    exact ⟨_, rfl, phase_write [false] phase aligned rfl (fun _ => rfl)⟩
  | leave =>
    cases hs : b.bodies with
    | nil => rw [closeBlock_of_nil hs, hs]; exact ⟨t, hb, hs ▸ phase⟩
    | cons body bodies =>
      rw [hs] at phase
      have left := phase_leave phase
      rw [closeBlock_of_cons hs, hb, aligned, hs]
      cases body with
      | true => exact ⟨_, rfl, left⟩
      | false => exact ⟨_, List.append_assoc .., left⟩

theorem phase_of_edits {b c : Builder} (h : Edits b c) (aligned : b.Aligned) {shown : List Line}
    (hb : b.lines = shown ++ t) (phase : Phase d t b.bodies) :
    ∃ u, c.lines = shown ++ u ∧ Phase d u c.bodies := by
  induction h with
  | refl => exact ⟨t, hb, phase⟩
  | tail edits edit ih =>
    obtain ⟨u, hu, later⟩ := ih
    exact phase_of_edit edit (aligned_of_edits edits aligned) hu later

end Builder

theorem phase_done {u : List Line} (phase : Phase d u []) :
    ∃ block rest, u = block ++ rest ∧ Filled d block ∧ ∀ l, rest.head? = some l → l.depth ≤ d := by
  generalize hs : ([] : List Bool) = closed_ at phase
  cases phase with
  | opened => simp at hs
  | closed filled left next => exact ⟨_, _, rfl, filled, next⟩

theorem takeWhile_block {block rest : List Line} (filled : Filled d block)
    (next : ∀ l, rest.head? = some l → l.depth ≤ d) :
    (block ++ rest).takeWhile (fun l => decide (d < l.depth)) = block := by
  rw [List.takeWhile_append_of_pos (by simpa using filled.deeper)]
  cases rest with
  | nil => simp
  | cons l rest =>
    have stop := next l rfl
    rw [List.takeWhile_cons_of_neg (by simpa using stop), List.append_nil]

open Builder

/-- After the steps `before`, the header `s` is written at some depth `d`. The next line is at depth
`d + 1`, and the lines up to the first one that is not deeper than `d` are a filled block. -/
def HasBody (source : List String) (nodes : List Node) (before : List Step) (s : Step) : Prop :=
  ∃ x shown d tail, s.excerpt? = some x ∧
    (empty.run source (before ++ [s])).lines = shown ++ [x.at source d] ∧
    lines source nodes = shown ++ x.at source d :: tail ∧
    (∃ next, tail.head? = some next ∧ next.depth = d + 1) ∧
    Filled d (tail.takeWhile fun l => decide (d < l.depth))

theorem header_has_body (source : List String) {nodes : List Node} {before after : List Step}
    {s : Step} (h : steps nodes = before ++ s :: after)
    (opens : s.opens (empty.run source before) = true) :
    HasBody source nodes before s := by
  have aligned := aligned_of_edits (edits_run source empty before) aligned_empty
  rcases step_cases source (empty.run source before) s with
    ⟨nothing, -⟩ | ⟨x, shown, b, hb, written⟩
  · rw [opens_eq_false_of_excerpt?_eq_none nothing] at opens
    cases opens
  have aligned_b : b.Aligned := by
    rcases hb with rfl | rfl
    · exact aligned
    · exact aligned_of_edit (.leave _) aligned
  rcases written with ⟨closed, -⟩ | ⟨-, stated, written⟩
  · rw [closed] at opens; cases opens
  have here : empty.run source (before ++ [s]) =
      ⟨b.lines ++ [x.at source b.depth], b.depth + 1, false :: mark true b.bodies⟩ := by
    rw [run_append, ← stated]
    exact written.trans (by rw [put_eq, openBlock])
  have total :
      lines source nodes = ((empty.run source (before ++ [s])).run source after).finish.lines := by
    rw [lines_eq_run, h, ← run_append, List.append_assoc, List.singleton_append]
  have start : Phase b.depth [] (empty.run source (before ++ [s])).bodies := by
    rw [here]
    exact phase_nil (by simpa using aligned_b.symm)
  have later := (edits_run source (empty.run source (before ++ [s])) after).trans (edits_finish _)
  have aligned_here := aligned_of_edits (edits_run source empty (before ++ [s])) aligned_empty
  obtain ⟨u, hu, phase⟩ := phase_of_edits later aligned_here (List.append_nil _).symm start
  rw [bodies_finish] at phase
  obtain ⟨block, rest, rfl, filled, next⟩ := phase_done phase
  refine ⟨x, b.lines, b.depth, block ++ rest, shown, by rw [here], ?_, ?_, ?_⟩
  · rw [total, hu, here, List.append_assoc]
    rfl
  · obtain ⟨first, hfirst, hd⟩ := filled.first
    exact ⟨first, by rw [List.head?_append, hfirst]; rfl, hd⟩
  · rw [takeWhile_block filled next]
    exact filled

def crossingNodes : List Node :=
  -- The end line of the `if` comes after the end of the definition that it began in.
  [.define (some "f()") ⟨1, 1⟩
      [.control "if x:" "if" false ⟨2, 1⟩ [], .code "# note\n" ⟨3, 1⟩],
    .control "endif" "if" true ⟨5, 1⟩ []]

def crossingStart : List Step := [.header (some "f()") ⟨1, 1⟩]

def crossingHeader : Step := .control "if x:" "if" false 2

def crossingRest : List Step :=
  [.copy true "# note".toList 3 0, .copy true [] 4 0, .leave, .control "endif" "if" true 5]

theorem crossing_header_has_body :
    steps crossingNodes = crossingStart ++ crossingHeader :: crossingRest ∧
      crossingHeader.opens (empty.run [] crossingStart) = true ∧
      HasBody [] crossingNodes crossingStart crossingHeader := by
  have order : steps crossingNodes = crossingStart ++ crossingHeader :: crossingRest := rfl
  have opens : crossingHeader.opens (empty.run [] crossingStart) = true := by decide
  exact ⟨order, opens, header_has_body [] order opens⟩

end TemplateLint.Fragment
