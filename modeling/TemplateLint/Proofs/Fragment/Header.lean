import TemplateLint.Proofs.Fragment.Rendering
import TemplateLint.Proofs.Template.Header
import TemplateLint.Proofs.Text.Repetition

/-!
Headers as the reader of a template takes them, and as the builder does. The builder does not open a
block for a header whose comment goes on behind a line break, or stands behind a blank other than a
space or a tab. The end line then closes the block around it.
-/

namespace TemplateLint.Fragment

open Text Builder

theorem comment_of_not_endsLikeHeader {text : List Char}
    (accepted : Template.PartialStatement (trim text)) (h : ¬ EndsLikeHeader (trim text)) :
    ∃ front gap comment, trim text = front ++ ':' :: (gap ++ '#' :: comment) ∧
      allBlank gap = true ∧ ((∃ c ∈ gap, isIndent c = false) ∨ '\n' ∈ comment) := by
  obtain ⟨word, middle, _, same, -, -, -, gap, note, rfl, blank, mark⟩ := accepted
  rw [← List.append_assoc] at same
  cases note with
  -- Without a comment the colon is what the text ends in.
  | nil =>
    have none : trim text = (word ++ middle ++ [':']) ++ gap := by
      rw [same]
      simp
    obtain rfl := eq_nil_of_ends blank fun _ last => not_blank_of_getLast?_trim (none ▸ last)
    exact absurd ⟨_, [], [], same, by simp, .inl rfl⟩ h
  | cons c comment =>
    obtain rfl := mark c rfl
    refine ⟨_, gap, comment, same, blank, ?_⟩
    by_contra neither
    obtain ⟨indents, one_line⟩ := not_or.mp neither
    refine h ⟨_, gap, '#' :: comment, same, ?_, .inr ⟨comment, rfl, one_line⟩⟩
    intro d hd
    by_contra other
    exact indents ⟨d, hd, by simpa using other⟩

namespace Builder

variable {b c : Builder}

theorem next_line_of_edit (h : Edit b c) (fresh : b.bodies.head? = some false) :
    ∃ line, c.lines = b.lines ++ [line] ∧ line.depth = b.depth := by
  cases h with
  | write code statement anchor => exact ⟨_, lines_push .., rfl⟩
  | enter code anchor => exact ⟨_, lines_push .., rfl⟩
  | leave =>
    obtain ⟨bodies, open_⟩ := List.head?_eq_some_iff.mp fresh
    exact ⟨pass b.depth, by rw [closeBlock_of_cons open_]; rfl, rfl⟩

theorem next_line_of_edits (h : Edits b c) (fresh : b.bodies.head? = some false) :
    c = b ∨ ∃ line later, c.lines = b.lines ++ line :: later ∧ line.depth = b.depth := by
  cases h using Relation.ReflTransGen.head_induction_on with
  | refl => exact .inl rfl
  | head first rest =>
    obtain ⟨line, written, depth⟩ := next_line_of_edit first fresh
    obtain ⟨later, hlater⟩ := prefix_of_edits rest
    refine .inr ⟨line, later, ?_, depth⟩
    rw [← hlater, written, List.append_assoc]
    rfl

variable (source : List String) (b : Builder) {l : ControlLine}

theorem extends_plain (fresh : l.keyword ∉ continuations) (h : ¬ EndsLikeHeader l.code) :
    Extends b (b.visit source (l.node false)) true [indented b.depth l.code] := by
  have first : continues l.keyword = false := Bool.eq_false_iff.mpr (mt continues_iff.mp fresh)
  have opens_none : opensBlock (trim l.text.toList) = false :=
    Bool.eq_false_iff.mpr (mt opensBlock_iff.mp h)
  have written : b.visit source (l.node false) =
      b.emit source l.code true ⟨l.place.line, l.code, 0⟩ := by
    simp only [visit, ControlLine.node, control, first, opens_none]
    rfl
  rw [written]
  exact extends_emit source b l.code true _

theorem tail_mark (statement : Bool) (bodies : List Bool) :
    (mark statement bodies).tail = bodies.tail := by
  cases bodies <;> rfl

end Builder

/-- A header that the reader takes opens a block just when the builder takes its end for that of a
header. Then the next line, whatever writes it, is in the block, and the end line that belongs to
the header ends this block and leaves those around it open. Otherwise it stands among the lines of
the block around it, what follows is not deeper, and the end line ends that block. -/
theorem header_opens_iff (source : List String) (b : Builder) {l : ControlLine}
    (accepted : (Template.header? l.text.toList).isSome = true)
    (fresh : l.keyword ∉ continuations) :
    let c := b.visit source (l.node false)
    (EndsLikeHeader l.code →
      c.depth = b.depth + 1 ∧ c.bodies = false :: mark true b.bodies ∧
        (∀ nodes, c.visitAll source nodes = c ∨ ∃ line later,
          (c.visitAll source nodes).lines = c.lines ++ line :: later ∧ line.depth = b.depth + 1) ∧
        ∀ items (branches : Branches),
          let e := c.visitAll source (flatten items ++ branches.flatten)
          e.depth = b.depth ∧ e.bodies = mark true b.bodies) ∧
      (¬ EndsLikeHeader l.code →
        (∃ front gap comment, l.code = front ++ ':' :: (gap ++ '#' :: comment) ∧
          allBlank gap = true ∧ ((∃ c ∈ gap, isIndent c = false) ∨ '\n' ∈ comment)) ∧
        c.depth = b.depth ∧ c.bodies = mark true b.bodies ∧
        ∀ items (stop : ControlLine),
          let e := c.visitAll source (flatten items)
          Extends c e (fills items) (render b.depth items) ∧
            (e.visit source (stop.node true)).bodies = b.bodies.tail) := by
  intro c
  constructor
  · intro ends
    let header : Header := ⟨l, fresh, ends⟩
    obtain ⟨before, opened, written⟩ := extends_opening source b header
    have depth : c.depth = b.depth + 1 := by
      rw [← depth_of_extends written]
      exact congrArg Builder.depth opened
    have bodies : c.bodies = false :: mark true b.bodies := by
      rw [← bodies_of_extends written]
      exact congrArg Builder.bodies opened
    refine ⟨depth, bodies, ?_, ?_⟩
    · intro nodes
      rw [← depth]
      exact next_line_of_edits (edits_visitAll source c nodes) (by rw [bodies]; rfl)
    · intro items branches
      have whole := extends_item source b (.group header items branches)
      exact ⟨depth_of_extends whole, bodies_of_extends whole⟩
  · intro other
    have written := extends_plain source b fresh other
    refine ⟨comment_of_not_endsLikeHeader ((Template.header?_isSome_iff _).mp accepted) other,
      depth_of_extends written, bodies_of_extends written, ?_⟩
    intro items stop
    -- Nothing was opened, so that the innermost block is still the one around the header.
    have inside := extends_items source c items
    rw [depth_of_extends written] at inside
    refine ⟨inside, ?_⟩
    change (Builder.closeBlock _).bodies = _
    rw [closeBlock_bodies, bodies_of_extends inside, bodies_of_extends written, tail_mark, tail_mark]

def loopHeader : ControlLine := ⟨"for v in w:", "for", ⟨1, 1⟩, []⟩

def notedHeader : ControlLine := ⟨"if v:\t# a: b", "if", ⟨2, 1⟩, []⟩

def guardedNodes : List Node :=
  [.expression "v" ⟨3, 3⟩, .control "endif" "if" true ⟨4, 1⟩ []]

theorem notedHeader_opens :
    let b := empty.visit [] (loopHeader.node false)
    let c := b.visit [] (notedHeader.node false)
    let e := c.visitAll [] guardedNodes
    (Template.header? notedHeader.text.toList).isSome = true ∧
      notedHeader.keyword ∉ continuations ∧ EndsLikeHeader notedHeader.code ∧
      b.depth = 1 ∧ c.depth = b.depth + 1 ∧ c.bodies = [false, true] ∧
      (∃ line later, e.lines = c.lines ++ line :: later ∧ line.depth = b.depth + 1) ∧
      e.depth = b.depth ∧ e.bodies = [true] := by
  intro b c e
  have accepted : (Template.header? notedHeader.text.toList).isSome = true := by decide
  have fresh : notedHeader.keyword ∉ continuations := by decide
  have ends : EndsLikeHeader notedHeader.code := opensBlock_iff.mp (by decide)
  obtain ⟨deeper, opened, next, closed⟩ := (header_opens_iff [] b accepted fresh).1 ends
  have written : e ≠ c := by decide
  obtain ⟨depth, bodies⟩ :=
    closed [.expression "v" ⟨3, 3⟩] (.done ⟨"endif", "if", ⟨4, 1⟩, []⟩)
  exact ⟨accepted, fresh, ends, by decide, deeper, opened,
    (next guardedNodes).resolve_left written, depth, bodies⟩

def continuedHeader : ControlLine := ⟨"if v: # a \\\n b", "if", ⟨2, 1⟩, []⟩

def continuedLines : List String :=
  ["% for v in w:", "% if v: # a \\", " b", "${v}", "% endif", "${u}", "% endfor"]

def continuedGroup : List Node :=
  [.expression "v" ⟨4, 1⟩, .control "endif" "if" true ⟨5, 1⟩ []]

def continuedNodes : List Node :=
  loopHeader.node false :: continuedHeader.node false ::
    (continuedGroup ++ [.expression "u" ⟨6, 1⟩, .control "endfor" "for" true ⟨7, 1⟩ []])

theorem continuedHeader_does_not_open :
    let b := empty.visit continuedLines (loopHeader.node false)
    let c := b.visit continuedLines (continuedHeader.node false)
    let e := c.visitAll continuedLines continuedGroup
    (Template.header? continuedHeader.text.toList).isSome = true ∧
      continuedHeader.keyword ∉ continuations ∧ b.depth = 1 ∧ b.bodies = [false] ∧
      (lines continuedLines continuedNodes)[2]?.map Line.depth = some 1 ∧ e.bodies = [] ∧
      ¬ ((lines continuedLines continuedNodes)[2]?.map Line.depth = some (b.depth + 1) ∧
        e.bodies.length = b.bodies.length) := by
  decide

end TemplateLint.Fragment
