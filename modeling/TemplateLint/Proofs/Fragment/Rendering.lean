import Mathlib.Data.List.TakeWhile
import TemplateLint.Proofs.Fragment.Edit

namespace TemplateLint.Fragment

open Text

def EndsLikeHeader (cs : List Char) : Prop :=
  ∃ front blanks note, cs = front ++ ':' :: (blanks ++ note) ∧
    (∀ c ∈ blanks, isIndent c = true) ∧
    (note = [] ∨ ∃ comment, note = '#' :: comment ∧ '\n' ∉ comment)

theorem dropWhile_indent {blanks note : List Char} (hb : ∀ c ∈ blanks, isIndent c = true)
    (hn : note = [] ∨ ∃ comment, note = '#' :: comment ∧ '\n' ∉ comment) :
    (blanks ++ note).dropWhile isIndent = note := by
  rw [List.dropWhile_append_of_pos hb]
  rcases hn with rfl | ⟨comment, rfl, -⟩ <;> rfl

theorem opensBlock_iff {cs : List Char} : opensBlock cs = true ↔ EndsLikeHeader cs := by
  induction cs with
  | nil => simp [opensBlock, EndsLikeHeader]
  | cons c cs ih =>
    rw [opensBlock, Bool.or_eq_true, ih, Bool.and_eq_true, beq_iff_eq]
    constructor
    · rintro (⟨rfl, tail⟩ | ⟨front, blanks, note, rfl, h⟩)
      · refine ⟨[], cs.takeWhile isIndent, cs.dropWhile isIndent, by simp, ?_, ?_⟩
        · intro c hc
          exact List.mem_takeWhile_imp hc
        · cases hd : cs.dropWhile isIndent with
          | nil => exact .inl rfl
          | cons d rest => simp [hd] at tail; exact .inr ⟨rest, by rw [tail.1], tail.2⟩
      · exact ⟨c :: front, blanks, note, rfl, h⟩
    · rintro ⟨front, blanks, note, hcs, hb, hn⟩
      cases front with
      | nil =>
        obtain ⟨rfl, rfl⟩ := List.cons.inj hcs
        refine .inl ⟨rfl, ?_⟩
        rw [dropWhile_indent hb hn]
        rcases hn with rfl | ⟨comment, rfl, hc⟩
        · rfl
        · simpa using hc
      | cons d front => exact .inr ⟨front, blanks, note, (List.cons.inj hcs).2, hb, hn⟩

def continuations : List String := ["elif", "else", "except", "finally"]

theorem continues_iff {keyword : String} :
    continues keyword = true ↔ keyword ∈ continuations := by
  simp [continues, continuations, or_assoc]

structure ControlLine where
  text : String
  keyword : String
  place : Place
  held : List Node

def ControlLine.code (l : ControlLine) : List Char := trim l.text.toList

def ControlLine.node (l : ControlLine) (closes : Bool) : Node :=
  .control l.text l.keyword closes l.place l.held

structure Header extends ControlLine where
  fresh : keyword ∉ continuations
  opens : EndsLikeHeader (trim text.toList)

structure Continuation extends ControlLine where
  goes_on : keyword ∈ continuations

mutual

inductive Item where
  | code (text : String) (place : Place)
  | expression (text : String) (place : Place)
  | inert (held : List Node)
  | define (name : Option String) (place : Place) (items : List Item)
  | tag (items : List Item)
  | group (header : Header) (items : List Item) (branches : Branches)

inductive Branches where
  | done (stop : ControlLine)
  | next (header : Continuation) (items : List Item) (branches : Branches)

end

mutual

def Item.flatten : Item → List Node
  | .code text place => [.code text place]
  | .expression text place => [.expression text place]
  | .inert held => [.inert held]
  | .define name place items => [.define name place (flatten items)]
  | .tag items => [.tag (flatten items)]
  | .group header items branches => header.node false :: (flatten items ++ branches.flatten)

def Branches.flatten : Branches → List Node
  | .done stop => [stop.node true]
  | .next header items branches => header.node false :: (Fragment.flatten items ++ branches.flatten)

def flatten : List Item → List Node
  | [] => []
  | item :: items => item.flatten ++ flatten items

end

def filledLines (text : String) : List (List Char) :=
  (splitOn '\n' text.toList).filter fun raw => trim raw ≠ []

def stated (text : String) : Bool := (filledLines text).any fun raw => (trim raw).head? ≠ some '#'

mutual

def Item.fills : Item → Bool
  | .code text _ => stated text
  | .expression text _ => stated text
  | .inert _ => false
  | .define .. => true
  | .tag items => fills items
  | .group .. => true

def fills : List Item → Bool
  | [] => false
  | item :: items => item.fills || fills items

end

def withPass (depth : Nat) (filled : Bool) (lines : List (List Char)) : List (List Char) :=
  if filled then lines else lines ++ [indented depth "pass".toList]

mutual

def Item.render (depth : Nat) : Item → List (List Char)
  | .code text _ => (filledLines text).map fun raw => indented depth (trimEnd raw)
  | .expression text _ => (filledLines text).map fun raw => indented depth (trim raw)
  | .inert _ => []
  | .define name _ items =>
    indented depth ("def ".toList ++ trim (name.getD "").toList ++ [':']) ::
      withPass (depth + 1) (fills items) (render (depth + 1) items)
  | .tag items => render depth items
  | .group header items branches =>
    indented depth header.code ::
      (withPass (depth + 1) (fills items) (render (depth + 1) items) ++ branches.render depth)

def Branches.render (depth : Nat) : Branches → List (List Char)
  | .done _ => []
  | .next header items branches =>
    indented depth header.code ::
      (withPass (depth + 1) (fills items) (Fragment.render (depth + 1) items) ++
        branches.render depth)

def render (depth : Nat) : List Item → List (List Char)
  | [] => []
  | item :: items => item.render depth ++ render depth items

end

namespace Builder

theorem visitAll_append (source : List String) (b : Builder) (xs ys : List Node) :
    b.visitAll source (xs ++ ys) = (b.visitAll source xs).visitAll source ys := by
  rw [visitAll_eq_run, visitAll_eq_run, visitAll_eq_run, ← run_append]
  congr 1
  induction xs with
  | nil => rfl
  | cons x xs ih => rw [List.cons_append, steps, steps, ih, List.append_assoc]

def Extends (b c : Builder) (filled : Bool) (shown : List (List Char)) : Prop :=
  ∃ ls, c = ⟨b.lines ++ ls, b.depth, mark filled b.bodies⟩ ∧ ls.map Line.chars = shown

section

variable {b c e : Builder} {filled more : Bool} {shown later : List (List Char)}

theorem extends_refl (b : Builder) : Extends b b false [] := ⟨[], by simp, rfl⟩

theorem extends_trans (h : Extends b c filled shown) (h' : Extends c e more later) :
    Extends b e (filled || more) (shown ++ later) := by
  obtain ⟨ls, rfl, rfl⟩ := h
  obtain ⟨ms, rfl, rfl⟩ := h'
  exact ⟨ls ++ ms, by simp, List.map_append⟩

theorem extends_emit (source : List String) (b : Builder) (code : List Char) (statement : Bool)
    (piece : Piece) :
    Extends b (b.emit source code statement piece) statement [indented b.depth code] := by
  refine ⟨[_], push_eq .., ?_⟩
  simp [Line.chars]

theorem extends_closeBlock (h : Extends b.openBlock c filled shown) :
    Extends b c.closeBlock false (withPass (b.depth + 1) filled shown) := by
  obtain ⟨ls, rfl, rfl⟩ := h
  rw [closeBlock_of_cons (mark_cons ..)]
  cases filled with
  | true => exact ⟨ls, by simp, rfl⟩
  | false =>
    exact ⟨ls ++ [pass (b.depth + 1)], by simp, by simp [withPass, pass, Line.chars]⟩

theorem depth_of_extends (h : Extends b c filled shown) : c.depth = b.depth := by
  obtain ⟨ls, rfl, -⟩ := h
  rfl

theorem bodies_of_extends (h : Extends b c filled shown) : c.bodies = mark filled b.bodies := by
  obtain ⟨ls, rfl, -⟩ := h
  rfl

theorem bodies_ne_nil (h : Extends b.openBlock c filled shown) : c.bodies ≠ [] := by
  obtain ⟨ls, rfl, -⟩ := h
  simp

variable (source : List String)

theorem extends_copyLine (b : Builder) (keepIndent : Bool) (raw : List Char) (line start : Int) :
    Extends b (b.copyLine source keepIndent raw line start)
      (decide (trim raw ≠ []) && decide ((trim raw).head? ≠ some '#'))
      (([raw].filter fun raw => trim raw ≠ []).map
        fun raw => indented b.depth (if keepIndent then trimEnd raw else trim raw)) := by
  by_cases blank : trim raw = []
  · simpa [copyLine, blank] using extends_refl b
  · simpa [copyLine, blank] using extends_emit source b ..

theorem extends_copy (b : Builder) (keepIndent : Bool) (text : String) (place : Place) :
    Extends b (b.copy source keepIndent text place) (stated text)
      ((filledLines text).map
        fun raw => indented b.depth (if keepIndent then trimEnd raw else trim raw)) := by
  suffices ∀ (raws : List (List Char)) (n : Nat) (c : Builder),
      Extends c
        ((raws.zipIdx n).foldl (fun c p => copyLine source keepIndent c p.1 (place.line + p.2)
          (if p.2 = 0 then place.column - 1 else 0)) c)
        ((raws.filter fun raw => trim raw ≠ []).any fun raw => (trim raw).head? ≠ some '#')
        ((raws.filter fun raw => trim raw ≠ []).map
          fun raw => indented c.depth (if keepIndent then trimEnd raw else trim raw))
    from this _ 0 b
  intro raws
  induction raws with
  | nil => intro n c; exact extends_refl c
  | cons raw raws ih =>
    intro n c
    have first := extends_copyLine source c keepIndent raw (place.line + n)
      (if n = 0 then place.column - 1 else 0)
    have rest := ih (n + 1) (copyLine source keepIndent c raw (place.line + n)
      (if n = 0 then place.column - 1 else 0))
    rw [depth_of_extends first] at rest
    have both := extends_trans first rest
    by_cases blank : trim raw = [] <;> simpa [blank] using both

theorem extends_header (b : Builder) (name : Option String) (place : Place) :
    ∃ c, b.header source name place = c.openBlock ∧
      Extends b c true [indented b.depth ("def ".toList ++ trim (name.getD "").toList ++ [':'])] :=
  ⟨_, rfl, extends_emit ..⟩

theorem extends_opening (b : Builder) (header : Header) :
    ∃ c, b.visit source (header.node false) = c.openBlock ∧
      Extends b c true [indented b.depth header.code] := by
  have fresh : continues header.keyword = false := by
    rw [← Bool.not_eq_true, continues_iff]
    exact header.fresh
  have opens := opensBlock_iff.mpr header.opens
  refine ⟨_, ?_, extends_emit source b header.code true ⟨header.place.line, header.code, 0⟩⟩
  simp only [visit, ControlLine.node, control, fresh, opens, ControlLine.code]
  rfl

theorem extends_continuing (header : Continuation) (h : Extends b.openBlock c filled shown) :
    ∃ e, c.visit source (header.node false) = e.openBlock ∧
      Extends b e true (withPass (b.depth + 1) filled shown ++ [indented b.depth header.code]) := by
  have goes_on := continues_iff.mpr header.goes_on
  have closed := extends_closeBlock h
  have emitted := extends_emit source c.closeBlock header.code true
    ⟨header.place.line, header.code, 0⟩
  rw [depth_of_extends closed] at emitted
  refine ⟨_, ?_, extends_trans closed emitted⟩
  simp [visit, ControlLine.node, control, goes_on, bodies_ne_nil h, ControlLine.code]

end

mutual

theorem extends_item (source : List String) (b : Builder) (item : Item) :
    Extends b (b.visitAll source item.flatten) item.fills (item.render b.depth) := by
  cases item with
  | code text place => exact extends_copy source b true text place
  | expression text place => exact extends_copy source b false text place
  | inert held => exact extends_refl b
  | define name place items =>
    obtain ⟨c, hc, opened⟩ := extends_header source b name place
    have body := extends_closeBlock (extends_items source c.openBlock items)
    have whole := extends_trans opened body
    rw [show c.openBlock.depth = c.depth + 1 from rfl, depth_of_extends opened, ← hc] at whole
    exact whole
  | tag items => exact extends_items source b items
  | group header items branches =>
    obtain ⟨c, hc, opened⟩ := extends_opening source b header
    have body := extends_items source c.openBlock items
    obtain ⟨more, rest⟩ := extends_branches source branches body
    have whole := extends_trans opened rest
    rw [show c.openBlock.depth = c.depth + 1 from rfl, depth_of_extends opened, ← hc,
      Bool.true_or] at whole
    rw [Item.flatten, visitAll, visitAll_append]
    exact whole

theorem extends_branches (source : List String) {b c : Builder} {filled : Bool}
    {shown : List (List Char)} (branches : Branches) (h : Extends b.openBlock c filled shown) :
    ∃ more, Extends b (c.visitAll source branches.flatten) more
      (withPass (b.depth + 1) filled shown ++ branches.render b.depth) := by
  cases branches with
  | done stop =>
    refine ⟨false, ?_⟩
    rw [Branches.render, List.append_nil]
    exact extends_closeBlock h
  | next header items branches =>
    obtain ⟨e, he, continued⟩ := extends_continuing source header h
    have body := extends_items source e.openBlock items
    obtain ⟨more, rest⟩ := extends_branches source branches body
    have whole := extends_trans continued rest
    rw [show e.openBlock.depth = e.depth + 1 from rfl, depth_of_extends continued, ← he,
      List.append_assoc] at whole
    rw [Branches.flatten, visitAll, visitAll_append]
    exact ⟨_, whole⟩

theorem extends_items (source : List String) (b : Builder) (items : List Item) :
    Extends b (b.visitAll source (flatten items)) (fills items) (render b.depth items) := by
  cases items with
  | nil => exact extends_refl b
  | cons item items =>
    have first := extends_item source b item
    have rest := extends_items source (b.visitAll source item.flatten) items
    rw [depth_of_extends first] at rest
    rw [flatten, visitAll_append]
    exact extends_trans first rest

end

end Builder

/-- The fragment of a well-nested template is its rendering. -/
theorem lines_flatten (source : List String) (items : List Item) :
    (lines source (flatten items)).map Line.chars = render 0 items ∧
      (Extracted.ofNodes source (flatten items)).text =
        String.ofList (join ['\n'] (render 0 items)) := by
  obtain ⟨ls, whole, shown⟩ := Builder.extends_items source .empty items
  have same : lines source (flatten items) = ls := by
    rw [lines, whole]
    simp [Builder.finish, Builder.empty]
  constructor
  · rw [same, shown]; rfl
  · rw [Extracted.ofNodes, Extracted.ofLines, same, shown]; rfl

example :
    let header : Header := ⟨⟨"if x:", "if", ⟨1, 1⟩, []⟩, by decide, opensBlock_iff.mp (by decide)⟩
    let other : Continuation := ⟨⟨"else:", "else", ⟨3, 1⟩, []⟩, by decide⟩
    render 0 [.group header [.expression "x" ⟨2, 3⟩]
        (.next other [.code "# none" ⟨4, 4⟩] (.done ⟨"endif", "if", ⟨5, 1⟩, []⟩))] =
      ["if x:", "    x", "else:", "    # none", "    pass"].map String.toList := by
  decide

end TemplateLint.Fragment
