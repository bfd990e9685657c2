import TemplateLint.Proofs.Pointing
import TemplateLint.Proofs.Text.Repetition

namespace TemplateLint.Fragment

open Text Builder

def opening : List Char := ['$', '\x7b']

def brace : List Char := ['\x7b']

section

variable {blanks own after : List Char}

def opened (blanks own after : List Char) : List Char := opening ++ blanks ++ (own ++ after)

variable (hb : allBlank blanks = true) (ht : own ≠ [])
  (starts : ∀ c, own.head? = some c → isBlank c = false)
  (ends : ∀ c, own.getLast? = some c → isBlank c = false)

include hb ht ends in
theorem isPrefix_opened_iff : own <+: opened blanks own after ↔ Repeats opening blanks own :=
  isPrefix_behind_iff (List.cons_ne_nil _ _) hb ht ends

include hb ht ends in
theorem isPrefix_brace_iff :
    own <+: (opened blanks own after).drop 1 ↔ Repeats brace blanks own :=
  isPrefix_behind_iff (List.cons_ne_nil _ _) hb ht ends

include hb ht starts in
theorem not_isPrefix_blank {j : Nat} (hj : j < blanks.length) :
    ¬ own <+: (opened blanks own after).drop (j + 2) := by
  intro h
  have here : ((opened blanks own after).drop (j + 2)).head? = some blanks[j] := by
    rw [List.head?_drop, opened, opening]
    simp [List.getElem?_append_left hj]
  obtain ⟨c, rest, rfl⟩ := List.exists_cons_of_ne_nil ht
  obtain ⟨more, hmore⟩ := h
  rw [← hmore, List.cons_append, List.head?_cons, Option.some.injEq] at here
  have blank : isBlank blanks[j] = true := List.all_eq_true.mp hb _ (List.getElem_mem hj)
  rw [← here, starts c rfl] at blank
  cases blank

theorem isPrefix_own : own <+: (opened blanks own after).drop (blanks.length + 2) := by
  have cut : (opened blanks own after).drop (blanks.length + 2) = own ++ after := by
    simp [opened, opening]
  rw [cut]
  exact List.prefix_append own after

include hb ht ends in
theorem firstAt_opening (h : Repeats opening blanks own) :
    FirstAt own (opened blanks own after) 0 :=
  ⟨(isPrefix_opened_iff hb ht ends).mpr h, fun _ hj => absurd hj (Nat.not_lt_zero _)⟩

include hb ht ends in
theorem firstAt_brace (h : Repeats brace blanks own) :
    FirstAt own (opened blanks own after) 1 := by
  refine ⟨(isPrefix_brace_iff hb ht ends).mpr h, ?_⟩
  intro j hj
  obtain rfl : j = 0 := by omega
  intro earlier
  have front := head?_of_repeats ((isPrefix_opened_iff hb ht ends).mp earlier)
  rw [head?_of_repeats h] at front
  exact absurd front (by decide)

include hb ht starts ends in
theorem firstAt_own (not_opening : ¬ Repeats opening blanks own)
    (not_brace : ¬ Repeats brace blanks own) :
    FirstAt own (opened blanks own after) (blanks.length + 2) := by
  refine ⟨isPrefix_own, ?_⟩
  intro j hj
  match j with
  | 0 => exact mt (isPrefix_opened_iff hb ht ends).mp not_opening
  | 1 => exact mt (isPrefix_brace_iff hb ht ends).mp not_brace
  | j + 2 => exact not_isPrefix_blank hb ht starts (by omega)

end

theorem templateColumn_of_firstAt {source : List String} {line : Int} {raw : String}
    {text before rest : List Char} {i : Nat} (there : lineAt? source line = some raw)
    (written : raw.toList = before ++ rest) (ht : text ≠ []) (first : FirstAt text rest i) :
    templateColumn source line text before.length = before.length + i + 1 := by
  have found : findFrom? text before.length (before ++ rest) = some (i + before.length) := by
    rw [findFrom?, if_neg (by simp), List.drop_left, find?_eq_some_iff.mpr first]
    rfl
  rw [templateColumn, there]
  simp only [written, Int.toNat_natCast, offsetFrom, if_neg ht, found, Option.getD_some]
  omega

/-- Visiting some nodes, a builder comes to one of them, or to one inside a definition or another
tag, in the state `c`. -/
inductive Reaches (source : List String) : Builder → List Node → Builder → Node → Prop
  | here {b : Builder} {node : Node} {nodes : List Node} : Reaches source b (node :: nodes) b node
  | later {b c : Builder} {first node : Node} {nodes : List Node} :
      Reaches source (b.visit source first) nodes c node → Reaches source b (first :: nodes) c node
  | define {b c : Builder} {name : Option String} {place : Place} {body nodes : List Node}
      {node : Node} : Reaches source (b.header source name place) body c node →
      Reaches source b (.define name place body :: nodes) c node
  | tag {b c : Builder} {body nodes : List Node} {node : Node} :
      Reaches source b body c node → Reaches source b (.tag body :: nodes) c node

section

variable {source : List String} {nodes : List Node} {b c : Builder} {node : Node}

theorem edits_of_reaches (h : Reaches source b nodes c node) :
    Edits (c.visit source node) (b.visitAll source nodes) := by
  induction h with
  | here => exact edits_visitAll _ _ _
  | later _ ih => exact ih
  | define _ ih => exact (ih.tail (.leave _)).trans (edits_visitAll _ _ _)
  | tag _ ih => exact ih.trans (edits_visitAll _ _ _)

theorem prefix_of_reaches (h : Reaches source .empty nodes c node) :
    (c.visit source node).lines <+: lines source nodes :=
  prefix_of_edits ((edits_of_reaches h).trans (edits_finish _))

def firstExcerpt (raw : List Char) (place : Place) : Excerpt :=
  ⟨trim raw, (trim raw).head? ≠ some '#', ⟨place.line, trim raw, place.column - 1⟩⟩

theorem lines_visit_expression (source : List String) (b : Builder) {text : String} (place : Place)
    {raw : List Char} (first : (splitOn '\n' text.toList).head? = some raw) (ht : trim raw ≠ []) :
    b.lines ++ [(firstExcerpt raw place).at source b.depth] <+:
      (b.visit source (.expression text place)).lines := by
  obtain ⟨more, cut⟩ := List.head?_eq_some_iff.mp first
  obtain ⟨rest, hrest⟩ : ∃ rest, copySteps false text place =
      .copy false raw place.line (place.column - 1) :: rest := by
    rw [copySteps, cut, List.zipIdx_cons, List.map_cons]
    exact ⟨_, congrArg (· :: _) (by simp)⟩
  have shown : (Step.copy false raw place.line (place.column - 1)).excerpt? =
      some (firstExcerpt raw place) := by
    rw [Step.excerpt?_copy ht]
    rfl
  have written : (b.step source (.copy false raw place.line (place.column - 1))).lines =
      b.lines ++ [(firstExcerpt raw place).at source b.depth] := by
    rw [step_eq, shown]
    simp [put_eq]
  rw [visit_eq_run, nodeSteps, hrest, ← written]
  exact prefix_of_edits (edits_run source _ rest)

theorem firstAt_indented {first : List Char} (depth : Nat) (ht : trim first ≠ []) :
    FirstAt (trim first) (indented depth (trim first)) (4 * depth) := by
  have front : find? (trim first) (trim first) = some 0 :=
    find?_eq_some_iff.mpr ⟨List.prefix_rfl, fun _ hj => absurd hj (Nat.not_lt_zero _)⟩
  rw [← find?_eq_some_iff, indented, find?_indent _ ht (head?_trim_ne_space first), front]
  simp

theorem anchor_add_margin {raw : String} {place : Place} {first before rest : List Char} {i : Nat}
    (there : lineAt? source place.line = some raw) (written : raw.toList = before ++ rest)
    (column : place.column = before.length + 1) (ht : trim first ≠ [])
    (found : FirstAt (trim first) rest i) (depth : Nat) :
    ((firstExcerpt first place).piece.anchor source (indented depth (trim first))).column +
      4 * depth = before.length + i + 1 := by
  -- The same text stands on the fragment line and in the template, behind margins of known width.
  have start : (firstExcerpt first place).piece.start = before.length := by
    change place.column - 1 = before.length
    omega
  rw [Piece.anchor, start]
  simp only [firstExcerpt, templateColumn_of_firstAt there written ht found,
    offset_of_firstAt ht (firstAt_indented depth ht)]
  push_cast
  omega

/-- The text of an expression begins, in the template, where its anchor and the place of the text on
the fragment line say, unless the text is written in nothing but opening characters or nothing but
braces: then it is taken to begin at the first of these. -/
theorem expression_anchor {nodes : List Node} {b : Builder} {text raw : String} {place : Place}
    {first before blanks own after : List Char}
    (met : Reaches source .empty nodes b (.expression text place))
    (there : lineAt? source place.line = some raw)
    (written : raw.toList = before ++ opened blanks own after)
    (column : place.column = before.length + 1) (hb : allBlank blanks = true)
    (hf : (splitOn '\n' text.toList).head? = some first) (trimmed : trim first = own)
    (ht : own ≠ []) :
    ∃ line anchor, (lines source nodes)[b.lines.length]? = some line ∧
      (Extracted.ofNodes source nodes).map.get? (b.lines.length + 1) = some anchor ∧
      line.chars = indented b.depth own ∧ FirstAt own line.chars (4 * b.depth) ∧
      anchor.line = place.line ∧
      (Repeats opening blanks own → anchor.column + 4 * b.depth = before.length + 1) ∧
      (Repeats brace blanks own → anchor.column + 4 * b.depth = before.length + 2) ∧
      (¬ Repeats opening blanks own → ¬ Repeats brace blanks own →
        anchor.column + 4 * b.depth = before.length + blanks.length + 3) := by
  subst trimmed
  have starts : ∀ c, (trim first).head? = some c → isBlank c = false :=
    fun _ => not_blank_of_head?_trim
  have ends : ∀ c, (trim first).getLast? = some c → isBlank c = false :=
    fun _ => not_blank_of_getLast?_trim
  let x := firstExcerpt first place
  have stands : (lines source nodes)[b.lines.length]? = some (x.at source b.depth) := by
    obtain ⟨rest, hrest⟩ := (lines_visit_expression source b place hf ht).trans (prefix_of_reaches met)
    rw [← hrest]
    simp [x]
  have chars : (x.at source b.depth).chars = indented b.depth (trim first) := by
    rw [Line.chars, Excerpt.at, String.toList_ofList]
    rfl
  have sum {i : Nat} (found : FirstAt (trim first) (opened blanks (trim first) after) i) :
      (x.piece.anchor source (indented b.depth x.code)).column + 4 * b.depth =
        before.length + i + 1 :=
    anchor_add_margin there written column ht found b.depth
  refine ⟨x.at source b.depth, x.piece.anchor source (indented b.depth x.code), stands, ?_, chars,
    chars ▸ firstAt_indented b.depth ht, rfl, ?_, ?_, ?_⟩
  · rw [Extracted.ofNodes, get?_ofLines, stands]
    rfl
  -- What is left is the first place on the line at which the text can be read.
  · intro repeats
    rw [sum (firstAt_opening hb ht ends repeats)]
    simp
  · intro repeats
    rw [sum (firstAt_brace hb ht ends repeats)]
    omega
  · intro not_opening not_brace
    rw [sum (firstAt_own hb ht starts ends not_opening not_brace)]
    omega

end

def echoLines : List String := ["% for x in y:", "x.y ${ x.y } x.y", "% endfor"]

def echoHeader : Node := .control "for x in y:" "for" false ⟨1, 1⟩ []

def echoNodes : List Node :=
  [echoHeader, .expression " x.y " ⟨2, 5⟩, .control "endfor" "for" true ⟨3, 1⟩ []]

theorem expression_anchor_between_echoes :
    let b := empty.visit echoLines echoHeader
    Reaches echoLines .empty echoNodes b (.expression " x.y " ⟨2, 5⟩) ∧
      lineAt? echoLines 2 = some "x.y ${ x.y } x.y" ∧
      "x.y ${ x.y } x.y".toList = "x.y ".toList ++ opened [' '] "x.y".toList " \x7d x.y".toList ∧
      (splitOn '\n' " x.y ".toList).head? = some " x.y ".toList ∧
      trim " x.y ".toList = "x.y".toList ∧ b.depth = 1 ∧
      ∃ line anchor, (lines echoLines echoNodes)[1]? = some line ∧
        (Extracted.ofNodes echoLines echoNodes).map.get? 2 = some anchor ∧
        line.chars = indented 1 "x.y".toList ∧ FirstAt "x.y".toList line.chars 4 ∧
        anchor.line = 2 ∧ anchor.column + 4 = 4 + 1 + 3 := by
  intro b
  have met : Reaches echoLines .empty echoNodes b (.expression " x.y " ⟨2, 5⟩) := .later .here
  have there : lineAt? echoLines 2 = some "x.y ${ x.y } x.y" := rfl
  have written : "x.y ${ x.y } x.y".toList =
      "x.y ".toList ++ opened [' '] "x.y".toList " \x7d x.y".toList := by decide
  have first : (splitOn '\n' " x.y ".toList).head? = some " x.y ".toList := by decide
  have trimmed : trim " x.y ".toList = "x.y".toList := by decide
  have not_opening : ¬ Repeats opening [' '] "x.y".toList :=
    fun h => absurd (head?_of_repeats h) (by decide)
  have not_brace : ¬ Repeats brace [' '] "x.y".toList :=
    fun h => absurd (head?_of_repeats h) (by decide)
  have depth : b.depth = 1 := by decide
  have count : b.lines.length = 1 := by decide
  obtain ⟨line, anchor, hl, ha, chars, own, hline, -, -, sum⟩ :=
    expression_anchor met there written rfl rfl first trimmed (by decide)
  rw [depth] at chars own sum
  rw [count] at hl ha
  exact ⟨met, there, written, first, trimmed, depth, line, anchor, hl, ha, chars, own, hline,
    sum not_opening not_brace⟩

def displayLines : List String := ["$\x7b\x7b", "'a': 1\x7d\x7d"]

def displayNodes : List Node := [.expression "\x7b\n'a': 1\x7d" ⟨1, 1⟩]

theorem anchor_before_display :
    displayLines[0]?.map String.toList = some ([] ++ opened [] brace []) ∧
      (lines displayLines displayNodes)[0]?.map Line.chars = some (indented 0 brace) ∧
      (Extracted.ofNodes displayLines displayNodes).map.get? 1 = some { line := 1, column := 2 } ∧
      ¬ ∃ anchor, (Extracted.ofNodes displayLines displayNodes).map.get? 1 = some anchor ∧
        anchor.column + 4 * 0 = 0 + 0 + 3 := by
  have found : (Extracted.ofNodes displayLines displayNodes).map.get? 1 =
      some { line := 1, column := 2 } := by decide
  refine ⟨by decide, by decide, found, ?_⟩
  rintro ⟨anchor, same, sum⟩
  rw [found, Option.some.injEq] at same
  subst same
  exact absurd sum (by decide)

end TemplateLint.Fragment
