import TemplateLint.Linter
import TemplateLint.Proofs.Pointing

namespace TemplateLint.Fragment

open Text

theorem leading_indent (n : Nat) (cs : List Char) :
    leading (List.replicate n ' ' ++ cs) = n + leading cs := by
  have skipped : trimStart (List.replicate n ' ' ++ cs) = trimStart cs := by
    induction n with
    | zero => rfl
    | succ n ih =>
      rw [← ih, List.replicate_succ, List.cons_append]
      exact List.dropWhile_cons_of_pos (by decide)
  have shorter : (trimStart cs).length ≤ cs.length := (List.dropWhile_suffix isBlank).length_le
  rw [leading, leading, skipped, List.length_append, List.length_replicate]
  omega

theorem offset_indented (depth : Nat) {text : List Char} (h : text.head? ≠ some ' ')
    (code : List Char) :
    offset text (indented depth code) = 4 * depth + offset text code := by
  by_cases ht : text = []
  · simp [offset, ht, indented, leading_indent]
  · rw [offset, offset, if_neg ht, if_neg ht, indented, find?_indent _ ht h, leading_indent]
    cases find? text code with
    | none => rfl
    | some i => simp [Nat.add_comm]

theorem head?_piece_ne_space {s : Step} {x : Excerpt} (h : s.excerpt? = some x) :
    x.piece.text.head? ≠ some ' ' := by
  cases s with
  | control text keyword closes line =>
    cases closes with
    | true => cases h
    | false => cases h; exact head?_trim_ne_space _
  | copy keepIndent raw line start =>
    by_cases blank : trim raw = []
    · simp [blank] at h
    · rw [Step.excerpt?_copy blank] at h
      cases h
      exact head?_trim_ne_space _
  | header name place => cases h; exact head?_trim_ne_space _
  | leave => cases h

def Excerpt.start (x : Excerpt) (depth : Nat) : Nat := 4 * depth + offset x.piece.text x.code

def Excerpt.column (x : Excerpt) (source : List String) : Int :=
  templateColumn source x.piece.line x.piece.text x.piece.start

theorem column_pos (x : Excerpt) (source : List String) : 1 ≤ x.column source := by
  rw [Excerpt.column, templateColumn]
  split <;> omega

section

variable {source : List String} {nodes : List Node} {x : Excerpt}

theorem anchor_column (hx : x ∈ excerpts nodes) (depth : Nat) :
    (x.piece.anchor source (indented depth x.code)).column = x.column source - x.start depth := by
  obtain ⟨s, -, hs⟩ := List.mem_filterMap.mp hx
  rw [Excerpt.start, ← offset_indented depth (head?_piece_ne_space hs)]
  rfl

theorem firstAt_start (hx : x ∈ excerpts nodes) (ht : x.piece.text ≠ []) (depth : Nat) :
    FirstAt x.piece.text (indented depth x.code) (x.start depth) := by
  obtain ⟨s, -, hs⟩ := List.mem_filterMap.mp hx
  obtain ⟨i, hi⟩ := find?_of_infix (infix_code hs)
  have here : x.start depth = i + 4 * depth := by
    rw [Excerpt.start, offset, if_neg ht, hi, Option.getD_some, Nat.add_comm]
  rw [here, ← find?_eq_some_iff, indented, find?_indent _ ht (head?_piece_ne_space hs), hi]
  rfl

theorem excerpt_of_get? {n : Int} {place : Location}
    (h : (Extracted.ofNodes source nodes).map.get? n = some place) :
    ∃ x depth, x ∈ excerpts nodes ∧
      (lines source nodes)[(n - 1).toNat]? = some (x.at source depth) ∧
      place = x.piece.anchor source (indented depth x.code) := by
  obtain ⟨entry, found, rfl⟩ := Option.map_eq_some_iff.mp h
  have key : entry.1 = n := by simpa using List.find?_some found
  obtain ⟨k, hk⟩ := List.mem_iff_getElem?.mp (List.mem_of_find?_eq_some found)
  obtain ⟨x, hx⟩ := excerpt_of_entry source hk
  obtain ⟨line, depth, stands, entry'⟩ := excerpt_standsAt source hx
  rw [hk, Option.some.injEq] at entry'
  refine ⟨x, depth, List.mem_of_getElem? hx, ?_, by rw [entry']⟩
  have number : (n - 1).toNat = line - 1 := by
    have := (standsAt_pos stands).1
    rw [← key, entry']
    omega
  rw [number]
  exact getElem?_of_standsAt stands

end

/-- A message on a line with a place is shown in the column that the piece of the line has in the
template, moved by as much as the message lies after the beginning of the piece, or before it. -/
theorem column_of_message (file : Option Path) (text : String) {source : List String}
    {nodes : List Node} {m : Message} {place : Location}
    (h : (Extracted.ofNodes source nodes).map.get? m.line = some place) :
    let d := Linter.diagnostic ⟨file, text, source, .ok nodes⟩
      (Extracted.ofNodes source nodes).map (.ofMessage m)
    ∃ x depth, x ∈ excerpts nodes ∧
      (lines source nodes)[(m.line - 1).toNat]? = some (x.at source depth) ∧
      (x.piece.text ≠ [] → FirstAt x.piece.text (indented depth x.code) (x.start depth)) ∧
      1 ≤ x.column source ∧
      d.location.column = x.column source + m.column - x.start depth ∧
      (1 ≤ d.location.column ↔ x.start depth < x.column source + m.column) ∧
      (x.start depth ≤ m.column → 1 ≤ d.location.column) ∧
      (0 ≤ m.column → 1 ≤ d.location.column + x.start depth) := by
  intro d
  obtain ⟨x, depth, hx, hline, hplace⟩ := excerpt_of_get? h
  have column : d.location.column = x.column source + m.column - x.start depth := by
    have moved : d.location.column = place.column + m.column := by
      simp [d, Linter.diagnostic, Offense.ofMessage, Offense.location, h, Location.span,
        Location.shift]
    rw [moved, hplace, anchor_column hx]
    omega
  have positive := column_pos x source
  refine ⟨x, depth, hx, hline, fun ht => firstAt_start hx ht depth, positive, column, ?_, ?_, ?_⟩
  · rw [column]
    omega
  · intro hm
    omega
  · intro hm
    omega

def parenthesesLines : List String := ["% if x:", "% if (y):", "${z}", "% endif", "% endif"]

def parenthesesNodes : List Node :=
  [.control "if x:" "if" false ⟨1, 1⟩ [], .control "if (y):" "if" false ⟨2, 1⟩ [],
    .expression "z" ⟨3, 1⟩, .control "endif" "if" true ⟨4, 1⟩ [],
    .control "endif" "if" true ⟨5, 1⟩ []]

def parenthesesMessage : Message :=
  { symbol := "superfluous-parens", line := 2, column := 0, text := "m", category := "convention" }

theorem column_of_parenthesesMessage :
    (Extracted.ofNodes parenthesesLines parenthesesNodes).map.get? parenthesesMessage.line =
        some { line := 2, column := -1 } ∧
      ∃ x depth, x ∈ excerpts parenthesesNodes ∧
        (lines parenthesesLines parenthesesNodes)[1]? = some (x.at parenthesesLines depth) ∧
        1 ≤ x.column parenthesesLines ∧
        ¬ x.start depth < x.column parenthesesLines + parenthesesMessage.column := by
  have entry : (Extracted.ofNodes parenthesesLines parenthesesNodes).map.get?
      parenthesesMessage.line = some { line := 2, column := -1 } := by decide
  obtain ⟨x, depth, hx, hline, -, positive, -, shown, -⟩ := column_of_message none "" entry
  refine ⟨entry, x, depth, hx, hline, positive, ?_⟩
  rw [← shown]
  decide

theorem column_of_indentation_not_positive :
    (Extracted.ofNodes parenthesesLines parenthesesNodes).textLines[1]? =
        some "    if (y):".toList ∧
      0 ≤ parenthesesMessage.column ∧
      (Linter.diagnostic ⟨none, "", parenthesesLines, .ok parenthesesNodes⟩
        (Extracted.ofNodes parenthesesLines parenthesesNodes).map
        (.ofMessage parenthesesMessage)).location.column = -1 := by
  decide

end TemplateLint.Fragment
