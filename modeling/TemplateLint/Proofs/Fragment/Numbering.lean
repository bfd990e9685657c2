import TemplateLint.Offense.Basic
import TemplateLint.Proofs.Fragment.Excerpt
import TemplateLint.Proofs.Text.Lines

/-!
The keys of the source map count the lines that were written, the analyzer counts the lines of the
text. Code with a line break inside is one line written and several of the text, so that the two
agree up to the first such code and not beyond it.
-/

namespace TemplateLint

open Text

def Extracted.textLines (e : Extracted) : List (List Char) := splitOn '\n' e.text.toList

namespace Fragment

def Line.cut (l : Line) : List (List Char) := splitOn '\n' l.chars

def breaks (xs : List Excerpt) : Nat := (xs.flatMap Excerpt.code).count '\n'

theorem count_indented (depth : Nat) (code : List Char) :
    (indented depth code).count '\n' = code.count '\n' := by
  rw [indented, List.count_append, List.count_replicate]
  simp

theorem length_cut_at (x : Excerpt) (source : List String) (depth : Nat) :
    (x.at source depth).cut.length = x.code.count '\n' + 1 := by
  rw [Line.cut, length_splitOn, Line.chars, Excerpt.at, String.toList_ofList, count_indented]

theorem length_cut_pass (depth : Nat) : (pass depth).cut.length = 1 := by
  rw [Line.cut, length_splitOn, Line.chars, pass, count_indented, String.toList_ofList]
  decide

theorem textLines_ofLines {ls : List Line} (h : ls ≠ []) :
    (Extracted.ofLines ls).textLines = ls.flatMap Line.cut := by
  rw [Extracted.textLines, Extracted.ofLines, String.toList_ofList, splitOn_join (by simpa using h),
    List.flatMap_map]
  rfl

theorem length_flatMap_cut {source : List String} {ls : List Line} {xs : List Excerpt}
    (copies : List.Forall₂ (Copies source) (mappedLines ls) xs)
    (passes : ∀ l ∈ ls, l.mapped = false → l = pass l.depth) :
    (ls.flatMap Line.cut).length = ls.length + breaks xs := by
  induction ls generalizing xs with
  | nil => cases copies; rfl
  | cons l ls ih =>
    have later := fun m hm => passes m (List.mem_cons_of_mem _ hm)
    rw [List.flatMap_cons, List.length_append, List.length_cons]
    cases hl : l.mapped with
    | false =>
      rw [mappedLines_cons, hl, if_neg Bool.false_ne_true] at copies
      rw [ih copies later, passes l List.mem_cons_self hl, length_cut_pass]
      omega
    | true =>
      rw [mappedLines_cons, if_pos hl] at copies
      cases copies with
      | cons copy copies =>
        rw [ih copies later, copy, length_cut_at, breaks, breaks, List.flatMap_cons,
          List.count_append]
        omega

theorem breaks_eq_zero_iff {xs : List Excerpt} :
    breaks xs = 0 ↔ ∀ x ∈ xs, '\n' ∉ x.code := by
  rw [breaks, List.count_eq_zero, List.mem_flatMap]
  simp

/-- The line was written as number `n` and takes up lines of the text from number `m` on. -/
def StandsAt (source : List String) (nodes : List Node) (l : Line) (n m : Nat) : Prop :=
  ∃ before after, lines source nodes = before ++ l :: after ∧ n = before.length + 1 ∧
    (Extracted.ofNodes source nodes).textLines =
      before.flatMap Line.cut ++ (l.cut ++ after.flatMap Line.cut) ∧
    m = (before.flatMap Line.cut).length + 1

section

variable {source : List String} {nodes : List Node} {l : Line} {n m : Nat}

theorem standsAt_pos (h : StandsAt source nodes l n m) : 0 < n ∧ 0 < m := by
  obtain ⟨before, after, -, rfl, -, rfl⟩ := h
  omega

theorem getElem?_of_standsAt (h : StandsAt source nodes l n m) :
    (lines source nodes)[n - 1]? = some l := by
  obtain ⟨before, after, hls, rfl, -, -⟩ := h
  simp [hls]

theorem textLine_of_standsAt (h : StandsAt source nodes l n m) (one_line : '\n' ∉ l.chars) :
    (Extracted.ofNodes source nodes).textLines[m - 1]? = some l.chars := by
  obtain ⟨before, after, -, -, text, rfl⟩ := h
  simp [text, Line.cut, splitOn_of_not_mem one_line]

end

theorem excerpt_standsAt (source : List String) {nodes : List Node} {k : Nat} {x : Excerpt}
    (h : (excerpts nodes)[k]? = some x) :
    ∃ n depth,
      StandsAt source nodes (x.at source depth) n (n + breaks ((excerpts nodes).take k)) ∧
      (Extracted.ofNodes source nodes).map.entries[k]? =
        some ((n : Int), x.piece.anchor source (indented depth x.code)) := by
  obtain ⟨before, after, depth, hls, copies, entry⟩ := excerpt_line source h
  have passes : ∀ l ∈ before, l.mapped = false → l = pass l.depth := by
    intro l hl
    apply eq_pass_of_not_mapped source nodes
    rw [hls]
    exact List.mem_append_left _ hl
  have start := length_flatMap_cut copies passes
  refine ⟨before.length + 1, depth, ⟨before, after, hls, rfl, ?_, by omega⟩, entry⟩
  rw [Extracted.ofNodes, hls, textLines_ofLines (by simp), List.flatMap_append, List.flatMap_cons]

theorem excerpt_of_entry (source : List String) {nodes : List Node} {k : Nat} {n : Int}
    {place : Location} (h : (Extracted.ofNodes source nodes).map.entries[k]? = some (n, place)) :
    ∃ x, (excerpts nodes)[k]? = some x := by
  have hk := (List.getElem?_eq_some_iff.mp h).1
  rw [length_entries] at hk
  exact ⟨_, List.getElem?_eq_getElem hk⟩

theorem get?_of_pos (ls : List Line) {m : Nat} (hm : 0 < m) :
    (Extracted.ofLines ls).map.get? m = ls[m - 1]?.bind Line.anchor := by
  have key : (m : Int) = ((m - 1 : Nat) : Int) + 1 := by omega
  rw [key, get?_ofLines]

theorem line_location (ls : List Line) {m : Nat} (hm : 0 < m) (lineCount : Int) {o : Offense}
    (h : o.line = m) :
    (o.location (Extracted.ofLines ls).map lineCount).line =
      (ls[m - 1]?.bind Line.anchor).elim lineCount Location.line := by
  unfold Offense.location
  rw [h, get?_of_pos ls hm]
  cases ls[m - 1]?.bind Line.anchor <;> rfl

/-- The code of the `k`-th excerpt begins as many lines of the text after the line with its key as
the excerpts before it have line breaks, so on that line exactly when they have none. An offense on
the line `m` where it begins is carried to the template line of what was written as number `m`. -/
theorem fragment_line_of_key (source : List String) {nodes : List Node} {k : Nat} {key : Int}
    {place : Location}
    (h : (Extracted.ofNodes source nodes).map.entries[k]? = some (key, place)) :
    ∃ (x : Excerpt) (n m depth : Nat), (excerpts nodes)[k]? = some x ∧ key = n ∧
      StandsAt source nodes (x.at source depth) n m ∧ m = n + breaks ((excerpts nodes).take k) ∧
      (m = n ↔ ∀ y ∈ (excerpts nodes).take k, '\n' ∉ y.code) ∧
      ∀ (o : Offense) (lineCount : Int), o.line = m →
        (o.location (Extracted.ofNodes source nodes).map lineCount).line =
          ((lines source nodes)[m - 1]?.bind Line.anchor).elim lineCount Location.line ∧
        ((∀ y ∈ (excerpts nodes).take k, '\n' ∉ y.code) →
          (o.location (Extracted.ofNodes source nodes).map lineCount).line = x.piece.line) := by
  obtain ⟨x, hx⟩ := excerpt_of_entry source h
  obtain ⟨n, depth, stands, entry⟩ := excerpt_standsAt source hx
  rw [h] at entry
  obtain ⟨rfl, rfl⟩ := Prod.mk.inj (Option.some.inj entry)
  refine ⟨x, n, _, depth, hx, rfl, stands, rfl, ?_, ?_⟩
  · rw [← breaks_eq_zero_iff]
    omega
  · intro o lineCount ho
    have carried := line_location (lines source nodes) (standsAt_pos stands).2 lineCount ho
    refine ⟨carried, ?_⟩
    intro unbroken
    rw [Extracted.ofNodes, carried, breaks_eq_zero_iff.mpr unbroken, Nat.add_zero,
      getElem?_of_standsAt stands]
    rfl

def brokenLines : List String := ["% if a and \\", "  b:", "${c}", "% endif"]

def brokenNodes : List Node :=
  [.control "if a and \\\n  b:" "if" false ⟨1, 1⟩ [], .expression "c" ⟨3, 1⟩,
    .control "endif" "if" true ⟨4, 1⟩ []]

def brokenEntry : Int × Location := (2, { line := 3, column := -1 })

theorem fragment_line_after_break :
    (Extracted.ofNodes brokenLines brokenNodes).map.entries[1]? = some brokenEntry ∧
      ∃ (x : Excerpt) (n m depth : Nat), (excerpts brokenNodes)[1]? = some x ∧ brokenEntry.1 = n ∧
        StandsAt brokenLines brokenNodes (x.at brokenLines depth) n m ∧
        m = n + breaks ((excerpts brokenNodes).take 1) ∧ m = n + 1 ∧
        ∀ (o : Offense) (lineCount : Int), o.line = m →
          (o.location (Extracted.ofNodes brokenLines brokenNodes).map lineCount).line =
            lineCount := by
  have entry : (Extracted.ofNodes brokenLines brokenNodes).map.entries[1]? = some brokenEntry := by
    decide
  have one_break : breaks ((excerpts brokenNodes).take 1) = 1 := by decide
  have none_written : (lines brokenLines brokenNodes)[2]? = none := by decide
  obtain ⟨x, n, m, depth, hx, hn, stands, hm, -, carried⟩ := fragment_line_of_key brokenLines entry
  have key : (2 : Int) = n := hn
  have third : m - 1 = 2 := by omega
  refine ⟨entry, x, n, m, depth, hx, hn, stands, hm, by omega, ?_⟩
  intro o lineCount ho
  have line := (carried o lineCount ho).1
  rw [third, none_written] at line
  exact line

theorem key_is_not_line_after_break :
    (Extracted.ofNodes brokenLines brokenNodes).map.entries[1]? = some brokenEntry ∧
      (Extracted.ofNodes brokenLines brokenNodes).textLines =
        ["if a and \\", "  b:", "    c"].map String.toList ∧
      ((Offense.ofMessage
          { symbol := "k", line := 3, column := 4, text := "m", category := "warning" }).location
        (Extracted.ofNodes brokenLines brokenNodes).map 4).line = 4 := by
  decide

end Fragment

end TemplateLint
