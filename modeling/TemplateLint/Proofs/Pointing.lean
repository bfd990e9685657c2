import TemplateLint.Diagnostic.Report
import TemplateLint.Proofs.Fragment.Numbering
import TemplateLint.Proofs.Text.Blank
import TemplateLint.Proofs.Text.Search

/-!
Diagnostics point at what was flagged: the columns of a piece of code on its fragment line and on
its template line differ by the two places at which the piece begins, and the anchor is that
difference.
-/

namespace TemplateLint.Fragment

open Text

theorem offset_of_firstAt {text cs : List Char} {i : Nat} (ht : text ≠ [])
    (h : FirstAt text cs i) : offset text cs = i := by
  rw [offset, if_neg ht, find?_eq_some_iff.mpr h]
  rfl

theorem prefix_drop_offsetFrom {text cs : List Char} (start : Nat) (h : text <:+: cs) :
    text <+: cs.drop (offsetFrom text start cs) := by
  by_cases ht : text = []
  · subst ht; exact List.nil_prefix
  · obtain ⟨i, hi⟩ := find?_of_infix h
    rw [offsetFrom, if_neg ht]
    cases hf : findFrom? text start cs with
    | some j => exact prefix_drop_of_findFrom? hf
    | none =>
      have first := find?_eq_some_iff.mp hi
      rw [Option.getD_none, offset_of_firstAt ht first]
      exact first.1

theorem extract_of_prefix_drop {text cs : List Char} {i c e : Nat} (h : text <+: cs.drop i)
    (he : e ≤ text.length) :
    cs.extract (i + c) (i + e) = text.extract c e := by
  obtain ⟨after, hafter⟩ := h
  rw [List.extract_eq_take_drop, List.extract_eq_take_drop, ← List.drop_drop, ← hafter]
  by_cases hc : c ≤ text.length
  · rw [List.drop_append_of_le_length hc, List.take_append_of_le_length]
    · congr 1; omega
    · rw [List.length_drop]; omega
  · have none_left : i + e - (i + c) = 0 ∧ e - c = 0 := by omega
    rw [none_left.1, none_left.2, List.take_zero, List.take_zero]

theorem infix_code {s : Step} {x : Excerpt} (h : s.excerpt? = some x) :
    x.piece.text <:+: x.code := by
  cases s with
  | control text keyword closes line =>
    cases closes with
    | true => cases h
    | false => cases h; exact List.infix_rfl
  | copy keepIndent raw line start =>
    by_cases blank : trim raw = []
    · simp [blank] at h
    · rw [Step.excerpt?_copy blank] at h
      cases h
      cases keepIndent with
      | true => exact (trim_isSuffix_trimEnd raw).isInfix
      | false => exact List.infix_rfl
  | header name place => cases h; exact ⟨_, _, rfl⟩
  | leave => cases h

mutual

def unbroken : Node → Bool
  | .control text _ _ _ _ => !text.toList.contains '\n'
  | .code .. => true
  | .expression .. => true
  | .define name _ body => !(name.getD "").toList.contains '\n' && allUnbroken body
  | .tag body => allUnbroken body
  | .inert _ => true

def allUnbroken : List Node → Bool
  | [] => true
  | node :: nodes => unbroken node && allUnbroken nodes

end

theorem not_mem_trim {c : Char} {cs : List Char} (h : c ∉ cs) : c ∉ trim cs :=
  fun hc => h ((trim_isInfix cs).subset hc)

theorem copySteps_unbroken (keepIndent : Bool) (text : String) (place : Place) :
    ∀ x ∈ (copySteps keepIndent text place).filterMap Step.excerpt?, '\n' ∉ x.code := by
  simp only [copySteps, List.mem_filterMap, List.mem_map]
  rintro x ⟨s, ⟨⟨raw, i⟩, hraw, rfl⟩, hx⟩
  have one_line : '\n' ∉ raw := not_mem_of_mem_splitOn (List.fst_mem_of_mem_zipIdx hraw)
  by_cases blank : trim raw = []
  · simp [blank] at hx
  · rw [Step.excerpt?_copy blank] at hx
    cases hx
    cases keepIndent with
    | true => exact fun hc => one_line ((trimEnd_isPrefix raw).subset hc)
    | false => exact not_mem_trim one_line

mutual

theorem nodeSteps_unbroken {node : Node} (h : unbroken node = true) :
    ∀ x ∈ (nodeSteps node).filterMap Step.excerpt?, '\n' ∉ x.code := by
  cases node with
  | control text keyword closes place held =>
    simp only [unbroken, Bool.not_eq_true', List.contains_eq_mem, decide_eq_false_iff_not] at h
    cases closes with
    | true => simp
    | false => simpa using not_mem_trim h
  | code text place => exact copySteps_unbroken true text place
  | expression text place => exact copySteps_unbroken false text place
  | define name place body =>
    simp only [unbroken, Bool.and_eq_true, Bool.not_eq_true', List.contains_eq_mem,
      decide_eq_false_iff_not] at h
    have inside := steps_unbroken h.2
    have header := not_mem_trim h.1
    intro x hx
    simp only [nodeSteps, List.filterMap_cons, List.filterMap_append, Step.excerpt?,
      List.filterMap_nil, List.append_nil, List.mem_cons] at hx
    rcases hx with rfl | hx
    · simpa using header
    · exact inside x hx
  | tag body => exact steps_unbroken h
  | inert held => simp

theorem steps_unbroken {nodes : List Node} (h : allUnbroken nodes = true) :
    ∀ x ∈ excerpts nodes, '\n' ∉ x.code := by
  cases nodes with
  | nil => simp [excerpts, steps]
  | cons node nodes =>
    rw [allUnbroken, Bool.and_eq_true] at h
    rw [excerpts, steps, List.filterMap_append]
    intro x hx
    rcases List.mem_append.mp hx with hx | hx
    · exact nodeSteps_unbroken h.1 x hx
    · exact steps_unbroken h.2 x hx

end

theorem line_of_unbroken (source : List String) {nodes : List Node}
    (h : allUnbroken nodes = true) {k : Nat} {x : Excerpt} (hx : (excerpts nodes)[k]? = some x) :
    ∃ n depth : Nat, 0 < n ∧ (Extracted.ofNodes source nodes).map.entries[k]? =
        some ((n : Int), x.piece.anchor source (indented depth x.code)) ∧
      (Extracted.ofNodes source nodes).map.get? n =
        some (x.piece.anchor source (indented depth x.code)) ∧
      (Extracted.ofNodes source nodes).textLines[n - 1]? = some (indented depth x.code) := by
  obtain ⟨n, depth, stands, entry⟩ := excerpt_standsAt source hx
  have none_before : breaks ((excerpts nodes).take k) = 0 :=
    breaks_eq_zero_iff.mpr fun y hy => steps_unbroken h y (List.mem_of_mem_take hy)
  have chars : (x.at source depth).chars = indented depth x.code := by
    rw [Line.chars, Excerpt.at, String.toList_ofList]
  have one_line : '\n' ∉ (x.at source depth).chars := by
    rw [chars, ← List.count_eq_zero, count_indented, List.count_eq_zero]
    exact steps_unbroken h x (List.mem_of_getElem? hx)
  rw [none_before, Nat.add_zero] at stands
  refine ⟨n, depth, (standsAt_pos stands).1, entry, ?_, ?_⟩
  · rw [Extracted.ofNodes, get?_of_pos _ (standsAt_pos stands).1, getElem?_of_standsAt stands]
    rfl
  · rw [textLine_of_standsAt stands one_line, chars]

def Underlines (d : Diagnostic) (raw : String) (p q : Nat) : Prop :=
  d.textLines true = [d.headline, "    " ++ raw, d.carets, ""] ∧
    ∀ i, d.carets.toList[i]? = some '^' ↔ 4 + (p - 1) ≤ i ∧ i < 4 + (q - 1)

theorem underlines {d : Diagnostic} {raw : String} {p q : Nat} (hp : 1 ≤ p) (hpq : p < q)
    (line : d.sourceLine = some raw) (column : d.location.column = p)
    (length : d.location.length = some ((q : Int) - p)) :
    Underlines d raw p q := by
  constructor
  · simp [Diagnostic.textLines, line]
  · intro i
    have wide : ((q : Int) - p) ≠ 0 := by omega
    have carets :
        d.carets.toList = List.replicate (4 + (p - 1)) ' ' ++ List.replicate (q - p) '^' := by
      rw [Diagnostic.carets, column, length, String.toList_ofList, Option.filter_some,
        if_pos (by simpa using wide)]
      congr 2
      · rw [show ((p : Int) - 1).toNat = p - 1 by omega]
      · rw [Option.getD_some]
        omega
    rw [carets, List.getElem?_append, List.getElem?_replicate, List.getElem?_replicate,
      List.length_replicate]
    by_cases left : i < 4 + (p - 1)
    · rw [if_pos left, if_pos left]
      exact iff_of_false (by decide) (by omega)
    · rw [if_neg left]
      by_cases right : i - (4 + (p - 1)) < q - p
      · rw [if_pos right]
        exact iff_of_true rfl (by omega)
      · rw [if_neg right]
        exact iff_of_false (by decide) (by omega)

theorem location_of_message {map : SourceMap} {m : Message} {n c e : Int} {place : Location}
    (lineCount : Int) (entry : map.get? n = some place) (hline : m.line = n)
    (hend : m.endLine = some n) (hc : m.column = c) (he : m.endColumn = some e) :
    (Offense.ofMessage m).location map lineCount =
      ⟨place.line, place.column + c, some place.line, some (place.column + e), some (e - c)⟩ := by
  simp [Offense.ofMessage, Offense.location, hline, hend, hc, he, entry, Location.span,
    Location.shift]

/-- If the template line at `place` holds `text`, then so does the fragment line `n`, and whatever
columns of its first occurrence there a message flags are shown at the same characters of the
template line. -/
def PointsAt (source : List String) (map : SourceMap) (n : Int) (place : Location)
    (text line : List Char) : Prop :=
  ∀ raw, text ≠ [] → lineAt? source place.line = some raw → text <:+: raw.toList →
    (∃ c₀, FirstAt text line c₀) ∧
    ∀ c₀ c e : Nat, FirstAt text line c₀ → c₀ ≤ c → c ≤ e → e ≤ c₀ + text.length →
      ∀ (m : Message) (lineCount : Int), m.line = n → m.endLine = some n → m.column = c →
        m.endColumn = some (e : Int) →
        ∃ p q : Nat, 1 ≤ p ∧ p ≤ q ∧ q - p = e - c ∧
          (Offense.ofMessage m).location map lineCount =
            ⟨place.line, p, some place.line, some (q : Int), some ((q : Int) - p)⟩ ∧
          raw.toList.extract (p - 1) (q - 1) = line.extract c e ∧
          (c < e → ∀ d : Diagnostic, d.location = (Offense.ofMessage m).location map lineCount →
            d.sourceLine = some raw → Underlines d raw p q)

theorem pointsAt_of_anchor {source : List String} {map : SourceMap} {n : Int} {piece : Piece}
    {line : List Char} (anchored : map.get? n = some (piece.anchor source line))
    (shown : piece.text <:+: line) :
    PointsAt source map n (piece.anchor source line) piece.text line := by
  intro raw ht hraw inside
  constructor
  · obtain ⟨c₀, found⟩ := find?_of_infix shown
    exact ⟨c₀, find?_eq_some_iff.mp found⟩
  intro c₀ c e first hc hce he m lineCount hline hend hcol hecol
  let j := offsetFrom piece.text piece.start.toNat raw.toList
  have there : piece.text <+: raw.toList.drop j := prefix_drop_offsetFrom _ inside
  have column : (piece.anchor source line).column = (j : Int) + 1 - c₀ := by
    have hraw' : lineAt? source piece.line = some raw := hraw
    simp only [Piece.anchor, templateColumn, hraw', offset_of_firstAt ht first, j]
  have place := location_of_message lineCount anchored hline hend hcol hecol
  refine ⟨j + 1 + (c - c₀), j + 1 + (e - c₀), by omega, by omega, by omega, ?_, ?_, ?_⟩
  · rw [place, column, Location.mk.injEq]
    refine ⟨rfl, by omega, rfl, congrArg some (by omega), congrArg some (by omega)⟩
  · have short : e - c₀ ≤ piece.text.length := by omega
    have template := extract_of_prefix_drop (c := c - c₀) there short
    have fragment := extract_of_prefix_drop (c := c - c₀) first.1 short
    rw [show c₀ + (c - c₀) = c by omega, show c₀ + (e - c₀) = e by omega] at fragment
    rw [show j + 1 + (c - c₀) - 1 = j + (c - c₀) by omega,
      show j + 1 + (e - c₀) - 1 = j + (e - c₀) by omega, template, fragment]
  · intro wide d hd hsource
    apply underlines (by omega) (by omega) hsource
    · rw [hd, place, column]; simp only; omega
    · rw [hd, place]; exact congrArg some (by omega)

theorem flagged_characters (source : List String) {nodes : List Node}
    (h : allUnbroken nodes = true) {k : Nat} {key : Int} {place : Location}
    (entry : (Extracted.ofNodes source nodes).map.entries[k]? = some (key, place)) :
    ∃ x line, (excerpts nodes)[k]? = some x ∧ place.line = x.piece.line ∧ 1 ≤ key ∧
      (Extracted.ofNodes source nodes).textLines[(key - 1).toNat]? = some line ∧
      PointsAt source (Extracted.ofNodes source nodes).map key place x.piece.text line := by
  obtain ⟨x, hx⟩ := excerpt_of_entry source entry
  obtain ⟨n, depth, positive, entry', anchored, line⟩ := line_of_unbroken source h hx
  rw [entry] at entry'
  obtain ⟨rfl, rfl⟩ := Prod.mk.inj (Option.some.inj entry')
  obtain ⟨s, -, hs⟩ := List.mem_filterMap.mp (List.mem_of_getElem? hx)
  have shown : x.piece.text <:+: indented depth x.code :=
    (infix_code hs).trans (List.suffix_append _ _).isInfix
  refine ⟨x, indented depth x.code, hx, rfl, by omega, ?_, pointsAt_of_anchor anchored shown⟩
  rw [show ((n : Int) - 1).toNat = n - 1 by omega]
  exact line

def loopLines : List String := ["% for item in items:", "  <li>${item.name}</li>", "% endfor"]

def loopNodes : List Node :=
  [.control "for item in items:" "for" false ⟨1, 1⟩ [], .expression "item.name" ⟨2, 7⟩,
    .control "endfor" "for" true ⟨3, 1⟩ []]

def loopEntry : Int × Location := (2, { line := 2, column := 5 })

theorem flagged_characters_in_loop :
    allUnbroken loopNodes = true ∧
      (Extracted.ofNodes loopLines loopNodes).map.entries[1]? = some loopEntry ∧
      lineAt? loopLines 2 = some "  <li>${item.name}</li>" ∧
      "item.name".toList <:+: "  <li>${item.name}</li>".toList ∧
      ∃ x line, (excerpts loopNodes)[1]? = some x ∧ x.piece.text = "item.name".toList ∧
        2 = x.piece.line ∧ (1 : Int) ≤ 2 ∧
        (Extracted.ofNodes loopLines loopNodes).textLines[1]? = some line ∧
        PointsAt loopLines (Extracted.ofNodes loopLines loopNodes).map 2 loopEntry.2 x.piece.text
          line := by
  have whole : allUnbroken loopNodes = true := by decide
  have entry : (Extracted.ofNodes loopLines loopNodes).map.entries[1]? = some loopEntry := by decide
  have piece : (excerpts loopNodes)[1]?.map (·.piece.text) = some "item.name".toList := by decide
  have source : lineAt? loopLines 2 = some "  <li>${item.name}</li>" := rfl
  have inside : "item.name".toList <:+: "  <li>${item.name}</li>".toList :=
    infix_iff_drop.mpr ⟨8, by decide⟩
  obtain ⟨x, line, hx, shown⟩ := flagged_characters loopLines whole entry
  rw [hx] at piece
  exact ⟨whole, entry, source, inside, x, line, hx, Option.some.inj piece, shown⟩

end TemplateLint.Fragment
