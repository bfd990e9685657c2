import Mathlib.Data.List.Induction
import TemplateLint.Linter
import TemplateLint.Proofs.Text.LineBreaks

namespace TemplateLint

open Text

def Place.behind (front : List Char) : Place :=
  ⟨front.count '\n' + 1, (front.reverse.takeWhile (· ≠ '\n')).length + 1⟩

inductive Node.At : Node → Place → Prop where
  | control {text keyword : String} {closes : Bool} {place : Place} {held : List Node} :
      At (.control text keyword closes place held) place
  | code {text : String} {place : Place} : At (.code text place) place
  | expression {text : String} {place : Place} : At (.expression text place) place
  | define {name : Option String} {place : Place} {body : List Node} :
      At (.define name place body) place
  | inDefine {name : Option String} {place p : Place} {body : List Node} {node : Node}
      (h : node ∈ body) (own : node.At p) : At (.define name place body) p
  | inTag {p : Place} {body : List Node} {node : Node} (h : node ∈ body) (own : node.At p) :
      At (.tag body) p

namespace Template

open Fragment

/-- The reader numbers the lines of this text by their line feeds: a node begins at a character of
it, and a fault is on the line of some place in it. -/
structure Reader.CountsFeeds (reader : Reader) (source : String) (name : Option String) : Prop where
  node : ∀ nodes, reader source name = .ok nodes → ∀ node ∈ nodes, ∀ p, node.At p →
    ∃ front rest, source.toList = front ++ rest ∧ rest ≠ [] ∧ p = .behind front
  fault : ∀ f n, reader source name = .error f → f.line = some n →
    ∃ front rest, source.toList = front ++ rest ∧ n = (Place.behind front).line

theorem ended_before (front : List Char) :
    ∃ before own, front = ended before ++ own ∧ (∀ l ∈ before, '\n' ∉ l) ∧ '\n' ∉ own ∧
      Place.behind front = ⟨before.length + 1, own.length + 1⟩ := by
  induction front using List.reverseRecOn with
  | nil => exact ⟨[], [], rfl, by simp, by simp, rfl⟩
  | append_singleton front c ih =>
    obtain ⟨before, own, rfl, unfed, inside, place⟩ := ih
    simp only [Place.behind, Place.mk.injEq] at place ⊢
    -- A line feed ends the last line, anything else makes it longer.
    by_cases feed : c = '\n'
    · subst feed
      refine ⟨before ++ [own], [], ?_, ?_, List.not_mem_nil, ?_, by simp⟩
      · rw [ended_append]
        simp [ended]
      · simpa [or_imp, forall_and] using ⟨unfed, inside⟩
      · rw [List.count_append, List.length_append]
        simpa using place.1
    · refine ⟨before, own ++ [c], by simp, unfed, ?_, ?_, ?_⟩
      · simpa [inside] using Ne.symm feed
      · simpa [List.count_append, feed] using place.1
      · simpa [feed] using place.2

variable {source : List Char} {front rest : List Char}

theorem feedLine_behind (text : source = front ++ rest) (more : rest ≠ []) :
    ∃ (i : Nat) (own : List Char), (Place.behind front).line = i + 1 ∧
      (feedLines source)[i]? = some (own ++ rest.takeWhile (· ≠ '\n')) ∧
      (Place.behind front).column = own.length + 1 := by
  obtain ⟨before, own, rfl, unfed, inside, place⟩ := ended_before front
  have own_chars : ∀ c ∈ own, decide (c ≠ '\n') = true := by
    intro c hc
    simpa using ne_of_mem_of_not_mem hc inside
  have here : (feedLines (own ++ rest)).head? = some (own ++ rest.takeWhile (· ≠ '\n')) := by
    rw [head?_feedLines (List.append_ne_nil_of_right_ne_nil own more),
      List.takeWhile_append_of_pos own_chars]
  refine ⟨before.length, own, by rw [place], ?_, by rw [place]⟩
  rw [text, List.append_assoc, feedLines_ended_append unfed,
    List.getElem?_append_right (Nat.le_refl _), Nat.sub_self, ← List.head?_eq_getElem?, here]

theorem line_behind_le (text : source = front ++ rest) :
    ∃ k ≤ (feedLines source).length, (Place.behind front).line = (k : Int) + 1 := by
  obtain ⟨before, own, rfl, unfed, -, place⟩ := ended_before front
  refine ⟨before.length, ?_, by rw [place]⟩
  rw [text, List.append_assoc, feedLines_ended_append unfed, List.length_append]
  exact Nat.le_add_right _ _

section

variable {reader : Reader} {source : String} {file : Option Path}

theorem lines_ofSource (reader : Reader) (source : String) (file : Option Path) :
    (ofSource reader source file).lines = (splitLines source.toList).map String.ofList := rfl

theorem content_ofSource (reader : Reader) (source : String) (file : Option Path) :
    (ofSource reader source file).content = (reader source (file.map Path.toText)).mapError
      (reject (ofSource reader source file).lines) := rfl

theorem reader_of_parsed {nodes : List Node}
    (h : (ofSource reader source file).content = .ok nodes) :
    reader source (file.map Path.toText) = .ok nodes := by
  rw [content_ofSource] at h
  cases read : reader source (file.map Path.toText) with
  | ok found =>
    rw [read] at h
    cases h
    rfl
  | error f =>
    rw [read] at h
    cases h

theorem reader_of_rejected {r : Rejection}
    (h : (ofSource reader source file).content = .error r) :
    ∃ f, reader source (file.map Path.toText) = .error f ∧
      r = reject (ofSource reader source file).lines f := by
  rw [content_ofSource] at h
  cases read : reader source (file.map Path.toText) with
  | ok found =>
    rw [read] at h
    cases h
  | error f =>
    rw [read] at h
    cases h
    exact ⟨f, rfl, rfl⟩

theorem line_of_rejected {r : Rejection} (counts : reader.CountsFeeds source (file.map Path.toText))
    (h : (ofSource reader source file).content = .error r) :
    ∃ k ≤ (feedLines source.toList).length, r.line = (k : Int) + 1 := by
  obtain ⟨f, read, rfl⟩ := reader_of_rejected h
  have number : (reject (ofSource reader source file).lines f).line =
      (f.line.filter (· ≠ 0)).getD 1 := rfl
  rw [number]
  cases told : f.line.filter (· ≠ 0) with
  | none => exact ⟨0, Nat.zero_le _, rfl⟩
  | some n =>
    obtain ⟨front, rest, text, rfl⟩ := counts.fault f n read (Option.filter_eq_some_iff.mp told).1
    exact line_behind_le text

end

theorem templateColumn_of_lineAt? {lines : List String} {line : Int} {raw : String}
    (h : lineAt? lines line = some raw) (text : List Char) (start : Int) :
    templateColumn lines line text start = offsetFrom text start.toNat raw.toList + 1 := by
  rw [templateColumn, h]

/-- Line `i + 1` of a reader that counts line feeds begins at an entry which is as far behind `i` as
there are stray breaks before, and all lines up to it have the entries with their own numbers just
when there is no stray break in any of them. Then it is the line that is shown with an error or a
diagnostic on it, and that a text is looked for in. -/
theorem entry_of_line (reader : Reader) {source : String} {i : Nat} {line : List Char}
    (file : Option Path) (counts : reader.CountsFeeds source (file.map Path.toText))
    (h : (feedLines source.toList)[i]? = some line) :
    let t := ofSource reader source file
    let lines := feedLines source.toList
    (∀ nodes, t.content = .ok nodes → ∀ node ∈ nodes, ∀ p, node.At p → p.line = i + 1 →
        ∃ own before rest, source.toList = before ++ rest ∧ p = .behind before ∧
          line = own ++ rest.takeWhile (· ≠ '\n') ∧ p.column = own.length + 1) ∧
      (∀ r, t.content = .error r → ∃ k ≤ lines.length, r.line = (k : Int) + 1) ∧
      (∃ entry, t.lines[i]? = some entry) ∧
      t.lines[i + strayBreaks (lines.take i)]? = some (String.ofList (headline line)) ∧
      ((∀ k < i + 1, KeepsLine source.toList t.lines k) ↔ strayBreaks (lines.take (i + 1)) = 0) ∧
      (strayBreaks (lines.take (i + 1)) = 0 →
        let own := String.ofList (withoutReturn line)
        t.lines[i]? = some own ∧
          (∀ r, t.content = .error r → r.line = i + 1 → r.sourceLine = some own) ∧
          (∀ map o, (Linter.diagnostic t map o).location.line = i + 1 →
            (Linter.diagnostic t map o).sourceLine = some own) ∧
          ∀ text start, templateColumn t.lines (i + 1) text start =
            offsetFrom text start.toNat (withoutReturn line) + 1) := by
  intro t lines
  have inside : i < lines.length := (List.getElem?_eq_some_iff.mp h).1
  have begins : t.lines[i + strayBreaks (lines.take i)]? = some (String.ofList (headline line)) := by
    rw [lines_ofSource, List.getElem?_map, getElem?_splitLines h]
    rfl
  refine ⟨?_, fun r => line_of_rejected counts, ?_, begins, keepsLines_iff inside, ?_⟩
  · intro nodes parsed node hnode p own_place number
    obtain ⟨before, rest, text, more, rfl⟩ :=
      counts.node nodes (reader_of_parsed parsed) node hnode p own_place
    obtain ⟨j, own, same, there, column⟩ := feedLine_behind text more
    obtain rfl : j = i := by
      rw [number] at same
      omega
    rw [h, Option.some.injEq] at there
    exact ⟨own, before, rest, text, rfl, there, column⟩
  · have reached := (List.getElem?_eq_some_iff.mp begins).1
    exact ⟨_, List.getElem?_eq_getElem (Nat.lt_of_le_of_lt (Nat.le_add_right _ _) reached)⟩
  · intro no_stray own
    have up_to : lines.take (i + 1) = lines.take i ++ [line] := by
      rw [List.take_add_one, h]
      rfl
    rw [up_to, strayBreaks_append, Nat.add_eq_zero_iff] at no_stray
    have entry : t.lines[i]? = some own := by
      rwa [no_stray.1, headline_eq_of_no_stray no_stray.2] at begins
    have looked_up : lineAt? t.lines (i + 1) = some own := (lineAt?_add_one t.lines i).trans entry
    refine ⟨entry, ?_, ?_, ?_⟩
    · intro r rejected number
      obtain ⟨f, -, rfl⟩ := reader_of_rejected rejected
      rw [← looked_up, ← number]
      rfl
    · intro map o number
      rw [← looked_up, ← number]
      rfl
    · intro text start
      rw [templateColumn_of_lineAt? looked_up, String.toList_ofList]

def markReader : Reader := fun source _ =>
  if (feedLines source.toList)[1]? = some ['%'] then
    .error ⟨some 2, some 1, "Invalid control line: '' at line: 2 char: 1"⟩
  else .ok []

theorem markReader_of_mark {source : String} (h : (feedLines source.toList)[1]? = some ['%'])
    (name : Option String) : markReader source name =
      .error ⟨some 2, some 1, "Invalid control line: '' at line: 2 char: 1"⟩ :=
  if_pos h

theorem countsFeeds_markReader {source : String} {front rest : List Char}
    (text : source.toList = front ++ rest) (second : (Place.behind front).line = 2)
    (mark : (feedLines source.toList)[1]? = some ['%']) (name : Option String) :
    markReader.CountsFeeds source name := by
  have read := markReader_of_mark mark name
  constructor
  · intro nodes parsed
    rw [read] at parsed
    cases parsed
  · intro f n rejected told
    rw [read] at rejected
    cases rejected
    cases told
    exact ⟨front, rest, text, second.symm⟩

def returnSource : String := "x\r\n%"

theorem entry_of_second_line :
    markReader.CountsFeeds returnSource none ∧
      (feedLines returnSource.toList)[1]? = some ['%'] ∧
      strayBreaks ((feedLines returnSource.toList).take 2) = 0 ∧
      (ofSource markReader returnSource none).lines[1]? = some "%" ∧
      ∃ r, (ofSource markReader returnSource none).content = .error r ∧ r.line = 2 ∧
        r.sourceLine = some "%" := by
  have second : (feedLines returnSource.toList)[1]? = some ['%'] := by decide
  have no_stray : strayBreaks ((feedLines returnSource.toList).take 2) = 0 := by decide
  have counts : markReader.CountsFeeds returnSource none :=
    countsFeeds_markReader (show returnSource.toList = ['x', '\r', '\n'] ++ ['%'] by decide) (by decide) second none
  have content := content_ofSource markReader returnSource none
  rw [markReader_of_mark second] at content
  obtain ⟨-, -, -, -, -, kept⟩ := entry_of_line markReader none counts second
  obtain ⟨entry, shown, -, -⟩ := kept no_stray
  exact ⟨counts, second, no_stray, entry, _, content, rfl, shown _ content rfl⟩

def formFeedSource : String := "x\x0cy\n%"

theorem not_keepsLine_after_form_feed :
    markReader.CountsFeeds formFeedSource none ∧
      (feedLines formFeedSource.toList)[1]? = some ['%'] ∧
      ¬ KeepsLine formFeedSource.toList (ofSource markReader formFeedSource none).lines 1 ∧
      ∃ r, (ofSource markReader formFeedSource none).content = .error r ∧ r.line = 2 ∧
        r.sourceLine = some "y" := by
  have second : (feedLines formFeedSource.toList)[1]? = some ['%'] := by decide
  have entry : (ofSource markReader formFeedSource none).lines[1]? = some "y" := by decide
  have counts : markReader.CountsFeeds formFeedSource none :=
    countsFeeds_markReader (show formFeedSource.toList = ['x', '\x0c', 'y', '\n'] ++ ['%'] by decide) (by decide)
      second none
  have content := content_ofSource markReader formFeedSource none
  rw [markReader_of_mark second] at content
  refine ⟨counts, second, ?_, _, content, rfl, entry⟩
  rintro ⟨line, shown, own, there, whole⟩
  rw [second, Option.some.injEq] at own
  rw [entry, Option.some.injEq] at there
  subst own there
  exact absurd whole (by decide)

end Template

end TemplateLint
