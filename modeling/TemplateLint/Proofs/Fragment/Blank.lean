import TemplateLint.Proofs.Fragment.Passage
import TemplateLint.Proofs.Text.Blank
import TemplateLint.Proofs.Text.Lines

namespace TemplateLint

open Text

inductive Node.Speaks : Node → Prop
  | control {text keyword : String} {place : Place} {held : List Node}
      (written : allBlank text.toList = false) : Speaks (.control text keyword false place held)
  | code {text : String} {place : Place} {line : List Char} (own : line ∈ splitOn '\n' text.toList)
      (written : allBlank line = false) : Speaks (.code text place)
  | expression {text : String} {place : Place} {line : List Char}
      (own : line ∈ splitOn '\n' text.toList) (written : allBlank line = false) :
      Speaks (.expression text place)
  | define {name : Option String} {place : Place} {body : List Node} :
      Speaks (.define name place body)
  | tag {body : List Node} {node : Node} (member : node ∈ body) (inside : Speaks node) :
      Speaks (.tag body)

namespace Fragment

def Written (ps : List Passage) : Prop := ∃ p ∈ ps, allBlank p.code = false

theorem written_append {ps qs : List Passage} :
    Written (ps ++ qs) ↔ Written ps ∨ Written qs := by
  simp only [Written, List.mem_append, or_and_right, exists_or]

theorem written_rows {text : String} {f : List Char → List Char} {line : Int}
    (trims : ∀ cs, allBlank (f cs) = allBlank cs) :
    Written ((rows text).map fun row => ⟨f row.1, line + row.2⟩) ↔
      ∃ raw ∈ splitOn '\n' text.toList, allBlank raw = false := by
  simp only [Written, List.mem_map, exists_exists_and_eq_and, trims, rows, List.mem_filter,
    decide_eq_true_eq]
  constructor
  · rintro ⟨row, ⟨own, -⟩, written⟩
    exact ⟨row.1, List.mem_of_getElem? (List.mk_mem_zipIdx_iff_getElem?.mp own), written⟩
  · rintro ⟨raw, own, written⟩
    obtain ⟨i, hi⟩ := List.mem_iff_getElem?.mp own
    refine ⟨(raw, i), ⟨List.mk_mem_zipIdx_iff_getElem?.mpr hi, ?_⟩, written⟩
    rw [Ne, trim_eq_nil_iff, written]
    exact Bool.false_ne_true

mutual

theorem speaks_iff (node : Node) : node.Speaks ↔ Written (nodePassages node) := by
  cases node with
  | control text keyword closes place held =>
    cases closes with
    | true => exact iff_of_false (fun h => nomatch h) (by simp [Written])
    | false =>
      have only : Written (nodePassages (.control text keyword false place held)) ↔
          allBlank text.toList = false := by
        simp [Written, allBlank_trim]
      rw [only]
      exact ⟨fun | .control written => written, .control⟩
  | code text place =>
    rw [nodePassages, written_rows allBlank_trimEnd]
    exact ⟨fun | .code own written => ⟨_, own, written⟩, fun ⟨_, own, written⟩ => .code own written⟩
  | expression text place =>
    rw [nodePassages, written_rows allBlank_trim]
    exact ⟨fun | .expression own written => ⟨_, own, written⟩,
      fun ⟨_, own, written⟩ => .expression own written⟩
  | define name place body =>
    exact iff_of_true .define ⟨_, List.mem_cons_self, by simp [isBlank]⟩
  | tag body =>
    rw [nodePassages, ← exists_speaks_iff body]
    exact ⟨fun | .tag member inside => ⟨_, member, inside⟩,
      fun ⟨_, member, inside⟩ => .tag member inside⟩
  | inert held => exact iff_of_false (fun h => nomatch h) (by simp [Written])

theorem exists_speaks_iff (nodes : List Node) :
    (∃ node ∈ nodes, node.Speaks) ↔ Written (passages nodes) := by
  cases nodes with
  | nil => simp [Written]
  | cons node nodes =>
    rw [List.exists_mem_cons_iff, speaks_iff node, exists_speaks_iff nodes, passages, written_append]

end

namespace Builder

structure Quiet (b : Builder) : Prop where
  shut : b.bodies = []
  blank : ∀ l ∈ b.lines, allBlank l.code.toList = true

variable (source : List String) {b : Builder}

theorem opens_of_quiet (h : b.Quiet) {s : Step}
    (blank : ∀ x, s.excerpt? = some x → allBlank x.code = true) : s.opens b = false := by
  cases s with
  | control text keyword closes line =>
    cases closes with
    | true => rfl
    | false =>
      have nothing : trim text.toList = [] := by
        rw [trim_eq_nil_iff, ← allBlank_trim]
        exact blank _ rfl
      simp [Step.opens, h.shut, nothing, opensBlock]
  | copy => rfl
  | header name place =>
    have named := blank _ rfl
    simp [isBlank] at named
  | leave => rfl

theorem quiet_step (h : b.Quiet) {s : Step}
    (blank : ∀ x, s.excerpt? = some x → allBlank x.code = true) : (b.step source s).Quiet := by
  rw [step_eq, closeBlock_of_nil h.shut, ite_self, opens_of_quiet h blank]
  cases hx : s.excerpt? with
  | none => exact h
  | some x =>
    simp only [Bool.false_eq_true, if_false, put_eq, h.shut, mark_nil]
    refine ⟨rfl, ?_⟩
    simp only [List.mem_append, List.mem_singleton]
    rintro l (old | rfl)
    · exact h.blank l old
    · rw [Excerpt.at, String.toList_ofList]
      exact blank x hx

theorem quiet_run (h : b.Quiet) {ss : List Step}
    (blank : ∀ x ∈ ss.filterMap Step.excerpt?, allBlank x.code = true) : (b.run source ss).Quiet := by
  induction ss generalizing b with
  | nil => exact h
  | cons s ss ih =>
    have here : ∀ x, s.excerpt? = some x → allBlank x.code = true := by
      intro x hx
      exact blank x (List.mem_filterMap.mpr ⟨s, List.mem_cons_self, hx⟩)
    refine ih (quiet_step source h here) ?_
    intro x hx
    obtain ⟨t, ht, hx⟩ := List.mem_filterMap.mp hx
    exact blank x (List.mem_filterMap.mpr ⟨t, List.mem_cons_of_mem s ht, hx⟩)

end Builder

open Builder

theorem blank_lines {source : List String} {nodes : List Node} (h : ¬ Written (passages nodes)) :
    ∀ l ∈ lines source nodes, allBlank l.code.toList = true := by
  have blank : ∀ x ∈ excerpts nodes, allBlank x.code = true := by
    intro x hx
    by_contra written
    apply h
    rw [← passages_excerpts]
    exact ⟨x.passage, List.mem_map_of_mem hx, (Bool.not_eq_true _).mp written⟩
  have quiet : (empty.run source (steps nodes)).Quiet :=
    quiet_run source ⟨rfl, by simp [empty]⟩ blank
  rw [lines_eq_run, finish, quiet.shut]
  exact quiet.blank

theorem written_line (source : List String) {nodes : List Node} (h : Written (passages nodes)) :
    ∃ l ∈ lines source nodes, allBlank l.code.toList = false := by
  rw [← passages_excerpts] at h
  obtain ⟨p, hp, written⟩ := h
  obtain ⟨x, hx, rfl⟩ := List.mem_map.mp hp
  obtain ⟨k, hk⟩ := List.mem_iff_getElem?.mp hx
  obtain ⟨before, after, depth, here, -⟩ := excerpt_line source hk
  refine ⟨x.at source depth, by simp [here], ?_⟩
  rw [Excerpt.at, String.toList_ofList]
  exact written

theorem allBlank_chars (l : Line) : allBlank l.chars = allBlank l.code.toList := by
  simp [Line.chars, indented, allBlank, isBlank]

theorem allBlank_join (pieces : List (List Char)) :
    allBlank (join ['\n'] pieces) = pieces.all allBlank := by
  induction pieces with
  | nil => rfl
  | cons piece pieces ih =>
    by_cases last : pieces = []
    · subst last
      simp
    · rw [join_cons_of_ne_nil _ _ last, List.all_cons, ← ih]
      simp [isBlank]

theorem allBlank_ofNodes (source : List String) (nodes : List Node) :
    allBlank (Extracted.ofNodes source nodes).text.toList = false ↔
      ∃ node ∈ nodes, node.Speaks := by
  have text : (Extracted.ofNodes source nodes).text.toList =
      join ['\n'] ((lines source nodes).map Line.chars) := String.toList_ofList
  rw [text, allBlank_join, List.all_map, List.all_eq_false, exists_speaks_iff]
  simp only [Function.comp_apply, allBlank_chars, Bool.not_eq_true]
  constructor
  · rintro ⟨l, hl, written⟩
    by_contra h
    rw [blank_lines h l hl] at written
    cases written
  · exact written_line source

end Fragment

end TemplateLint
