import TemplateLint.Proofs.Fragment.Passage
import TemplateLint.Proofs.Linter.Check

namespace TemplateLint

open Fragment

theorem lineAt?_of_pos (lines : List String) {line : Int} (h : 1 ≤ line) :
    Text.lineAt? lines line = lines[(line - 1).toNat]? := if_pos h

namespace Offense

variable {o : Offense} {map : SourceMap} {first : Location}

theorem location_of_unmapped (h : map.get? o.line = none) (lineCount : Int) :
    o.location map lineCount = { line := lineCount, column := 0 } := by
  rw [location, h]

theorem line_of_mapped (h : map.get? o.line = some first) (lineCount : Int) :
    (o.location map lineCount).line = first.line := by
  rw [location, h]
  rfl

theorem endLine_of_mapped (h : map.get? o.line = some first) (lineCount : Int) :
    (o.location map lineCount).endLine = some ((map.get? o.lastLine).getD first).line := by
  rw [location, h]
  rfl

end Offense

section

variable {source : List String} {nodes : List Node}

theorem within_of_get? (within : Within source nodes) {n : Int} {place : Location}
    (h : (Extracted.ofNodes source nodes).map.get? n = some place) :
    1 ≤ place.line ∧ place.line ≤ source.length := by
  obtain ⟨entry, found, rfl⟩ := Option.map_eq_some_iff.mp h
  have line := List.mem_map_of_mem (f := fun e => e.2.line) (List.mem_of_find?_eq_some found)
  rw [lines_entries] at line
  obtain ⟨p, hp, same⟩ := List.mem_map.mp line
  rw [← same]
  exact within p hp

theorem length_pos_of_text (within : Within source nodes)
    (h : Text.allBlank (Extracted.ofNodes source nodes).text.toList = false) :
    1 ≤ source.length := by
  cases hp : passages nodes with
  | nil =>
    rw [Extracted.ofNodes, lines_eq_nil hp] at h
    cases h
  | cons p ps =>
    have here := within p (by rw [hp]; exact List.mem_cons_self)
    omega

theorem line_within (within : Within source nodes)
    (h : Text.allBlank (Extracted.ofNodes source nodes).text.toList = false) (o : Offense) :
    1 ≤ (o.location (Extracted.ofNodes source nodes).map source.length).line ∧
      (o.location (Extracted.ofNodes source nodes).map source.length).line ≤ source.length := by
  cases hm : (Extracted.ofNodes source nodes).map.get? o.line with
  | none =>
    rw [Offense.location_of_unmapped hm]
    have := length_pos_of_text within h
    exact ⟨by simp only; omega, Int.le_refl _⟩
  | some first =>
    rw [Offense.line_of_mapped hm]
    exact within_of_get? within hm

theorem endLine_within (within : Within source nodes) (o : Offense) {last : Int}
    (h : (o.location (Extracted.ofNodes source nodes).map source.length).endLine = some last) :
    1 ≤ last ∧ last ≤ source.length := by
  cases hm : (Extracted.ofNodes source nodes).map.get? o.line with
  | none => rw [Offense.location_of_unmapped hm] at h; cases h
  | some first =>
    rw [Offense.endLine_of_mapped hm, Option.some.injEq] at h
    rw [← h]
    cases hl : (Extracted.ofNodes source nodes).map.get? o.lastLine with
    | none => exact within_of_get? within hm
    | some place => exact within_of_get? within hl

end

namespace Linter

/-- The diagnostic `d` says of the template with these lines what the offense says of the fragment
with this map. -/
structure Carried (lines : List String) (map : SourceMap) (o : Offense) (d : Diagnostic) :
    Prop where
  code : d.code = o.check
  mapped : ∀ first, map.get? o.line = some first → d.location.line = first.line ∧
    d.location.endLine = some ((map.get? o.lastLine).getD first).line
  unmapped : map.get? o.line = none → d.location = { line := lines.length, column := 0 }
  line : 1 ≤ d.location.line ∧ d.location.line ≤ lines.length
  endLine : ∀ last, d.location.endLine = some last → 1 ≤ last ∧ last ≤ lines.length
  sourceLine : ∃ raw, lines[(d.location.line - 1).toNat]? = some raw ∧ d.sourceLine = some raw

theorem carried_diagnostic {t : Template} {nodes : List Node} (within : Within t.lines nodes)
    (h : Text.allBlank (Extracted.ofNodes t.lines nodes).text.toList = false) (o : Offense) :
    Carried t.lines (Extracted.ofNodes t.lines nodes).map o
      (diagnostic t (Extracted.ofNodes t.lines nodes).map o) := by
  have line := line_within within h o
  refine ⟨rfl, ?_, ?_, line, fun last => endLine_within within o, ?_⟩
  · intro first hm
    exact ⟨Offense.line_of_mapped hm _, Offense.endLine_of_mapped hm _⟩
  · intro hm
    rw [diagnostic, Offense.location_of_unmapped hm]
  · have inside :
        ((o.location (Extracted.ofNodes t.lines nodes).map t.lines.length).line - 1).toNat <
          t.lines.length := by omega
    refine ⟨_, List.getElem?_eq_getElem inside, ?_⟩
    rw [diagnostic, lineAt?_of_pos t.lines line.1]
    exact List.getElem?_eq_getElem inside

/-- A template whose fragment is blank gets no diagnostics and is not analyzed. Otherwise each
offense of the analyzer gets one, in its order, but those with an ignored check get none. -/
theorem check_carries_offenses (file : Option Path) (text : String) {source : List String}
    {nodes : List Node} (within : Within source nodes) (invoke : Invoker) (ignored : List String) :
    let t : Template := ⟨file, text, source, .ok nodes⟩
    let e := Extracted.ofNodes source nodes
    (Text.allBlank e.text.toList = true →
      (check invoke ignored t).outcome = .ok [] ∧ (check invoke ignored t).analyses = []) ∧
    ∀ offenses, Text.allBlank e.text.toList = false →
      (invoke e.text (fragmentName file)).outcome = .ok offenses →
      ∃ ds, (check invoke ignored t).outcome = .ok ds ∧
        List.Forall₂ (Carried source e.map) (offenses.filter fun o => o.check ∉ ignored) ds := by
  intro t e
  have ht : t.content = .ok nodes := rfl
  constructor
  · intro h
    rw [check_of_blank invoke ignored ht h]
    exact ⟨rfl, rfl⟩
  · intro offenses h answer
    refine ⟨(Offense.kept ignored offenses).map (diagnostic t e.map), ?_, ?_⟩
    · rw [outcome_check_of_text invoke ignored ht h]
      exact congrArg _ answer
    · have same : Offense.kept ignored offenses = offenses.filter fun o => o.check ∉ ignored := by
        simp [Offense.kept]
      rw [same, List.forall₂_map_right_iff]
      have carried := carried_diagnostic (t := t) within h
      exact List.forall₂_same.mpr fun o _ => carried o

def emptyBranchLines : List String := ["% if x:", "none", "% endif"]

def emptyBranchNodes : List Node :=
  [.control "if x:" "if" false ⟨1, 1⟩ [], .inert [], .control "endif" "if" true ⟨3, 1⟩ []]

def spanningOffense : Offense := ⟨"using-constant-test", 1, 3, 2, 8, none, "m", "warning"⟩

def longOffense : Offense := ⟨"line-too-long", 1, 0, 1, 120, some 120, "m", "convention"⟩

def passOffense : Offense := ⟨"unnecessary-pass", 2, 4, 2, 8, some 4, "m", "warning"⟩

def emptyBranchInvoker : Invoker := fun _ _ =>
  Traced.ofExcept (.ok [spanningOffense, longOffense, passOffense])

theorem check_carries_offenses_of_empty_branch :
    Within emptyBranchLines emptyBranchNodes ∧
      Text.allBlank (Extracted.ofNodes emptyBranchLines emptyBranchNodes).text.toList = false ∧
      ∃ ds, (check emptyBranchInvoker ["line-too-long"]
          ⟨none, "", emptyBranchLines, .ok emptyBranchNodes⟩).outcome = .ok ds ∧
        List.Forall₂
          (Carried emptyBranchLines (Extracted.ofNodes emptyBranchLines emptyBranchNodes).map)
          [spanningOffense, passOffense] ds := by
  have within : Within emptyBranchLines emptyBranchNodes := by unfold Within; decide
  have nonblank : Text.allBlank (Extracted.ofNodes emptyBranchLines emptyBranchNodes).text.toList =
      false := by decide
  exact ⟨within, nonblank, (check_carries_offenses none "" within emptyBranchInvoker
    ["line-too-long"]).2 _ nonblank rfl⟩

end Linter

end TemplateLint
