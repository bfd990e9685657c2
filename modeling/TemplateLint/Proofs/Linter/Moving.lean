import TemplateLint.Proofs.Fragment.Moving
import TemplateLint.Proofs.Linter.Carrying

namespace TemplateLint

open Fragment

def Diagnostic.down (n : Nat) (d : Diagnostic) : Diagnostic :=
  { d with location := d.location.down n }

theorem Offense.location_down (n : Nat) (o : Offense) (map : SourceMap) (lineCount : Int) :
    o.location (map.down n) (lineCount + n) = (o.location map lineCount).down n := by
  rw [location, location, SourceMap.get?_down, SourceMap.get?_down]
  cases map.get? o.line with
  | none => rfl
  | some first => cases map.get? o.lastLine <;> rfl

namespace Linter

theorem diagnostic_down {t u : Template} {extra : List String} (file : u.file = t.file)
    (lines : u.lines = extra ++ t.lines) (map : SourceMap) {o : Offense}
    (h : 1 ≤ (o.location map t.lines.length).line) :
    diagnostic u (map.down extra.length) o = (diagnostic t map o).down extra.length := by
  have count : (u.lines.length : Int) = t.lines.length + extra.length := by
    rw [lines, List.length_append]
    omega
  have location := Offense.location_down extra.length o map t.lines.length
  rw [← count] at location
  have shown : Text.lineAt? u.lines ((o.location map t.lines.length).line + extra.length) =
      Text.lineAt? t.lines (o.location map t.lines.length).line := by
    rw [lines]
    exact lineAt?_append extra h
  rw [diagnostic, diagnostic, location, file]
  exact congrArg _ shown

theorem checkExtracted_map (invoke : Invoker) (ignored : List String) {t u : Template}
    {e e' : Extracted} (g : Diagnostic → Diagnostic) (file : u.file = t.file)
    (text : e'.text = e.text)
    (h : Text.allBlank e.text.toList = false →
      ∀ o, diagnostic u e'.map o = g (diagnostic t e.map o)) :
    checkExtracted invoke ignored u e' = (checkExtracted invoke ignored t e).map (List.map g) := by
  have label : u.label = t.label := by rw [Template.label, Template.label, file]
  rw [checkExtracted, checkExtracted, text, file, label]
  cases blank : Text.allBlank e.text.toList with
  | true => rfl
  | false =>
    have same (offenses : List Offense) :
        offenses.map (diagnostic u e'.map) = (offenses.map (diagnostic t e.map)).map g := by
      rw [List.map_map]
      exact List.map_congr_left fun o _ => h blank o
    simp only [Bool.false_eq_true, if_false, Traced.map_bind, same]
    rfl

/-- With lines put before it a template has the same fragment, whose places have moved down, and a
check of it goes as before, whatever the analyzer, but for the lines of the diagnostics. -/
theorem check_down (file : Option Path) (text later : String) (extra : List String)
    {source : List String} {nodes : List Node} (within : Within source nodes) :
    let t : Template := ⟨file, text, source, .ok nodes⟩
    let u : Template := ⟨file, later, extra ++ source, .ok (Node.downAll extra.length nodes)⟩
    Extracted.ofNodes u.lines (Node.downAll extra.length nodes) =
        (Extracted.ofNodes t.lines nodes).down extra.length ∧
      ∀ (invoke : Invoker) (ignored : List String), check invoke ignored u =
        (check invoke ignored t).map (List.map (Diagnostic.down extra.length)) := by
  intro t u
  have moved := ofNodes_down extra within
  refine ⟨moved, ?_⟩
  intro invoke ignored
  rw [check_of_content invoke ignored (show u.content = .ok _ from rfl),
    check_of_content invoke ignored (show t.content = .ok _ from rfl),
    show Extracted.ofNodes u.lines _ = _ from moved]
  apply checkExtracted_map
  · rfl
  · rfl
  · intro nonblank o
    have positive := (line_within within nonblank o).1
    exact diagnostic_down (t := t) (u := u) rfl rfl _ positive

def movedBranchNodes : List Node :=
  [.control "if x:" "if" false ⟨3, 1⟩ [], .inert [], .control "endif" "if" true ⟨5, 1⟩ []]

theorem check_down_of_empty_branch :
    Within emptyBranchLines emptyBranchNodes ∧
      Node.downAll 2 emptyBranchNodes = movedBranchNodes ∧
      Extracted.ofNodes ("## one" :: "## two" :: emptyBranchLines) movedBranchNodes =
        (Extracted.ofNodes emptyBranchLines emptyBranchNodes).down 2 ∧
      check emptyBranchInvoker []
          ⟨none, "", "## one" :: "## two" :: emptyBranchLines, .ok movedBranchNodes⟩ =
        (check emptyBranchInvoker [] ⟨none, "", emptyBranchLines, .ok emptyBranchNodes⟩).map
          (List.map (Diagnostic.down 2)) := by
  have within : Within emptyBranchLines emptyBranchNodes := by unfold Within; decide
  have moved := check_down none "" "" ["## one", "## two"] within
  exact ⟨within, rfl, moved.1, moved.2 emptyBranchInvoker []⟩

end Linter

end TemplateLint
