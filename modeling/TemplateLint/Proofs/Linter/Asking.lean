import TemplateLint.Proofs.Fragment.Blank
import TemplateLint.Proofs.Linter.Check

namespace TemplateLint.Linter

open Fragment

/-- What is handed over is the whole fragment, and the one answer to it is all that is reported. -/
theorem check_asks_once (file : Option Path) (text : String) (source : List String)
    (nodes : List Node) (invoke : Invoker) (ignored : List String) :
    let t : Template := ⟨file, text, source, .ok nodes⟩
    let e := Extracted.ofNodes source nodes
    ((∃ node ∈ nodes, node.Speaks) →
      (check invoke ignored t).analyses =
          (e.text, fragmentName file) :: (invoke e.text (fragmentName file)).analyses ∧
        (check invoke ignored t).outcome =
          (invoke e.text (fragmentName file)).outcome.map fun offenses =>
            (Offense.kept ignored offenses).map (diagnostic t e.map)) ∧
    ((¬ ∃ node ∈ nodes, node.Speaks) →
      (check invoke ignored t).analyses = [] ∧ (check invoke ignored t).calls = [] ∧
        (check invoke ignored t).outcome = .ok []) := by
  intro t e
  have ht : t.content = .ok nodes := rfl
  rw [← allBlank_ofNodes source nodes, Bool.not_eq_false]
  constructor
  · intro written
    exact ⟨analyses_check_of_text invoke ignored ht written,
      outcome_check_of_text invoke ignored ht written⟩
  · intro blank
    rw [check_of_blank invoke ignored ht blank]
    exact ⟨rfl, rfl, rfl⟩

def speakingNodes : List Node :=
  [.control "endif" "if" true ⟨1, 1⟩ [], .tag [.tag [.expression " \n x " ⟨2, 9⟩]]]

def silentNodes : List Node :=
  [.control "\t" "else" false ⟨1, 1⟩ [.code "x = 1\n" ⟨1, 1⟩], .tag [.code " \n\n" ⟨2, 1⟩],
    .inert [.define (some "f()") ⟨4, 1⟩ []]]

def freeInvoker : Invoker := fun _ _ => Traced.ofExcept (.ok [])

theorem speaks_speakingNodes : ∃ node ∈ speakingNodes, node.Speaks := by
  have row : " x ".toList ∈ Text.splitOn '\n' " \n x ".toList := by decide
  have inner : (Node.expression " \n x " ⟨2, 9⟩).Speaks := .expression row (by decide)
  have outer : (Node.tag [.tag [.expression " \n x " ⟨2, 9⟩]]).Speaks :=
    .tag List.mem_cons_self (.tag List.mem_cons_self inner)
  exact ⟨_, List.mem_cons_of_mem _ List.mem_cons_self, outer⟩

theorem not_speaks_silentNodes : ¬ ∃ node ∈ silentNodes, node.Speaks := by
  rw [← allBlank_ofNodes []]
  decide

theorem check_asks_once_of_speakingNodes :
    let file := Path.ofString "shop/a.mako"
    (∃ node ∈ speakingNodes, node.Speaks) ∧ (¬ ∃ node ∈ silentNodes, node.Speaks) ∧
      (check freeInvoker [] ⟨some file, "", [], .ok speakingNodes⟩).analyses =
        [("x", "shop/a.mako.py")] ∧
      (check freeInvoker [] ⟨some file, "", [], .ok silentNodes⟩).analyses = [] := by
  intro file
  have spoken := check_asks_once (some file) "" [] speakingNodes freeInvoker []
  have silent := check_asks_once (some file) "" [] silentNodes freeInvoker []
  refine ⟨speaks_speakingNodes, not_speaks_silentNodes, ?_,
    (silent.2 not_speaks_silentNodes).1⟩
  rw [(spoken.1 speaks_speakingNodes).1]
  decide

end TemplateLint.Linter
