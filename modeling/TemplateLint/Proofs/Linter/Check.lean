import TemplateLint.Linter
import TemplateLint.Proofs.Journal

namespace TemplateLint.Linter

variable (invoke : Invoker) (ignored : List String) {t : Template} {nodes : List Node}

theorem check_of_content (ht : t.content = .ok nodes) :
    check invoke ignored t = checkExtracted invoke ignored t (Extracted.ofNodes t.lines nodes) := by
  rw [check, Template.extract, ht]
  exact Traced.bind_ofExcept_ok ..

theorem check_of_blank (ht : t.content = .ok nodes)
    (h : Text.allBlank (Extracted.ofNodes t.lines nodes).text.toList = true) :
    check invoke ignored t =
      ⟨[.log .debug .linter s!"No Python in {t.label}, skipping pylint"], .ok []⟩ := by
  rw [check_of_content invoke ignored ht, checkExtracted, if_pos h]
  rfl

theorem outcome_check_of_text (ht : t.content = .ok nodes)
    (h : Text.allBlank (Extracted.ofNodes t.lines nodes).text.toList = false) :
    (check invoke ignored t).outcome =
      (invoke (Extracted.ofNodes t.lines nodes).text (fragmentName t.file)).outcome.map
        fun offenses =>
          (Offense.kept ignored offenses).map
            (diagnostic t (Extracted.ofNodes t.lines nodes).map) := by
  rw [check_of_content invoke ignored ht, checkExtracted, if_neg (by rw [h]; decide)]
  rw [Traced.outcome_bind_of_ok (Traced.outcome_enter _)]
  exact Traced.outcome_bind_of_answers fun _ => rfl

theorem analyses_check_of_text (ht : t.content = .ok nodes)
    (h : Text.allBlank (Extracted.ofNodes t.lines nodes).text.toList = false) :
    (check invoke ignored t).analyses =
      ((Extracted.ofNodes t.lines nodes).text, fragmentName t.file) ::
        (invoke (Extracted.ofNodes t.lines nodes).text (fragmentName t.file)).analyses := by
  rw [check_of_content invoke ignored ht, checkExtracted, if_neg (by rw [h]; decide)]
  rw [Traced.analyses_bind_of_ok (Traced.outcome_enter _), Traced.analyses_enter_analyze,
    Traced.analyses_bind_of_silent fun _ => rfl]
  rfl

end TemplateLint.Linter
