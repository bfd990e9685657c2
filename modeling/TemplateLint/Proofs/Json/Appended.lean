import TemplateLint.Proofs.Json.Literal
import TemplateLint.Value.Json.Reader

/-!
Texts put behind one another. What is read of a text is read in the same way when another text
follows that goes on with no number and no word, so that a document is spoilt by what follows it if
that is not made of tokens.
-/

namespace TemplateLint.Json

open Text

variable {c : Char} {cs rest more : List Char} {t : Token} {ts : List Token}

theorem stringChar?_append {r : Option Char} (h : stringChar? cs = some (r, rest))
    (goes_on : r ≠ none → rest ≠ []) : stringChar? (cs ++ more) = some (r, rest ++ more) := by
  unfold stringChar? at h
  split at h
  · cases h
    rfl
  · split at h
    · split at h
      · split at h
        · cases h
          simp [stringChar?, *]
        · split at h
          · cases h
          · next read _ _ _ alone =>
            cases h
            exact stringChar?_alone ‹_› (by simpa using alone) _
      · split at h
        · cases h
        · next alone =>
          cases h
          exact stringChar?_alone ‹_› (by simpa using alone) _
    · split at h
      · cases h
      · next alone =>
        cases h
        exact stringChar?_alone ‹_› (by simpa using alone) _
    · cases h
  · next d ds _ =>
    have not_unit : d ≠ 'u' := by
      rintro rfl
      cases h
    obtain ⟨e, he, same⟩ := Option.map_eq_some_iff.mp h
    cases same
    simp [stringChar?, not_unit, he]
  · next d ds quote _ slash =>
    split at h
    · cases h
    · next printable =>
      cases h
      apply stringChar?_verbatim (by omega) quote
      rintro rfl
      -- A backslash at the very end is taken for itself, but then no string is closed behind it.
      obtain ⟨e, es, rfl⟩ := List.exists_cons_of_ne_nil (goes_on (Option.some_ne_none _))
      exact slash e es rfl rfl
  · cases h

theorem string?_append {text : List Char} (h : string? cs = some (text, rest)) (more : List Char) :
    string? (cs ++ more) = some (text, rest ++ more) := by
  fun_induction string? cs generalizing text with
  | case1 => cases h
  | case2 cs after hc =>
    cases h
    have closed : stringChar? (cs ++ more) = some (none, rest ++ more) :=
      stringChar?_append hc (absurd rfl)
    rw [string?]
    split <;> simp_all
  | case3 cs d after hc short ih =>
    obtain ⟨⟨own, r⟩, ht, he⟩ := Option.map_eq_some_iff.mp h
    cases he
    have goes_on : after ≠ [] := by
      rintro rfl
      rw [string?] at ht
      cases ht
    rw [string?_cons (stringChar?_append hc fun _ => goes_on), ih ht]
    rfl

theorem takeWhile_append_of_stop {p : Char → Bool} (cs : List Char)
    (stop : ∀ c, more.head? = some c → p c = false) :
    (cs ++ more).takeWhile p = cs.takeWhile p ∧
      (cs ++ more).dropWhile p = cs.dropWhile p ++ more := by
  induction cs with
  | nil => simpa using takeWhile_of_stop (List.forall_mem_nil (p · = true)) stop
  | cons c cs ih =>
    cases hc : p c with
    | true => simp [hc, ih.1, ih.2]
    | false => simp [hc]

theorem token?_append (h : token? c cs = some (t, rest)) (stop : Boundary more) :
    token? c (cs ++ more) = some (t, rest ++ more) := by
  obtain ⟨numerals, behind_number⟩ := takeWhile_append_of_stop cs fun d hd => (stop d hd).1
  obtain ⟨letters, behind_word⟩ := takeWhile_append_of_stop cs fun d hd => (stop d hd).2
  unfold token? at h ⊢
  rw [numerals, behind_number, letters, behind_word]
  split_ifs at h ⊢
  · cases h
    rfl
  · obtain ⟨⟨text, r⟩, ht, he⟩ := Option.map_eq_some_iff.mp h
    cases he
    rw [string?_append ht more]
    rfl
  · obtain ⟨v, hv, he⟩ := Option.map_eq_some_iff.mp h
    cases he
    rw [hv]
    rfl
  · obtain ⟨v, hv, he⟩ := Option.map_eq_some_iff.mp h
    cases he
    rw [hv]
    rfl

theorem tokens?_append (h : tokens? cs = some ts) (stop : Boundary more) :
    tokens? (cs ++ more) = (tokens? more).map (ts ++ ·) := by
  fun_induction tokens? cs generalizing ts with
  | case1 => cases h; simp
  | case2 c cs space ih => rw [List.cons_append, tokens?_space space, ih h]
  | case3 c cs space none => simp_all
  | case4 c cs space t rest ht short ih =>
    obtain ⟨later, hl, rfl⟩ := Option.map_eq_some_iff.mp h
    rw [List.cons_append, tokens?_cons space (token?_append ht stop), ih hl, Option.map_map]
    rfl

theorem tokens?_of_no_word (letter : c.isAlpha = true)
    (h : word? (c :: cs.takeWhile Char.isAlpha) = none) : tokens? (c :: cs) = none := by
  obtain ⟨space, mark, quote⟩ := plain_of_literal (.inr letter)
  have none_here : token? c cs = none := by
    rw [token?, if_neg mark, if_neg quote, if_pos letter, h]
    rfl
  rw [tokens?, if_neg space]
  split <;> simp_all

theorem read?_append_eq_none {document : List Char} {v : Value}
    (h : read? (String.ofList document) = some v) (stop : Boundary more)
    (spoilt : tokens? more = none) : read? (String.ofList (document ++ more)) = none := by
  rw [read?, String.toList_ofList] at h ⊢
  obtain ⟨ts, hts, -⟩ := Option.bind_eq_some_iff.mp h
  rw [tokens?_append hts stop, spoilt]
  rfl

end TemplateLint.Json
