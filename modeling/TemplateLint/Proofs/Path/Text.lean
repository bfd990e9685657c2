import TemplateLint.Path
import TemplateLint.Proofs.Text.Lines

namespace TemplateLint.Path

open Text

def Canonical (p : Path) : Prop := ∀ part ∈ p.parts, part ≠ "" ∧ part ≠ "." ∧ '/' ∉ part.toList

variable {p q : Path}

theorem ofChars_relative {cs : List Char} (h : cs.head? ≠ some '/') :
    ofChars cs = ⟨.relative, components cs⟩ := by
  unfold ofChars
  split <;> grind

theorem ofChars_single {cs : List Char} (h : cs.head? ≠ some '/') :
    ofChars ('/' :: cs) = ⟨.single, components cs⟩ := by
  unfold ofChars
  split <;> grind

theorem ofChars_double {cs : List Char} (h : cs.head? ≠ some '/') :
    ofChars ('/' :: '/' :: cs) = ⟨.double, components cs⟩ := by
  unfold ofChars
  split <;> grind

theorem canonical_components (root : Root) (cs : List Char) : Canonical ⟨root, components cs⟩ := by
  intro part hp
  simp only [components, List.mem_filter, List.mem_map, decide_eq_true_eq] at hp
  obtain ⟨⟨piece, hpiece, rfl⟩, ne_empty, ne_dot⟩ := hp
  refine ⟨ne_empty, ne_dot, ?_⟩
  rw [String.toList_ofList]
  exact not_mem_of_mem_splitOn hpiece

theorem canonical_ofString (s : String) : (ofString s).Canonical := by
  unfold ofString ofChars
  split <;> exact canonical_components _ _

def body (p : Path) : List Char := join ['/'] (p.parts.map String.toList)

theorem components_body (h : p.Canonical) : components p.body = p.parts := by
  by_cases empty : p.parts = []
  · rw [body, empty]
    rfl
  · have whole : ∀ piece ∈ p.parts.map String.toList, '/' ∉ piece :=
      List.forall_mem_map.mpr fun part hp => (h part hp).2.2
    rw [components, body, splitOn_join_of_not_mem (by simpa using empty) whole, List.map_map]
    have same : String.ofList ∘ String.toList = id := funext fun s => String.ofList_toList
    rw [same, List.map_id, List.filter_eq_self]
    intro part hp
    simp [h part hp]

theorem head?_body (h : p.Canonical) : p.body.head? ≠ some '/' := by
  obtain ⟨root, parts⟩ := p
  cases parts with
  | nil => simp [body]
  | cons part parts =>
    obtain ⟨ne_empty, -, slashless⟩ := h part List.mem_cons_self
    have written : part.toList ≠ [] := by simpa using ne_empty
    obtain ⟨c, cs, hc⟩ := List.exists_cons_of_ne_nil written
    have front : (body ⟨root, part :: parts⟩).head? = some c := by
      rw [body, List.map_cons, hc]
      cases parts <;> rfl
    rw [front]
    rintro same
    cases same
    rw [hc] at slashless
    exact slashless List.mem_cons_self

theorem toList_toText (p : Path) :
    p.toText.toList =
      if p.root = .relative ∧ p.parts = [] then ['.'] else (rootText p.root).toList ++ p.body := by
  rw [toText]
  split
  · rfl
  · rw [String.toList_append, joinStrings, String.toList_ofList]
    rfl

theorem ofString_toText (h : p.Canonical) : ofString p.toText = p := by
  have names := components_body h
  have front := head?_body h
  rw [ofString, toList_toText]
  obtain ⟨root, parts⟩ := p
  split
  · next here =>
    obtain ⟨rfl, rfl⟩ := here
    rfl
  · cases root with
    | relative =>
      rw [show rootText .relative = "" from rfl, String.toList_empty, List.nil_append,
        ofChars_relative front, names]
    | single =>
      rw [show (rootText .single).toList = ['/'] from rfl, List.singleton_append,
        ofChars_single front, names]
    | double =>
      rw [show (rootText .double).toList = ['/', '/'] from rfl, List.cons_append,
        List.singleton_append, ofChars_double front, names]

theorem toText_inj (hp : p.Canonical) (hq : q.Canonical) : p.toText = q.toText ↔ p = q := by
  constructor
  · intro same
    rw [← ofString_toText hp, same, ofString_toText hq]
  · rintro rfl
    rfl

theorem toText_ne_empty (h : p.Canonical) : p.toText ≠ "" := by
  intro empty
  have read := ofString_toText h
  rw [empty] at read
  subst read
  exact absurd empty (by decide)

end TemplateLint.Path
