import Mathlib.Data.List.Basic
import TemplateLint.Proofs.Offense.Phrase

/-!
A message read as texts with position phrases between them. There is one such reading with all the
phrases that the message holds, and what is left of the message is its texts. Where two of these
come together behind a phrase that is gone, a new phrase can come about, and nowhere else.
-/

namespace TemplateLint.Offense

open Text

inductive Reading where
  | last (text : List Char)
  | phrase (text phrase : List Char) (rest : Reading)

namespace Reading

def whole : Reading → List Char
  | last text => text
  | phrase text p rest => text ++ (p ++ rest.whole)

def texts : Reading → List (List Char)
  | last text => [text]
  | phrase text _ rest => text :: rest.texts

def kept (r : Reading) : List Char := r.texts.flatten

def starts : Reading → List Nat
  | last _ => []
  | phrase text p rest => text.length :: rest.starts.map fun i => text.length + (p.length + i)

def Proper : Reading → Prop
  | last _ => True
  | phrase _ p rest => Phrase p ∧ Halts rest.whole ∧ rest.Proper

def push (c : Char) : Reading → Reading
  | last text => last (c :: text)
  | phrase text p rest => phrase (c :: text) p rest

variable (c : Char) (r : Reading)

@[simp] theorem whole_push : (r.push c).whole = c :: r.whole := by cases r <;> rfl

@[simp] theorem kept_push : (r.push c).kept = c :: r.kept := by cases r <;> rfl

theorem proper_push (h : r.Proper) : (r.push c).Proper := by cases r <;> exact h

@[simp] theorem starts_push : (r.push c).starts = r.starts.map (· + 1) := by
  cases r with
  | last text => rfl
  | phrase text p rest => simp [push, starts, Function.comp_def, Nat.add_right_comm]

theorem length_kept_le : r.kept.length ≤ r.whole.length := by
  induction r with
  | last text => simp [kept, texts, whole]
  | phrase text p rest ih =>
    simp only [kept, texts, whole, List.flatten_cons, List.length_append] at ih ⊢
    omega

end Reading

structure Reads (cs : List Char) (r : Reading) : Prop where
  whole : r.whole = cs
  proper : r.Proper
  starts : ∀ i, PhraseAt cs i → i ∈ r.starts

section

variable {cs text p : List Char} {r s : Reading}

theorem reads_phrase {rest : List Char} (hp : Phrase p) (halts : Halts rest) (h : Reads rest r) :
    Reads (p ++ rest) (.phrase [] p r) := by
  refine ⟨by rw [Reading.whole, h.whole]; rfl, ⟨hp, h.whole.symm ▸ halts, h.proper⟩, ?_⟩
  intro i there
  cases i with
  | zero => exact List.mem_cons_self
  | succ i =>
    obtain ⟨j, hj⟩ := Nat.exists_eq_add_of_le (length_le_of_phraseAt hp there (Nat.succ_pos i))
    rw [hj, phraseAt_append_add] at there
    rw [hj, Reading.starts]
    exact List.mem_cons_of_mem _ (List.mem_map.mpr ⟨j, h.starts j there, Nat.zero_add _⟩)

theorem reads_push {c : Char} (none_here : ¬ PhraseAt (c :: cs) 0) (h : Reads cs r) :
    Reads (c :: cs) (r.push c) := by
  refine ⟨by rw [Reading.whole_push, h.whole], Reading.proper_push c r h.proper, ?_⟩
  intro i there
  rw [Reading.starts_push]
  cases i with
  | zero => exact absurd there none_here
  | succ i => exact List.mem_map.mpr ⟨i, h.starts i there, rfl⟩

theorem exists_reading (cs : List Char) : ∃ r, Reads cs r ∧ withoutPositions cs = r.kept := by
  fun_induction withoutPositions cs with
  | case1 cs rest front _ ih =>
    obtain ⟨p, hp, halts, rfl⟩ := afterPosition?_eq_some_iff.mp front
    obtain ⟨r, reads, same⟩ := ih
    exact ⟨.phrase [] p r, reads_phrase hp halts reads, same⟩
  | case2 =>
    refine ⟨.last [], ⟨rfl, trivial, ?_⟩, rfl⟩
    intro i there
    exact absurd (lt_of_phraseAt there) (Nat.not_lt_zero i)
  | case3 c cs none_here ih =>
    obtain ⟨r, reads, same⟩ := ih
    exact ⟨r.push c, reads_push (not_phraseAt_of_none none_here) reads,
      by rw [same, Reading.kept_push]⟩

theorem Reads.phraseAt (h : Reads cs (.phrase text p r)) : PhraseAt cs text.length := by
  rw [← h.whole, Reading.whole, ← Nat.add_zero text.length, phraseAt_append_add]
  exact phraseAt_front h.proper.1 _

theorem Reads.length_le (h : Reads cs (.phrase text p r)) {i : Nat} (there : PhraseAt cs i) :
    text.length ≤ i := by
  rcases List.mem_cons.mp (h.starts i there) with rfl | later
  · exact Nat.le_refl _
  · obtain ⟨j, -, rfl⟩ := List.mem_map.mp later
    omega

theorem Reads.rest (h : Reads cs (.phrase text p r)) : Reads r.whole r := by
  refine ⟨rfl, h.proper.2.2, ?_⟩
  intro i there
  have farther : PhraseAt cs (text.length + (p.length + i)) := by
    rw [← h.whole, Reading.whole, phraseAt_append_add, phraseAt_append_add]
    exact there
  have long := phrase_pos h.proper.1
  rcases List.mem_cons.mp (h.starts _ farther) with here | later
  · omega
  · obtain ⟨j, hj, same⟩ := List.mem_map.mp later
    obtain rfl : j = i := by omega
    exact hj

theorem not_phraseAt_last (h : Reads cs (.last text)) (i : Nat) : ¬ PhraseAt cs i :=
  fun there => List.not_mem_nil (h.starts i there)

theorem Reads.unique (h : Reads cs r) (h' : Reads cs s) : r = s := by
  induction r generalizing cs s with
  | last text =>
    cases s with
    | last text' => rw [show text = text' from h.whole.trans h'.whole.symm]
    | phrase => exact absurd h'.phraseAt (not_phraseAt_last h _)
  | phrase text p r ih =>
    cases s with
    | last => exact absurd h.phraseAt (not_phraseAt_last h' _)
    | phrase text' q s =>
      have same : text ++ (p ++ r.whole) = text' ++ (q ++ s.whole) := h.whole.trans h'.whole.symm
      -- In both, the first phrase is at the first place at which there is one.
      have first : text.length = text'.length :=
        Nat.le_antisymm (h.length_le h'.phraseAt) (h'.length_le h.phraseAt)
      obtain ⟨rfl, behind⟩ := List.append_inj same first
      obtain ⟨rfl, rest⟩ := phrase_eq h.proper.1 h'.proper.1 h.proper.2.1 h'.proper.2.1 behind
      rw [ih h.rest (rest ▸ h'.rest)]

theorem not_phraseAt_texts (h : Reads cs r) : ∀ u ∈ r.texts, ∀ i, ¬ PhraseAt u i := by
  induction r generalizing cs with
  | last text =>
    intro u hu i there
    rw [List.mem_singleton.mp hu, show text = cs from h.whole] at there
    exact not_phraseAt_last h i there
  | phrase text p r ih =>
    intro u hu i there
    rcases List.mem_cons.mp hu with rfl | later
    · have short := lt_of_phraseAt there
      have early : PhraseAt cs i := h.whole ▸ phraseAt_of_phraseAt_left there
      have := h.length_le early
      omega
    · exact ih h.rest u later i there

theorem withoutPositions_eq_self_iff : withoutPositions cs = cs ↔ ∀ i, ¬ PhraseAt cs i := by
  obtain ⟨r, h, same⟩ := exists_reading cs
  rw [same]
  cases r with
  | last text =>
    have left : (Reading.last text).kept = cs := by rw [← h.whole]; exact List.append_nil text
    exact ⟨fun _ => not_phraseAt_last h, fun _ => left⟩
  | phrase text p r =>
    have shorter : (Reading.phrase text p r).kept.length < cs.length := by
      have fits := r.length_kept_le
      have long := phrase_pos h.proper.1
      rw [← h.whole]
      simp only [Reading.kept, Reading.texts, Reading.whole, List.flatten_cons,
        List.length_append] at fits ⊢
      omega
    constructor
    · intro whole
      rw [whole] at shorter
      exact absurd shorter (Nat.lt_irrefl _)
    · intro none
      exact absurd h.phraseAt (none _)

end

theorem exists_seam {texts : List (List Char)} {p : List Char} {i : Nat} (hp : Phrase p)
    (none : ∀ u ∈ texts, ∀ i, ¬ PhraseAt u i) (there : p <+: texts.flatten.drop i) :
    ∃ front back, texts = front ++ back ∧ i < front.flatten.length ∧
      front.flatten.length < i + p.length := by
  induction texts generalizing i with
  | nil => exact absurd (lt_of_phraseAt ⟨p, hp, there⟩) (Nat.not_lt_zero i)
  | cons u us ih =>
    obtain ⟨not_here, not_later⟩ := List.forall_mem_cons.mp none
    by_cases beyond : u.length ≤ i
    · obtain ⟨j, rfl⟩ := Nat.exists_eq_add_of_le beyond
      rw [List.flatten_cons, List.drop_length_add_append] at there
      obtain ⟨front, back, rfl, before, after⟩ := ih not_later there
      refine ⟨u :: front, back, rfl, ?_, ?_⟩
      · rw [List.flatten_cons, List.length_append]; omega
      · rw [List.flatten_cons, List.length_append]; omega
    · refine ⟨[u], us, rfl, by simpa using beyond, ?_⟩
      by_contra inside
      rw [List.flatten_singleton, Nat.not_lt] at inside
      rw [List.flatten_cons, List.drop_append_of_le_length (by omega)] at there
      have within : p <+: u.drop i := by
        refine List.prefix_of_prefix_length_le there (List.prefix_append _ _) ?_
        rw [List.length_drop]
        omega
      exact not_here i ⟨p, hp, within⟩

theorem toList_normalized (message : String) :
    (normalized message).toList = withoutPositions message.toList := by
  rw [normalized, String.toList_ofList]

/-- There is one reading of a message with all its phrases, none of which overlaps another, and the
normalized message is what it has besides. -/
theorem exists_unique_reading (message : String) :
    (∃! r, Reads message.toList r) ∧
      (∀ r, Reads message.toList r → (normalized message).toList = r.texts.flatten) ∧
      ∀ i j p, Phrase p → p <+: message.toList.drop i → i < j → PhraseAt message.toList j →
        i + p.length ≤ j := by
  obtain ⟨r, h, kept⟩ := exists_reading message.toList
  refine ⟨⟨r, h, fun s hs => hs.unique h⟩, ?_, ?_⟩
  · intro s hs
    rw [toList_normalized, kept, h.unique hs]
    rfl
  · intro i j p hp here later there
    obtain ⟨k, rfl⟩ := Nat.exists_eq_add_of_lt later
    obtain ⟨rest, hrest⟩ := here
    have from_here : PhraseAt (p ++ rest) (k + 1) := by
      obtain ⟨q, hq, front⟩ := there
      exact ⟨q, hq, by rwa [hrest, List.drop_drop]⟩
    have := length_le_of_phraseAt hp from_here (Nat.succ_pos k)
    omega

/-- A phrase in a normalized message reaches over a place at which one was taken out. Normalizing
changes a message just when it holds a phrase, and so a normalized one just when such places have
made one. -/
theorem phrase_over_seam (message : String) :
    (∃ r, Reads message.toList r ∧ (normalized message).toList = r.texts.flatten ∧
      ∀ i p, Phrase p → p <+: (normalized message).toList.drop i →
        ∃ front back, r.texts = front ++ back ∧ i < front.flatten.length ∧
          front.flatten.length < i + p.length) ∧
      (normalized message = message ↔ ∀ i, ¬ PhraseAt message.toList i) ∧
      (normalized (normalized message) = normalized message ↔
        ∀ i, ¬ PhraseAt (normalized message).toList i) := by
  have unchanged (m : String) : normalized m = m ↔ ∀ i, ¬ PhraseAt m.toList i := by
    rw [← String.toList_inj, toList_normalized, withoutPositions_eq_self_iff]
  obtain ⟨r, h, kept⟩ := exists_reading message.toList
  have left : (normalized message).toList = r.texts.flatten := (toList_normalized message).trans kept
  refine ⟨⟨r, h, left, ?_⟩, unchanged message, unchanged (normalized message)⟩
  intro i p hp there
  rw [left] at there
  exact exists_seam hp (not_phraseAt_texts h) there

def joiningMessage : String := "Redefined at 3 at 1, 2, 4"

theorem not_normalized_joiningMessage :
    normalized joiningMessage = "Redefined at 3, 4" ∧
      PhraseAt (normalized joiningMessage).toList 9 ∧
      normalized (normalized joiningMessage) ≠ normalized joiningMessage := by
  have once : normalized joiningMessage = "Redefined at 3, 4" := by cbv
  have twice : normalized "Redefined at 3, 4" = "Redefined" := by cbv
  have number {c : Char} (digit : isDecimalDigit c = true) : Number [c] :=
    ⟨List.cons_ne_nil _ _, by simpa using digit⟩
  rw [once]
  refine ⟨rfl, ⟨" at 3, 4".toList, ⟨['3'], ['4'], number (by decide), number (by decide), rfl⟩, ?_⟩, ?_⟩
  · decide
  · rw [twice]
    decide

end TemplateLint.Offense
