import Mathlib.Data.List.Basic
import Mathlib.Data.List.TakeWhile
import TemplateLint.Proofs.Text.Lines

/-!
Two ways to count the lines of a text: by its line feeds alone, and by all its line boundaries. A
line of the first kind is several of the second when it holds a stray break, and from there on the
second count is ahead of the first.
-/

namespace TemplateLint.Text

def feedLines (cs : List Char) : List (List Char) :=
  if (splitOn '\n' cs).getLast? = some [] then (splitOn '\n' cs).dropLast else splitOn '\n' cs

def withoutReturn (line : List Char) : List Char :=
  if line.getLast? = some '\r' then line.dropLast else line

/-- The breaks in these lines that are neither a line feed nor the return in front of one. -/
def strayBreaks (lines : List (List Char)) : Nat := (lines.flatMap withoutReturn).countP isLineBreak

def ended (lines : List (List Char)) : List Char := lines.flatMap (· ++ ['\n'])

def headline (cs : List Char) : List Char := cs.takeWhile fun c => !isLineBreak c

theorem lineAt?_add_one (lines : List String) (i : Nat) : lineAt? lines (i + 1) = lines[i]? := by
  rw [lineAt?, if_pos (by omega)]
  congr 1
  omega

theorem strayBreaks_append (front back : List (List Char)) :
    strayBreaks (front ++ back) = strayBreaks front + strayBreaks back := by
  rw [strayBreaks, List.flatMap_append, List.countP_append]
  rfl

theorem ended_append (front back : List (List Char)) :
    ended (front ++ back) = ended front ++ ended back :=
  List.flatMap_append

section

variable {c : Char} {cs line : List Char}

theorem withoutReturn_cons (h : line ≠ []) :
    withoutReturn (c :: line) = c :: withoutReturn line := by
  obtain ⟨d, more, rfl⟩ := List.exists_cons_of_ne_nil h
  rw [withoutReturn, withoutReturn, List.getLast?_cons_cons, List.dropLast_cons_of_ne_nil h]
  split <;> rfl

theorem eq_withoutReturn (line : List Char) :
    line = withoutReturn line ∨ line = withoutReturn line ++ ['\r'] := by
  rw [withoutReturn]
  split
  · next h =>
    obtain ⟨front, rfl⟩ := List.getLast?_eq_some_iff.mp h
    exact .inr (by rw [List.dropLast_concat])
  · exact .inl rfl

theorem strayBreaks_singleton : strayBreaks [line] = (withoutReturn line).countP isLineBreak := by
  rw [strayBreaks, List.flatMap_singleton]

theorem headline_eq_of_no_stray (h : strayBreaks [line] = 0) : headline line = withoutReturn line := by
  rw [strayBreaks_singleton, List.countP_eq_zero] at h
  have inside : ∀ d ∈ withoutReturn line, (!isLineBreak d) = true := by
    intro d hd
    simpa using h d hd
  rcases eq_withoutReturn line with same | same
  · have all : headline (withoutReturn line) = withoutReturn line :=
      List.takeWhile_eq_self_iff.mpr inside
    rwa [← same] at all ⊢
  · rw [headline, same, List.takeWhile_append_of_pos inside, ← same]
    simp [isLineBreak]

def Whole (line entry : List Char) : Prop := entry = line ∨ entry ++ ['\r'] = line

instance (line entry : List Char) : Decidable (Whole line entry) :=
  inferInstanceAs (Decidable (_ ∨ _))

theorem whole_headline_iff : Whole line (headline line) ↔ strayBreaks [line] = 0 := by
  constructor
  · intro whole
    rw [strayBreaks_singleton, List.countP_eq_zero]
    intro d hd
    have unbroken : ∀ e ∈ headline line, isLineBreak e = false := by
      intro e he
      simpa using List.mem_takeWhile_imp he
    have kept : d ∈ headline line := by
      rcases whole with same | same
      · rw [same]
        rcases eq_withoutReturn line with own | own
        · rwa [own]
        · rw [own]; exact List.mem_append_left _ hd
      · rw [withoutReturn, ← same, List.getLast?_concat, if_pos rfl, List.dropLast_concat] at hd
        exact hd
    simp [unbroken d kept]
  · intro h
    rw [headline_eq_of_no_stray h]
    exact (eq_withoutReturn line).imp Eq.symm Eq.symm

theorem splitLines_cons (h : c = '\r' → cs.head? ≠ some '\n') :
    splitLines (c :: cs) =
      if isLineBreak c then [] :: splitLines cs
      else match splitLines cs with
        | [] => [[c]]
        | line :: lines => (c :: line) :: lines := by
  apply splitLines.eq_3
  rintro more rfl rfl
  exact h rfl rfl

theorem splitLines_ne_nil (h : cs ≠ []) : splitLines cs ≠ [] := by
  unfold splitLines
  split
  · exact absurd rfl h
  · exact List.cons_ne_nil _ _
  · split
    · exact List.cons_ne_nil _ _
    · split <;> exact List.cons_ne_nil _ _

theorem head?_splitLines (h : cs ≠ []) : (splitLines cs).head? = some (headline cs) := by
  induction cs with
  | nil => exact absurd rfl h
  | cons c cs ih =>
    by_cases pair : c = '\r' ∧ cs.head? = some '\n'
    · obtain ⟨rfl, feed⟩ := pair
      obtain ⟨more, rfl⟩ := List.head?_eq_some_iff.mp feed
      rfl
    · rw [splitLines_cons (not_and.mp pair), headline]
      by_cases stops : isLineBreak c = true
      · rw [if_pos stops, List.takeWhile_cons_of_neg (by simpa using stops)]
        rfl
      · rw [if_neg stops, List.takeWhile_cons_of_pos (by simpa using stops)]
        by_cases last : cs = []
        · subst last
          rfl
        · obtain ⟨first, more, split⟩ := List.exists_cons_of_ne_nil (splitLines_ne_nil last)
          have own := ih last
          rw [split, List.head?_cons, Option.some.injEq] at own
          rw [split, own]
          rfl

theorem not_pair_of_not_mem {rest : List Char} (h : '\n' ∉ line) (some_line : line ≠ []) :
    (line ++ rest).head? ≠ some '\n' := by
  obtain ⟨d, more, rfl⟩ := List.exists_cons_of_ne_nil some_line
  rintro ⟨⟩
  exact h List.mem_cons_self

theorem splitLines_append (h : '\n' ∉ line) (rest : List Char) :
    splitLines (line ++ '\n' :: rest) = splitLines (line ++ ['\n']) ++ splitLines rest := by
  induction line with
  | nil => rfl
  | cons c line ih =>
    obtain ⟨-, later⟩ := not_or.mp (mt List.mem_cons.mpr h)
    by_cases pair : c = '\r' ∧ line = []
    · obtain ⟨rfl, rfl⟩ := pair
      rfl
    · have single (rest : List Char) : c = '\r' → (line ++ '\n' :: rest).head? ≠ some '\n' :=
        fun hc => not_pair_of_not_mem later (not_and.mp pair hc)
      rw [List.cons_append, List.cons_append, splitLines_cons (single _), splitLines_cons (single _),
        ih later]
      by_cases stops : isLineBreak c = true
      · simp [stops]
      · have behind : line ++ ['\n'] ≠ [] := by simp
        obtain ⟨first, more, split⟩ := List.exists_cons_of_ne_nil (splitLines_ne_nil behind)
        simp [stops, split]

theorem length_splitLines_cons (h : c = '\r' → cs.head? ≠ some '\n') (some_rest : cs ≠ []) :
    (splitLines (c :: cs)).length = (splitLines cs).length + if isLineBreak c then 1 else 0 := by
  obtain ⟨first, more, split⟩ := List.exists_cons_of_ne_nil (splitLines_ne_nil some_rest)
  rw [splitLines_cons h, split]
  split <;> rfl

theorem length_splitLines_ended (h : '\n' ∉ line) :
    (splitLines (line ++ ['\n'])).length = 1 + strayBreaks [line] := by
  rw [strayBreaks_singleton]
  induction line with
  | nil => rfl
  | cons c line ih =>
    obtain ⟨-, later⟩ := not_or.mp (mt List.mem_cons.mpr h)
    have behind : line ++ ['\n'] ≠ [] := by simp
    by_cases last : line = []
    · subst last
      by_cases return_ : c = '\r'
      · subst return_
        rfl
      · have own : withoutReturn [c] = [c] := by simp [withoutReturn, return_]
        rw [List.cons_append, length_splitLines_cons (fun hc => absurd hc return_) behind, ih later,
          own, List.countP_singleton]
        rfl
    · rw [List.cons_append, length_splitLines_cons (fun _ => not_pair_of_not_mem later last) behind,
        ih later, withoutReturn_cons last, List.countP_cons, Nat.add_assoc]

end

section

variable {lines : List (List Char)}

theorem splitLines_ended_append (unfed : ∀ l ∈ lines, '\n' ∉ l) (rest : List Char) :
    ∃ entries, splitLines (ended lines ++ rest) = entries ++ splitLines rest ∧
      entries.length = lines.length + strayBreaks lines := by
  induction lines with
  | nil => exact ⟨[], rfl, rfl⟩
  | cons line lines ih =>
    obtain ⟨first, others⟩ := List.forall_mem_cons.mp unfed
    obtain ⟨entries, split, count⟩ := ih others
    refine ⟨splitLines (line ++ ['\n']) ++ entries, ?_, ?_⟩
    · rw [ended, List.flatMap_cons, List.append_assoc, List.append_assoc, List.singleton_append,
        splitLines_append first, List.append_assoc, ← split]
      rfl
    · rw [List.length_append, length_splitLines_ended first, count, List.length_cons,
        ← List.singleton_append (l := lines), strayBreaks_append]
      omega

theorem splitOn_ended_append (unfed : ∀ l ∈ lines, '\n' ∉ l) (rest : List Char) :
    splitOn '\n' (ended lines ++ rest) = lines ++ splitOn '\n' rest := by
  induction lines with
  | nil => rfl
  | cons line lines ih =>
    obtain ⟨first, others⟩ := List.forall_mem_cons.mp unfed
    have here : ended (line :: lines) ++ rest = line ++ '\n' :: (ended lines ++ rest) := by
      simp [ended]
    rw [here, splitOn_append, splitOn_of_not_mem first, ih others]
    rfl

theorem feedLines_ended_append (unfed : ∀ l ∈ lines, '\n' ∉ l) (rest : List Char) :
    feedLines (ended lines ++ rest) = lines ++ feedLines rest := by
  have pieces := splitOn_ne_nil '\n' rest
  rw [feedLines, feedLines, splitOn_ended_append unfed, List.getLast?_append_of_ne_nil _ pieces,
    List.dropLast_append_of_ne_nil pieces]
  split <;> rfl

theorem join_append_of_ne_nil (lines : List (List Char)) {back : List (List Char)} (h : back ≠ []) :
    join ['\n'] (lines ++ back) = ended lines ++ join ['\n'] back := by
  induction lines with
  | nil => rfl
  | cons line lines ih =>
    rw [List.cons_append, join_cons_of_ne_nil _ _ (by simp [h]), ih, ended, ended,
      List.flatMap_cons]
    simp only [List.append_assoc]

end

section

variable {cs line : List Char} {i : Nat}

theorem feedLines_isPrefix (cs : List Char) : feedLines cs <+: splitOn '\n' cs := by
  rw [feedLines]
  split
  · exact List.dropLast_prefix _
  · exact List.prefix_rfl

theorem exists_rest_of_feedLine (h : (feedLines cs)[i]? = some line) :
    ∃ rest, cs = ended ((feedLines cs).take i) ++ (line ++ rest) ∧
      (∀ l ∈ (feedLines cs).take i, '\n' ∉ l) ∧ '\n' ∉ line ∧ line ++ rest ≠ [] ∧
      ∀ c, rest.head? = some c → c = '\n' := by
  obtain ⟨more, hmore⟩ := feedLines_isPrefix cs
  have inside : i < (feedLines cs).length := (List.getElem?_eq_some_iff.mp h).1
  have piece : (splitOn '\n' cs)[i]? = some line := by
    rw [← hmore, List.getElem?_append_left inside, h]
  have before : (splitOn '\n' cs).take i = (feedLines cs).take i := by
    rw [← hmore, List.take_append_of_le_length (Nat.le_of_lt inside)]
  have unfed : ∀ l ∈ splitOn '\n' cs, '\n' ∉ l := fun l => not_mem_of_mem_splitOn
  obtain ⟨hi, here⟩ := List.getElem?_eq_some_iff.mp piece
  have cut := List.take_append_drop i (splitOn '\n' cs)
  rw [List.drop_eq_getElem_cons hi, here, before] at cut
  have text : cs = ended ((feedLines cs).take i) ++
      join ['\n'] (line :: (splitOn '\n' cs).drop (i + 1)) := by
    rw [← join_append_of_ne_nil _ (List.cons_ne_nil _ _), cut, join_splitOn]
  have own : ∀ l ∈ (feedLines cs).take i, '\n' ∉ l := fun l hl =>
    unfed l (List.mem_of_mem_take (before.symm ▸ hl))
  -- The last piece of the text is a line only because it is not empty.
  by_cases last : (splitOn '\n' cs).drop (i + 1) = []
  · rw [last] at text cut
    refine ⟨[], by rwa [List.append_nil], own, unfed line (List.mem_of_getElem? piece), ?_, ?_⟩
    · rw [List.append_nil]
      rintro rfl
      have shorter : (feedLines cs).length = i := by
        rw [feedLines, ← cut, List.getLast?_concat, if_pos rfl, List.dropLast_concat,
          List.length_take_of_le (Nat.le_of_lt inside)]
      omega
    · rintro c ⟨⟩
  · rw [join_cons_of_ne_nil _ _ last, List.append_assoc] at text
    refine ⟨_, text, own, unfed line (List.mem_of_getElem? piece), by simp, ?_⟩
    rintro c ⟨⟩
    rfl

theorem headline_append {rest : List Char} (h : ∀ c, rest.head? = some c → c = '\n') :
    headline (line ++ rest) = headline line := by
  rw [headline, headline, List.takeWhile_append]
  have stops : rest.takeWhile (fun c => !isLineBreak c) = [] := by
    cases rest with
    | nil => rfl
    | cons c rest =>
      rw [h c rfl]
      rfl
  split
  · next whole => rw [stops, List.append_nil, (List.takeWhile_prefix _).eq_of_length whole]
  · rfl

theorem getElem?_splitLines (h : (feedLines cs)[i]? = some line) :
    (splitLines cs)[i + strayBreaks ((feedLines cs).take i)]? = some (headline line) := by
  obtain ⟨rest, text, unfed, -, some_char, feed⟩ := exists_rest_of_feedLine h
  have inside : i < (feedLines cs).length := (List.getElem?_eq_some_iff.mp h).1
  obtain ⟨entries, split, count⟩ := splitLines_ended_append unfed (line ++ rest)
  rw [← text] at split
  rw [List.length_take_of_le (Nat.le_of_lt inside)] at count
  rw [split, ← count, List.getElem?_append_right (Nat.le_refl _), Nat.sub_self,
    ← List.head?_eq_getElem?, head?_splitLines some_char, headline_append feed]

theorem head?_feedLines (h : cs ≠ []) : (feedLines cs).head? = some (cs.takeWhile (· ≠ '\n')) := by
  have some_line : feedLines cs ≠ [] := by
    intro none
    rw [feedLines] at none
    split at none
    · next last =>
      obtain ⟨front, cut⟩ := List.getLast?_eq_some_iff.mp last
      rw [cut, List.dropLast_concat] at none
      rw [none] at cut
      exact h (by rw [← join_splitOn '\n' cs, cut]; rfl)
    · exact splitOn_ne_nil _ _ none
  obtain ⟨line, more, split⟩ := List.exists_cons_of_ne_nil some_line
  have first : (feedLines cs)[0]? = some line := by rw [split]; rfl
  obtain ⟨rest, text, -, unfed, -, feed⟩ := exists_rest_of_feedLine first
  have own : ∀ c ∈ line, decide (c ≠ '\n') = true := by
    intro c hc
    simpa using ne_of_mem_of_not_mem hc unfed
  rw [List.head?_eq_getElem?, first, text, List.take_zero, ended, List.flatMap_nil,
    List.nil_append, List.takeWhile_append_of_pos own]
  cases rest with
  | nil => simp
  | cons c rest => simp [feed c rfl]

def KeepsLine (cs : List Char) (entries : List String) (i : Nat) : Prop :=
  ∃ line entry, (feedLines cs)[i]? = some line ∧ entries[i]? = some entry ∧
    Whole line entry.toList

theorem keepsLine_iff (h : (feedLines cs)[i]? = some line)
    (before : strayBreaks ((feedLines cs).take i) = 0) :
    KeepsLine cs ((splitLines cs).map String.ofList) i ↔ strayBreaks [line] = 0 := by
  have entry := getElem?_splitLines h
  rw [before, Nat.add_zero] at entry
  rw [← whole_headline_iff, KeepsLine, List.getElem?_map, entry, h]
  simp

theorem keepsLines_iff {n : Nat} (h : n ≤ (feedLines cs).length) :
    (∀ k < n, KeepsLine cs ((splitLines cs).map String.ofList) k) ↔
      strayBreaks ((feedLines cs).take n) = 0 := by
  induction n with
  | zero => simp [strayBreaks]
  | succ n ih =>
    have inside : n < (feedLines cs).length := h
    have here : (feedLines cs)[n]? = some (feedLines cs)[n] := List.getElem?_eq_getElem inside
    rw [Nat.forall_lt_succ_right, ih (Nat.le_of_lt inside), ← List.take_append_getElem inside,
      strayBreaks_append, Nat.add_eq_zero_iff]
    exact and_congr_right fun before => keepsLine_iff here before

end

end TemplateLint.Text
