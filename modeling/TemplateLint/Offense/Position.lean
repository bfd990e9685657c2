import TemplateLint.Text.Character

/-!
Position phrases: the words ` at LINE, COLUMN` inside a message name a place of the fragment and mean nothing to a reader of
the template, so they are taken out.
-/

namespace TemplateLint.Offense

open Text

def afterNumber? : List Char → Option (List Char)
  | [] => none
  | c :: cs => if isDecimalDigit c then some (cs.dropWhile isDecimalDigit) else none

def afterPosition? : List Char → Option (List Char)
  | ' ' :: 'a' :: 't' :: ' ' :: cs =>
    match afterNumber? cs with
    | some (',' :: ' ' :: rest) => afterNumber? rest
    | _ => none
  | _ => none

theorem afterNumber?_shorter {cs rest : List Char} (h : afterNumber? cs = some rest) : rest.length < cs.length := by
  unfold afterNumber? at h
  split at h
  · cases h
  · split at h
    · cases h
      have := (List.dropWhile_suffix isDecimalDigit (l := ‹List Char›)).length_le
      simp only [List.length_cons]; omega
    · cases h

theorem afterPosition?_shorter {cs rest : List Char} (h : afterPosition? cs = some rest) : rest.length < cs.length := by
  unfold afterPosition? at h
  split at h
  · split at h
    · next number =>
      have first := afterNumber?_shorter number
      have second := afterNumber?_shorter h
      simp only [List.length_cons] at first ⊢; omega
    · cases h
  · cases h

def withoutPositions (cs : List Char) : List Char :=
  match h : afterPosition? cs with
  | some rest =>
    have := afterPosition?_shorter h
    withoutPositions rest
  | none =>
    match cs with
    | [] => []
    | c :: cs => c :: withoutPositions cs
termination_by cs.length

def normalized (message : String) : String := String.ofList (withoutPositions message.toList)

end TemplateLint.Offense
