import Mathlib.Logic.Function.Iterate
import Mathlib.Logic.Relation
import TemplateLint.Proofs.Fragment.Step

namespace TemplateLint.Fragment

def mark (statement : Bool) : List Bool → List Bool
  | body :: bodies => (body || statement) :: bodies
  | [] => []

@[simp, grind =] theorem length_mark (statement : Bool) (bodies : List Bool) :
    (mark statement bodies).length = bodies.length := by
  cases bodies <;> rfl

@[simp] theorem mark_nil (statement : Bool) : mark statement [] = [] := rfl

@[simp] theorem mark_cons (statement body : Bool) (bodies : List Bool) :
    mark statement (body :: bodies) = (body || statement) :: bodies := rfl

@[simp] theorem mark_false (bodies : List Bool) : mark false bodies = bodies := by
  cases bodies <;> simp

@[simp] theorem mark_mark (first second : Bool) (bodies : List Bool) :
    mark second (mark first bodies) = mark (first || second) bodies := by
  cases bodies <;> simp [Bool.or_assoc]

def pass (depth : Nat) : Line := ⟨depth, String.ofList "pass".toList, true, none⟩

namespace Builder

open Relation

theorem push_eq (b : Builder) (code : List Char) (statement : Bool) (anchor : Option Location) :
    b.push code statement anchor =
      ⟨b.lines ++ [⟨b.depth, String.ofList code, statement, anchor⟩], b.depth,
        mark statement b.bodies⟩ := by
  rw [push]
  cases b.bodies <;> rfl

@[simp, grind =] theorem lines_push (b : Builder) (code : List Char) (statement : Bool) (anchor : Option Location) :
    (b.push code statement anchor).lines = b.lines ++ [⟨b.depth, String.ofList code, statement, anchor⟩] := rfl

@[simp, grind =] theorem depth_push (b : Builder) (code : List Char) (statement : Bool) (anchor : Option Location) :
    (b.push code statement anchor).depth = b.depth := rfl

@[simp, grind =] theorem bodies_push (b : Builder) (code : List Char) (statement : Bool) (anchor : Option Location) :
    (b.push code statement anchor).bodies = mark statement b.bodies := by
  rw [push_eq]

@[simp] theorem lines_openBlock (b : Builder) : b.openBlock.lines = b.lines := rfl

@[simp] theorem depth_openBlock (b : Builder) : b.openBlock.depth = b.depth + 1 := rfl

@[simp] theorem bodies_openBlock (b : Builder) : b.openBlock.bodies = false :: b.bodies := rfl

theorem put_eq (source : List String) (b : Builder) (x : Excerpt) :
    b.put source x = ⟨b.lines ++ [x.at source b.depth], b.depth, mark x.statement b.bodies⟩ :=
  push_eq ..

@[grind =>] theorem closeBlock_of_nil {b : Builder} (h : b.bodies = []) : b.closeBlock = b := by
  simp [closeBlock, h]

@[grind =>] theorem closeBlock_of_cons {b : Builder} {body : Bool} {bodies : List Bool}
    (h : b.bodies = body :: bodies) :
    b.closeBlock = ⟨if body then b.lines else b.lines ++ [pass b.depth], b.depth - 1, bodies⟩ := by
  cases body <;> simp [closeBlock, h, pass]

theorem closeBlock_bodies (b : Builder) : b.closeBlock.bodies = b.bodies.tail := by
  cases h : b.bodies with
  | nil => rw [closeBlock_of_nil h, h]; rfl
  | cons body bodies => rw [closeBlock_of_cons h]; rfl

inductive Edit : Builder → Builder → Prop
  | write (b : Builder) (code : List Char) (statement : Bool) (anchor : Location) :
      Edit b (b.push code statement (some anchor))
  | enter (b : Builder) (code : List Char) (anchor : Location) :
      Edit b (b.push code true (some anchor)).openBlock
  | leave (b : Builder) : Edit b b.closeBlock

abbrev Edits : Builder → Builder → Prop := ReflTransGen Edit

theorem edits_step (source : List String) (b : Builder) (s : Step) : Edits b (b.step source s) := by
  rcases step_cases source b s with ⟨-, same | left⟩ | ⟨x, -, b₀, before, written⟩
  · rw [same]
  · rw [left]; exact .single (.leave b)
  · have first : Edits b b₀ := by
      rcases before with rfl | rfl
      · exact .refl
      · exact .single (.leave b)
    rcases written with ⟨-, written⟩ | ⟨-, statement, written⟩
    · rw [written]; exact first.tail (.write ..)
    · rw [written, put, emit, statement]; exact first.tail (.enter ..)

theorem edits_run (source : List String) (b : Builder) (ss : List Step) :
    Edits b (b.run source ss) := by
  induction ss generalizing b with
  | nil => exact .refl
  | cons s ss ih => exact (edits_step source b s).trans (ih _)

theorem edits_visitAll (source : List String) (b : Builder) (nodes : List Node) :
    Edits b (b.visitAll source nodes) := by
  rw [visitAll_eq_run]
  exact edits_run source b _

theorem finish_induction {P : Builder → Prop} {b : Builder} (h : P b)
    (close : ∀ c, P c → P c.closeBlock) : P b.finish :=
  List.foldlRecOn b.bodies _ h fun c hc _ _ => close c hc

theorem edits_finish (b : Builder) : Edits b b.finish :=
  finish_induction .refl fun c h => h.tail (.leave c)

theorem finish_eq_iterate (b : Builder) : b.finish = closeBlock^[b.bodies.length] b := by
  have fold (bodies : List Bool) (c : Builder) :
      bodies.foldl (fun c _ => c.closeBlock) c = closeBlock^[bodies.length] c := by
    induction bodies generalizing c with
    | nil => rfl
    | cons body bodies ih => rw [List.foldl_cons, ih, List.length_cons, Function.iterate_succ_apply]
  exact fold b.bodies b

theorem bodies_iterate (b : Builder) (n : Nat) : (closeBlock^[n] b).bodies = b.bodies.drop n := by
  induction n with
  | zero => rfl
  | succ n ih => rw [Function.iterate_succ_apply', closeBlock_bodies, ih, List.tail_drop]

theorem bodies_finish (b : Builder) : b.finish.bodies = [] := by
  rw [finish_eq_iterate, bodies_iterate, List.drop_length]

theorem prefix_of_edit {b c : Builder} (h : Edit b c) : b.lines <+: c.lines := by
  cases h with
  | write code statement anchor => simp
  | enter code anchor => simp
  | leave =>
    cases hb : b.bodies with
    | nil => simp [closeBlock_of_nil hb]
    | cons body bodies => rw [closeBlock_of_cons hb]; cases body <;> simp

theorem prefix_of_edits {b c : Builder} (h : Edits b c) : b.lines <+: c.lines := by
  induction h with
  | refl => exact List.prefix_rfl
  | tail _ edit ih => exact ih.trans (prefix_of_edit edit)

@[grind =]
def Aligned (b : Builder) : Prop := b.depth = b.bodies.length

theorem aligned_of_edit {b c : Builder} (h : Edit b c) (hb : b.Aligned) : c.Aligned := by
  cases h with
  | write code statement anchor => simpa [Aligned] using hb
  | enter code anchor => simpa [Aligned] using hb
  | leave =>
    cases open_ : b.bodies with
    | nil => grind
    | cons body bodies => grind

theorem aligned_of_edits {b c : Builder} (h : Edits b c) (hb : b.Aligned) : c.Aligned := by
  induction h with
  | refl => exact hb
  | tail _ edit ih => exact aligned_of_edit edit ih

theorem aligned_empty : empty.Aligned := rfl

end Builder

end TemplateLint.Fragment
