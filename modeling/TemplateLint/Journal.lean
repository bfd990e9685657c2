import TemplateLint.Failure
import TemplateLint.Offense.Basic

/-!
Computations that keep a journal. What was entered before a failure stays.
-/

namespace TemplateLint

inductive Level where
  | debug | info
  deriving DecidableEq, Repr

inductive Part where
  | discovery | run | linter | analyzer
  deriving DecidableEq, Repr

def Part.name : Part → String
  | .discovery => "makolint.scanner"
  | .run => "makolint.runner"
  | .linter => "makolint.linters.pylint"
  | .analyzer => "makolint.analyzer"

structure Call where
  flags : List String
  stdin : String
  deriving DecidableEq, Repr

inductive Event where
  | log (level : Level) (part : Part) (text : String)
  | analyze (fragment name : String)
  | call (c : Call)
  deriving DecidableEq, Repr

structure Traced (α : Type) where
  events : List Event
  outcome : Except Failure α

namespace Traced

def pure {α : Type} (a : α) : Traced α := ⟨[], .ok a⟩

def bind {α β : Type} (x : Traced α) (f : α → Traced β) : Traced β :=
  match x.outcome with
  | .error failure => ⟨x.events, .error failure⟩
  | .ok a => ⟨x.events ++ (f a).events, (f a).outcome⟩

instance : Monad Traced where
  pure := Traced.pure
  bind := Traced.bind

def fail {α : Type} (failure : Failure) : Traced α := ⟨[], .error failure⟩

def ofExcept {α : Type} (outcome : Except Failure α) : Traced α := ⟨[], outcome⟩

def enter (event : Event) : Traced Unit := ⟨[event], .ok ()⟩

def log (level : Level) (part : Part) (text : String) : Traced Unit := enter (.log level part text)

def calls {α : Type} (x : Traced α) : List Call :=
  x.events.filterMap fun
    | .call c => some c
    | _ => none

def analyses {α : Type} (x : Traced α) : List (String × String) :=
  x.events.filterMap fun
    | .analyze fragment name => some (fragment, name)
    | _ => none

end Traced

end TemplateLint
