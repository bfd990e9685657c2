import TemplateLint.Text.Lines

namespace TemplateLint

inductive Root where
  | relative | single | double
  deriving DecidableEq, Repr

structure Path where
  root : Root
  parts : List String
  deriving DecidableEq, Repr

namespace Path

def components (cs : List Char) : List String :=
  ((Text.splitOn '/' cs).map String.ofList).filter fun part => part ≠ "" ∧ part ≠ "."

def ofChars : List Char → Path
  | '/' :: '/' :: '/' :: cs => ⟨.single, components cs⟩
  | '/' :: '/' :: cs => ⟨.double, components cs⟩
  | '/' :: cs => ⟨.single, components cs⟩
  | cs => ⟨.relative, components cs⟩

def ofString (s : String) : Path := ofChars s.toList

def absolute (parts : List String) : Path := ⟨.single, parts⟩

@[simp] theorem root_absolute (parts : List String) : (absolute parts).root = .single := rfl

@[simp] theorem parts_absolute (parts : List String) : (absolute parts).parts = parts := rfl

def rootText : Root → String
  | .relative => ""
  | .single => "/"
  | .double => "//"

def toText (p : Path) : String :=
  if p.root = .relative ∧ p.parts = [] then "." else rootText p.root ++ Text.joinStrings "/" p.parts

instance : ToString Path := ⟨toText⟩

def name (p : Path) : String := p.parts.getLastD ""

def suffix (p : Path) : String :=
  let cs := p.name.toList
  let tail := (cs.reverse.takeWhile (· ≠ '.')).reverse
  if tail = [] ∨ cs.length ≤ tail.length + 1 then "" else String.ofList ('.' :: tail)

def parent (p : Path) : Path := { p with parts := p.parts.dropLast }

def child (p : Path) (name : String) : Path := { p with parts := p.parts ++ [name] }

def append (p q : Path) : Path := if q.root = .relative then { p with parts := p.parts ++ q.parts } else q

def isUnder (p base : Path) : Bool := p.root = base.root && base.parts.isPrefixOf p.parts

theorem isUnder_iff {p base : Path} : p.isUnder base = true ↔ p.root = base.root ∧ base.parts <+: p.parts := by
  simp [isUnder]

def relativeTo? (p base : Path) : Option Path :=
  if p.isUnder base then some ⟨.relative, p.parts.drop base.parts.length⟩ else none

def ancestors (p : Path) : List Path :=
  (List.range (p.parts.length + 1)).map fun n => { p with parts := p.parts.take (p.parts.length - n) }

@[simp] theorem ancestors_top : (absolute []).ancestors = [absolute []] := rfl

def key (p : Path) : List String := if p.root = .relative then p.parts else rootText p.root :: p.parts

def namesLe : List String → List String → Bool
  | [], _ => true
  | _ :: _, [] => false
  | a :: as, b :: bs => a < b || (a == b && namesLe as bs)

def le (p q : Path) : Bool := namesLe p.key q.key

end Path

end TemplateLint
