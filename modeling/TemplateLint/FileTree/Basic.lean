namespace TemplateLint

inductive Entry where
  | file (bytes : List UInt8)
  | directory (children : List (String × Entry))
  | link (target : String)
  deriving Inhabited

namespace Entry

def child? : Entry → String → Option Entry
  | directory children, name => children.lookup name
  | _, _ => none

def at? (e : Entry) : List String → Option Entry
  | [] => some e
  | name :: names =>
    match e.child? name with
    | some next => next.at? names
    | none => none

@[simp] theorem at?_nil (e : Entry) : e.at? [] = some e := rfl

theorem at?_cons (e : Entry) (name : String) (names : List String) :
    e.at? (name :: names) = (e.child? name).bind (·.at? names) := by
  rw [at?]
  cases e.child? name <;> rfl

@[simp] theorem at?_directory_cons (children : List (String × Entry)) (name : String) (names : List String) :
    (directory children).at? (name :: names) = (children.lookup name).bind (·.at? names) := at?_cons ..

mutual

def linkCount : Entry → Nat
  | file _ => 0
  | link _ => 1
  | directory children => linkCounts children

def linkCounts : List (String × Entry) → Nat
  | [] => 0
  | (_, e) :: es => linkCount e + linkCounts es

end

def setChild (name : String) (e : Entry) : List (String × Entry) → List (String × Entry)
  | [] => [(name, e)]
  | (other, old) :: es => if other = name then (name, e) :: es else (other, old) :: setChild name e es

def put (e : Entry) : List String → Entry → Entry
  | [], _ => e
  | name :: names, directory children =>
    directory (setChild name (put e names ((children.lookup name).getD (directory []))) children)
  | name :: names, _ => directory [(name, put e names (directory []))]

def remove : List String → Entry → Entry
  | [name], directory children => directory (children.filter (·.1 ≠ name))
  | name :: names, directory children =>
    directory (children.map fun (other, old) => if other = name then (other, remove names old) else (other, old))
  | _, e => e

end Entry

end TemplateLint
