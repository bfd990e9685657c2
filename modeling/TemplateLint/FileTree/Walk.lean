import TemplateLint.FileTree.Basic
import TemplateLint.Path
import TemplateLint.Text.Literal

/-!
Following paths through a file tree. At most forty links are followed on one way; a link that leads back to itself is a loop.
-/

namespace TemplateLint

inductive AccessFault where
  | missing | notDirectory | isDirectory | tooManyLinks
  deriving DecidableEq, Repr

def AccessFault.describe : AccessFault → String
  | missing => "[Errno 2] No such file or directory"
  | notDirectory => "[Errno 20] Not a directory"
  | isDirectory => "[Errno 21] Is a directory"
  | tooManyLinks => "[Errno 40] Too many levels of symbolic links"

def AccessFault.message (f : AccessFault) (path : String) : String :=
  let path := Text.quoted path
  s!"{f.describe}: {path}"

namespace FileTree

def linkLimit : Nat := 40

def targetNames (target : String) : List String :=
  let names := ((Text.splitOn '/' target.toList).map String.ofList).filter (· ≠ "")
  if target.endsWith "/" then names ++ ["."] else names

def isAbsolute (target : String) : Bool := target.startsWith "/"

def follow (root : Entry) (links : Nat) (here : List String) : List String → Except AccessFault (List String × Nat)
  | [] => .ok (here, links)
  | name :: names =>
    match root.at? here with
    | some (.directory children) =>
      if name = "." then follow root links here names
      else if name = ".." then follow root links here.dropLast names
      else match children.lookup name, links with
        | none, _ => .error .missing
        | some (.link _), 0 => .error .tooManyLinks
        | some (.link target), links + 1 =>
          follow root links (if isAbsolute target then [] else here) (targetNames target ++ names)
        | some _, links => follow root links (here ++ [name]) names
    | _ => .error .notDirectory
termination_by names => (links, names.length)

@[simp] theorem follow_nil (root : Entry) (links : Nat) (here : List String) :
    follow root links here [] = .ok (here, links) := by
  rw [follow]

def namesFrom (cwd : List String) (p : Path) : List String := if p.root = .relative then cwd ++ p.parts else p.parts

@[simp] theorem namesFrom_absolute (cwd parts : List String) : namesFrom cwd (.absolute parts) = parts := rfl

def entry? (root : Entry) (cwd : List String) (p : Path) : Except AccessFault Entry :=
  match follow root linkLimit [] (namesFrom cwd p) with
  | .error f => .error f
  | .ok (here, _) =>
    match root.at? here with
    | some e => .ok e
    | none => .error .missing

def isFile (root : Entry) (cwd : List String) (p : Path) : Bool :=
  match entry? root cwd p with
  | .ok (.file _) => true
  | _ => false

def isDirectory (root : Entry) (cwd : List String) (p : Path) : Bool :=
  match entry? root cwd p with
  | .ok (.directory _) => true
  | _ => false

def bytes (root : Entry) (cwd : List String) (p : Path) : Except AccessFault (List UInt8) :=
  match entry? root cwd p with
  | .ok (.file bytes) => .ok bytes
  | .ok _ => .error .isDirectory
  | .error f => .error f

/-- The location of the names with every link on the way replaced by what it leads to, and whether no loop was met. What does
not exist is taken as written; `opened` are the links being replaced, and `depth` bounds how many there can be. -/
def resolveFrom (root : Entry) (depth : Nat) (opened : List (List String)) (here : List String) :
    List String → List String × Bool
  | [] => (here, true)
  | name :: names =>
    if name = "." then resolveFrom root depth opened here names
    else if name = ".." then resolveFrom root depth opened here.dropLast names
    else
      let next := here ++ [name]
      match root.at? next, depth with
      | some (.link target), depth + 1 =>
        if opened.contains next then (next ++ names, false)
        else
          match resolveFrom root depth (next :: opened) (if isAbsolute target then [] else here) (targetNames target) with
          | (place, true) => resolveFrom root (depth + 1) opened place names
          | (place, false) => (place ++ names, false)
      | some (.link _), 0 => (next ++ names, false)
      | _, depth => resolveFrom root depth opened next names
termination_by names => (depth, names.length)

@[simp] theorem resolveFrom_nil (root : Entry) (depth : Nat) (opened : List (List String)) (here : List String) :
    resolveFrom root depth opened here [] = (here, true) := by
  rw [resolveFrom]

def normalized (names : List String) : List String :=
  (names.foldl (fun done name => if name = "." then done else if name = ".." then done.tail else name :: done) []).reverse

@[simp] theorem normalized_nil : normalized [] = [] := rfl

def resolve (root : Entry) (cwd : List String) (p : Path) : Except String (List String) :=
  let place := normalized (resolveFrom root (root.linkCount + 1) [] [] (namesFrom cwd p)).1
  match follow root linkLimit [] place with
  | .error .tooManyLinks => .error (Path.absolute place).toText
  | _ => .ok place

def entryLocation (root : Entry) (cwd : List String) (p : Path) : List String :=
  let directory := normalized (resolveFrom root (root.linkCount + 1) [] [] (namesFrom cwd p.parent)).1
  -- A link at the end of the path is the entry itself.
  if p.parts = [] then directory else directory ++ [p.name]

def store (root : Entry) (cwd : List String) (p : Path) (e : Entry) : Entry :=
  match e with
  | .link _ => Entry.put e (entryLocation root cwd p) root
  | .directory [] => if isDirectory root cwd p then root else Entry.put e (entryLocation root cwd p) root
  | _ => Entry.put e (normalized (resolveFrom root (root.linkCount + 1) [] [] (namesFrom cwd p)).1) root

def delete (root : Entry) (cwd : List String) (p : Path) : Entry := Entry.remove (entryLocation root cwd p) root

end FileTree

end TemplateLint
