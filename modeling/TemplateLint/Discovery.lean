import TemplateLint.Config.Basic
import TemplateLint.FileTree.Walk
import TemplateLint.Journal
import TemplateLint.Pattern.Glob

namespace TemplateLint.Discovery

structure Site where
  root : Entry
  cwd : List String

def isTemplateName (path : List String) : Bool :=
  let suffix := (Path.absolute path).suffix
  suffix == ".mako" || suffix == ".mak"

mutual

/-- The templates at or below an entry. `path` is the way by which it was reached and `here` the directory that holds it, or
its own location if that is not a link. -/
def collect (root : Entry) (links : Nat) (path here : List String) (e : Entry) : List (List String) :=
  match e, links with
  | .file _, _ => if isTemplateName path then [path] else []
  | .directory children, links => collectAll root links path here children
  | .link _, 0 => []
  | .link target, links + 1 =>
    match FileTree.follow root links (if FileTree.isAbsolute target then [] else here.dropLast) (FileTree.targetNames target) with
    | .error _ => []
    | .ok (place, left) =>
      match root.at? place with
      | some (.link _) => []
      | some next => collect root (min left links) path place next
      | none => []
termination_by (links, sizeOf e)
decreasing_by
  · exact Prod.Lex.right _ (by simp only [Entry.directory.sizeOf_spec]; omega)
  · exact Prod.Lex.left _ _ (by omega)

def collectAll (root : Entry) (links : Nat) (path here : List String) (children : List (String × Entry)) : List (List String) :=
  match children with
  | [] => []
  | (name, e) :: es => collect root links (path ++ [name]) (here ++ [name]) e ++ collectAll root links path here es
termination_by (links, sizeOf children)
decreasing_by
  · exact Prod.Lex.right _ (by simp only [List.cons.sizeOf_spec, Prod.mk.sizeOf_spec]; omega)
  · exact Prod.Lex.right _ (by simp only [List.cons.sizeOf_spec, Prod.mk.sizeOf_spec]; omega)

end

def resolve (site : Site) (p : Path) : Except Failure Path :=
  match FileTree.resolve site.root site.cwd p with
  | .ok place => .ok (.absolute place)
  | .error loop => .error (.linkLoop loop)

@[simp] theorem resolve_top (site : Site) : resolve site (.absolute []) = .ok (.absolute []) := by
  simp [resolve, FileTree.resolve]

def templatesBelow (site : Site) (p : Path) : Except Failure (List Path) := do
  let resolved ← resolve site p
  match FileTree.follow site.root FileTree.linkLimit [] resolved.parts with
  | .ok (here, left) =>
    match site.root.at? here with
    | some e => return (collect site.root left resolved.parts here e).map Path.absolute
    | none => return []
  | .error _ => return []

def baseFor (site : Site) (file : Path) : List Path → Except Failure Path
  | [] => .ok file.parent
  | p :: ps => do
    let resolved ← resolve site p
    if FileTree.isFile site.root [] resolved then
      if file = resolved then return resolved.parent else baseFor site file ps
    else if file.isUnder resolved then return resolved
    else baseFor site file ps

def selected (config : Config) (base file : Path) : Traced Bool := do
  if ← Traced.ofExcept (Pattern.matchesAny file base config.excluded) then
    Traced.log .debug .discovery s!"Excluded {file}"
    return false
  else Traced.ofExcept (Pattern.matchesAny file base config.included)

def keep (site : Site) (paths : List Path) (config : Config) : List Path → Traced (List Path)
  | [] => return []
  | file :: files => do
    let base ← Traced.ofExcept (baseFor site file paths)
    let take ← selected config base file
    let rest ← keep site paths config files
    return if take then file :: rest else rest

def distinct (files : List Path) : List Path := files.eraseDups

def scan (site : Site) (paths : List Path) (config : Config) : Traced (List Path) := do
  let found ← Traced.ofExcept (paths.mapM (templatesBelow site))
  let kept ← keep site paths config found.flatten
  return (distinct kept).mergeSort Path.le

end TemplateLint.Discovery
