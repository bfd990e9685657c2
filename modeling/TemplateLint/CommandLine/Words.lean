import TemplateLint.CommandLine.Run
import TemplateLint.CommandLine.Usage

namespace TemplateLint.Text

def commonLead : List Char → List Char → Nat
  | a :: as, b :: bs => if a = b then commonLead as bs + 1 else 0
  | _, _ => 0

structure Shared where
  first : Nat
  second : Nat
  length : Nat

def longestShared (as bs : List Char) : Shared :=
  let starts := (List.range as.length).flatMap fun i => (List.range bs.length).map fun j => (i, j)
  starts.foldl (fun best (i, j) =>
    let n := commonLead (as.drop i) (bs.drop j)
    if best.length < n then ⟨i, j, n⟩ else best) ⟨0, 0, 0⟩

def sharedCount : Nat → List Char → List Char → Nat
  | 0, _, _ => 0
  | rounds + 1, as, bs =>
    let s := longestShared as bs
    if s.length = 0 then 0
    else sharedCount rounds (as.take s.first) (bs.take s.second) + s.length +
      sharedCount rounds (as.drop (s.first + s.length)) (bs.drop (s.second + s.length))

def likeness (a b : String) : Nat × Nat :=
  (2 * sharedCount a.length a.toList b.toList, a.length + b.length)

def closeMatches (word : String) (candidates : List String) : List String :=
  let scored := (candidates.map fun c => (likeness c word, c)).filter fun ((same, all), _) => 6 * all ≤ 10 * same
  -- The likenesses are quotients, so that they are compared crosswise.
  let better (a b : (Nat × Nat) × String) : Bool :=
    let left := a.1.1 * b.1.2
    let right := b.1.1 * a.1.2
    right < left || (left == right && b.2 ≤ a.2)
  ((scored.mergeSort better).take 3).map (·.2)

end TemplateLint.Text

namespace TemplateLint.CommandLine

open Discovery Text

structure Given where
  name : String
  value : Option String
  deriving DecidableEq, Repr

structure Arguments where
  options : List Given
  rest : List String
  deriving DecidableEq, Repr

namespace Arguments

def addOption (a : Arguments) (g : Given) : Arguments := { a with options := g :: a.options }

def addWord (a : Arguments) (word : String) : Arguments := { a with rest := word :: a.rest }

def last? (a : Arguments) (name : String) : Option String := ((a.options.filter (·.name == name)).getLast?).bind (·.value)

def has (a : Arguments) (name : String) : Bool := a.options.any (·.name == name)

end Arguments

def isOption (word : String) : Bool := startsWith ['-'] word.toList && 1 < word.length

def unknownOption (l : Level) (word name : String) : UsageFault :=
  if startsWith ['-', '-'] word.toList then .unknownOption name (closeMatches name (l.options.map (·.name)))
  -- Behind one hyphen each letter is an option, so that the first is what is unknown.
  else .unknownOption (String.ofList (word.toList.take 2)) []

def Level.mixes : Level → Bool
  | .program => false
  | .command _ => true

def split (l : Level) : List String → Except UsageFault Arguments
  | [] => .ok ⟨[], []⟩
  | word :: words =>
    if word = "--" then .ok ⟨[], words⟩
    else if !isOption word then
      if l.mixes then (split l words).map (·.addWord word) else .ok ⟨[], word :: words⟩
    else
      let (name, attached) := match cut? ['='] word.toList with
        | some (before, after) => (String.ofList before, some (String.ofList after))
        | none => (word, none)
      match l.options.find? (·.name == name), attached with
      | none, _ => .error (unknownOption l word name)
      | some ⟨_, false⟩, some _ => .error (.valueUnwanted name)
      | some ⟨_, false⟩, none => (split l words).map (·.addOption ⟨name, none⟩)
      | some ⟨_, true⟩, some value => (split l words).map (·.addOption ⟨name, some value⟩)
      | some ⟨_, true⟩, none =>
        match words with
        | value :: more => (split l more).map (·.addOption ⟨name, some value⟩)
        | [] => .error (.valueMissing name)

def Output.misused (l : Level) (f : UsageFault) : Output := ⟨"", line (f.report l), 2, none⟩

inductive Notice where
  | version | help
  deriving DecidableEq, Repr

def notice? (a : Arguments) : Option Notice :=
  a.options.findSome? fun g =>
    if g.name = "--version" then some .version else if g.name = "--help" then some .help else none

def Notice.output (l : Level) : Notice → Output
  | version => .told versionText
  | help => .told l.help

def arguments (l : Level) (words : List String) : Except Output Arguments := do
  let a ← (split l words).mapError (.misused l)
  match notice? a with
  | some n => .error (n.output l)
  | none => return a

def settings (site : Site) (a : Arguments) : Except UsageFault Settings :=
  match a.last? "--config" with
  | some path =>
    if path ≠ "" ∧ FileTree.isDirectory site.root site.cwd (.ofString path) then .error (.configIsDirectory path)
    else .ok ⟨some (.ofString path), a.has "--verbose", a.has "--debug"⟩
  | none => .ok ⟨none, a.has "--verbose", a.has "--debug"⟩

def readProgram (site : Site) (words : List String) : Except Output (Settings × List String) := do
  let a ← arguments .program words
  let s ← (settings site a).mapError (.misused .program)
  return (s, a.rest)

def unknownCommand (site : Site) (name : String) (words : List String) : Output :=
  let unknown := Output.misused .program (.unknownCommand name (closeMatches name ["config", "lint"]))
  -- A command that looks like an option is read as one first.
  if isOption name then
    match readProgram site (name :: words) with
    | .error output => output
    | .ok _ => unknown
  else unknown

def showSource? (a : Arguments) : Option Bool :=
  (a.options.filterMap fun g =>
    if g.name = "--show-source" then some true else if g.name = "--no-show-source" then some false else none).getLast?

def formatGiven (a : Arguments) : Except UsageFault (Option OutputFormat) :=
  match a.last? "--format" with
  | none => .ok none
  | some word =>
    match OutputFormat.ofWord? word with
    | some f => .ok (some f)
    | none => .error (.unknownFormat word)

def existing (site : Site) (word : String) : Except UsageFault Path :=
  match FileTree.entry? site.root site.cwd (.ofString word) with
  | .ok _ => if word = "" then .error (.missingPath word) else .ok (.ofString word)
  | .error _ => .error (.missingPath word)

def request (site : Site) (a : Arguments) : Command → Except UsageFault Request
  | .config =>
    if a.rest ≠ [] then .error (.extraArguments a.rest) else .ok (.config (a.has "--validate") (a.has "--json"))
  | .lint => do
    let format ← formatGiven a
    let paths ← a.rest.mapM (existing site)
    return .lint paths format (showSource? a)

def parser : Parser := fun site words =>
  if words = [] then .error ⟨"", Output.line Level.program.help, 2, none⟩
  else do
    match ← readProgram site words with
    | (_, []) => .error (.misused .program .missingCommand)
    | (s, name :: more) =>
      match Command.ofName? name with
      | none => .error (unknownCommand site name more)
      | some c =>
        return (s, do
          let a ← arguments (.command c) more
          (request site a c).mapError (.misused (.command c)))

end TemplateLint.CommandLine
