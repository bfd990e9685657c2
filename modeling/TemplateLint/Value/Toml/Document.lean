import TemplateLint.Value.Toml.Scalar

namespace TemplateLint.Toml

open Text

def isBare (c : Char) : Bool := c.isAlphanum || c == '_' || c == '-'

def keyPart? : Reader String := fun cs =>
  match cs with
  | '"' :: rest => (basic? rest.length rest).map fun (text, rest) => (String.ofList text, rest)
  | '\'' :: rest => (literal? rest).map fun (text, rest) => (String.ofList text, rest)
  | _ =>
    match cs.takeWhile isBare with
    | [] => none
    | word => some (String.ofList word, cs.dropWhile isBare)

def key? (fuel : Nat) : Reader (List String) := fun cs =>
  match keyPart? cs with
  | none => none
  | some (part, rest) =>
    match fuel, skipSpaces rest with
    | fuel + 1, '.' :: rest => (key? fuel (skipSpaces rest)).map fun (parts, rest) => (part :: parts, rest)
    | _, rest => some ([part], rest)

/-- Applies `f` to the table behind a path; missing tables are made, and of an array the last table counts, unless `plain`. -/
def within? (plain : Bool) (f : Table → Option Table) : List String → Table → Option Table
  | [], t => f t
  | name :: names, t =>
    match t.get? name with
    | none => (within? plain f names []).map fun inner => t.insert name (.table inner)
    | some (.table inner) => (within? plain f names inner).map fun inner => t.insert name (.table inner)
    | some (.list items) =>
      if plain then none
      else match items.getLast? with
        | some (.table inner) =>
          (within? plain f names inner).map fun inner => t.insert name (.list (items.dropLast ++ [.table inner]))
        | _ => none
    | some _ => none

def setNew? (name : String) (v : Value) (t : Table) : Option Table :=
  if t.has name then none else some (t.insert name v)

def addTable? (name : String) (t : Table) : Option Table :=
  match t.get? name with
  | none => some (t.insert name (.list [.table []]))
  | some (.list items) => some (t.insert name (.list (items ++ [.table []])))
  | some _ => none

def isContainer : Value → Bool
  | .list _ => true
  | .table _ => true
  | _ => false

def isFrozen (frozen : List (List String)) (key : List String) : Bool := frozen.any (·.isPrefixOf key)

def skipComment? (cs : List Char) : Option (List Char) :=
  match cs with
  | '#' :: rest => if (rest.takeWhile (· ≠ '\n')).any isIllegal then none else some (rest.dropWhile (· ≠ '\n'))
  | _ => some cs

def skipGap? (fuel : Nat) (cs : List Char) : Option (List Char) :=
  match fuel, skipSpacesAndBreaks cs with
  | fuel + 1, '#' :: rest => (skipComment? ('#' :: rest)).bind (skipGap? fuel)
  | _, rest => some rest

mutual

def value? (fuel : Nat) : Reader Value := fun cs =>
  match fuel, cs with
  | fuel + 1, '[' :: rest => do
    match ← skipGap? rest.length rest with
    | ']' :: rest => return (.list [], rest)
    | rest =>
      let (items, rest) ← items? fuel rest
      return (.list items, rest)
  | fuel + 1, '\x7b' :: rest =>
    match skipSpaces rest with
    | '\x7d' :: rest => some (.table [], rest)
    | rest => (members? fuel [] [] rest).map fun (t, rest) => (.table t, rest)
  | _, cs => scalar? cs

def items? (fuel : Nat) : Reader (List Value) := fun cs =>
  match fuel with
  | 0 => none
  | fuel + 1 => do
    let (v, rest) ← value? fuel cs
    match ← skipGap? rest.length rest with
    | ']' :: rest => return ([v], rest)
    | ',' :: rest =>
      match ← skipGap? rest.length rest with
      | ']' :: rest => return ([v], rest)
      | rest =>
        let (vs, rest) ← items? fuel rest
        return (v :: vs, rest)
    | _ => none

def members? (fuel : Nat) (done : Table) (frozen : List (List String)) : Reader Table := fun cs =>
  match fuel with
  | 0 => none
  | fuel + 1 => do
    let (key, rest) ← key? cs.length cs
    match rest with
    | '=' :: rest =>
      let (v, rest) ← value? fuel (skipSpaces rest)
      if isFrozen frozen key then none
      else
        let done ← within? true (setNew? (key.getLastD "") v) key.dropLast done
        match skipSpaces rest with
        | '\x7d' :: rest => return (done, rest)
        | ',' :: rest => members? fuel done (if isContainer v then key :: frozen else frozen) (skipSpaces rest)
        | _ => none
    | _ => none

end

/-- A document in the making: what it holds, the table that is open, the tables that cannot be opened any more, those that
cannot once another table is opened, and what cannot be added to. -/
structure Draft where
  data : Table
  header : List String
  named : List (List String)
  pending : List (List String)
  frozen : List (List String)

namespace Draft

def empty : Draft := ⟨[], [], [], [], []⟩

def settle (d : Draft) : Draft := { d with named := d.pending ++ d.named, pending := [] }

def openTable? (d : Draft) (key : List String) : Option Draft := do
  if d.named.contains key || isFrozen d.frozen key then none
  else
    let data ← within? false some key d.data
    return { d with data, header := key, named := key :: d.named }

def openNext? (d : Draft) (key : List String) : Option Draft := do
  if isFrozen d.frozen key then none
  else
    let data ← within? false (addTable? (key.getLastD "")) key.dropLast d.data
    return { d with
      data, header := key
      named := key :: d.named.filter fun k => !key.isPrefixOf k
      frozen := d.frozen.filter fun k => !key.isPrefixOf k }

def set? (d : Draft) (key : List String) (v : Value) : Option Draft := do
  let parents := (List.range (key.length - 1)).map fun i => d.header ++ key.take (i + 1)
  let place := d.header ++ key.dropLast
  if parents.any d.named.contains || isFrozen d.frozen place then none
  else
    let data ← within? false (setNew? (key.getLastD "") v) place d.data
    return { d with
      data, pending := parents ++ d.pending
      frozen := if isContainer v then (d.header ++ key) :: d.frozen else d.frozen }

def statement? (d : Draft) : Reader Draft := fun cs =>
  match cs with
  | '[' :: '[' :: rest => do
    let rest := skipSpaces rest
    let (key, rest) ← key? rest.length rest
    match ← d.settle.openNext? key, rest with
    | d, ']' :: ']' :: rest => return (d, rest)
    | _, _ => none
  | '[' :: rest => do
    let rest := skipSpaces rest
    let (key, rest) ← key? rest.length rest
    match ← d.settle.openTable? key, rest with
    | d, ']' :: rest => return (d, rest)
    | _, _ => none
  | '#' :: _ => some (d, cs)
  | '\n' :: _ => some (d, cs)
  | _ => do
    let (key, rest) ← key? cs.length cs
    match rest with
    | '=' :: rest =>
      let (v, rest) ← value? (2 * rest.length + 2) (skipSpaces rest)
      return (← d.set? key v, rest)
    | _ => none

def lines? (fuel : Nat) (d : Draft) (cs : List Char) : Option Draft :=
  match fuel, skipSpaces cs with
  | _, [] => some d
  | 0, _ => none
  | fuel + 1, rest => do
    let (d, rest) ← d.statement? rest
    match ← skipComment? (skipSpaces rest) with
    | [] => return d
    | '\n' :: rest => lines? fuel d rest
    | _ => none

end Draft

def read? (text : String) : Option Table :=
  let cs := dropReturns text.toList
  (Draft.lines? (cs.length + 1) .empty cs).map (·.data)

end TemplateLint.Toml
