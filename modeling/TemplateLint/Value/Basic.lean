import TemplateLint.Text.Lines

namespace TemplateLint

inductive Moment where
  | date | time | dateTime
  deriving DecidableEq, Repr

inductive Value where
  | null
  | bool (b : Bool)
  | int (n : Int)
  | real (x : Float)
  | str (s : String)
  | moment (kind : Moment) (text : String)
  | list (items : List Value)
  | table (entries : List (String × Value))

abbrev Table := List (String × Value)

namespace Table

def get? (entries : Table) (key : String) : Option Value := (entries.find? (·.1 == key)).map (·.2)

def has (entries : Table) (key : String) : Bool := entries.any (·.1 == key)

def insert (entries : Table) (key : String) (value : Value) : Table :=
  -- An old key keeps its place.
  if has entries key then entries.map fun e => if e.1 == key then (key, value) else e else entries ++ [(key, value)]

def ofList (entries : List (String × Value)) : Table := entries.foldl (fun t e => t.insert e.1 e.2) []

end Table

namespace Value

def kind : Value → String
  | null => "NoneType"
  | bool _ => "bool"
  | int _ => "int"
  | real _ => "float"
  | str _ => "str"
  | moment .date _ => "date"
  | moment .time _ => "time"
  | moment .dateTime _ => "datetime"
  | list _ => "list"
  | table _ => "dict"

def fullKind (v : Value) : String :=
  match v with
  | moment _ _ => s!"datetime.{v.kind}"
  | _ => v.kind

def ofStrings (items : List String) : Value := .list (items.map .str)

def ofOption : Option String → Value
  | none => .null
  | some s => .str s

def ofInt? : Option Int → Value
  | none => .null
  | some n => .int n

@[simp]
def str? : Value → Option String
  | str s => some s
  | _ => none

def moment? : Value → Option Value
  | .moment kind text => some (.moment kind text)
  | .list items => first items
  | .table entries => firstIn entries
  | _ => none
where
  first : List Value → Option Value
    | [] => none
    | v :: vs => (moment? v).or (first vs)
  firstIn : List (String × Value) → Option Value
    | [] => none
    | (_, v) :: es => (moment? v).or (firstIn es)

end Value

end TemplateLint
