import TemplateLint.Decimal.Shortest
import TemplateLint.Text.Lines
import TemplateLint.Value.Basic

namespace TemplateLint.Toml

open Text

abbrev Reader (α : Type) := List Char → Option (α × List Char)

def isSpace (c : Char) : Bool := c == ' ' || c == '\t'

def isControl (c : Char) : Bool := c.toNat < 0x20 || c.toNat == 0x7f

def isIllegal (c : Char) : Bool := isControl c && c != '\t'

def isIllegalInLines (c : Char) : Bool := isControl c && c != '\t' && c != '\n'

def skipSpaces (cs : List Char) : List Char := cs.dropWhile isSpace

def skipSpacesAndBreaks (cs : List Char) : List Char := cs.dropWhile fun c => isSpace c || c == '\n'

def hexNumber? (count : Nat) : Reader Char := fun cs =>
  let ds := cs.take count
  if ds.length = count then
    match readNat? 16 ds with
    | some n => if n < 0xd800 ∨ (0xe000 ≤ n ∧ n < 0x110000) then some (Char.ofNat n, cs.drop count) else none
    | none => none
  else none

def escape? : Reader Char
  | 'b' :: cs => some ('\x08', cs)
  | 't' :: cs => some ('\t', cs)
  | 'n' :: cs => some ('\n', cs)
  | 'f' :: cs => some ('\x0c', cs)
  | 'r' :: cs => some ('\r', cs)
  | '"' :: cs => some ('"', cs)
  | '\\' :: cs => some ('\\', cs)
  | 'u' :: cs => hexNumber? 4 cs
  | 'U' :: cs => hexNumber? 8 cs
  | _ => none

def joinedLine? (cs : List Char) : Option (List Char) :=
  match skipSpaces cs with
  | '\n' :: rest => some (skipSpacesAndBreaks rest)
  | [] => some []
  | _ => none

def basic? (fuel : Nat) : Reader (List Char) := fun cs =>
  match fuel, cs with
  | _, '"' :: rest => some ([], rest)
  | fuel + 1, '\\' :: rest => do
    let (c, rest) ← escape? rest
    let (text, rest) ← basic? fuel rest
    return (c :: text, rest)
  | fuel + 1, c :: rest => do
    if isIllegal c then none
    else
      let (text, rest) ← basic? fuel rest
      return (c :: text, rest)
  | _, _ => none

def basicLines? (fuel : Nat) : Reader (List Char) := fun cs =>
  match fuel, cs with
  | _, '"' :: '"' :: '"' :: rest => some ([], rest)
  | fuel + 1, '\\' :: rest =>
    match rest with
    | c :: _ =>
      if c = ' ' ∨ c = '\t' ∨ c = '\n' then (joinedLine? rest).bind (basicLines? fuel)
      else do
        let (c, rest) ← escape? rest
        let (text, rest) ← basicLines? fuel rest
        return (c :: text, rest)
    | [] => none
  | fuel + 1, c :: rest => do
    if isIllegalInLines c then none
    else
      let (text, rest) ← basicLines? fuel rest
      return (c :: text, rest)
  | _, _ => none

def literal? : Reader (List Char)
  | [] => none
  | c :: rest =>
    if c = '\'' then some ([], rest)
    else if isIllegal c then none
    else (literal? rest).map fun (text, rest) => (c :: text, rest)

def literalLines? : Reader (List Char)
  | '\'' :: '\'' :: '\'' :: rest => some ([], rest)
  | c :: rest => if isIllegalInLines c then none else (literalLines? rest).map fun (text, rest) => (c :: text, rest)
  | [] => none

def closingQuotes (quote : Char) (text cs : List Char) : List Char × List Char :=
  match cs with
  | c :: d :: rest =>
    if c = quote ∧ d = quote then (text ++ [c, d], rest) else if c = quote then (text ++ [c], d :: rest) else (text, cs)
  | [c] => if c = quote then (text ++ [c], []) else (text, cs)
  | [] => (text, cs)

def skipFirstBreak : List Char → List Char
  | '\n' :: cs => cs
  | cs => cs

def string? : Reader String
  | '"' :: '"' :: '"' :: cs => (basicLines? cs.length (skipFirstBreak cs)).map fun (text, rest) =>
    let (text, rest) := closingQuotes '"' text rest
    (String.ofList text, rest)
  | '\'' :: '\'' :: '\'' :: cs => (literalLines? (skipFirstBreak cs)).map fun (text, rest) =>
    let (text, rest) := closingQuotes '\'' text rest
    (String.ofList text, rest)
  | '"' :: cs => (basic? cs.length cs).map fun (text, rest) => (String.ofList text, rest)
  | '\'' :: cs => (literal? cs).map fun (text, rest) => (String.ofList text, rest)
  | _ => none

def moreDigits (p : Char → Bool) : List Char → List Char × List Char
  | [] => ([], [])
  | '_' :: c :: cs => if p c then ((c :: (moreDigits p cs).1), (moreDigits p cs).2) else ([], '_' :: c :: cs)
  | c :: cs => if p c then ((c :: (moreDigits p cs).1), (moreDigits p cs).2) else ([], c :: cs)

def run? (p : Char → Bool) : Reader (List Char)
  | c :: cs => if p c then let (ds, rest) := moreDigits p cs; some (c :: ds, rest) else none
  | [] => none

def isBase (base : Nat) (c : Char) : Bool := (digitValue? base c).isSome

def based? (base : Nat) : Reader Value := fun cs => do
  let (ds, rest) ← run? (isBase base) cs
  let n ← readNat? base ds
  return (.int n, rest)

def fraction (cs : List Char) : Option (List Char) × List Char :=
  match cs with
  | '.' :: rest =>
    match run? Char.isDigit rest with
    | some (ds, rest) => (some ds, rest)
    | none => (none, cs)
  | _ => (none, cs)

def exponent (cs : List Char) : Option Int × List Char :=
  match cs with
  | e :: rest =>
    if e = 'e' ∨ e = 'E' then
      let (negative, rest) := match rest with
        | '-' :: r => (true, r)
        | '+' :: r => (false, r)
        | _ => (false, rest)
      match run? Char.isDigit rest with
      | some (ds, rest) =>
        let n : Int := (readNat? 10 ds).getD 0
        (some (if negative then -n else n), rest)
      | none => (none, cs)
    else (none, cs)
  | [] => (none, cs)

def decimal? : Reader Value := fun cs => do
  let (negative, cs) := match cs with
    | '-' :: rest => (true, rest)
    | '+' :: rest => (false, rest)
    | _ => (false, cs)
  let (whole, cs) ← match cs with
    | '0' :: rest => some (['0'], rest)
    | _ => run? Char.isDigit cs
  let (part, cs) := fraction cs
  let (power, cs) := exponent cs
  let ds := part.getD []
  let n ← readNat? 10 (whole ++ ds)
  if part.isNone && power.isNone then return (.int (if negative then -(n : Int) else n), cs)
  else return (.real (Decimal.toFloat negative n (power.getD 0 - ds.length)), cs)

def special? : Reader Value
  | 'i' :: 'n' :: 'f' :: cs => some (.real (1.0 / 0.0), cs)
  | '+' :: 'i' :: 'n' :: 'f' :: cs => some (.real (1.0 / 0.0), cs)
  | '-' :: 'i' :: 'n' :: 'f' :: cs => some (.real (-1.0 / 0.0), cs)
  | 'n' :: 'a' :: 'n' :: cs => some (.real (0.0 / 0.0), cs)
  | '+' :: 'n' :: 'a' :: 'n' :: cs => some (.real (0.0 / 0.0), cs)
  | '-' :: 'n' :: 'a' :: 'n' :: cs => some (.real (0.0 / 0.0), cs)
  | _ => none

def number? : Reader Value := fun cs =>
  let based := match cs with
    | '0' :: 'x' :: rest => based? 16 rest
    | '0' :: 'b' :: rest => based? 2 rest
    | '0' :: 'o' :: rest => based? 8 rest
    | _ => none
  (based.or (decimal? cs)).or (special? cs)

def field? (count low high : Nat) : Reader Nat := fun cs =>
  let ds := cs.take count
  if ds.length = count ∧ ds.all Char.isDigit then
    match readNat? 10 ds with
    | some n => if low ≤ n ∧ n ≤ high then some (n, cs.drop count) else none
    | none => none
  else none

def sign? (c : Char) : Reader Unit
  | d :: cs => if c = d then some ((), cs) else none
  | [] => none

def time? : Reader Unit := fun cs => do
  let (_, cs) ← field? 2 0 23 cs
  let (_, cs) ← sign? ':' cs
  let (_, cs) ← field? 2 0 59 cs
  let (_, cs) ← sign? ':' cs
  let (_, cs) ← field? 2 0 59 cs
  match cs with
  | '.' :: c :: rest => if c.isDigit then return ((), rest.dropWhile Char.isDigit) else return ((), cs)
  | _ => return ((), cs)

def offset? : Reader Unit := fun cs => do
  match cs with
  | c :: rest =>
    if c = 'Z' ∨ c = 'z' then return ((), rest)
    else if c = '+' ∨ c = '-' then
      let (_, rest) ← field? 2 0 23 rest
      let (_, rest) ← sign? ':' rest
      let (_, rest) ← field? 2 0 59 rest
      return ((), rest)
    else none
  | [] => none

def daysIn (year month : Nat) : Nat :=
  if month = 2 then if year % 4 = 0 ∧ (year % 100 ≠ 0 ∨ year % 400 = 0) then 29 else 28
  else if [4, 6, 9, 11].contains month then 30
  else 31

def date? : Reader Bool := fun cs => do
  let (year, cs) ← field? 4 0 9999 cs
  let (_, cs) ← sign? '-' cs
  let (month, cs) ← field? 2 1 12 cs
  let (_, cs) ← sign? '-' cs
  let (day, cs) ← field? 2 1 31 cs
  return (1 ≤ year && day ≤ daysIn year month, cs)

def dateTime? : Reader (Option Moment) := fun cs => do
  let (exists_, rest) ← date? cs
  let whole := match rest with
    | c :: after =>
      if c = 'T' ∨ c = 't' ∨ c = ' ' then (time? after).map fun ((), after) => ((offset? after).map (·.2)).getD after else none
    | [] => none
  match whole with
  | some rest => return (if exists_ then some .dateTime else none, rest)
  | none => return (if exists_ then some .date else none, rest)

def textBefore (cs rest : List Char) : String := String.ofList (cs.take (cs.length - rest.length))

def scalar? : Reader Value := fun cs =>
  match cs with
  | 't' :: 'r' :: 'u' :: 'e' :: rest => some (.bool true, rest)
  | 'f' :: 'a' :: 'l' :: 's' :: 'e' :: rest => some (.bool false, rest)
  | c :: _ =>
    if c = '"' ∨ c = '\'' then (string? cs).map fun (s, rest) => (.str s, rest)
    else match dateTime? cs with
      | some (some kind, rest) => some (.moment kind (textBefore cs rest), rest)
      | some (none, _) => none
      | none =>
        match time? cs with
        | some ((), rest) => some (.moment .time (textBefore cs rest), rest)
        | none => number? cs
  | [] => none

end TemplateLint.Toml
