import TemplateLint.Text.Lines
import TemplateLint.Text.Printable

namespace TemplateLint.Text

def digitChar (n : Nat) : Char := if n < 10 then Char.ofNat (0x30 + n) else Char.ofNat (0x57 + n)

def digits (n : Nat) : List Char := if n < 10 then [digitChar n] else digits (n / 10) ++ [digitChar (n % 10)]

def signed : Int → List Char
  | .ofNat n => digits n
  | .negSucc n => '-' :: digits (n + 1)

def hex : Nat → Nat → List Char
  | 0, _ => []
  | width + 1, n => hex width (n / 16) ++ [digitChar (n % 16)]

def digitValue? (base : Nat) (c : Char) : Option Nat :=
  let n := c.toNat
  let value := if c.isDigit then n - 0x30 else if 'a' ≤ c ∧ c ≤ 'z' then n - 0x57 else if 'A' ≤ c ∧ c ≤ 'Z' then n - 0x37 else base
  if value < base then some value else none

def readNat? (base : Nat) (cs : List Char) : Option Nat :=
  if cs = [] then none else cs.foldlM (fun n c => (digitValue? base c).map (n * base + ·)) 0

def quoteFor (cs : List Char) : Char := if cs.contains '\'' && !cs.contains '"' then '"' else '\''

def escaped (quote c : Char) : List Char :=
  if c = quote ∨ c = '\\' then ['\\', c]
  else if c = '\t' then ['\\', 't']
  else if c = '\n' then ['\\', 'n']
  else if c = '\r' then ['\\', 'r']
  else if isPrintable c then [c]
  else if c.toNat < 0x100 then '\\' :: 'x' :: hex 2 c.toNat
  else if c.toNat < 0x10000 then '\\' :: 'u' :: hex 4 c.toNat
  else '\\' :: 'U' :: hex 8 c.toNat

def quotedChars (cs : List Char) : List Char :=
  let quote := quoteFor cs
  quote :: cs.flatMap (escaped quote) ++ [quote]

def quoted (s : String) : String := String.ofList (quotedChars s.toList)

def quotedList (names : List String) : String := "[" ++ joinStrings ", " (names.map quoted) ++ "]"

end TemplateLint.Text
