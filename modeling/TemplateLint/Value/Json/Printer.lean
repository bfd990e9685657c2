import TemplateLint.Decimal.Shortest
import TemplateLint.Value.Basic

namespace TemplateLint.Json

open Text

def unit (n : Nat) : List Char := '\\' :: 'u' :: hex 4 n

def escaped (c : Char) : List Char :=
  let n := c.toNat
  if c = '"' ∨ c = '\\' then ['\\', c]
  else if c = '\n' then ['\\', 'n']
  else if c = '\r' then ['\\', 'r']
  else if c = '\t' then ['\\', 't']
  else if c = '\x08' then ['\\', 'b']
  else if c = '\x0c' then ['\\', 'f']
  else if 0x20 ≤ n ∧ n < 0x7f then [c]
  else if n < 0x10000 then unit n
  else unit (0xd800 + (n - 0x10000) / 0x400) ++ unit (0xdc00 + (n - 0x10000) % 0x400)

def string (s : String) : List Char := '"' :: s.toList.flatMap escaped ++ ['"']

def newline (depth : Nat) : List Char := '\n' :: List.replicate (2 * depth) ' '

mutual

def chars (depth : Nat) : Value → List Char
  | .null => "null".toList
  | .bool true => "true".toList
  | .bool false => "false".toList
  | .int n => signed n
  | .real x => (Decimal.Number.ofFloat x).render
  | .str s => string s
  | .moment _ text => string text
  | .list [] => ['[', ']']
  | .list (v :: vs) => '[' :: newline (depth + 1) ++ chars (depth + 1) v ++ items (depth + 1) vs ++ newline depth ++ [']']
  | .table [] => ['\x7b', '\x7d']
  | .table ((key, v) :: es) =>
    '\x7b' :: newline (depth + 1) ++ string key ++ [':', ' '] ++ chars (depth + 1) v ++ members (depth + 1) es ++
      newline depth ++ ['\x7d']

def items (depth : Nat) : List Value → List Char
  | [] => []
  | v :: vs => ',' :: newline depth ++ chars depth v ++ items depth vs

def members (depth : Nat) : List (String × Value) → List Char
  | [] => []
  | (key, v) :: es => ',' :: newline depth ++ string key ++ [':', ' '] ++ chars depth v ++ members depth es

end

def render (v : Value) : String := String.ofList (chars 0 v)

end TemplateLint.Json
