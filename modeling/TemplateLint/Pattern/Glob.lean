import TemplateLint.Failure
import TemplateLint.Pattern.Wildcard
import TemplateLint.Text.Lines

/-!
Path patterns. Without `**` a pattern is a wildcard for the whole path; with it, one of four forms says which components of
the path are compared.
-/

namespace TemplateLint.Pattern

open Text

def tails (parts : List (List Char)) : List (List Char) :=
  (List.range parts.length).map fun i => join ['/'] (parts.drop i)

def doubleStar (pattern path : List Char) : Bool :=
  let parts := splitOn '/' path
  let lead := "**/".toList
  let trail := "/**".toList
  if startsWith lead pattern && endsWith trail pattern then
    parts.dropLast.any (wildcard ((pattern.drop 3).take (pattern.length - 6)))
  else if startsWith lead pattern then (tails parts).any (wildcard (pattern.drop 3))
  else
    match cut? "/**/".toList pattern with
    | some (before, after) =>
      startsWith (before ++ ['/']) path && (tails (splitOn '/' (path.drop (before.length + 1)))).any (wildcard after)
    | none =>
      if endsWith trail pattern then
        let before := pattern.take (pattern.length - 3)
        startsWith (before ++ ['/']) path || path == before
      else wildcard pattern path

def glob (pattern path : List Char) : Bool :=
  if contains ['*', '*'] pattern then doubleStar pattern path else wildcard pattern path

def isText (v : Value) (s : String) : Bool := v.str? == some s

def matchValue (path : List Char) : Value → Except Failure Bool
  | .str s => .ok (glob s.toList path)
  | .list items =>
    if items.any (isText · "**") then .error (.notPattern (.list items)) else .error (.notPath (.list items))
  | .table entries =>
    if Table.has entries "**" then .error (.notPattern (.table entries)) else .error (.notPath (.table entries))
  | v => .error (.notSearchable v)

def anyMatch (path : List Char) : List Value → Except Failure Bool
  | [] => .ok false
  | v :: vs =>
    match matchValue path v with
    | .error failure => .error failure
    | .ok true => .ok true
    | .ok false => anyMatch path vs

def relativeText (path base : Path) : List Char :=
  (((path.relativeTo? base).getD path).toText.toList).map fun c => if c = '\\' then '/' else c

def matchesAny (path base : Path) (patterns : List Value) : Except Failure Bool :=
  anyMatch (relativeText path base) patterns

end TemplateLint.Pattern
