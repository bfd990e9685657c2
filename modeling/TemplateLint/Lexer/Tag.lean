import TemplateLint.Lexer.Cause
import TemplateLint.Text.Character
import TemplateLint.Text.Lines
import TemplateLint.Text.Word

namespace TemplateLint.Lexer

open Text

structure Tag where
  name : String
  attributes : List (String × String)
  closed : Bool
  deriving DecidableEq, Repr

namespace Tag

def isNameChar (c : Char) : Bool := isWord c || c == '.' || c == ':'

/-- The length of the words, signs and quoted texts behind a tag's name up to the bracket that ends the tag, and whether a
slash stands before it. A word has blanks in front of it, and a quoted text none except behind a sign. -/
def bodySize? (gap sign : Bool) : List Char → Option (Nat × Bool)
  | [] => none
  | c :: cs =>
    let further (n : Nat) (found : Option (Nat × Bool)) := found.map fun (m, closed) => (m + n, closed)
    if isBlank c then further 1 (bodySize? true sign cs)
    else if c = '=' ∨ c = ',' then further 1 (bodySize? false true cs)
    else if (c = '"' ∨ c = '\'') ∧ (sign ∨ !gap) then
      match find? [c] cs with
      | none => none
      | some i => further (i + 2) (bodySize? false false (cs.drop (i + 1)))
    else if isWord c ∧ gap then
      let more := (cs.takeWhile isWord).length
      further (more + 1) (bodySize? false false (cs.drop more))
    else if c = '>' then some (1, false)
    else if c = '/' ∧ cs.head? = some '>' then some (2, true)
    else none
termination_by cs => cs.length
decreasing_by all_goals simp only [List.length_cons, List.length_drop]; omega

def attribute? (cs : List Char) : Option ((String × String) × Nat) :=
  let rest := trimStart cs
  let word := rest.takeWhile isWord
  match trimStart (rest.drop word.length) with
  | '=' :: after =>
    match trimStart after with
    | q :: body =>
      if word ≠ [] ∧ (q = '"' ∨ q = '\'') then
        (find? [q] body).map fun i =>
          ((String.ofList word, String.ofList (dropReturns (body.take i))), cs.length - (body.length - i - 1))
      else none
    | [] => none
  | _ => none

def put (attributes : List (String × String)) (key value : String) : List (String × String) :=
  if attributes.any (·.1 == key) then attributes.map fun a => if a.1 == key then (key, value) else a
  else attributes ++ [(key, value)]

def attributesIn (found : List (String × String)) (cs : List Char) : List (String × String) :=
  match cs with
  | [] => found
  | _ :: rest =>
    match attribute? cs with
    | some ((key, value), n) => attributesIn (put found key value) (rest.drop (n - 1))
    | none => attributesIn found rest
termination_by cs.length
decreasing_by all_goals simp only [List.length_cons, List.length_drop]; omega

def read? : List Char → Option (Tag × Nat)
  | '<' :: '%' :: cs =>
    let name := cs.takeWhile isNameChar
    let rest := cs.drop name.length
    if name = [] then none
    else (bodySize? false false rest).map fun (n, closed) =>
      ({ name := String.ofList name, attributes := attributesIn [] (rest.take n), closed }, 2 + name.length + n)
  | _ => none

def closingName? : List Char → Option (List Char × Nat)
  | [] => none
  | c :: cs =>
    match cs.dropWhile isIndent with
    | '>' :: after => if isIndent c then none else some ([c], cs.length - after.length + 1)
    | _ => if isIndent c then none else (closingName? cs).map fun (name, n) => (c :: name, n + 1)

def closing? : List Char → Option (String × Nat)
  | '<' :: '/' :: '%' :: cs =>
    let rest := cs.dropWhile isIndent
    (closingName? rest).map fun (name, n) => (String.ofList name, 3 + (cs.length - rest.length) + n)
  | _ => none

def get? (t : Tag) (key : String) : Option String := (t.attributes.find? (·.1 == key)).map (·.2)

def has (t : Tag) (key : String) : Bool := t.attributes.any (·.1 == key)

structure Rules where
  dynamic : String → Bool
  static : String → Bool
  required : List String

def isCacheOption (key : String) : Bool := startsWith "cache_".toList key.toList

def within (key whole : String) : Bool := Text.contains key.toList whole.toList

def rules? : String → Option Rules
  | "include" => some ⟨["file", "import", "args"].contains, fun _ => false, ["file"]⟩
  | "namespace" => some ⟨["file"].contains, ["name", "inheritable", "import", "module"].contains, []⟩
  | "text" => some ⟨fun _ => false, (within · "filter"), []⟩
  | "def" =>
    some ⟨fun key => ["buffered", "cached"].contains key || isCacheOption key, ["name", "filter", "decorator"].contains, ["name"]⟩
  | "block" =>
    some ⟨fun key => ["buffered", "cached", "args"].contains key || isCacheOption key,
      ["name", "filter", "decorator"].contains, []⟩
  | "call" => some ⟨(within · "args"), ["expr"].contains, ["expr"]⟩
  | "inherit" => some ⟨["file"].contains, fun _ => false, ["file"]⟩
  | "page" =>
    some ⟨fun key => ["cached", "args", "expression_filter", "enable_loop"].contains key || isCacheOption key,
      fun _ => false, []⟩
  | _ => none

def hasExpression : List Char → Bool
  | [] => false
  | '$' :: '\x7b' :: c :: cs => (c != '\n' && (cs.takeWhile (· ≠ '\n')).contains '\x7d') || hasExpression (c :: cs)
  | _ :: cs => hasExpression cs

def isPlainName (cs : List Char) : Bool :=
  let word := cs.takeWhile isWord
  word ≠ [] && (cs.length == word.length || cs.drop word.length == ['\n'])

def attributeFault? (t : Tag) (rules : Rules) : Option Cause :=
  t.attributes.findSome? fun (key, value) =>
    if rules.dynamic key then none
    else if !rules.static key then some (.unknownAttribute t.name key)
    else if hasExpression value.toList then some (.embeddedExpression t.name key)
    else none

def jointFault? (t : Tag) : Option Cause :=
  let name := (t.get? "name").getD ""
  match t.name with
  | "namespace" =>
    if !t.has "name" && !t.has "import" then some .namespaceUnnamed
    else if t.has "file" && t.has "module" then some .namespaceTwoSources
    else none
  | "def" => if isPlainName name.toList then some .definitionWithoutParentheses else none
  | "block" =>
    if name ≠ "" ∧ ¬isPlainName name.toList then some .blockSignature
    else if name = "" ∧ (t.get? "args").getD "" ≠ "" then some .anonymousArguments
    else none
  | _ => none

def fault? (t : Tag) : Option Cause :=
  -- A name with a colon calls a definition of another template, which takes any attributes.
  if t.name.toList.contains ':' then none
  else match rules? t.name with
    | none => some (.unknownTag t.name)
    | some rules =>
      let missing := rules.required.filter fun key => !t.has key
      ((attributeFault? t rules).or (if missing = [] then none else some (.missingAttributes missing))).or (jointFault? t)

def statements (t : Tag) : List (List Char) :=
  let value (key : String) : List Char := ((t.get? key).getD "").toList
  let function (signature : List Char) : List Char := "def ".toList ++ signature ++ ":pass".toList
  let parameters := function ("_(".toList ++ value "args" ++ [')'])
  match t.name with
  | "def" => [function (value "name")]
  | "call" => [value "expr", parameters]
  | "block" => [parameters]
  | "page" => [parameters]
  | "include" => ["_(".toList ++ value "args" ++ [')']]
  | _ => []

end Tag

end TemplateLint.Lexer
