import TemplateLint.Lexer.Construct
import TemplateLint.Template.Basic

namespace TemplateLint.Lexer

open Text

/-- What keeps a piece of Python from being compiled, and on which of its lines, counted from zero. -/
abbrev Compiler := List Char → Option (String × Nat)

structure OpenTag where
  name : String
  defines : Option String
  place : Place
  nodes : List Node

def OpenTag.node (t : OpenTag) : Node :=
  if t.name = "def" then .define t.defines t.place t.nodes.reverse else .tag t.nodes.reverse

structure Tree where
  tags : List OpenTag
  controls : List (String × Place)
  nodes : List Node

namespace Tree

variable (compiler : Compiler)

def empty : Tree := ⟨[], [], []⟩

def add (s : Tree) (node : Node) : Tree :=
  match s.tags with
  | [] => { s with nodes := node :: s.nodes }
  | t :: tags => { s with tags := { t with nodes := node :: t.nodes } :: tags }

def checkPython (place : Place) (text : List Char) : Except Fault Unit :=
  match compiler text with
  | some (message, lines) => .error ⟨.python message, { place with line := place.line + lines }⟩
  | none => .ok ()

def completed (header : List Char) : List Char := header ++ "pass".toList

def addControl (s : Tree) (place : Place) (text : List Char) : Except Fault Tree := do
  let words := String.ofList text
  match keyword? text with
  | none => .error ⟨.noKeyword words, place⟩
  | some (true, keyword) =>
    match s.controls with
    | [] => .error ⟨.nothingToEnd keyword words, place⟩
    | (opened, _) :: controls =>
      if opened = keyword then .ok { s.add (.control words keyword true place []) with controls }
      else .error ⟨.endsAnother words opened, place⟩
  | some (false, keyword) =>
    match Template.header? text with
    | none => .error ⟨.notPartial words, place⟩
    | some (word, code) =>
      if !headers.contains word then .error ⟨.unsupported word, place⟩
      else
        checkPython compiler place (completed code)
        let added := s.add (.control words keyword false place [])
        if opens keyword then .ok { added with controls := (keyword, place) :: s.controls }
        else match s.controls with
          | (opened, _) :: _ => if continuesBlock opened keyword then .ok added else .error ⟨.noContinuation keyword opened, place⟩
          | [] => .ok added

def checkTag (place : Place) (t : Tag) : Except Fault Unit :=
  match t.fault? with
  | some cause => .error ⟨cause, place⟩
  | none => t.statements.forM (checkPython compiler place)

def openTag (s : Tree) (place : Place) (t : Tag) : Tree :=
  { s with tags := { name := t.name, defines := t.get? "name", place, nodes := [] } :: s.tags }

def addTag (s : Tree) (place : Place) (t : Tag) : Except Fault Tree := do
  checkTag compiler place t
  if t.closed then .ok (s.add { name := t.name, defines := t.get? "name", place, nodes := [] : OpenTag }.node)
  else .ok (s.openTag place t)

def addRawText (s : Tree) (place : Place) (t : Tag) (content : RawText) : Except Fault Tree := do
  checkTag compiler place t
  match content with
  | .unended => .error ⟨.unclosedTag t.name, place⟩
  | .empty => .ok (s.openTag place t)
  | .complete => .ok (s.add (.tag [.inert []]))

def close (s : Tree) (place : Place) (name : String) : Except Fault Tree :=
  match s.tags with
  | [] => .error ⟨.nothingToClose name, place⟩
  | t :: tags =>
    if t.name = name then .ok ({ s with tags }.add t.node) else .error ⟨.closesAnother name t.name, place⟩

def addConstruct (s : Tree) (c : Cursor) : Construct → Except Fault Tree
  | .expression text filters => do
    checkPython compiler c.place text
    checkPython compiler c.place (if filters = [] then [] else filters ++ [','])
    return s.add (.expression (String.ofList text) c.place)
  | .code text => do
    checkPython compiler c.place text
    return s.add (.code (String.ofList text) c.place)
  | .undelimited d start => .error ⟨.undelimited d.patterns, (Cursor.skip start c).place⟩
  | .control text => s.addControl compiler c.place text
  | .tag t => s.addTag compiler c.place t
  | .rawText t content => s.addRawText compiler c.place t content
  | .closing name => s.close c.place name
  | .comment => .ok (s.add (.inert []))
  | .text => .ok (s.add (.inert []))

def finish (s : Tree) (c : Cursor) : Except Fault (List Node) :=
  match s.tags, s.controls with
  | t :: _, _ => .error ⟨.unclosedTag t.name, c.place⟩
  | [], (keyword, place) :: _ => .error ⟨.unendedControl keyword, place⟩
  | [], [] => .ok s.nodes.reverse

end Tree

end TemplateLint.Lexer
