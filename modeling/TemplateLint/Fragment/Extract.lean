import TemplateLint.Fragment.Line
import TemplateLint.Template.Basic

/-!
The Python of a template as one fragment. Control lines become the headers and ends of blocks, code and expressions are
copied line by line, and a definition becomes a function around what it holds.
-/

namespace TemplateLint.Fragment

open Text

/-- The lines so far, the depth of the next one, and for each open block, innermost first, whether it has a statement. -/
structure Builder where
  lines : List Line
  depth : Nat
  bodies : List Bool
  deriving DecidableEq, Repr

namespace Builder

def empty : Builder := ⟨[], 0, []⟩

def push (b : Builder) (code : List Char) (statement : Bool) (anchor : Option Location) : Builder :=
  { b with
    lines := b.lines ++ [⟨b.depth, String.ofList code, statement, anchor⟩]
    bodies := match b.bodies with
      | body :: bodies => (body || statement) :: bodies
      | [] => [] }

def emit (source : List String) (b : Builder) (code : List Char) (statement : Bool) (piece : Piece) : Builder :=
  b.push code statement (some (piece.anchor source (indented b.depth code)))

def openBlock (b : Builder) : Builder := { b with depth := b.depth + 1, bodies := false :: b.bodies }

def closeBlock (b : Builder) : Builder :=
  match b.bodies with
  | [] => b
  | body :: bodies =>
    let filled := if body then b else b.push "pass".toList true none
    { filled with depth := b.depth - 1, bodies }

def finish (b : Builder) : Builder := b.bodies.foldl (fun b _ => b.closeBlock) b

end Builder

def opensBlock : List Char → Bool
  | [] => false
  | c :: cs =>
    (c == ':' && match cs.dropWhile isIndent with
      | [] => true
      | d :: rest => d == '#' && !rest.contains '\n') || opensBlock cs

def continues (keyword : String) : Bool :=
  keyword == "elif" || keyword == "else" || keyword == "except" || keyword == "finally"

namespace Builder

variable (source : List String)

def control (b : Builder) (text keyword : String) (closes : Bool) (line : Int) : Builder :=
  if closes then b.closeBlock
  else
    let code := trim text.toList
    let piece : Piece := ⟨line, code, 0⟩
    if continues keyword && !b.bodies.isEmpty then (b.closeBlock.emit source code true piece).openBlock
    else if opensBlock code then (b.emit source code true piece).openBlock
    else b.emit source code true piece

def copyLine (keepIndent : Bool) (b : Builder) (raw : List Char) (line start : Int) : Builder :=
  let text := trim raw
  if text = [] then b
  else b.emit source (if keepIndent then trimEnd raw else text) (text.head? ≠ some '#') ⟨line, text, start⟩

def copy (keepIndent : Bool) (b : Builder) (text : String) (place : Place) : Builder :=
  (splitOn '\n' text.toList).zipIdx.foldl
    -- Only the first line is looked for from the column at which the construct begins.
    (fun b (raw, i) => copyLine source keepIndent b raw (place.line + i) (if i = 0 then place.column - 1 else 0)) b

def header (b : Builder) (name : Option String) (place : Place) : Builder :=
  let name := trim (name.getD "").toList
  (b.emit source ("def ".toList ++ name ++ [':']) true ⟨place.line, name, place.column - 1⟩).openBlock

mutual

def visit (b : Builder) : Node → Builder
  | .control text keyword closes place _ => b.control source text keyword closes place.line
  | .code text place => b.copy source true text place
  | .expression text place => b.copy source false text place
  | .define name place body => (visitAll (b.header source name place) body).closeBlock
  | .tag body => visitAll b body
  | .inert _ => b

def visitAll (b : Builder) : List Node → Builder
  | [] => b
  | node :: nodes => visitAll (visit b node) nodes

end

end Builder

def lines (source : List String) (nodes : List Node) : List Line := (Builder.empty.visitAll source nodes).finish.lines

end TemplateLint.Fragment

namespace TemplateLint

def Extracted.ofNodes (source : List String) (nodes : List Node) : Extracted :=
  .ofLines (Fragment.lines source nodes)

end TemplateLint
