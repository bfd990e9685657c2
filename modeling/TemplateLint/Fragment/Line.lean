import TemplateLint.SourceMap
import TemplateLint.Text.Character
import TemplateLint.Text.Lines

namespace TemplateLint

namespace Fragment

open Text

structure Line where
  depth : Nat
  code : String
  -- Only a statement makes a body for the block that it stands in.
  statement : Bool
  -- Moved right by a column of the line, this is the place of the character there.
  anchor : Option Location
  deriving DecidableEq, Repr

def indented (depth : Nat) (code : List Char) : List Char := List.replicate (4 * depth) ' ' ++ code

def Line.chars (l : Line) : List Char := indented l.depth l.code.toList

def offset (text chars : List Char) : Nat :=
  if text = [] then leading chars else (find? text chars).getD (leading chars)

def offsetFrom (text : List Char) (start : Nat) (chars : List Char) : Nat :=
  if text = [] then leading chars else (findFrom? text start chars).getD (offset text chars)

def templateColumn (source : List String) (line : Int) (text : List Char) (start : Int) : Int :=
  match lineAt? source line with
  | none => 1
  | some raw => offsetFrom text start.toNat raw.toList + 1

/-- The piece of the template that a line stands for: its line, its text, and the column from which to look for it. -/
structure Piece where
  line : Int
  text : List Char
  start : Int

def Piece.anchor (source : List String) (chars : List Char) (p : Piece) : Location :=
  { line := p.line, column := templateColumn source p.line p.text p.start - offset p.text chars }

end Fragment

structure Extracted where
  text : String
  map : SourceMap
  deriving DecidableEq, Repr

def Extracted.ofLines (lines : List Fragment.Line) : Extracted where
  text := String.ofList (Text.join ['\n'] (lines.map Fragment.Line.chars))
  map := ⟨lines.zipIdx.filterMap fun (line, i) => line.anchor.map fun place => ((i + 1 : Int), place)⟩

end TemplateLint
