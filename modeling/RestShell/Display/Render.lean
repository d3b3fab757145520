import RestShell.Display.Palette
import RestShell.Json.Writer

/-! Rendering JSON for reading. A value becomes a row of pieces, layout and tokens; the
plain text writes the pieces down, the coloured one wraps every token in its colour and
a reset. The raw form sorts the keys of every mapping first. -/

namespace RestShell

open Json

inductive Piece where
  | layout (cs : List Char)
  | token (mark : Mark) (cs : List Char)
deriving DecidableEq, Repr

namespace Piece

def plain : Piece → List Char
  | .layout cs => cs
  | .token _ cs => cs

def colored (p : Palette) : Piece → List Char
  | .layout cs => cs
  | .token mark cs => (p mark).toList ++ cs ++ Ansi.reset.toList

end Piece

namespace Render

/-- A new line with an indentation of four blanks a level. -/
def newline (depth : Nat) : Piece := .layout ('\n' :: List.replicate (4 * depth) ' ')

def punctuation (c : Char) : Piece := .token .punctuation [c]

mutual
/-- The pieces of a value whose first line stands at `depth`. Empty mappings and lists
stay on one line. -/
def pieces (depth : Nat) : Value → List Piece
  | .object [] => [.token .punctuation ['{', '}']]
  | .array [] => [.token .punctuation ['[', ']']]
  | .object (e :: r) =>
    punctuation '{' :: fieldPieces (depth + 1) (e :: r) ++ [newline depth, punctuation '}']
  | .array (v :: r) =>
    punctuation '[' :: itemPieces (depth + 1) (v :: r) ++ [newline depth, punctuation ']']
  | .string s => [.token .string (quote s.toList)]
  | .number n => [.token .number n.chars]
  | .bool b => [.token .literal (Value.bool b).chars]
  | .null => [.token .literal Value.null.chars]
def fieldPieces (depth : Nat) : List (String × Value) → List Piece
  | [] => []
  | [(k, v)] => newline depth :: fieldHead k ++ pieces depth v
  | (k, v) :: e :: r =>
    newline depth :: fieldHead k ++ pieces depth v ++ punctuation ',' :: fieldPieces depth (e :: r)
def itemPieces (depth : Nat) : List Value → List Piece
  | [] => []
  | [v] => newline depth :: pieces depth v
  | v :: w :: r => newline depth :: pieces depth v ++ punctuation ',' :: itemPieces depth (w :: r)
/-- A key, the colon and a blank. -/
def fieldHead (k : String) : List Piece :=
  [.token .key (quote k.toList), punctuation ':', .layout [' ']]
end

/-- The field at its place in a list sorted by key. -/
def insertField (e : String × Value) : List (String × Value) → List (String × Value)
  | [] => [e]
  | f :: r => if f.1 < e.1 then f :: insertField e r else e :: f :: r

def sortFields (fields : List (String × Value)) : List (String × Value) :=
  fields.foldr insertField []

mutual
/-- The value with the keys of every mapping in ascending order. -/
def sorted : Value → Value
  | .object fields => .object (sortFields (sortedFields fields))
  | .array items => .array (sortedItems items)
  | .null => .null
  | .bool b => .bool b
  | .number n => .number n
  | .string s => .string s
def sortedFields : List (String × Value) → List (String × Value)
  | [] => []
  | (k, v) :: r => (k, sorted v) :: sortedFields r
def sortedItems : List Value → List Value
  | [] => []
  | v :: r => sorted v :: sortedItems r
end

def plainChars (v : Value) : List Char := (pieces 0 v).flatMap Piece.plain

def coloredChars (p : Palette) (v : Value) : List Char := (pieces 0 v).flatMap (Piece.colored p)

end Render

/-- How a command wants its output. -/
structure Style where
  formatted : Bool := true
  color : Bool := false
  invert : Bool := false
deriving DecidableEq, Repr

/-- The text of a value in a style; the raw form has no colours. -/
def render (s : Style) (v : Value) : String :=
  .ofList <|
    if !s.formatted then Render.plainChars (Render.sorted v)
    else if s.color then Render.coloredChars (if s.invert then .light else .dark) v
    else Render.plainChars v

end RestShell
