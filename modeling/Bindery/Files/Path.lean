import Bindery.Text.Split

/-!
# Paths

A `Path` is the text of a file's place, with strokes between its pieces.  The text and the places on
the way are two different things.  Several strokes in a row and pieces that consist of a dot lead
nowhere, but they stay in the text, which is shown to users and compared as it is.  `Path.pieces` is
what is followed, and even there a dot at the end of a way asks for a directory.  A path that begins
with a stroke does not depend on where one stands.

`Path.push`, `Path.parent?` and `Path.ancestors` work on the text, as the files of a run are named
by pushing pieces onto a root.
-/

namespace Bindery

open Text

/-- The text of a file's place. -/
structure Path where
  text : String
  deriving DecidableEq, Repr

namespace Path

/-- The place where one stands. -/
def here : Path := ⟨""⟩

/-- Whether the path does not depend on where one stands. -/
def isAbsolute (p : Path) : Bool := p.text.toList.head? == some '/'

/-- Whether the path ends in a stroke. -/
def endsInStroke (p : Path) : Bool := p.text.toList.getLast? == some '/'

/-- Whether the path contains the character that ends paths. -/
def hasStrayEnd (p : Path) : Bool := p.text.toList.contains '\x00'

/-- The path with a further piece.  A piece that is absolute itself takes its place. -/
def push (p : Path) (piece : String) : Path :=
  if (Path.mk piece).isAbsolute then ⟨piece⟩
  else if p.text.isEmpty || p.endsInStroke then ⟨p.text ++ piece⟩
  else ⟨p.text ++ "/" ++ piece⟩

/-- Whether a piece leads nowhere. -/
def isIdle (piece : List Char) : Bool := piece.isEmpty || piece == ['.']

/-- The pieces without the idle ones at the end. -/
def dropIdle (pieces : List (List Char)) : List (List Char) := (pieces.reverse.dropWhile isIdle).reverse

/-- The path with a first piece and further ones; it is absolute when the first piece is empty. -/
def ofPieces (first : List Char) (rest : List (List Char)) : Path :=
  if first.isEmpty then ⟨String.ofList ('/' :: joinWith ['/'] rest)⟩
  else ⟨String.ofList (joinWith ['/'] (first :: rest))⟩

theorem length_dropIdle_le (pieces : List (List Char)) : (dropIdle pieces).length ≤ pieces.length := by
  simp only [dropIdle, List.length_reverse]
  have := (pieces.reverse.dropWhile_sublist isIdle).length_le
  simpa using this

/-- The paths of the directories around a path in pieces, innermost first. -/
def enclosing (first : List Char) (rest : List (List Char)) : List Path :=
  match _h : dropIdle rest with
  | [] => if first.isEmpty then [] else [here]
  | last :: others =>
    let around := dropIdle (last :: others).dropLast
    ofPieces first around :: enclosing first around
termination_by rest.length
decreasing_by
  have h₁ := length_dropIdle_le (last :: others).dropLast
  have h₂ := length_dropIdle_le rest
  simp only [_h, List.length_dropLast, List.length_cons] at *
  omega

/-- The paths of the directories around a path, innermost first.  The root and the empty path have
none. -/
def ancestors (p : Path) : List Path :=
  match splitOn '/' p.text.toList with
  | [] => []
  | first :: rest => enclosing first rest

/-- The path of the directory around a path. -/
def parent? (p : Path) : Option Path := p.ancestors.head?

/-- The names that are followed one after the other. -/
def pieces (p : Path) : List String :=
  ((splitOn '/' p.text.toList).filter fun piece => !piece.isEmpty).map String.ofList

/-- What is left of the pieces of a path behind those of a directory, if the path leads through it. -/
def piecesBehind? : List (List Char) → List (List Char) → Option (List (List Char))
  | [], pieces => some pieces
  | _ :: _, [] => none
  | first :: rest, piece :: pieces =>
    if isIdle piece then piecesBehind? (first :: rest) pieces
    else if first = piece then piecesBehind? rest pieces
    else none

/-- A path as seen from a directory on its way. -/
def below? (directory p : Path) : Option Path :=
  if directory.isAbsolute = p.isAbsolute then
    let around := (splitOn '/' directory.text.toList).filter fun piece => !isIdle piece
    (piecesBehind? around (splitOn '/' p.text.toList)).map fun rest =>
      ⟨String.ofList (joinWith ['/'] (dropIdle (rest.dropWhile isIdle)))⟩
  else none

end Path

end Bindery
