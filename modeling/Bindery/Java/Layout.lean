/-!
# Lines of limited width

A text with spaces that may become ends of lines, which are the `Glyph`s.  A space stays where the
text up to the next place for a break still fits the line.  Otherwise it becomes the end of the
line, and the next line is indented.

`fill` decides this in one pass from left to right.  It cannot look ahead, so behind a space it
holds text back as `Pending` until the text is too long or has come to the next place for a break.
The column counts the text that is held back as if its space were kept.
-/

namespace Bindery.Java

/-- A character, or a space that may become the end of a line. -/
inductive Glyph where
  | char (c : Char)
  /-- A space; the line behind it would be indented by some levels. -/
  | space (level : Nat)
  deriving DecidableEq, Repr

/-- The greatest width of a line. -/
def columnLimit : Nat := 100

/-- One level of indentation. -/
def indentUnit : List Char := [' ', ' ']

/-- Several levels of indentation, each by the same unit. -/
def indentBy (unit : List Char) (levels : Nat) : List Char := (List.replicate levels unit).flatten

/-- Several levels of indentation. -/
def indentation (levels : Nat) : List Char := indentBy indentUnit levels

/-- The text held back behind a space that is not decided yet. -/
structure Pending where
  level : Nat
  held : List Char := []
  deriving DecidableEq, Repr

namespace Pending

/-- The held text with the space kept. -/
def kept (p : Pending) : List Char := ' ' :: p.held

/-- The held text on a line of its own. -/
def wrapped (unit : List Char) (p : Pending) : List Char := '\n' :: (indentBy unit p.level ++ p.held)

/-- The column behind the held text on a line of its own. -/
def wrappedColumn (unit : List Char) (p : Pending) : Nat :=
  (indentBy unit p.level).length + p.held.length

end Pending

/-- The characters of the lines, whose further ones are indented by a unit.  `column` counts the
characters of the current line, an undecided space and the text behind it included. -/
def fill (unit : List Char) (limit column : Nat) : Option Pending → List Glyph → List Char
  | none, [] => []
  | some p, [] => p.kept
  | none, .char c :: rest => c :: fill unit limit (if c = '\n' then 0 else column + 1) none rest
  | none, .space level :: rest => fill unit limit (column + 1) (some ⟨level, []⟩) rest
  | some p, .space level :: rest => p.kept ++ fill unit limit (column + 1) (some ⟨level, []⟩) rest
  | some p, .char c :: rest =>
    if c = '\n' then
      (if column ≤ limit then p.kept else p.wrapped unit) ++ '\n' :: fill unit limit 0 none rest
    else if column + 1 ≤ limit then
      fill unit limit (column + 1) (some ⟨p.level, p.held ++ [c]⟩) rest
    else p.wrapped unit ++ c :: fill unit limit (p.wrappedColumn unit + 1) none rest

end Bindery.Java
