import Bindery.Text.Category

/-!
# Identifiers

The words that name packages, classes, functions and parameters.  The dollar sign is one of the
characters of identifiers although class names use it for nesting.  A segment of a class name is
checked as a whole and split afterwards, so being an identifier says nothing about the names in it
behind the first.
-/

namespace Bindery.Text

/-- An identifier begins with a letter, an underscore or a dollar sign. -/
def isIdentifierStart (c : Char) : Bool := isAlphabetic c || c == '_' || c == '$'

/-- An identifier goes on with letters, numbers, underscores and dollar signs. -/
def isIdentifierPart (c : Char) : Bool := isAlphanumeric c || c == '_' || c == '$'

/-- A word that begins and goes on as an identifier does. -/
def isIdentifier : List Char → Bool
  | [] => false
  | c :: rest => isIdentifierStart c && rest.all isIdentifierPart

/-- What begins an identifier can also stand inside one. -/
theorem isIdentifierPart_of_start {c : Char} (h : isIdentifierStart c = true) :
    isIdentifierPart c = true := by
  simp only [isIdentifierStart, isIdentifierPart, isAlphanumeric, Bool.or_eq_true] at *
  grind

end Bindery.Text
