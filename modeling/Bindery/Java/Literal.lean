/-!
# String literals

A text as it is written in Java source, between quotation marks.  `escape` is what becomes of one
character, and a `literal` is nothing but its characters one by one.
-/

namespace Bindery.Java

/-- A character as it stands inside a string literal: marks, backslashes and the controls that would end
the line or move on it are escaped. -/
def escape (c : Char) : List Char :=
  match c with
  | '"' => ['\\', '"']
  | '\\' => ['\\', '\\']
  | '\n' => ['\\', 'n']
  | '\r' => ['\\', 'r']
  | '\t' => ['\\', 't']
  | c => [c]

/-- The characters of a string literal. -/
def literalChars (text : List Char) : List Char := ['"'] ++ text.flatMap escape ++ ['"']

/-- A text as a string literal. -/
def literal (text : String) : String := String.ofList (literalChars text.toList)

end Bindery.Java
