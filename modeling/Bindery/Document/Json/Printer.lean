import Bindery.Document.Basic
import Bindery.Text.Digits

/-!
# Writing JSON

A document is written on one line (`compact`), or with one member or item to a line and two blanks
for each level (`pretty`).  Texts are `quoted`; only the quotation mark, the backslash and control
characters are escaped in them.
-/

namespace Bindery.Json

open Text

/-- A character as it stands inside quotation marks: marks, backslashes and control characters are
escaped and all else stands for itself. -/
def escape (c : Char) : List Char :=
  match c with
  | '"' => ['\\', '"']
  | '\\' => ['\\', '\\']
  | '\x08' => ['\\', 'b']
  | '\x0c' => ['\\', 'f']
  | '\n' => ['\\', 'n']
  | '\r' => ['\\', 'r']
  | '\t' => ['\\', 't']
  | c =>
    if c.toNat < 0x20 then
      ['\\', 'u', '0', '0', lowerHexDigit (c.toNat / 16), lowerHexDigit (c.toNat % 16)]
    else [c]

/-- A text in quotation marks. -/
def quoted (text : String) : List Char := ['"'] ++ text.toList.flatMap escape ++ ['"']

/-- A document that is no container; a part without a value is written as the empty value. -/
def scalar : Document → List Char
  | .bool b => (toString b).toList
  | .int i => (toString i).toList
  | .real shown => shown.toList
  | .str s => quoted s
  | _ => "null".toList

/-! ### On one line -/

mutual

/-- A document on one line, without blanks. -/
def compact : Document → List Char
  | .list items => ['['] ++ compactItems items ++ [']']
  | .record members => ['\x7b'] ++ compactMembers members ++ ['\x7d']
  | other => scalar other

/-- Items with commas between them. -/
def compactItems : List Document → List Char
  | [] => []
  | [item] => compact item
  | item :: items => compact item ++ [','] ++ compactItems items

/-- Members with commas between them. -/
def compactMembers : List (String × Document) → List Char
  | [] => []
  | [(key, value)] => quoted key ++ [':'] ++ compact value
  | (key, value) :: members => quoted key ++ [':'] ++ compact value ++ [','] ++ compactMembers members

end

/-! ### On many lines -/

/-- A new line at a level. -/
def newline (level : Nat) : List Char := '\n' :: List.replicate (2 * level) ' '

mutual

/-- A document at a level, with one member or item to a line.  Empty containers stay on one line. -/
def pretty (level : Nat) : Document → List Char
  | .list [] => ['[', ']']
  | .list items => ['['] ++ prettyItems (level + 1) items ++ newline level ++ [']']
  | .record [] => ['\x7b', '\x7d']
  | .record members => ['\x7b'] ++ prettyMembers (level + 1) members ++ newline level ++ ['\x7d']
  | other => scalar other

/-- Items on lines of their own. -/
def prettyItems (level : Nat) : List Document → List Char
  | [] => []
  | [item] => newline level ++ pretty level item
  | item :: items => newline level ++ pretty level item ++ [','] ++ prettyItems level items

/-- Members on lines of their own. -/
def prettyMembers (level : Nat) : List (String × Document) → List Char
  | [] => []
  | [(key, value)] => newline level ++ quoted key ++ [':', ' '] ++ pretty level value
  | (key, value) :: members =>
    newline level ++ quoted key ++ [':', ' '] ++ pretty level value ++ [','] ++
      prettyMembers level members

end

/-- The text of a document with one member or item to a line. -/
def prettyText (document : Document) : String := String.ofList (pretty 0 document)

/-- The text of a document on one line. -/
def compactText (document : Document) : String := String.ofList (compact document)

end Bindery.Json
