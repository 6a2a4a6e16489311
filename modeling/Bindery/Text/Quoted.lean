import Bindery.Text.Category

/-!
# Quoted text

Messages show a text between quotation marks, with escapes for what would not be seen.  A character
that joins the one in front of it cannot be seen by itself, so it counts among these.
-/

namespace Bindery.Text

/-- A character by its number, such as `\u\x7b301\x7d` with braces around the digits. -/
def numbered (c : Char) : List Char :=
  ['\\', 'u', '\x7b'] ++ Nat.toDigits 16 c.toNat ++ ['\x7d']

/-- A character as it stands inside quotation marks: marks, backslashes and the common controls have
escapes of their own, and whatever cannot be seen alone is written by its number. -/
def quoteChar (c : Char) : List Char :=
  match c with
  | '\x00' => ['\\', '0']
  | '\t' => ['\\', 't']
  | '\r' => ['\\', 'r']
  | '\n' => ['\\', 'n']
  | '\\' => ['\\', '\\']
  | '"' => ['\\', '"']
  | c => if isShownAlone c then [c] else numbered c

/-- A text in quotation marks. -/
def quote (text : String) : String :=
  String.ofList (['"'] ++ text.toList.flatMap quoteChar ++ ['"'])

end Bindery.Text
