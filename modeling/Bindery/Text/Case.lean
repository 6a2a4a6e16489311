import Bindery.Text.Table.CaseMapping

/-!
# Case of characters

The full case mappings of single characters, `upper` and `lower`.  A character may map to several:
the sharp s becomes two letters in upper case.  So a capitalized text may be longer than the text,
and to capitalize and decapitalize it need not give it back.
-/

namespace Bindery.Text

/-- The counterpart of a character under shifted ranges, itself where none contains it. -/
def shifted (shifts : List CaseShift) (c : Char) : Char :=
  match shifts.find? (·.range.contains c.toNat) with
  | some entry => Char.ofNat (c.toNat + entry.shift).toNat
  | none => c

/-- The characters a character becomes, an expansion winning over a shift. -/
def mapped (expansions : List (Nat × List Nat)) (shifts : List CaseShift) (c : Char) : List Char :=
  match expansions.lookup c.toNat with
  | some codes => codes.map Char.ofNat
  | none => [shifted shifts c]

/-- The full uppercase mapping of a character. -/
def upper (c : Char) : List Char :=
  if c.toNat < 0x80 then [c.toUpper] else mapped upperExpansions upperShifts c

/-- The full lowercase mapping of a character. -/
def lower (c : Char) : List Char :=
  if c.toNat < 0x80 then [c.toLower] else mapped lowerExpansions lowerShifts c

/-- The text with its first character in upper case. -/
def capitalize : List Char → List Char
  | [] => []
  | c :: rest => upper c ++ rest

/-- The text with its first character in lower case. -/
def decapitalize : List Char → List Char
  | [] => []
  | c :: rest => lower c ++ rest

end Bindery.Text
