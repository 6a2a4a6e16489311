import Bindery.Text.Table.Alphabetic
import Bindery.Text.Table.GraphemeExtend
import Bindery.Text.Table.Lowercase
import Bindery.Text.Table.Numeric
import Bindery.Text.Table.Unprintable
import Bindery.Text.Table.Uppercase

/-!
# Categories of characters

The Unicode properties that names, types and quoted text depend on: `isAlphabetic` and `isNumeric`
for identifiers, `isLowercase` for telling packages from classes, `isBlank` for trimming and
`isShownAlone` for quoting.  ASCII is decided directly and the tables are consulted only beyond it.
Most texts are ASCII, and what is said about them can then be computed without going through a
table.
-/

namespace Bindery.Text

/-- A character beyond ASCII. -/
def isBeyondAscii (c : Char) : Bool := 0x80 ≤ c.toNat

/-- Letters, and whatever else has the property Alphabetic. -/
def isAlphabetic (c : Char) : Bool :=
  c.isAlpha || (isBeyondAscii c && inRanges alphabeticRanges c)

/-- Digits and numbers of every script. -/
def isNumeric (c : Char) : Bool :=
  c.isDigit || (isBeyondAscii c && inRanges numericRanges c)

/-- Alphabetic or numeric. -/
def isAlphanumeric (c : Char) : Bool := isAlphabetic c || isNumeric c

/-- Characters with the property Lowercase. -/
def isLowercase (c : Char) : Bool :=
  c.isLower || (isBeyondAscii c && inRanges lowercaseRanges c)

/-- Characters with the property Uppercase. -/
def isUppercase (c : Char) : Bool :=
  c.isUpper || (isBeyondAscii c && inRanges uppercaseRanges c)

/-- The code points with the property White_Space. -/
def blankRanges : List CodeRange :=
  [⟨0x09, 0x0D, 1⟩, ⟨0x20, 0x20, 1⟩, ⟨0x85, 0x85, 1⟩, ⟨0xA0, 0xA0, 1⟩, ⟨0x1680, 0x1680, 1⟩,
   ⟨0x2000, 0x200A, 1⟩, ⟨0x2028, 0x2029, 1⟩, ⟨0x202F, 0x202F, 1⟩, ⟨0x205F, 0x205F, 1⟩,
   ⟨0x3000, 0x3000, 1⟩]

/-- Characters with the property White_Space. -/
def isBlank (c : Char) : Bool := inRanges blankRanges c

/-- Characters with the property Grapheme_Extend. -/
def isGraphemeExtend (c : Char) : Bool :=
  isBeyondAscii c && inRanges graphemeExtendRanges c

/-- The halfwidth voicing marks: they extend a grapheme, yet are letters with a cell of their own. -/
def voicingMarkRanges : List CodeRange := [⟨0xFF9E, 0xFF9F, 1⟩]

/-- Characters that join the one before them and so cannot be shown alone. -/
def isCombining (c : Char) : Bool := isGraphemeExtend c && !inRanges voicingMarkRanges c

/-- The Hangul fillers: letters that are shown as nothing. -/
def fillerRanges : List CodeRange :=
  [⟨0x115F, 0x1160, 1⟩, ⟨0x3164, 0x3164, 1⟩, ⟨0xFFA0, 0xFFA0, 1⟩]

/-- Characters that leave a mark when they are shown. -/
def isPrintable (c : Char) : Bool :=
  if isBeyondAscii c then !inRanges unprintableRanges c && !inRanges fillerRanges c
  else 0x20 ≤ c.toNat && c.toNat ≤ 0x7E

/-- Characters that quoted text can show as they are. -/
def isShownAlone (c : Char) : Bool := isPrintable c && !isCombining c

end Bindery.Text
