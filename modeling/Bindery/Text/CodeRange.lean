/-!
# Ranges of code points

Properties of characters are given as lists of ranges of code points.  Where upper and lower case
alternate, a range holds every second code point, so each `CodeRange` carries its stride.
-/

namespace Bindery.Text

/-- Every `stride`-th code point from `first` up to `last`. -/
structure CodeRange where
  first : Nat
  last : Nat
  stride : Nat
  deriving Repr, DecidableEq

/-- A code point is in a range when it lies between the ends, a multiple of the stride away from the
first. -/
def CodeRange.contains (range : CodeRange) (code : Nat) : Bool :=
  range.first ≤ code && code ≤ range.last && (code - range.first) % range.stride == 0

/-- A character is in a list of ranges when one of them contains its code point. -/
def inRanges (ranges : List CodeRange) (c : Char) : Bool :=
  ranges.any (·.contains c.toNat)

end Bindery.Text
