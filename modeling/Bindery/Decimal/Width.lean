/-!
# Widths of numbers

How many values a number can have that is kept in a given number of bits.  Readers of numbers
compare with `capacity` where they have to know whether a number fits.
-/

namespace Bindery.Decimal

/-- How many values some bits can have: the first natural number they have no room for. -/
def capacity (bits : Nat) : Nat := Nat.pow 2 bits

end Bindery.Decimal
