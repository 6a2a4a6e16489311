import Bindery.Decimal.Width

/-!
# Shortest decimals

A binary floating-point number is shown by the shortest decimal that reads back as it, and among
those by the nearest.  `Binary.shortest` finds it by going through grids of decimals with more and
more digits until one of them has a point within the gap that the number fills.  All of this is
exact arithmetic on natural numbers: a `Binary` is a mantissa with a power of two and the gap to its
lower neighbour, a `Scaled` number is digits with a power of ten, and comparing them needs no
rounding.

Two decimals may be equally near; `Tie` says which is taken.  Whether the result is written with a
point or with an exponent is a matter of `DecimalForm.render`, and `showFloat` puts the two
together.
-/

namespace Bindery.Decimal

/-- A positive binary number `mantissa * 2 ^ exponent`. -/
structure Binary where
  mantissa : Nat
  exponent : Int
  /-- The lower neighbour is only half as far away as the upper one. -/
  narrowBelow : Bool
  deriving DecidableEq, Repr

/-- A decimal number `digits * 10 ^ exponent`. -/
structure Scaled where
  digits : Nat
  exponent : Int
  deriving DecidableEq, Repr

/-- The same number without zeros at the end of its digits. -/
def Scaled.normal (d : Scaled) : Scaled :=
  if h : d.digits ≠ 0 ∧ d.digits % 10 = 0 then Scaled.normal ⟨d.digits / 10, d.exponent + 1⟩ else d
termination_by d.digits
decreasing_by
  have := h.1
  omega

/-- Which of two neighbours on a grid is taken for a number halfway between them. -/
inductive Tie where
  /-- The one that is an even multiple of the grid's step. -/
  | toEven
  /-- The greater one. -/
  | up
  deriving DecidableEq, Repr

/-- Whether a number halfway between two neighbours goes to the upper one, `above` steps from zero. -/
def Tie.raises (tie : Tie) (above : Nat) : Bool :=
  match tie with
  | .toEven => above % 2 == 0
  | .up => true

/-- How many digits a natural number is written with, less one. -/
def digitExponent (n : Nat) : Nat := (Nat.toDigits 10 n).length - 1

namespace Binary

/-- The value in quarters of the gap above, `4 * mantissa`. -/
def quarters (b : Binary) : Nat := 4 * b.mantissa

/-- The least value in quarters that may still round to the number. -/
def low (b : Binary) : Nat := b.quarters - (if b.narrowBelow then 1 else 2)

/-- The greatest value in quarters that may still round to the number. -/
def high (b : Binary) : Nat := b.quarters + 2

/-- What brings a value in quarters to the scale on which it is compared with a grid of step
`10 ^ place`. -/
def scale (b : Binary) (place : Int) : Nat :=
  capacity (b.exponent - 2).toNat * Nat.pow 10 (-place).toNat

/-- What brings a multiple of the step `10 ^ place` to the same scale. -/
def step (b : Binary) (place : Int) : Nat :=
  Nat.pow 10 place.toNat * capacity (2 - b.exponent).toNat

/-- Whether `digits * 10 ^ place` rounds to the number; the ends of the interval do when the mantissa is
even. -/
def rounds (b : Binary) (place : Int) (digits : Nat) : Bool :=
  let value := digits * b.step place
  let least := b.low * b.scale place
  let most := b.high * b.scale place
  if b.mantissa % 2 = 0 then least ≤ value && value ≤ most else least < value && value < most

/-- The distance from the number to `digits * 10 ^ place`, on the scale of `place`. -/
def distance (b : Binary) (place : Int) (digits : Nat) : Nat :=
  let value := digits * b.step place
  let exact := b.quarters * b.scale place
  (value - exact) + (exact - value)

/-- The decimal exponent of the leading digit. -/
def leadingPlace (b : Binary) : Int :=
  let numerator := b.mantissa * capacity b.exponent.toNat
  let denominator := capacity (-b.exponent).toNat
  let guess : Int := digitExponent numerator - digitExponent denominator
  if numerator * Nat.pow 10 (-guess).toNat < denominator * Nat.pow 10 guess.toNat then guess - 1
  else guess

/-- The better of the two neighbours on a grid, if one of them rounds to the number. -/
def onGrid? (b : Binary) (tie : Tie) (place : Int) : Option Scaled :=
  let below := b.quarters * b.scale place / b.step place
  let above := below + 1
  match b.rounds place below, b.rounds place above with
  | true, true =>
    let upward := b.distance place above < b.distance place below ||
      (b.distance place above == b.distance place below && tie.raises above)
    some ⟨if upward then above else below, place⟩
  | true, false => some ⟨below, place⟩
  | false, true => some ⟨above, place⟩
  | false, false => none

/-- The shortest decimal that rounds to the number: seventeen digits always do. -/
def shortest (b : Binary) (tie : Tie) : Scaled :=
  let places := (List.range 17).map fun (extra : Nat) => b.leadingPlace - (extra : Int)
  ((places.findSome? (b.onGrid? tie)).getD ⟨b.mantissa, 0⟩).normal

end Binary

/-- The digits of a natural number. -/
def digitsOf (n : Nat) : List Char := Nat.toDigits 10 n

/-- How a format writes decimals. -/
structure DecimalForm where
  /-- Whether a point alone is enough; asked with the number of digits before the point. -/
  positional : Int → Bool
  /-- Whether an exponent that is not negative has a plus sign. -/
  plus : Bool
  tie : Tie

/-- An exponent with its sign. -/
def DecimalForm.exponent (form : DecimalForm) (e : Int) : List Char :=
  (if 0 ≤ e && form.plus then ['+'] else []) ++ (toString e).toList

/-- A decimal with a point and, where the form asks for it, an exponent.  A point always has a digit on
either side. -/
def DecimalForm.render (form : DecimalForm) (d : Scaled) : List Char :=
  let digits := digitsOf d.digits
  let point : Int := digits.length + d.exponent
  if form.positional point then
    if 0 ≤ d.exponent then digits ++ List.replicate d.exponent.toNat '0' ++ ['.', '0']
    else if 0 < point then digits.take point.toNat ++ ['.'] ++ digits.drop point.toNat
    else ['0', '.'] ++ List.replicate (-point).toNat '0' ++ digits
  else
    let exponent := form.exponent (point - 1)
    match digits with
    | first :: second :: rest => [first, '.', second] ++ rest ++ ['e'] ++ exponent
    | _ => digits ++ ['e'] ++ exponent

/-- The exact value of a positive finite floating-point number from its fields. -/
def Binary.ofFields (biased fraction : Nat) : Binary :=
  if biased = 0 then ⟨fraction, -1074, false⟩
  else ⟨capacity 52 + fraction, (biased : Int) - 1075, fraction == 0 && biased > 1⟩

/-- The text of a floating-point number; infinities and the undefined number have names. -/
def showFloat (form : DecimalForm) (x : Float) : String :=
  let bits := x.toBits.toNat
  let negative := bits / capacity 63 = 1
  let biased := bits / capacity 52 % capacity 11
  let fraction := bits % capacity 52
  if biased = 2047 then
    if fraction = 0 then (if negative then "-inf" else "inf") else "NaN"
  else
    let magnitude :=
      if biased = 0 && fraction = 0 then ['0', '.', '0']
      else form.render ((Binary.ofFields biased fraction).shortest form.tie)
    String.ofList (if negative then '-' :: magnitude else magnitude)

end Bindery.Decimal
