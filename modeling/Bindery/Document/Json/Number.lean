import Bindery.Decimal.Shortest
import Bindery.Document.Basic
import Bindery.Text.Digits

/-!
# Numbers in JSON

A number is written as digits without a leading zero, with an optional fraction and an optional
exponent.  `Numeral.read?` takes one off the front of a text, and `Numeral.document` is its value:
integers that fit sixty-four bits stay integers, all others become floating-point numbers.

The value of a fraction is found by one multiplication or division of a sixty-four-bit significand
by a power of ten.  That is not the nearest floating-point number in every case; it may differ in
the last place.  Digits that the significand has no room for are dropped.
-/

namespace Bindery.Json

open Decimal Text

/-- The exponent behind a number. -/
structure Exponent where
  negative : Bool
  digits : List Char
  deriving DecidableEq, Repr

/-- The parts a number is written with. -/
structure Numeral where
  negative : Bool
  whole : List Char
  fraction : Option (List Char)
  exponent : Option Exponent
  deriving DecidableEq, Repr

namespace Numeral

/-! ### Reading -/

/-- At least one digit, with the text behind the digits. -/
def readDigits? (text : List Char) : Option (List Char × List Char) :=
  if (text.takeWhile Char.isDigit).isEmpty then none
  else some (text.takeWhile Char.isDigit, text.dropWhile Char.isDigit)

/-- The digits before the point: a zero stands alone. -/
def readWhole? (text : List Char) : Option (List Char × List Char) :=
  match readDigits? text with
  | some ('0' :: _ :: _, _) => none
  | found => found

/-- The fraction, if a point introduces one. -/
def readFraction? : List Char → Option (Option (List Char) × List Char)
  | '.' :: rest => (readDigits? rest).map fun (digits, rest) => (some digits, rest)
  | rest => some (none, rest)

/-- The sign of an exponent, if it has one. -/
def readSign : List Char → Bool × List Char
  | '+' :: rest => (false, rest)
  | '-' :: rest => (true, rest)
  | rest => (false, rest)

/-- The exponent, if its letter introduces one. -/
def readExponent? (text : List Char) : Option (Option Exponent × List Char) :=
  match text with
  | c :: rest =>
    if c = 'e' || c = 'E' then
      let signed := readSign rest
      (readDigits? signed.2).map fun (digits, behind) => (some ⟨signed.1, digits⟩, behind)
    else some (none, text)
  | [] => some (none, [])

/-- What follows the sign of a number. -/
def readMagnitude? (negative : Bool) (text : List Char) : Option (Numeral × List Char) := do
  let (whole, rest) ← readWhole? text
  let (fraction, rest) ← readFraction? rest
  let (exponent, rest) ← readExponent? rest
  return (⟨negative, whole, fraction, exponent⟩, rest)

/-- The number at the start of a text, with the text behind it. -/
def read? : List Char → Option (Numeral × List Char)
  | '-' :: rest => readMagnitude? true rest
  | text => readMagnitude? false text

/-! ### Lengths -/

theorem length_of_readDigits? {text digits rest : List Char}
    (h : readDigits? text = some (digits, rest)) : rest.length < text.length := by
  unfold readDigits? at h
  split at h
  · cases h
  · next hne =>
    cases h
    have whole := congrArg List.length (List.takeWhile_append_dropWhile (p := Char.isDigit) (l := text))
    have : (text.takeWhile Char.isDigit).length ≠ 0 := by
      intro h0
      simp_all
    simp only [List.length_append] at whole
    omega

theorem length_of_readWhole? {text digits rest : List Char}
    (h : readWhole? text = some (digits, rest)) : rest.length < text.length := by
  unfold readWhole? at h
  split at h
  · cases h
  · exact length_of_readDigits? h

theorem length_of_readFraction? {text rest : List Char} {fraction : Option (List Char)}
    (h : readFraction? text = some (fraction, rest)) : rest.length ≤ text.length := by
  unfold readFraction? at h
  split at h
  · obtain ⟨⟨digits, behind⟩, hread, heq⟩ := Option.map_eq_some_iff.mp h
    cases heq
    have := length_of_readDigits? hread
    simp only [List.length_cons]
    omega
  · cases h
    exact Nat.le_refl _

theorem length_readSign_le (text : List Char) : (readSign text).2.length ≤ text.length := by
  unfold readSign
  split <;> simp

theorem length_of_readExponent? {text rest : List Char} {exponent : Option Exponent}
    (h : readExponent? text = some (exponent, rest)) : rest.length ≤ text.length := by
  unfold readExponent? at h
  split at h
  · next c tail =>
    split at h
    · obtain ⟨⟨digits, behind⟩, hread, heq⟩ := Option.map_eq_some_iff.mp h
      cases heq
      have := length_of_readDigits? hread
      have := length_readSign_le tail
      simp only [List.length_cons]
      omega
    · cases h
      exact Nat.le_refl _
  · cases h
    exact Nat.le_refl _

theorem length_of_readMagnitude? {negative : Bool} {text rest : List Char} {n : Numeral}
    (h : readMagnitude? negative text = some (n, rest)) : rest.length < text.length := by
  unfold readMagnitude? at h
  simp only [Option.bind_eq_bind, Option.bind_eq_some_iff, Option.pure_def, Option.some.injEq,
    Prod.mk.injEq, Prod.exists] at h
  obtain ⟨_, _, hwhole, _, _, hfraction, _, _, hexponent, _, rfl⟩ := h
  have := length_of_readWhole? hwhole
  have := length_of_readFraction? hfraction
  have := length_of_readExponent? hexponent
  omega

theorem length_of_read? {text rest : List Char} {n : Numeral}
    (h : read? text = some (n, rest)) : rest.length < text.length := by
  unfold read? at h
  split at h
  · have := length_of_readMagnitude? h
    simp only [List.length_cons]
    omega
  · exact length_of_readMagnitude? h

/-! ### Value -/

/-- The digits taken into a significand of sixty-four bits, and how many there was no room for.  The
first digit without room ends the taking. -/
def absorb (significand : Nat) : List Char → Nat × Nat
  | [] => (significand, 0)
  | digit :: digits =>
    let longer := 10 * significand + (digit.toNat - '0'.toNat)
    if longer < capacity 64 then absorb longer digits else (significand, digits.length + 1)

/-- A power of ten as a floating-point number. -/
def powerOfTen (n : Nat) : Float := Float.ofScientific 1 false n

/-- A number divided by a power of ten, in steps that stay in range. -/
def scaleDown (x : Float) (places : Nat) : Float :=
  if places ≤ 308 then x / powerOfTen places
  else if x == 0.0 then x
  else scaleDown (x / powerOfTen 308) (places - 308)
termination_by places

/-- A significand times a power of ten, unless it is too large. -/
def scaled? (significand : Nat) (exponent : Int) : Option Float :=
  let x := Float.ofNat significand
  match exponent with
  | .ofNat places =>
    if places ≤ 308 then
      let product := x * powerOfTen places
      if product.isInf then none else some product
    else if significand = 0 then some x
    else none
  | .negSucc places => some (scaleDown x (places + 1))

/-- The magnitude of a number as a floating-point number, unless it is too large.  An exponent beyond
thirty-two bits makes the number either too large or zero. -/
def magnitude? (n : Numeral) : Option Float :=
  let (head, dropped) := absorb 0 n.whole
  let fraction := n.fraction.getD []
  let (significand, ignored) := absorb head fraction
  let point : Int := dropped - (fraction.length - ignored : Nat)
  match n.exponent with
  | none => scaled? significand point
  | some e =>
    let size := digitsValue 10 e.digits
    if capacity 31 ≤ size then
      if significand ≠ 0 && !e.negative then none else some 0.0
    else scaled? significand (if e.negative then point - size else point + size)

/-- How JSON faults show a floating-point number: positional from `0.00001` up to sixteen digits, beyond
them with an exponent that has a sign, and of two equally near decimals the even one. -/
def shownForm : DecimalForm := ⟨fun point => -5 < point ∧ point ≤ 16, true, .toEven⟩

/-- The value of a number.  A number that is too large can be passed over but has no value. -/
def document (n : Numeral) : Document :=
  let value := digitsValue 10 n.whole
  if n.fraction.isNone && n.exponent.isNone && !n.negative && value < capacity 64 then .int value
  else if n.fraction.isNone && n.exponent.isNone && n.negative && 0 < value && value ≤ capacity 63 then
    .int (-(value : Int))
  else
    match n.magnitude? with
    | some x => .real (showFloat shownForm (if n.negative then -x else x))
    | none => .unusable

end Numeral

end Bindery.Json
