import Bindery.Decimal.Shortest
import Bindery.Document.Basic
import Bindery.Text.Digits
import Bindery.Text.Split

/-!
# Plain values in TOML

Truth values, integers, floating-point numbers, dates and times are words without quotation marks,
and `scalar?` gives the value of a word.

Whether a word is well written is one question and whether it has a value is another: a number may
be too large, and an integer with underscores may turn out to have other characters than digits.
Such a word is a value that cannot be read, which does no harm where no value is asked for.
-/

namespace Bindery.Toml

open Text Decimal

/-! ### Numbers -/

/-- A number without the underscores in it.  Behind an underscore stands a digit, and before it a digit or
the sign of the number; `ready` says whether an underscore may come first. -/
def ungroup? (isDigit : Char → Bool) (ready : Bool) : List Char → Option (List Char)
  | [] => some []
  | '_' :: c :: rest =>
    if ready && isDigit c then (ungroup? isDigit true rest).map (c :: ·) else none
  | c :: rest => if c = '_' then none else (ungroup? isDigit (isDigit c) rest).map (c :: ·)

/-- Whether a zero stands before further digits. -/
def hasIdleZero : List Char → Bool
  | '0' :: c :: _ => c.isDigit || c == '_'
  | _ => false

/-- The digits of a part of a number, of which there is at least one. -/
def digits? (part : List Char) : Option (List Char) :=
  if !part.isEmpty && part.all Char.isDigit then some part else none

/-- The sign in front of a number. -/
inductive Sign where
  | none
  | plus
  | minus
  deriving DecidableEq, Repr

/-- Whether a sign is written. -/
def Sign.isWritten (s : Sign) : Bool := s != .none

/-- A size with its sign. -/
def Sign.apply (s : Sign) (size : Nat) : Int := if s = .minus then -(size : Int) else size

/-- The sign in front of a number, and the number behind it. -/
def cutSign : List Char → Sign × List Char
  | '-' :: rest => (.minus, rest)
  | '+' :: rest => (.plus, rest)
  | rest => (.none, rest)

/-- The bases that an integer can name in front of its digits. -/
def namedBase? : List Char → Option (Nat × List Char)
  | '0' :: 'x' :: rest => some (16, rest)
  | '0' :: 'o' :: rest => some (8, rest)
  | '0' :: 'b' :: rest => some (2, rest)
  | _ => none

/-- Whether a character is a digit of a base. -/
def isDigitOf (base : Nat) (c : Char) : Bool :=
  match hexDigit? c with
  | some value => value < base
  | none => false

/-- An integer as a document.  Integers beyond what a hundred and twenty-eight bits hold cannot be read. -/
def held (i : Int) : Document :=
  if -(capacity 127 : Int) ≤ i ∧ i < capacity 128 then .int i else .torn

/-- The digits of an integer in a named base.  A base without digits is well written but cannot be read. -/
def based? (base : Nat) (written : List Char) : Option Document :=
  match ungroup? (isDigitOf base) false written with
  | some [] => some .torn
  | some digits => if digits.all (isDigitOf base) then some (held (digitsValue base digits)) else none
  | none => none

/-- A decimal integer behind its sign.  What stands next to an underscore may be a digit of any base and
what stands elsewhere may be anything, but only decimal digits can be read. -/
def decimal? (sign : Sign) (magnitude : List Char) : Option Document :=
  if magnitude.isEmpty || hasIdleZero magnitude then none
  else (ungroup? (isDigitOf 16) sign.isWritten magnitude).map fun digits =>
    if digits.all Char.isDigit then held (sign.apply (digitsValue 10 digits)) else .torn

/-- A decimal number as a floating-point number, unless it is too large. -/
def nearest? (digits : List Char) (exponent : Int) : Option Float :=
  let significand := digitsValue 10 digits
  if significand = 0 then some 0.0
  else
    let point : Int := (Nat.toDigits 10 significand).length + exponent
    if 400 < point then none
    else if point < -400 then some 0.0
    else
      let x :=
        match exponent with
        | .ofNat places => Float.ofScientific significand false places
        | .negSucc places => Float.ofScientific significand true (places + 1)
      if x.isInf then none else some x

/-- The parts of a decimal number behind its sign: digits before and after the point, and exponent. -/
def floatParts? (text : List Char) : Option (List Char × List Char × Int) := do
  let (mantissa, exponent) ←
    match text.span fun c => c ≠ 'e' && c ≠ 'E' with
    | (mantissa, []) => some (mantissa, (0 : Int))
    | (mantissa, _ :: written) =>
      let (sign, size) := cutSign written
      (digits? size).map fun digits => (mantissa, sign.apply (digitsValue 10 digits))
  match cutAt? '.' mantissa with
  | none => return (← digits? mantissa, [], exponent)
  | some (whole, fraction) => return (← digits? whole, ← digits? fraction, exponent)

/-- How TOML faults show a floating-point number: always positional, and of two equally near decimals the
greater. -/
def shownForm : DecimalForm := ⟨fun _ => true, false, .up⟩

/-- A floating-point number behind its sign.  One that is too large is well written but cannot be read. -/
def float? (sign : Sign) (magnitude : List Char) : Option Document :=
  if hasIdleZero magnitude then none
  else do
    let (whole, fraction, exponent) ←
      floatParts? (← ungroup? Char.isDigit sign.isWritten magnitude)
    match nearest? (whole ++ fraction) (exponent - fraction.length) with
    | some x => return .real (showFloat shownForm (if sign = .minus then -x else x))
    | none => return .torn

/-! ### Dates and times -/

/-- Whether two digits make a number in a range. -/
def isTwoDigits (least most : Nat) (a b : Char) : Bool :=
  let value := digitsValue 10 [a, b]
  a.isDigit && b.isDigit && least ≤ value && value ≤ most

/-- How many days a month has. -/
def daysIn (year month : Nat) : Nat :=
  if month = 2 then
    if year % 4 = 0 && (year % 100 ≠ 0 || year % 400 = 0) then 29 else 28
  else if month = 4 || month = 6 || month = 9 || month = 11 then 30
  else 31

/-- A date such as `1979-05-27`. -/
def isDate : List Char → Bool
  | [a, b, c, d, '-', e, f, '-', g, h] =>
    [a, b, c, d].all Char.isDigit && isTwoDigits 1 12 e f &&
      isTwoDigits 1 (daysIn (digitsValue 10 [a, b, c, d]) (digitsValue 10 [e, f])) g h
  | _ => false

/-- The fraction of a second, if there is one. -/
def isFraction : List Char → Bool
  | [] => true
  | '.' :: digits => !digits.isEmpty && digits.all Char.isDigit
  | _ => false

/-- A time of day such as `07:32:00.5`; the seconds may be absent. -/
def isTime : List Char → Bool
  | [a, b, ':', c, d] => isTwoDigits 0 23 a b && isTwoDigits 0 59 c d
  | a :: b :: ':' :: c :: d :: ':' :: e :: f :: fraction =>
    isTwoDigits 0 23 a b && isTwoDigits 0 59 c d && isTwoDigits 0 60 e f && isFraction fraction
  | _ => false

/-- A time of day that an offset may follow. -/
def isTimeWithOffset (text : List Char) : Bool :=
  match text.span fun c => c.isDigit || c == ':' || c == '.' with
  | (time, []) => isTime time
  | (time, ['Z']) | (time, ['z']) => isTime time
  | (time, [sign, a, b, ':', c, d]) =>
    isTime time && (sign == '+' || sign == '-') && isTwoDigits 0 23 a b && isTwoDigits 0 59 c d
  | _ => false

/-- A date, a time of day, or a date with a time behind it. -/
def isMoment (word : List Char) : Bool :=
  isDate word || isTime word ||
    match word.drop 10 with
    | mark :: time =>
      isDate (word.take 10) && (mark == 'T' || mark == 't' || mark == ' ') && isTimeWithOffset time
    | [] => false

/-! ### Words -/

/-- Whether what stands behind the first digits of a word makes it a date or a time. -/
def marksMoment (rest : List Char) : Bool :=
  rest.head? == some '-' || rest.head? == some ':' || rest.contains ' '

/-- Whether what stands behind the first digits of a word makes it a floating-point number. -/
def marksFloat (rest : List Char) : Bool := rest.any fun c => c == '.' || c == 'e' || c == 'E'

/-- The value of a word that begins with a digit or a sign. -/
def number? (word : List Char) : Option Document :=
  let (sign, magnitude) := cutSign word
  let rest := magnitude.dropWhile Char.isDigit
  if marksMoment rest then if isMoment word then some .moment else none
  else if marksFloat rest then float? sign magnitude
  else if rest.isEmpty || rest.head? == some '_' then decimal? sign magnitude
  else if magnitude = "inf".toList then some (.real (if sign = .minus then "-inf" else "inf"))
  else if magnitude = "nan".toList then some (.real "NaN")
  else none

/-- The value of a word. -/
def scalar? (word : List Char) : Option Document :=
  if word = "true".toList then some (.bool true)
  else if word = "false".toList then some (.bool false)
  else
    match namedBase? word with
    | some (base, written) => based? base written
    | none => number? word

end Bindery.Toml
