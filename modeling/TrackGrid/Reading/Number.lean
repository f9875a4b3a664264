import TrackGrid.Binary64

/-! # Reading numbers -/

namespace TrackGrid.Reading

/-- The number with these digits before and after the point, times ten to the `exponent`. -/
def ofDigits (whole fraction : List Char) (exponent : Int) : Binary64 :=
  .ofDecimal (Nat.ofDigitChars 10 (whole ++ fraction) 0) (exponent - fraction.length)

/-- A sign, if there is one, tells whether the number is negative. -/
def splitSign : List Char → Bool × List Char
  | '-' :: rest => (true, rest)
  | '+' :: rest => (false, rest)
  | text => (false, text)

/-- The digits at the start and the rest. -/
def splitDigits (text : List Char) : List Char × List Char :=
  (text.takeWhile Char.isDigit, text.dropWhile Char.isDigit)

/-- Digits and nothing else, at least one. -/
def readDigits? (text : List Char) : Option Nat :=
  if text ≠ [] ∧ text.all Char.isDigit then some (Nat.ofDigitChars 10 text 0) else none

/-- A whole number without a sign. It has 64 bits, so it is less than `2 ^ 64`. -/
def readNatural? (text : List Char) : Option Nat :=
  (readDigits? text).filter (· < 0x10000000000000000)

/-- What stands after the mantissa: nothing, or a power of ten. -/
def readExponent? : List Char → Option Int
  | [] => some 0
  | 'e' :: text =>
    let (negative, digits) := splitSign text
    (readDigits? digits).map fun n => if negative then -(n : Int) else n
  | _ => none

/-- The fraction after a point, if there is a point, and what follows. -/
def splitFraction : List Char → List Char × List Char
  | '.' :: rest => splitDigits rest
  | text => ([], text)

/-- A decimal number: a sign, digits with a point before, among or after them, and a power of ten.
The sign, the point and the power may be left out. -/
def readDecimal? (text : List Char) : Option Binary64 :=
  let (negative, unsigned) := splitSign text
  let (whole, rest) := splitDigits unsigned
  let (fraction, rest) := splitFraction rest
  if whole ++ fraction = [] then none
  else (readExponent? rest).map fun exponent =>
    let number := ofDigits whole fraction exponent
    if negative then number.neg else number

end TrackGrid.Reading
