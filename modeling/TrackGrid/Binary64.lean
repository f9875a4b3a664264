import TrackGrid.Pixels

/-! # Double-precision numbers

Lengths and weights are IEEE 754 doubles. A double is kept as its 64 bits: the top bit is the sign
and the other 63 are its rank among the magnitudes. Every finite magnitude is a whole number of
quanta, one quantum being the least positive double, so all arithmetic here is exact arithmetic on
whole numbers followed by one rounding to the nearest rank.
-/

namespace TrackGrid

structure Binary64 where
  bits : UInt64
  deriving DecidableEq

namespace Binary64

/-! ## Ranks and magnitudes -/

/-- How many quanta make one: `2 ^ 1074`. -/
def unit : Nat := Nat.pow 2 1074

/-- How many ranks there are from one power of two to the next: `2 ^ 52`. -/
def binade : Nat := 0x10000000000000

/-- The rank of infinity; those above it are not numbers. -/
def infinityRank : Nat := 2047 * binade

/-- How many ranks fit beside the sign: `2 ^ 63`. -/
def rankLimit : Nat := 0x8000000000000000

/-- The magnitude of a rank in quanta. In the first two binades each step is one quantum, and the
step doubles with every binade after that. -/
def quanta (rank : Nat) : Nat :=
  if rank < 2 * binade then rank
  else (binade + rank % binade) * Nat.pow 2 (rank / binade - 1)

/-- The whole number nearest to `num / den`, the even one of two. -/
def divideToEven (num den : Nat) : Nat :=
  let quotient := num / den
  let twice := 2 * (num % den)
  if twice < den ∨ (twice = den ∧ quotient % 2 = 0) then quotient else quotient + 1

/-- The rank of the magnitude nearest to `num / den` quanta, the even one of two. -/
def nearestRank (num den : Nat) : Nat :=
  let shift := (num / den).log2 - 52
  Nat.min infinityRank (shift * binade + divideToEven num (den * Nat.pow 2 shift))

/-! ## Parts of a number -/

def isNegative (x : Binary64) : Bool := decide (rankLimit ≤ x.bits.toNat)

def rank (x : Binary64) : Nat := x.bits.toNat % rankLimit

def isNaN (x : Binary64) : Bool := decide (infinityRank < x.rank)

def isInfinite (x : Binary64) : Bool := decide (x.rank = infinityRank)

def isFinite (x : Binary64) : Bool := decide (x.rank < infinityRank)

def isZero (x : Binary64) : Bool := decide (x.rank = 0)

/-- Greater than zero; infinity is. -/
def isPositive (x : Binary64) : Bool := !x.isNegative && !x.isNaN && !x.isZero

/-- The magnitude in quanta. For an infinity it is the first one that is too large. -/
def magnitude (x : Binary64) : Nat := quanta x.rank

def value (x : Binary64) : Int := if x.isNegative then -x.magnitude else x.magnitude

/-! ## Making numbers -/

def ofRank (negative : Bool) (rank : Nat) : Binary64 :=
  ⟨UInt64.ofNat ((if negative then rankLimit else 0) + rank)⟩

def zero : Binary64 := ⟨0⟩

def one : Binary64 := ⟨0x3FF0000000000000⟩

def half : Binary64 := ⟨0x3FE0000000000000⟩

def nan : Binary64 := ⟨0x7FF8000000000000⟩

def infinity (negative : Bool) : Binary64 := ofRank negative infinityRank

def ofInt (n : Int) : Binary64 := ofRank (decide (n < 0)) (nearestRank (n.natAbs * unit) 1)

/-- The number nearest to `mantissa` times ten to the `exponent`. The first two tests only keep the
powers of ten small: beyond them the result is certain. -/
def ofDecimal (mantissa : Nat) (exponent : Int) : Binary64 :=
  if mantissa = 0 then zero
  else if 310 < exponent then infinity false
  else if exponent < -(mantissa.log2 + 1100 : Int) then zero
  else if 0 ≤ exponent then ofRank false (nearestRank (mantissa * Nat.pow 10 exponent.toNat * unit) 1)
  else ofRank false (nearestRank (mantissa * unit) (Nat.pow 10 (-exponent).toNat))

/-! ## Arithmetic -/

def neg (x : Binary64) : Binary64 := ofRank (!x.isNegative) x.rank

def add (x y : Binary64) : Binary64 :=
  if x.isNaN || y.isNaN then nan
  else if x.isInfinite then if y.isInfinite && x.isNegative != y.isNegative then nan else x
  else if y.isInfinite then y
  else
    let sum := x.value + y.value
    if sum = 0 then ofRank (x.isNegative && y.isNegative) 0
    else ofRank (decide (sum < 0)) (nearestRank sum.natAbs 1)

def mul (x y : Binary64) : Binary64 :=
  let negative := x.isNegative != y.isNegative
  if x.isNaN || y.isNaN then nan
  else if x.isInfinite || y.isInfinite then
    if x.isZero || y.isZero then nan else infinity negative
  else ofRank negative (nearestRank (x.magnitude * y.magnitude) unit)

def div (x y : Binary64) : Binary64 :=
  let negative := x.isNegative != y.isNegative
  if x.isNaN || y.isNaN then nan
  else if x.isInfinite then if y.isInfinite then nan else infinity negative
  else if y.isInfinite then ofRank negative 0
  else if y.isZero then if x.isZero then nan else infinity negative
  else ofRank negative (nearestRank (x.magnitude * unit) y.magnitude)

/-- The lesser of two numbers, of which neither is a NaN. -/
def min (x y : Binary64) : Binary64 := if y.value < x.value then y else x

instance : Add Binary64 := ⟨add⟩
instance : Mul Binary64 := ⟨mul⟩
instance : Div Binary64 := ⟨div⟩

/-! ## Whole pixels -/

/-- The greatest whole number of pixels that is not above `x`, and none for what is not a number. -/
def floor (x : Binary64) : Int :=
  if x.isNaN then 0 else Pixels.clamp (x.value / unit)

/-- The whole number of pixels nearest to `x`, a half going away from zero. -/
def round (x : Binary64) : Int :=
  let nearest : Int := (2 * x.magnitude + unit) / (2 * unit)
  if x.isNaN then 0 else Pixels.clamp (if x.isNegative then -nearest else nearest)

end Binary64

end TrackGrid
