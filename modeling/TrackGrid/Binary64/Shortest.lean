import TrackGrid.Binary64

/-! # The shortest decimal text of a double

Of all decimals that read back as the double, the text has one with the fewest digits, and among
those the nearest; of two equally near ones it has the upper. The text never has an exponent.

The search runs on whole numbers. Every double is a whole number of grains of `10 ^ -1074`, and
everything is counted in half grains so that the midpoints between doubles are whole numbers too.
-/

namespace TrackGrid.Binary64

/-- How many grains make one quantum. -/
def grains : Nat := Nat.pow 5 1074

/-- The numbers that round to a double, counted in half grains. -/
structure RoundingInterval where
  low : Nat
  center : Nat
  high : Nat
  /-- The ends belong to it. -/
  closed : Bool

namespace RoundingInterval

/-- The interval of a positive rank: up to the midpoints, which round to the even rank. -/
def ofRank (rank : Nat) : RoundingInterval where
  low := (quanta (rank - 1) + quanta rank) * grains
  center := 2 * quanta rank * grains
  high := (quanta rank + quanta (rank + 1)) * grains
  closed := rank % 2 = 0

def contains (i : RoundingInterval) (x : Nat) : Bool :=
  if i.closed then i.low ≤ x && x ≤ i.high else i.low < x && x < i.high

/-- The multiple of `10 ^ place` grains in the interval that is nearest to the center. -/
def nearestMultiple? (i : RoundingInterval) (place : Nat) : Option Nat :=
  let step := 2 * Nat.pow 10 place
  let below := i.center / step
  let above := below + 1
  match i.contains (below * step), i.contains (above * step) with
  | true, true => some (if i.center - below * step < above * step - i.center then below else above)
  | true, false => some below
  | false, true => some above
  | false, false => none

/-- The digits on the coarsest decimal grid that has a point in the interval, and the place of the
last one. The grid of single grains always has one. -/
def shortestFrom (i : RoundingInterval) : (place : Nat) → Nat × Nat
  | 0 => (i.center / 2, 0)
  | place + 1 =>
    match i.nearestMultiple? (place + 1) with
    | some digits => (digits, place + 1)
    | none => i.shortestFrom place

/-- A place whose grid is coarser than the center, since `2 ^ 93` is less than `10 ^ 28`. -/
def firstPlace (i : RoundingInterval) : Nat := (i.center.log2 + 1) * 28 / 93 + 1

def shortest (i : RoundingInterval) : Nat × Nat := i.shortestFrom i.firstPlace

end RoundingInterval

/-- A whole number with its last digit at `place`, written out with a point if it needs one. -/
def positional (digits place : Nat) : List Char :=
  let written := Nat.toDigits 10 digits
  if 1074 ≤ place then written ++ List.replicate (place - 1074) '0'
  else
    let fraction := 1074 - place
    if fraction < written.length then
      written.take (written.length - fraction) ++ '.' :: written.drop (written.length - fraction)
    else '0' :: '.' :: List.replicate (fraction - written.length) '0' ++ written

def letters (x : Binary64) : List Char :=
  if x.isNaN then ['N', 'a', 'N']
  else
    (if x.isNegative then ['-'] else []) ++
      if x.isInfinite then ['i', 'n', 'f']
      else if x.isZero then ['0']
      else
        let (digits, place) := (RoundingInterval.ofRank x.rank).shortest
        positional digits place

end TrackGrid.Binary64
