/-! # Pixels

Screen coordinates are whole numbers of 32 bits. Sums that leave that range stop at its end, so a
form with absurdly large tracks is cut off and never wraps around.
-/

namespace TrackGrid.Pixels

def lowest : Int := -2147483648

def highest : Int := 2147483647

/-- What 32 bits can hold. -/
def InRange (n : Int) : Prop := lowest ≤ n ∧ n ≤ highest

/-- The pixel count nearest to `n` that is in range. -/
def clamp (n : Int) : Int := max lowest (min highest n)

/-- Addition that stops at the ends of the range. -/
def plus (a b : Int) : Int := clamp (a + b)

/-- Subtraction that stops at the ends of the range. -/
def minus (a b : Int) : Int := clamp (a - b)

/-- The sum from the left, each step stopping at the ends of the range. -/
def total (sizes : List Int) : Int := sizes.foldl plus 0

theorem clamp_inRange (n : Int) : InRange (clamp n) := by
  simp only [InRange, clamp, lowest, highest]
  omega

theorem plus_inRange (a b : Int) : InRange (plus a b) := clamp_inRange _

theorem minus_inRange (a b : Int) : InRange (minus a b) := clamp_inRange _

theorem clamp_of_inRange {n : Int} (h : InRange n) : clamp n = n := by
  simp only [InRange, clamp, lowest, highest] at *
  omega

theorem clamp_mono {m n : Int} (h : m ≤ n) : clamp m ≤ clamp n := by
  simp only [clamp, lowest, highest]
  omega

end TrackGrid.Pixels
