import TrackGrid.Axis
import TrackGrid.Pixels

/-! # Rectangles and insets -/

namespace TrackGrid

open Pixels

abbrev Dimension := PerAxis Int

/-! ## Insets -/

/-- Space along the four sides: left and top lead, right and bottom trail. -/
structure Insets where
  leading : PerAxis Int
  trailing : PerAxis Int
  deriving DecidableEq

namespace Insets

def ofSides (top left bottom right : Int) : Insets := ⟨⟨left, top⟩, ⟨right, bottom⟩⟩

def uniform (amount : Int) : Insets := ofSides amount amount amount amount

def zero : Insets := uniform 0

def along (insets : Insets) (axis : Axis) : Int :=
  plus (insets.leading.along axis) (insets.trailing.along axis)

end Insets

/-! ## Rectangles -/

structure Rect where
  origin : PerAxis Int
  extent : Dimension
  deriving DecidableEq

namespace Rect

def ofSides (x y width height : Int) : Rect := ⟨⟨x, y⟩, ⟨width, height⟩⟩

def stop (rect : Rect) (axis : Axis) : Int := rect.origin.along axis + rect.extent.along axis

/-- Takes the insets away on all sides; a side that is used up stays empty. -/
def inset (rect : Rect) (insets : Insets) : Rect where
  origin := .ofFn fun axis => rect.origin.along axis + insets.leading.along axis
  extent := .ofFn fun axis =>
    max 0 (rect.extent.along axis - insets.leading.along axis - insets.trailing.along axis)

/-- `inner` lies inside `outer`, edges included. -/
def contains (outer inner : Rect) : Bool :=
  [Axis.horizontal, .vertical].all fun axis =>
    outer.origin.along axis ≤ inner.origin.along axis && inner.stop axis ≤ outer.stop axis

end Rect

end TrackGrid
