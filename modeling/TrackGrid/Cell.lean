import TrackGrid.Alignment
import TrackGrid.Geometry

/-! # Cells: where a component stands in the grid -/

namespace TrackGrid

/-- The tracks that a component covers, counted from 1, and how it stands in them. -/
structure Cell where
  start : PerAxis Nat
  span : PerAxis Nat := .both 1
  alignment : PerAxis CellAlignment := .both .inherited
  insets : Insets := .zero
  /-- Components of one size group need the same extent along that axis. -/
  sizeGroup : PerAxis (Option Nat) := .both none
  deriving DecidableEq

/-! ## Errors -/

/-- Why a cell cannot be in any grid. -/
inductive CellError where
  | zeroStart (axis : Axis)
  | zeroSpan (axis : Axis)
  | alignment (alignment : CellAlignment) (axis : Axis)

namespace CellError

def zeroMessage (field : String) : String :=
  s!"Invalid cell constraints: {field} must be at least 1, got 0."

def message : CellError → String
  | zeroStart .horizontal => zeroMessage "grid_x"
  | zeroStart .vertical => zeroMessage "grid_y"
  | zeroSpan .horizontal => zeroMessage "grid_width"
  | zeroSpan .vertical => zeroMessage "grid_height"
  | alignment a axis => s!"Invalid cell alignment '{a.name}' for the {axis.name} axis."

end CellError

inductive RangeError where
  | cell (axis : Axis) (start span count : Nat)
  | index (axis : Axis) (index count : Nat)

def RangeError.message : RangeError → String
  | cell axis start span count =>
    s!"The {axis.trackWord} origin {start} with span {span} exceeds the {count} " ++
      s!"declared {axis.trackWord}s."
  | index axis i count => s!"The {axis.trackWord} index {i} must be within 1..={count}."

/-! ## Checks -/

namespace Cell

/-- Coordinates have 64 bits: they are less than `2 ^ 64`. -/
def coordinateLimit : Nat := 0x10000000000000000

/-- The track after the last one that the cell covers. -/
def stop (cell : Cell) (axis : Axis) : Nat := cell.start.along axis + cell.span.along axis

/-- The tracks of an axis that the cell covers, or what belongs to them. -/
def covered {α : Type} (cell : Cell) (axis : Axis) (tracks : List α) : List α :=
  (tracks.drop (cell.start.along axis - 1)).take (cell.span.along axis)

/-- The cell covers this track of the axis and no other. -/
def liesOnlyIn (cell : Cell) (axis : Axis) (index : Nat) : Bool :=
  cell.start.along axis = index && cell.span.along axis = 1

/-- The cell covers at least one track on each axis, and its alignments belong to their axes. -/
def check (cell : Cell) : Except CellError Unit := do
  if cell.start.horizontal = 0 then throw (.zeroStart .horizontal)
  if cell.start.vertical = 0 then throw (.zeroStart .vertical)
  if cell.span.horizontal = 0 then throw (.zeroSpan .horizontal)
  if cell.span.vertical = 0 then throw (.zeroSpan .vertical)
  if !cell.alignment.horizontal.legalOn .horizontal then
    throw (.alignment cell.alignment.horizontal .horizontal)
  if !cell.alignment.vertical.legalOn .vertical then
    throw (.alignment cell.alignment.vertical .vertical)

/-- The cell ends within the first `count` tracks, and where it stops is still a coordinate. -/
def fitsAlong (cell : Cell) (axis : Axis) (count : Nat) : Bool :=
  cell.stop axis < coordinateLimit && cell.stop axis ≤ count + 1

def checkAlong (cell : Cell) (axis : Axis) (count : Nat) : Except RangeError Unit :=
  if cell.fitsAlong axis count then .ok ()
  else .error (.cell axis (cell.start.along axis) (cell.span.along axis) count)

/-- The cell lies in a grid with so many columns and rows; the columns are looked at first. -/
def checkFits (cell : Cell) (counts : PerAxis Nat) : Except RangeError Unit := do
  cell.checkAlong .horizontal counts.horizontal
  cell.checkAlong .vertical counts.vertical

end Cell

end TrackGrid
