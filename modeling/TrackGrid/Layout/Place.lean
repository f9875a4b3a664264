import TrackGrid.Layout.Fit

/-! # Placing components in their cells -/

namespace TrackGrid

open Pixels

/-! ## Boundaries -/

/-- Where each track starts and the last one stops: one more than there are tracks. -/
def boundaries (start : Int) : (sizes : List Int) → List Int
  | [] => [start]
  | size :: sizes => start :: boundaries (plus start size) sizes

@[simp] theorem length_boundaries (start : Int) (sizes : List Int) :
    (boundaries start sizes).length = sizes.length + 1 := by
  induction sizes generalizing start with
  | nil => rfl
  | cons size sizes ih => simp [boundaries, ih]

def sizesBetween (boundaries : List Int) : List Int :=
  boundaries.tail.zipWith minus boundaries

/-! ## Cells -/

structure Stretch where
  origin : Int
  extent : Int
  deriving DecidableEq

/-- The space between two boundaries within the insets of a cell. -/
def Cell.innerBetween (cell : Cell) (axis : Axis) (first last : Int) : Stretch where
  origin := plus first (cell.insets.leading.along axis)
  extent := max 0 (minus (minus last first) (cell.insets.along axis))

def Cell.inner (cell : Cell) (axis : Axis) (boundaries : List Int) : Stretch :=
  cell.innerBetween axis (boundaries.getD (cell.start.along axis - 1) 0)
    (boundaries.getD (cell.stop axis - 1) 0)

/-- The extent that a component has in a cell of `room` pixels unless it fills it. -/
def Extent.natural (extent : Extent) (basis : Option Basis) (room : Int) : Int :=
  match basis with
  | some .minimum => extent.minimum
  | some .default => if room < extent.preferred then extent.minimum else extent.preferred
  | some .preferred | none => extent.preferred

/-- How much of the space that is left over comes before the component. -/
def Alignment.leadingSpace (alignment : Alignment) (spare : Int) : Int :=
  match alignment with
  | left | top => 0
  | right | bottom => spare
  | center | fill => spare.tdiv 2

/-- Where a component lies in the space of its cell. The first track of the cell decides how it is
measured, and how it is aligned unless the cell says. -/
def Component.placeIn (component : Component) (axis : Axis) (track : Track) (inner : Stretch) :
    Stretch :=
  let alignment := (component.cell.alignment.along axis).orTrack track.alignment
  if alignment = .fill then inner
  else
    let natural := (component.extents.along axis).natural track.size.basis? inner.extent
    let extent := min natural inner.extent
    { origin := plus inner.origin (alignment.leadingSpace (inner.extent - extent)), extent }

def Component.place (component : Component) (axis : Axis) (tracks : List Track)
    (boundaries : List Int) : Stretch :=
  component.placeIn axis (tracks.getD (component.cell.start.along axis - 1) (.glue axis))
    (component.cell.inner axis boundaries)

end TrackGrid
