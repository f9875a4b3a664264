import TrackGrid.Layout.Place

/-! # Layouts

A layout pass measures the components, sizes the tracks of each axis, and places every component in
its cell. The two axes do not look at each other.
-/

namespace TrackGrid

open Pixels

/-- What a layout pass depends on besides the grid and its components. -/
structure Options where
  border : Insets := .zero
  metrics : Metrics := .standard
  deriving DecidableEq

structure Layout where
  /-- Where each track starts and the last one stops, on both axes. -/
  boundaries : PerAxis (List Int)
  /-- The rectangle of each component, in the order in which they were listed. -/
  rects : Table Rect
  deriving DecidableEq

namespace Layout

def sizes (layout : Layout) (axis : Axis) : List Int := sizesBetween (layout.boundaries.along axis)

end Layout

namespace Grid

/-! ## Laying out -/

def available (container : Rect) (options : Options) (axis : Axis) : Int :=
  minus (container.extent.along axis) (options.border.along axis)

def arrange (grid : Grid) (container : Rect) (components : List Component) (options : Options)
    (axis : Axis) : List Int :=
  boundaries (plus (container.origin.along axis) (options.border.leading.along axis))
    (finalSizes (grid.tracks.along axis) (grid.groups.along axis)
      (grid.needs axis options.metrics components) (available container options axis))

theorem length_arrange (grid : Grid) (container : Rect) (components : List Component)
    (options : Options) (axis : Axis) :
    (grid.arrange container components options axis).length = grid.count axis + 1 := by
  rw [arrange, length_boundaries, length_finalSizes (grid.ofLength_needs axis _ _)]
  rfl

def rectOf (grid : Grid) (boundaries : PerAxis (List Int)) (component : Component) : Rect :=
  let stretch (axis : Axis) :=
    component.place axis (grid.tracks.along axis) (boundaries.along axis)
  { origin := .ofFn fun axis => (stretch axis).origin
    extent := .ofFn fun axis => (stretch axis).extent }

def rects (grid : Grid) (boundaries : PerAxis (List Int)) (components : List Component) :
    Table Rect :=
  components.foldl (fun rects component =>
    rects.insert component.key (grid.rectOf boundaries component)) {}

theorem keys_rects (grid : Grid) (boundaries : PerAxis (List Int)) (components : List Component) :
    (grid.rects boundaries components).keys = (components.map (·.key)).eraseDups :=
  Table.keys_ofList ..

/-- Lays out the components with these keys inside a container. -/
def layout (grid : Grid) (container : Rect) (keys : List String) (measure : Measure)
    (options : Options) : Except MeasureError Layout := do
  let components ← grid.components measure keys
  let boundaries := .ofFn (grid.arrange container components options)
  return { boundaries, rects := grid.rects boundaries components }

/-! ## The size of a form -/

/-- The total of the tracks once those that a component spans are large enough for it. -/
def stretchedTotal (axis : Axis) (basis : Basis) (sizes : List Int) (component : Component) : Int :=
  plus (minus (total sizes) (total (component.cell.covered axis sizes)))
    ((component.outerExtent axis).get basis)

/-- The size of the form along an axis when its tracks have these sizes, including the border. -/
def formExtent (axis : Axis) (basis : Basis) (sizes : List Int) (components : List Component)
    (options : Options) : Int :=
  let spanning := components.filter fun component => 1 < component.cell.span.along axis
  plus ((spanning.map (stretchedTotal axis basis sizes)).foldl max (total sizes))
    (options.border.along axis)

def formSize (grid : Grid) (basis : Basis) (sizes : Needs → List Int) (keys : List String)
    (measure : Measure) (options : Options) : Except MeasureError Dimension := do
  let components ← grid.components measure keys
  return .ofFn fun axis =>
    formExtent axis basis (sizes (grid.needs axis options.metrics components)) components options

/-- The size of a container that has every component at its minimum. -/
def minimumSize (grid : Grid) (keys : List String) (measure : Measure) (options : Options) :
    Except MeasureError Dimension :=
  grid.formSize .minimum (·.minimum) keys measure options

/-- The size of a container that has every component at its preferred size. -/
def preferredSize (grid : Grid) (keys : List String) (measure : Measure) (options : Options) :
    Except MeasureError Dimension :=
  grid.formSize .preferred (·.preferred) keys measure options

end Grid

end TrackGrid
