import TrackGrid.Grid
import TrackGrid.Size
import TrackGrid.Text.Quoted

/-! # Measured components

A layout pass first measures each of its components. Those of one size group then need as much as
the largest of them, each of the three extents taken on its own.
-/

namespace TrackGrid

/-- The extents of every component along both axes, by its key. -/
abbrev Measure := String → PerAxis Extent

namespace Measure

/-- The extents of a component that is measured as a whole. -/
def ofDimensions (minimum preferred default : Dimension) : PerAxis Extent :=
  .ofFn fun axis => ⟨minimum.along axis, preferred.along axis, default.along axis⟩

/-- The measures of components that are known; any other component measures nothing. -/
def ofTable (table : Table (PerAxis Extent)) : Measure :=
  fun key => (table.get? key).getD (.both .zero)

/-- Components without a default extent of their own have the preferred one. -/
def withoutDefault (measure : Measure) : Measure :=
  fun key => (measure key).map fun extent => { extent with default := extent.preferred }

end Measure

/-- Why components cannot be measured for a layout. -/
inductive MeasureError where
  | unplaced (key : String)
  | range (error : RangeError)

def MeasureError.message : MeasureError → String
  | unplaced key => s!"No cell constraints set for component {Text.quote key}."
  | range error => error.message

structure Component where
  key : String
  cell : Cell
  extents : PerAxis Extent
  deriving DecidableEq

namespace Component

/-- What the component and its insets need along an axis. -/
def outerExtent (component : Component) (axis : Axis) : Extent :=
  (component.extents.along axis).map fun n => Pixels.plus n (component.cell.insets.along axis)

/-! ## Size groups -/

/-- The largest extents in a size group. -/
def groupExtent? (axis : Axis) (group : Nat) (components : List Component) : Option Extent :=
  let members := components.filter (·.cell.sizeGroup.along axis = some group)
  match members.map (·.extents.along axis) with
  | [] => none
  | extent :: rest => some (rest.foldl .max extent)

/-- The extent of a component along an axis once its size group has been looked at. -/
def sharedExtent (axis : Axis) (components : List Component) (component : Component) : Extent :=
  ((component.cell.sizeGroup.along axis).bind fun group =>
    groupExtent? axis group components).getD (component.extents.along axis)

/-- Gives the components of each size group the extents of the group. -/
def shareExtents (components : List Component) : List Component :=
  components.map fun component =>
    { component with extents := .ofFn fun axis => component.sharedExtent axis components }

end Component

/-! ## Measuring -/

namespace Grid

def component (grid : Grid) (measure : Measure) (key : String) : Except MeasureError Component :=
  match grid.cells.get? key with
  | some cell => .ok ⟨key, cell, measure key⟩
  | none => .error (.unplaced key)

/-- Measures the components with these keys. All of them must have a cell in the grid. -/
def components (grid : Grid) (measure : Measure) (keys : List String) :
    Except MeasureError (List Component) := do
  let components := Component.shareExtents (← keys.mapM (grid.component measure))
  components.forM fun component => (component.cell.checkFits grid.counts).mapError .range
  return components

end Grid

end TrackGrid
