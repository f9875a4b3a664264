import TrackGrid.Layout.Component

/-! # What tracks need

Each track has a minimum and a preferred size. Both come from the components that lie in this track
alone; components across several tracks only count for the size of the whole form.
-/

namespace TrackGrid

structure Needs where
  minimum : List Int
  preferred : List Int
  deriving DecidableEq

/-! ## Groups of tracks -/

/-- Gives the members of one group the size of the largest. -/
def equalizeGroup (sizes : List Int) (group : List Nat) : List Int :=
  let largest := ((group.map fun index => sizes.getD (index - 1) 0).max?).getD 0
  sizes.mapIdx fun i size => if i + 1 ∈ group then largest else size

def equalize (groups : List (List Nat)) (sizes : List Int) : List Int :=
  groups.foldl equalizeGroup sizes

@[simp] theorem length_equalizeGroup (sizes : List Int) (group : List Nat) :
    (equalizeGroup sizes group).length = sizes.length := by
  simp [equalizeGroup]

@[simp] theorem length_equalize (groups : List (List Nat)) (sizes : List Int) :
    (equalize groups sizes).length = sizes.length := by
  unfold equalize
  induction groups generalizing sizes with
  | nil => rfl
  | cons group groups ih => simp [ih]

/-! ## Single tracks -/

def membersOf (axis : Axis) (index : Nat) (components : List Component) : List Extent :=
  (components.filter (·.cell.liesOnlyIn axis index)).map (·.outerExtent axis)

/-- The extent in which the default is as small as the minimum. -/
def Extent.tight (extent : Extent) : Extent := { extent with default := extent.minimum }

/-- What the tracks of an axis need, those of a group as much as the largest of them. -/
def Grid.needs (grid : Grid) (axis : Axis) (metrics : Metrics) (components : List Component) :
    Needs :=
  let sizes (see : Extent → Extent) : List Int :=
    (grid.tracks.along axis).mapIdx fun i track =>
      track.size.toPixels axis metrics ((membersOf axis (i + 1) components).map see)
  { minimum := equalize (grid.groups.along axis) (sizes Extent.tight)
    preferred := equalize (grid.groups.along axis) (sizes id) }

namespace Needs

/-- There is one size of each kind for each of so many tracks. -/
structure OfLength (needs : Needs) (count : Nat) : Prop where
  minimum : needs.minimum.length = count
  preferred : needs.preferred.length = count

end Needs

theorem Grid.ofLength_needs (grid : Grid) (axis : Axis) (metrics : Metrics)
    (components : List Component) :
    (grid.needs axis metrics components).OfLength (grid.count axis) := by
  constructor <;> simp [needs, count]

end TrackGrid
