import TrackGrid.Cell
import TrackGrid.Table
import TrackGrid.Track

/-! # Grids: tracks, groups of tracks, and cells

Tracks are counted from 1 on each axis. The tracks of one group are laid out at one size.
-/

namespace TrackGrid

structure Grid where
  tracks : PerAxis (List Track)
  groups : PerAxis (List (List Nat)) := .both []
  /-- The cell of each component, by its key. -/
  cells : Table Cell := {}
  deriving DecidableEq

/-! ## Errors -/

/-- Why a grid refuses an edit. -/
inductive GridError where
  | cell (error : CellError)
  | range (error : RangeError)
  | repeatedMember (axis : Axis) (index : Nat)
  | occupied (axis : Axis) (index : Nat)
  | grouped (axis : Axis) (index : Nat)

namespace GridError

def message : GridError → String
  | cell error => error.message
  | range error => error.message
  | repeatedMember axis index =>
    s!"Invalid {axis.trackWord} group: {axis.trackWord} {index} is listed more than once"
  | occupied axis index =>
    s!"Cannot remove {axis.trackWord} {index}: a component lies only in it"
  | grouped axis index => s!"Cannot remove {axis.trackWord} {index}: it belongs to a group"

end GridError

namespace Grid

def count (grid : Grid) (axis : Axis) : Nat := (grid.tracks.along axis).length

def counts (grid : Grid) : PerAxis Nat := .ofFn grid.count

def checkTrack (grid : Grid) (axis : Axis) (index : Nat) : Except RangeError Unit :=
  if 1 ≤ index ∧ index ≤ grid.count axis then .ok ()
  else .error (.index axis index (grid.count axis))

def trackAt (grid : Grid) (axis : Axis) (index : Nat) : Except RangeError Track := do
  grid.checkTrack axis index
  match (grid.tracks.along axis)[index - 1]? with
  | some track => return track
  | none => throw (.index axis index (grid.count axis))

end Grid

end TrackGrid
