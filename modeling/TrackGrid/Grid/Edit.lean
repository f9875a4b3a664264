import TrackGrid.Grid

/-! # Editing grids

Tracks can be added and removed while components stand in the grid. The components and the groups
stay with their tracks: what lies behind the edit moves along, and a component across it grows or
shrinks by one track.
-/

namespace TrackGrid

/-! ## Where things move -/

namespace Cell

def afterInsert (cell : Cell) (axis : Axis) (index : Nat) : Cell :=
  if index ≤ cell.start.along axis then { cell with start := cell.start.modify axis (· + 1) }
  else if index < cell.stop axis then { cell with span := cell.span.modify axis (· + 1) }
  else cell

def afterRemove (cell : Cell) (axis : Axis) (index : Nat) : Cell :=
  if index < cell.start.along axis then { cell with start := cell.start.modify axis (· - 1) }
  else if index < cell.stop axis then { cell with span := cell.span.modify axis (· - 1) }
  else cell

end Cell

namespace Grid

def memberAfterInsert (index member : Nat) : Nat := if index ≤ member then member + 1 else member

def memberAfterRemove (index member : Nat) : Nat := if index < member then member - 1 else member

/-! ## Components -/

/-- Gives a component its cell, which must fit the grid. The cell that it had comes back. -/
def place (grid : Grid) (key : String) (cell : Cell) : Except GridError (Option Cell × Grid) := do
  cell.check.mapError .cell
  (cell.checkFits grid.counts).mapError .range
  return (grid.cells.get? key, { grid with cells := grid.cells.insert key cell })

/-- Takes a component out of the grid. The cell that it had comes back. -/
def displace (grid : Grid) (key : String) : Option Cell × Grid :=
  (grid.cells.get? key, { grid with cells := grid.cells.erase key })

/-! ## Groups -/

/-- The members are indices of tracks, none of them in `seen` and none twice. -/
def checkMembers (grid : Grid) (axis : Axis) (seen : List Nat) : List Nat → Except GridError Unit
  | [] => .ok ()
  | index :: rest => do
    (grid.checkTrack axis index).mapError .range
    if index ∈ seen then throw (.repeatedMember axis index)
    grid.checkMembers axis (index :: seen) rest

/-- Replaces the groups of an axis. No track may be in two of them. -/
def setGroups (grid : Grid) (axis : Axis) (groups : List (List Nat)) : Except GridError Grid := do
  grid.checkMembers axis [] groups.flatten
  return { grid with groups := grid.groups.set axis groups }

/-! ## Tracks -/

def appendTrack (grid : Grid) (axis : Axis) (track : Track) : Grid :=
  { grid with tracks := grid.tracks.modify axis (· ++ [track]) }

/-- The grid with one more track at `index`; groups and components move along. -/
def withTrack (grid : Grid) (axis : Axis) (index : Nat) (track : Track) : Grid where
  tracks := grid.tracks.modify axis (·.insertIdx (index - 1) track)
  groups := grid.groups.modify axis (·.map (·.map (memberAfterInsert index)))
  cells := grid.cells.map (·.afterInsert axis index)

/-- The grid without the track at `index`; groups and components move along. -/
def withoutTrack (grid : Grid) (axis : Axis) (index : Nat) : Grid where
  tracks := grid.tracks.modify axis (·.eraseIdx (index - 1))
  groups := grid.groups.modify axis (·.map (·.map (memberAfterRemove index)))
  cells := grid.cells.map (·.afterRemove axis index)

/-- Inserts a track before the one at `index`, or behind the last one. -/
def insertTrackAt (grid : Grid) (axis : Axis) (index : Nat) (track : Track) :
    Except GridError Grid :=
  if 1 ≤ index ∧ index ≤ grid.count axis + 1 then .ok (grid.withTrack axis index track)
  else .error (.range (.index axis index (grid.count axis + 1)))

/-- Removes the track at `index`. It may not be the only one of a component, nor in a group. -/
def removeTrackAt (grid : Grid) (axis : Axis) (index : Nat) : Except GridError (Track × Grid) := do
  let track ← (grid.trackAt axis index).mapError .range
  if grid.cells.values.any (·.liesOnlyIn axis index) then throw (.occupied axis index)
  if (grid.groups.along axis).flatten.contains index then throw (.grouped axis index)
  return (track, grid.withoutTrack axis index)

/-! ## Runs of edits -/

inductive Edit where
  | place (key : String) (cell : Cell)
  | displace (key : String)
  | setGroups (axis : Axis) (groups : List (List Nat))
  | appendTrack (axis : Axis) (track : Track)
  | insertTrackAt (axis : Axis) (index : Nat) (track : Track)
  | removeTrackAt (axis : Axis) (index : Nat)

inductive Outcome where
  | none
  | cell (previous : Option Cell)
  | track (removed : Track)
  deriving DecidableEq

def edit (grid : Grid) : Edit → Except GridError (Outcome × Grid)
  | .place key cell => do
    let (previous, grid) ← grid.place key cell
    return (.cell previous, grid)
  | .displace key =>
    let (previous, grid) := grid.displace key
    return (.cell previous, grid)
  | .setGroups axis groups => return (.none, ← grid.setGroups axis groups)
  | .appendTrack axis track => return (.none, grid.appendTrack axis track)
  | .insertTrackAt axis index track => return (.none, ← grid.insertTrackAt axis index track)
  | .removeTrackAt axis index => do
    let (track, grid) ← grid.removeTrackAt axis index
    return (.track track, grid)

/-- The grid after an edit; one that is refused changes nothing. -/
def after (grid : Grid) (edit : Edit) : Grid :=
  match grid.edit edit with
  | .ok (_, grid) => grid
  | .error _ => grid

/-- The grids that edits make of one without components. Memory holds fewer tracks than there are
coordinates, so even the place behind the last track has one. -/
structure Reachable (grid : Grid) : Prop where
  made : ∃ (tracks : PerAxis (List Track)) (edits : List Edit), grid = edits.foldl after { tracks }
  counted : ∀ axis, grid.count axis + 1 < Cell.coordinateLimit

end Grid

end TrackGrid
