import TrackGrid.Proofs.Grid.WellFormed

/-! # Edits write by write

An edit looks at the grid and then writes to it more than once. Here each look and each write is a
step of its own, so that a check behind a write would leave a grid that is changed in part. Main
statement: an edit succeeds exactly when it is allowed, and one that is refused has written nothing.
-/

namespace TrackGrid.Grid

/-! ## The steps of an edit -/

/-- Steps on a grid that may stop with an error; what was written until then stays. -/
abbrev Steps := ExceptT GridError (StateM Grid)

namespace Steps

variable {α β : Type}

def checked (x : Except GridError α) : Steps α := MonadExcept.ofExcept x

def writeTracks (axis : Axis) (f : List Track → List Track) : Steps Unit :=
  modify fun grid => { grid with tracks := grid.tracks.modify axis f }

def writeGroups (axis : Axis) (f : List (List Nat) → List (List Nat)) : Steps Unit :=
  modify fun grid => { grid with groups := grid.groups.modify axis f }

def writeCells (f : Table Cell → Table Cell) : Steps Unit :=
  modify fun grid => { grid with cells := f grid.cells }

def place (key : String) (cell : Cell) : Steps (Option Cell) := do
  checked (cell.check.mapError .cell)
  checked ((cell.checkFits (← get).counts).mapError .range)
  let previous := (← get).cells.get? key
  writeCells (·.insert key cell)
  return previous

def displace (key : String) : Steps (Option Cell) := do
  let previous := (← get).cells.get? key
  writeCells (·.erase key)
  return previous

def setGroups (axis : Axis) (groups : List (List Nat)) : Steps Unit := do
  checked ((← get).checkMembers axis [] groups.flatten)
  writeGroups axis fun _ => groups

def appendTrack (axis : Axis) (track : Track) : Steps Unit := writeTracks axis (· ++ [track])

def insertTrackAt (axis : Axis) (index : Nat) (track : Track) : Steps Unit := do
  let limit := (← get).count axis + 1
  if index = 0 ∨ limit < index then throw (.range (.index axis index limit))
  writeTracks axis (·.insertIdx (index - 1) track)
  writeCells (·.map (·.afterInsert axis index))
  writeGroups axis (·.map (·.map (memberAfterInsert index)))

/-- The track itself goes last, when the cells and the groups have moved. -/
def removeTrackAt (axis : Axis) (index : Nat) : Steps Track := do
  checked (((← get).checkTrack axis index).mapError .range)
  if (← get).cells.values.any (·.liesOnlyIn axis index) then throw (.occupied axis index)
  if ((← get).groups.along axis).flatten.contains index then throw (.grouped axis index)
  writeCells (·.map (·.afterRemove axis index))
  writeGroups axis (·.map (·.map (memberAfterRemove index)))
  let track ← checked (((← get).trackAt axis index).mapError .range)
  writeTracks axis (·.eraseIdx (index - 1))
  return track

def ofEdit : Edit → Steps Outcome
  | .place key cell => return .cell (← place key cell)
  | .displace key => return .cell (← displace key)
  | .setGroups axis groups => do setGroups axis groups; return .none
  | .appendTrack axis track => do appendTrack axis track; return .none
  | .insertTrackAt axis index track => do insertTrackAt axis index track; return .none
  | .removeTrackAt axis index => return .track (← removeTrackAt axis index)

end Steps

/-! ## What steps leave behind -/

/-- What the steps give back, and the grid that they leave behind. -/
def perform {α : Type} (grid : Grid) (steps : Steps α) : Except GridError α × Grid :=
  Id.run (steps.run.run grid)

section

variable {α β : Type} (grid : Grid)

@[simp] theorem perform_get : grid.perform get = (.ok grid, grid) := rfl

@[simp] theorem perform_checked (x : Except GridError α) :
    grid.perform (Steps.checked x) = (x, grid) := by
  cases x <;> rfl

@[simp] theorem perform_writeGroups (axis : Axis) (f : List (List Nat) → List (List Nat)) :
    grid.perform (Steps.writeGroups axis f) =
      (.ok (), { grid with groups := grid.groups.modify axis f }) := rfl

@[simp] theorem perform_writeCells (f : Table Cell → Table Cell) :
    grid.perform (Steps.writeCells f) = (.ok (), { grid with cells := f grid.cells }) := rfl

theorem perform_bind (steps : Steps α) (next : α → Steps β) :
    grid.perform (steps >>= next) =
      match grid.perform steps with
      | (.ok a, after) => after.perform (next a)
      | (.error error, after) => (.error error, after) := by
  unfold perform
  rw [ExceptT.run_bind, StateT.run_bind, Id.run_bind]
  rcases steps.run.run grid with ⟨error | a, after⟩ <;> rfl

theorem perform_bind_checked (x : Except GridError α) (next : α → Steps β) :
    grid.perform (Steps.checked x >>= next) =
      match x with
      | .ok a => grid.perform (next a)
      | .error error => (.error error, grid) := by
  rw [perform_bind, perform_checked]
  cases x <;> rfl

end

/-! ## Each edit -/

/-- A result with its grid, or an error with the grid as it was. -/
def orKept {α : Type} (grid : Grid) : Except GridError (α × Grid) → Except GridError α × Grid
  | .ok (a, after) => (.ok a, after)
  | .error error => (.error error, grid)

section

variable (grid : Grid)

theorem perform_place (key : String) (cell : Cell) :
    grid.perform (Steps.place key cell) = grid.orKept (grid.place key cell) := by
  unfold Steps.place place
  rw [perform_bind_checked]
  cases cell.check with
  | error error => rfl
  | ok =>
    simp only [mapError_ok, ok_bind, perform_bind, perform_get, perform_checked]
    cases cell.checkFits grid.counts <;> rfl

theorem perform_setGroups (axis : Axis) (groups : List (List Nat)) :
    grid.perform (Steps.setGroups axis groups) =
      grid.orKept ((grid.setGroups axis groups).map ((), ·)) := by
  unfold Steps.setGroups setGroups
  simp only [perform_bind, perform_get, perform_checked]
  cases grid.checkMembers axis [] groups.flatten <;> rfl

theorem perform_insertTrackAt (axis : Axis) (index : Nat) (track : Track) :
    grid.perform (Steps.insertTrackAt axis index track) =
      grid.orKept ((grid.insertTrackAt axis index track).map ((), ·)) := by
  unfold Steps.insertTrackAt insertTrackAt
  simp only [perform_bind, perform_get]
  by_cases h : 1 ≤ index ∧ index ≤ grid.count axis + 1
  · rw [if_neg (by omega), if_pos h]
    simp [perform_bind]
    rfl
  · rw [if_pos (by omega), if_neg h]
    rfl

theorem perform_removeTrackAt (axis : Axis) (index : Nat) :
    grid.perform (Steps.removeTrackAt axis index) =
      grid.orKept (grid.removeTrackAt axis index) := by
  unfold Steps.removeTrackAt removeTrackAt
  simp only [perform_bind, perform_get, perform_checked]
  by_cases hb : 1 ≤ index ∧ index ≤ grid.count axis
  · obtain ⟨track, htrack⟩ := exists_trackAt hb.1 hb.2
    rw [checkTrack_eq_ok_iff.2 hb, htrack]
    simp only [mapError_ok, ok_bind]
    cases honly : grid.cells.values.any (·.liesOnlyIn axis index) with
    | true => rfl
    | false =>
      simp only [Bool.false_eq_true, if_false, perform_bind, perform_get]
      cases hgroup : (grid.groups.along axis).flatten.contains index with
      | true => rfl
      | false =>
        -- The writes to the cells and the groups leave the track where it is.
        have hkept : Grid.trackAt { grid with
            cells := grid.cells.map (·.afterRemove axis index),
            groups := grid.groups.modify axis (·.map (·.map (memberAfterRemove index))) }
              axis index = .ok track := htrack
        simp only [Bool.false_eq_true, if_false, perform_bind, perform_get, perform_writeCells,
          perform_writeGroups, perform_checked, hkept]
        rfl
  · unfold trackAt checkTrack
    rw [if_neg hb]
    rfl

/-- Step by step, an edit gives back what it gives back at once and leaves the same grid; a refused
one leaves the grid as it was. -/
theorem perform_ofEdit (edit : Edit) :
    grid.perform (Steps.ofEdit edit) = grid.orKept (grid.edit edit) := by
  cases edit with
  | place key cell =>
    change grid.perform (Steps.place key cell >>= _) = grid.orKept (grid.place key cell >>= _)
    rw [perform_bind, perform_place]
    cases grid.place key cell <;> rfl
  | displace key => rfl
  | setGroups axis groups =>
    change grid.perform (Steps.setGroups axis groups >>= _) =
      grid.orKept (grid.setGroups axis groups >>= _)
    rw [perform_bind, perform_setGroups]
    cases grid.setGroups axis groups <;> rfl
  | appendTrack axis track => rfl
  | insertTrackAt axis index track =>
    change grid.perform (Steps.insertTrackAt axis index track >>= _) =
      grid.orKept (grid.insertTrackAt axis index track >>= _)
    rw [perform_bind, perform_insertTrackAt]
    cases grid.insertTrackAt axis index track <;> rfl
  | removeTrackAt axis index =>
    change grid.perform (Steps.removeTrackAt axis index >>= _) =
      grid.orKept (grid.removeTrackAt axis index >>= _)
    rw [perform_bind, perform_removeTrackAt]
    cases grid.removeTrackAt axis index <;> rfl

end

/-! ## What is allowed -/

/-- An edit of a component asks for a cell among the tracks, one of the groups for tracks that are
listed once, and a track comes in among the others or behind them. A track can go unless a component
lies in it alone or a group has it. -/
def Allows (grid : Grid) : Edit → Prop
  | .place _ cell => ∀ axis, cell.FitsIn axis (grid.count axis)
  | .displace _ => True
  | .setGroups axis groups =>
    (∀ group ∈ groups, ∀ index ∈ group, 1 ≤ index ∧ index ≤ grid.count axis) ∧
      (∀ group ∈ groups, group.Nodup) ∧ groups.Pairwise List.Disjoint
  | .appendTrack _ _ => True
  | .insertTrackAt axis index _ => 1 ≤ index ∧ index ≤ grid.count axis + 1
  | .removeTrackAt axis index =>
    (1 ≤ index ∧ index ≤ grid.count axis) ∧
      (∀ cell ∈ grid.cells.values,
        ¬ (cell.start.along axis = index ∧ cell.span.along axis = 1)) ∧
      ∀ group ∈ grid.groups.along axis, index ∉ group

variable {grid : Grid}

theorem Reachable.checks_iff_fitsIn (h : grid.Reachable) {cell : Cell} :
    cell.check = .ok () ∧ cell.checkFits grid.counts = .ok () ↔
      ∀ axis, cell.FitsIn axis (grid.count axis) := by
  constructor
  · rintro ⟨hcheck, hfits⟩ axis
    rw [← along_counts]
    exact Cell.fitsIn_of_checks hcheck hfits axis
  · intro hfits
    refine ⟨Cell.check_eq_ok_iff.2 fun axis => ?_, Cell.checkFits_eq_ok_iff.2 fun axis => ?_⟩
    · exact ⟨(hfits axis).start_pos, (hfits axis).span_pos, (hfits axis).legal⟩
    · have hstop := (hfits axis).stop_le
      have hcounted := h.counted axis
      rw [along_counts]
      omega

theorem Reachable.exists_edit_eq_ok_iff (h : grid.Reachable) (edit : Edit) :
    (∃ outcome after, grid.edit edit = .ok (outcome, after)) ↔ grid.Allows edit := by
  cases edit with
  | place key cell =>
    rw [Allows, ← h.checks_iff_fitsIn, Grid.edit, exists_bind_pure_eq_ok_iff]
    constructor
    · rintro ⟨⟨previous, after⟩, hplace⟩
      obtain ⟨hcheck, hfits, -⟩ := place_eq_ok_iff.1 hplace
      exact ⟨hcheck, hfits⟩
    · rintro ⟨hcheck, hfits⟩
      exact ⟨(_, _), place_eq_ok_iff.2 ⟨hcheck, hfits, rfl, rfl⟩⟩
  | displace key => simp [Grid.edit, Allows]
  | setGroups axis groups =>
    rw [Allows, ← List.nodup_flatten, ← List.forall_mem_flatten, Grid.edit,
      exists_bind_pure_eq_ok_iff]
    simp only [setGroups_eq_ok_iff, exists_and_left, exists_eq, and_true]
  | appendTrack axis track => simp [Grid.edit, Allows]
  | insertTrackAt axis index track =>
    rw [Allows, Grid.edit, exists_bind_pure_eq_ok_iff]
    simp only [insertTrackAt_eq_ok_iff, exists_and_left, exists_eq, and_true]
  | removeTrackAt axis index =>
    rw [Allows, Grid.edit, exists_bind_pure_eq_ok_iff]
    constructor
    · rintro ⟨⟨track, after⟩, hremove⟩
      obtain ⟨htrack, honly, hgroup, -⟩ := removeTrackAt_eq_ok_iff.1 hremove
      refine ⟨bounds_of_trackAt htrack, ?_, ?_⟩
      · intro cell hcell
        simpa [Cell.liesOnlyIn] using honly cell hcell
      · simpa using hgroup
    · rintro ⟨hbounds, honly, hgroup⟩
      obtain ⟨track, htrack⟩ := exists_trackAt hbounds.1 hbounds.2
      refine ⟨(track, _), removeTrackAt_eq_ok_iff.2 ⟨htrack, ?_, ?_, rfl⟩⟩
      · intro cell hcell
        simpa [Cell.liesOnlyIn] using honly cell hcell
      · simpa using hgroup

/-! ## What an edit of a component changes -/

/-- The key whose cell an edit sets, and the cell that it has afterwards. -/
def Edit.entry? : Edit → Option (String × Option Cell)
  | .place key cell => some (key, some cell)
  | .displace key => some (key, none)
  | _ => none

/-- Nothing but the cell of one key differs; the other cells keep their order, too. -/
structure SameButCell (key : String) (grid after : Grid) : Prop where
  tracks : after.tracks = grid.tracks
  groups : after.groups = grid.groups
  others : after.cells.entries.filter (·.1 ≠ key) = grid.cells.entries.filter (·.1 ≠ key)

theorem entry_of_edit {edit : Edit} {outcome : Outcome} {after : Grid} {key : String}
    {cell? : Option Cell} (h : grid.edit edit = .ok (outcome, after))
    (hentry : edit.entry? = some (key, cell?)) :
    outcome = .cell (grid.cells.get? key) ∧ after.cells.get? key = cell? ∧
      SameButCell key grid after := by
  cases edit with
  | place placed cell =>
    cases hentry
    obtain ⟨⟨previous, next⟩, hplace, hresult⟩ := bind_eq_ok_iff.1 h
    cases hresult
    obtain ⟨-, -, rfl, rfl⟩ := place_eq_ok_iff.1 hplace
    exact ⟨rfl, Table.get?_insert_self .., rfl, rfl, Table.others_insert ..⟩
  | displace displaced =>
    cases hentry
    cases h
    exact ⟨rfl, Table.get?_erase_self .., rfl, rfl, Table.others_erase ..⟩
  | setGroups | appendTrack | insertTrackAt | removeTrackAt => cases hentry

/-- An edit succeeds exactly when it is allowed. One that is refused has written nothing, wherever
in its steps it stopped. One that sets the cell of a component, or takes it away, gives back the
cell that the component had and changes nothing else. -/
theorem edit_all_or_nothing (h : grid.Reachable) (edit : Edit) :
    ((∃ outcome after, grid.edit edit = .ok (outcome, after)) ↔ grid.Allows edit) ∧
      (∀ error, grid.edit edit = .error error →
        grid.perform (Steps.ofEdit edit) = (.error error, grid)) ∧
      ∀ outcome after, grid.edit edit = .ok (outcome, after) →
        grid.perform (Steps.ofEdit edit) = (.ok outcome, after) ∧
          ∀ key cell?, edit.entry? = some (key, cell?) →
            outcome = .cell (grid.cells.get? key) ∧ after.cells.get? key = cell? ∧
              SameButCell key grid after := by
  refine ⟨h.exists_edit_eq_ok_iff edit, fun error herror => ?_, fun outcome after hedit => ?_⟩
  · rw [perform_ofEdit, herror]
    rfl
  · rw [perform_ofEdit, hedit]
    exact ⟨rfl, fun _ _ hentry => entry_of_edit hedit hentry⟩

/-- The field can move to the first column. The last column, in which it lies alone, cannot go. -/
theorem sample_all_or_nothing :
    sample.Reachable ∧
      (∃ after, sample.edit (.place "field" { start := ⟨1, 2⟩ }) =
          .ok (.cell (some { start := ⟨3, 2⟩ }), after) ∧ SameButCell "field" sample after) ∧
      ¬ sample.Allows (.removeTrackAt .horizontal 3) ∧
      sample.perform (Steps.ofEdit (.removeTrackAt .horizontal 3)) =
        (.error (.occupied .horizontal 3), sample) := by
  obtain ⟨-, -, hplace⟩ := edit_all_or_nothing reachable_sample (.place "field" { start := ⟨1, 2⟩ })
  obtain ⟨hallowed, hrefused, -⟩ :=
    edit_all_or_nothing reachable_sample (.removeTrackAt .horizontal 3)
  refine ⟨reachable_sample, ⟨_, rfl, ?_⟩, fun hallows => ?_, hrefused _ rfl⟩
  · exact ((hplace _ _ rfl).2 _ _ rfl).2.2
  · obtain ⟨outcome, after, hedit⟩ := hallowed.2 hallows
    cases hedit

end TrackGrid.Grid
