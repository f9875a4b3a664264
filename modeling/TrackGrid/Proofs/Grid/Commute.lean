import TrackGrid.Proofs.Grid.WellFormed

/-! # Edits of columns beside edits of rows

An edit of the tracks of one axis looks at what the grid has along this axis, and changes nothing
else. Main statement: an edit of the columns and one of the rows give the same results in either
order, refusals included, and the same grid in the end.
-/

namespace TrackGrid

/-! ## Changes along an axis -/

theorem PerAxis.modify_comm {α : Type} (p : PerAxis α) {axis other : Axis} (h : axis ≠ other)
    (f g : α → α) : (p.modify axis f).modify other g = (p.modify other g).modify axis f := by
  cases axis <;> cases other <;> first | rfl | exact absurd rfl h

/-- The cell with another start and span along an axis. -/
def Cell.moveAlong (cell : Cell) (axis : Axis) (f : Nat → Nat → Nat × Nat) : Cell :=
  { cell with
    start := cell.start.set axis (f (cell.start.along axis) (cell.span.along axis)).1
    span := cell.span.set axis (f (cell.start.along axis) (cell.span.along axis)).2 }

theorem Cell.moveAlong_comm (cell : Cell) {axis other : Axis} (h : axis ≠ other)
    (f g : Nat → Nat → Nat × Nat) :
    (cell.moveAlong axis f).moveAlong other g = (cell.moveAlong other g).moveAlong axis f := by
  cases axis <;> cases other <;> first | rfl | exact absurd rfl h

theorem Cell.afterInsert_eq_moveAlong (cell : Cell) (axis : Axis) (index : Nat) :
    cell.afterInsert axis index = cell.moveAlong axis fun start span =>
      if index ≤ start then (start + 1, span)
      else if index < start + span then (start, span + 1)
      else (start, span) := by
  unfold afterInsert moveAlong stop
  dsimp only
  split_ifs <;> cases axis <;> rfl

theorem Cell.afterRemove_eq_moveAlong (cell : Cell) (axis : Axis) (index : Nat) :
    cell.afterRemove axis index = cell.moveAlong axis fun start span =>
      if index < start then (start - 1, span)
      else if index < start + span then (start, span - 1)
      else (start, span) := by
  unfold afterRemove moveAlong stop
  dsimp only
  split_ifs <;> cases axis <;> rfl

theorem Cell.moveAlong_same (cell : Cell) (axis : Axis) : cell.moveAlong axis Prod.mk = cell := by
  cases axis <;> rfl

namespace Grid

/-- What becomes of the tracks and the groups of an axis, and of the start and the span of the cells
along it. -/
structure Change where
  tracks : List Track → List Track := id
  groups : List (List Nat) → List (List Nat) := id
  place : Nat → Nat → Nat × Nat := Prod.mk

def change (grid : Grid) (axis : Axis) (c : Change) : Grid where
  tracks := grid.tracks.modify axis c.tracks
  groups := grid.groups.modify axis c.groups
  cells := grid.cells.map (·.moveAlong axis c.place)

theorem change_comm (grid : Grid) {axis other : Axis} (h : axis ≠ other) (c d : Change) :
    (grid.change axis c).change other d = (grid.change other d).change axis c := by
  simp [change, PerAxis.modify_comm _ h, Table.map, Cell.moveAlong_comm _ h]

/-! ## Edits of one axis -/

/-- The axis whose tracks or groups an edit changes, if it is one. -/
def Edit.axis? : Edit → Option Axis
  | .place _ _ => none
  | .displace _ => none
  | .setGroups axis _ => some axis
  | .appendTrack axis _ => some axis
  | .insertTrackAt axis _ _ => some axis
  | .removeTrackAt axis _ => some axis

/-- What an edit of an axis does if it is accepted. -/
def Edit.change : Edit → Change
  | .place _ _ => {}
  | .displace _ => {}
  | .setGroups _ groups => { groups := fun _ => groups }
  | .appendTrack _ track => { tracks := (· ++ [track]) }
  | .insertTrackAt _ index track =>
    { tracks := (·.insertIdx (index - 1) track)
      groups := (·.map (·.map (memberAfterInsert index)))
      place := fun start span =>
        if index ≤ start then (start + 1, span)
        else if index < start + span then (start, span + 1)
        else (start, span) }
  | .removeTrackAt _ index =>
    { tracks := (·.eraseIdx (index - 1))
      groups := (·.map (·.map (memberAfterRemove index)))
      place := fun start span =>
        if index < start then (start - 1, span)
        else if index < start + span then (start, span - 1)
        else (start, span) }

/-- What an edit gives back, or why it is refused. -/
def result (grid : Grid) (edit : Edit) : Except GridError Outcome := (grid.edit edit).map (·.1)

variable {grid other : Grid} {axis : Axis} {edit : Edit}

theorem after_of_result_error {error : GridError} (h : grid.result edit = .error error) :
    grid.after edit = grid := by
  unfold result at h
  unfold after
  cases hedit : grid.edit edit with
  | error => rfl
  | ok next =>
    rw [hedit] at h
    cases h

theorem edit_of_result_ok {outcome : Outcome} (h : grid.result edit = .ok outcome) :
    grid.edit edit = .ok (outcome, grid.after edit) := by
  unfold result at h
  unfold after
  cases hedit : grid.edit edit with
  | error error =>
    rw [hedit] at h
    cases h
  | ok next =>
    rw [hedit] at h
    cases h
    rfl

theorem change_of_place {c : Change} (h : c.place = Prod.mk) :
    grid.change axis c =
      { grid with
        tracks := grid.tracks.modify axis c.tracks
        groups := grid.groups.modify axis c.groups } := by
  unfold change Table.map
  simp [h, Cell.moveAlong_same]

theorem withTrack_eq_change (index : Nat) (track : Track) :
    grid.withTrack axis index track =
      grid.change axis (Edit.insertTrackAt axis index track).change := by
  unfold withTrack change
  simp only [Cell.afterInsert_eq_moveAlong]
  rfl

theorem withoutTrack_eq_change (index : Nat) :
    grid.withoutTrack axis index = grid.change axis (Edit.removeTrackAt axis index).change := by
  unfold withoutTrack change
  simp only [Cell.afterRemove_eq_moveAlong]
  rfl

theorem eq_change_of_edit {outcome : Outcome} {next : Grid} (haxis : edit.axis? = some axis)
    (h : grid.edit edit = .ok (outcome, next)) : next = grid.change axis edit.change := by
  cases edit with
  | place | displace => cases haxis
  | setGroups axis groups =>
    cases haxis
    obtain ⟨_, hnext, hresult⟩ := bind_eq_ok_iff.1 h
    cases hresult
    obtain ⟨-, -, rfl⟩ := setGroups_eq_ok_iff.1 hnext
    rw [change_of_place rfl]
    cases axis <;> rfl
  | appendTrack axis track =>
    cases haxis
    cases h
    rw [change_of_place rfl]
    cases axis <;> rfl
  | insertTrackAt axis index track =>
    cases haxis
    obtain ⟨_, hnext, hresult⟩ := bind_eq_ok_iff.1 h
    cases hresult
    obtain ⟨-, rfl⟩ := insertTrackAt_eq_ok_iff.1 hnext
    exact withTrack_eq_change index track
  | removeTrackAt axis index =>
    cases haxis
    obtain ⟨⟨_, _⟩, hnext, hresult⟩ := bind_eq_ok_iff.1 h
    cases hresult
    obtain ⟨-, -, -, rfl⟩ := removeTrackAt_eq_ok_iff.1 hnext
    exact withoutTrack_eq_change index

theorem after_eq_of_axis (grid : Grid) (haxis : edit.axis? = some axis) :
    grid.after edit =
      if (grid.result edit).isOk then grid.change axis edit.change else grid := by
  cases h : grid.result edit with
  | error error => exact after_of_result_error h
  | ok outcome => exact eq_change_of_edit haxis (edit_of_result_ok h)

/-! ## What an edit of an axis looks at -/

/-- Both grids have the same along an axis. -/
structure AgreeAlong (axis : Axis) (grid other : Grid) : Prop where
  tracks : other.tracks.along axis = grid.tracks.along axis
  groups : other.groups.along axis = grid.groups.along axis
  cells : other.cells.values.map (fun cell => (cell.start.along axis, cell.span.along axis)) =
    grid.cells.values.map (fun cell => (cell.start.along axis, cell.span.along axis))

theorem agreeAlong_change (grid : Grid) {axis other : Axis} (h : axis ≠ other) (c : Change) :
    AgreeAlong other grid (grid.change axis c) where
  tracks := PerAxis.along_modify_of_ne _ _ h.symm
  groups := PerAxis.along_modify_of_ne _ _ h.symm
  cells := by
    unfold change
    rw [Table.values_map, List.map_map]
    apply List.map_congr_left
    intro cell _
    unfold Cell.moveAlong
    simp only [Function.comp_apply, PerAxis.along_set_of_ne _ _ h.symm]

namespace AgreeAlong

variable (h : AgreeAlong axis grid other)

include h

theorem count_eq : other.count axis = grid.count axis := by
  unfold count
  rw [h.tracks]

theorem checkTrack_eq (index : Nat) :
    other.checkTrack axis index = grid.checkTrack axis index := by
  unfold checkTrack
  rw [h.count_eq]

theorem trackAt_eq (index : Nat) : other.trackAt axis index = grid.trackAt axis index := by
  unfold trackAt
  rw [h.checkTrack_eq, h.tracks, h.count_eq]

theorem checkMembers_eq (seen members : List Nat) :
    other.checkMembers axis seen members = grid.checkMembers axis seen members := by
  induction members generalizing seen with
  | nil => rfl
  | cons index rest ih =>
    unfold checkMembers
    simp only [h.checkTrack_eq, ih]

theorem any_liesOnlyIn_eq (index : Nat) :
    other.cells.values.any (·.liesOnlyIn axis index) =
      grid.cells.values.any (·.liesOnlyIn axis index) := by
  have hcells := congrArg (List.any · fun p => decide (p.1 = index) && decide (p.2 = 1)) h.cells
  rwa [List.any_map, List.any_map] at hcells

theorem result_eq (haxis : edit.axis? = some axis) : other.result edit = grid.result edit := by
  unfold result
  cases edit with
  | place | displace => cases haxis
  | setGroups axis groups =>
    cases haxis
    simp only [Grid.edit, setGroups, h.checkMembers_eq]
    cases grid.checkMembers axis [] groups.flatten <;> rfl
  | appendTrack axis track => rfl
  | insertTrackAt axis index track =>
    cases haxis
    simp only [Grid.edit, insertTrackAt, h.count_eq]
    split <;> rfl
  | removeTrackAt axis index =>
    cases haxis
    simp only [Grid.edit, removeTrackAt, h.trackAt_eq, h.any_liesOnlyIn_eq, h.groups]
    cases grid.trackAt axis index with
    | error error => rfl
    | ok track =>
      cases grid.cells.values.any (·.liesOnlyIn axis index) with
      | true => rfl
      | false =>
        cases (grid.groups.along axis).flatten.contains index <;> rfl

end AgreeAlong

theorem agreeAlong_after (grid : Grid) {axis other : Axis} (h : axis ≠ other)
    (haxis : edit.axis? = some axis) : AgreeAlong other grid (grid.after edit) := by
  rw [after_eq_of_axis grid haxis]
  split
  · exact agreeAlong_change grid h edit.change
  · exact ⟨rfl, rfl, rfl⟩

/-- An edit of the columns and one of the rows may trade places: each of them gives back the same,
or is refused for the same reason, and the grid is the same in the end. -/
theorem edits_commute (grid : Grid) {column row : Edit} (hcolumn : column.axis? = some .horizontal)
    (hrow : row.axis? = some .vertical) :
    (grid.after row).result column = grid.result column ∧
      (grid.after column).result row = grid.result row ∧
      (grid.after column).after row = (grid.after row).after column := by
  have hne : Axis.horizontal ≠ Axis.vertical := by decide
  have hsame := (agreeAlong_after grid hne.symm hrow).result_eq hcolumn
  have hsame' := (agreeAlong_after grid hne hcolumn).result_eq hrow
  refine ⟨hsame, hsame', ?_⟩
  rw [after_eq_of_axis (grid.after column) hrow, after_eq_of_axis (grid.after row) hcolumn, hsame,
    hsame', after_eq_of_axis grid hcolumn, after_eq_of_axis grid hrow]
  cases (grid.result column).isOk <;> cases (grid.result row).isOk
  · rfl
  · rfl
  · rfl
  · exact change_comm grid hne column.change row.change

/-- The last column cannot go, before and after a row comes in between title and label. -/
theorem sample_edits_commute :
    (Edit.removeTrackAt .horizontal 3).axis? = some .horizontal ∧
      (Edit.insertTrackAt .vertical 2 (.glue .vertical)).axis? = some .vertical ∧
      (sample.after (.insertTrackAt .vertical 2 (.glue .vertical))).result
        (.removeTrackAt .horizontal 3) = .error (.occupied .horizontal 3) ∧
      (sample.after (.removeTrackAt .horizontal 3)).result
        (.insertTrackAt .vertical 2 (.glue .vertical)) = .ok .none := by
  have hcolumn : (Edit.removeTrackAt .horizontal 3).axis? = some .horizontal := rfl
  have hrow : (Edit.insertTrackAt .vertical 2 (.glue .vertical)).axis? = some .vertical := rfl
  obtain ⟨hremove, hinsert, -⟩ := edits_commute sample hcolumn hrow
  exact ⟨hcolumn, hrow, hremove, hinsert⟩

end Grid

end TrackGrid
