import TrackGrid.Proofs.Grid.Edit
import TrackGrid.Proofs.Grid.Moves

/-! # What every run of edits keeps

No edit, and no refused one either, leaves a component outside of the tracks, a group with a member
that is no track, or a track in two groups.
-/

namespace TrackGrid

/-! ## Cells among tracks -/

/-- The cell covers tracks of the axis, none behind the first `count`, and its alignment belongs
to the axis. -/
structure Cell.FitsIn (cell : Cell) (axis : Axis) (count : Nat) : Prop where
  start_pos : 1 ≤ cell.start.along axis
  span_pos : 1 ≤ cell.span.along axis
  last_le : cell.start.along axis + cell.span.along axis - 1 ≤ count
  legal : (cell.alignment.along axis).legalOn axis = true

namespace Cell.FitsIn

variable {cell other : Cell} {axis : Axis} {count : Nat}

theorem stop_le (h : cell.FitsIn axis count) : cell.stop axis ≤ count + 1 := by
  have := h.last_le
  simp only [stop]
  omega

theorem first_lt (h : cell.FitsIn axis count) : cell.start.along axis - 1 < count := by
  have := h.start_pos
  have := h.span_pos
  have := h.last_le
  omega

theorem mono {more : Nat} (h : cell.FitsIn axis count) (hle : count ≤ more) :
    cell.FitsIn axis more :=
  { h with last_le := Nat.le_trans h.last_le hle }

theorem of_agreeOff {edited : Axis} (h : cell.FitsIn axis count) (hne : axis ≠ edited)
    (ha : AgreeOff edited cell other) : other.FitsIn axis count where
  start_pos := by rw [ha.start axis hne]; exact h.start_pos
  span_pos := by rw [ha.span axis hne]; exact h.span_pos
  last_le := by rw [ha.start axis hne, ha.span axis hne]; exact h.last_le
  legal := by rw [ha.alignment]; exact h.legal

theorem afterInsert (h : cell.FitsIn axis count) (index : Nat) :
    (cell.afterInsert axis index).FitsIn axis (count + 1) := by
  obtain ⟨hs, hw, hl, ha⟩ := h
  refine ⟨?_, ?_, ?_, by rw [(agreeOff_afterInsert cell axis index).alignment]; exact ha⟩
  · rw [start_afterInsert]
    split_ifs <;> omega
  · rw [span_afterInsert]
    split_ifs <;> omega
  · -- A cell that starts behind the new track moves; only one that straddles it grows.
    rw [start_afterInsert, span_afterInsert]
    split_ifs <;> omega

theorem afterRemove (h : cell.FitsIn axis count) {index : Nat} (hpos : 1 ≤ index)
    (hle : index ≤ count) (honly : cell.liesOnlyIn axis index = false) :
    (cell.afterRemove axis index).FitsIn axis (count - 1) := by
  obtain ⟨hs, hw, hl, ha⟩ := h
  simp only [liesOnlyIn, Bool.and_eq_false_iff, decide_eq_false_iff_not] at honly
  have hstop : cell.stop axis = cell.start.along axis + cell.span.along axis := rfl
  refine ⟨?_, ?_, ?_, by rw [(agreeOff_afterRemove cell axis index).alignment]; exact ha⟩
  · rw [start_afterRemove]
    split_ifs <;> omega
  · -- A cell of one track at `index` was refused, so what shrinks has two tracks at least.
    rw [span_afterRemove]
    split_ifs <;> omega
  · rw [start_afterRemove, span_afterRemove]
    split_ifs <;> omega

end Cell.FitsIn

theorem Cell.fitsIn_of_checks {cell : Cell} {counts : PerAxis Nat} (hc : cell.check = .ok ())
    (hf : cell.checkFits counts = .ok ()) (axis : Axis) :
    cell.FitsIn axis (counts.along axis) := by
  obtain ⟨hs, hw, ha⟩ := check_eq_ok_iff.1 hc axis
  obtain ⟨-, hle⟩ := checkFits_eq_ok_iff.1 hf axis
  simp only [stop] at hle
  exact ⟨hs, hw, by omega, ha⟩

/-! ## Well-formed grids -/

namespace Grid

/-- One axis of a grid is in order. -/
structure WellFormedAlong (grid : Grid) (axis : Axis) : Prop where
  cells : ∀ cell ∈ grid.cells.values, cell.FitsIn axis (grid.count axis)
  members : ∀ member ∈ (grid.groups.along axis).flatten, 1 ≤ member ∧ member ≤ grid.count axis
  nodup : (grid.groups.along axis).flatten.Nodup

def WellFormed (grid : Grid) : Prop := ∀ axis, grid.WellFormedAlong axis

theorem wellFormed_ofTracks (tracks : PerAxis (List Track)) : WellFormed { tracks } := by
  intro axis
  refine ⟨?_, ?_, ?_⟩
  · intro cell hcell
    cases hcell
  · simp
  · simp

variable {grid : Grid}

/-! ### Components -/

theorem wellFormed_insert (h : grid.WellFormed) (key : String) {cell : Cell}
    (hcell : ∀ axis, cell.FitsIn axis (grid.count axis)) :
    WellFormed { grid with cells := grid.cells.insert key cell } := by
  intro axis
  refine ⟨?_, (h axis).members, (h axis).nodup⟩
  intro other hother
  rcases Table.mem_values_insert hother with rfl | hold
  · exact hcell axis
  · exact (h axis).cells other hold

theorem wellFormed_displace (h : grid.WellFormed) (key : String) :
    (grid.displace key).2.WellFormed := by
  intro axis
  refine ⟨?_, (h axis).members, (h axis).nodup⟩
  intro cell hcell
  exact (h axis).cells cell (Table.mem_values_erase hcell)

/-! ### Groups -/

theorem wellFormed_setGroups (h : grid.WellFormed) {axis : Axis} {groups : List (List Nat)}
    (hm : ∀ member ∈ groups.flatten, 1 ≤ member ∧ member ≤ grid.count axis)
    (hnd : groups.flatten.Nodup) :
    WellFormed { grid with groups := grid.groups.set axis groups } := by
  intro other
  by_cases ho : other = axis
  · subst ho
    refine ⟨(h other).cells, ?_, ?_⟩
    · rwa [PerAxis.along_set_self]
    · rwa [PerAxis.along_set_self]
  · refine ⟨(h other).cells, ?_, ?_⟩
    · rw [PerAxis.along_set_of_ne _ _ ho]
      exact (h other).members
    · rw [PerAxis.along_set_of_ne _ _ ho]
      exact (h other).nodup

/-! ### Tracks -/

theorem wellFormed_appendTrack (h : grid.WellFormed) (axis : Axis) (track : Track) :
    (grid.appendTrack axis track).WellFormed := by
  intro other
  have hle : grid.count other ≤ (grid.appendTrack axis track).count other := by
    by_cases ho : other = axis
    · subst ho
      simp [count, appendTrack]
    · simp [count, appendTrack, PerAxis.along_modify_of_ne _ _ ho]
  refine ⟨?_, ?_, (h other).nodup⟩
  · intro cell hcell
    exact ((h other).cells cell hcell).mono hle
  · intro member hmember
    have := (h other).members member hmember
    omega

theorem WellFormedAlong.of_agreeOff {after : Grid} {axis other : Axis}
    (h : grid.WellFormedAlong other) (hne : other ≠ axis)
    (htracks : after.tracks.along other = grid.tracks.along other)
    (hgroups : after.groups.along other = grid.groups.along other) {move : Cell → Cell}
    (hcells : after.cells = grid.cells.map move)
    (hmove : ∀ cell, Cell.AgreeOff axis cell (move cell)) :
    after.WellFormedAlong other := by
  have hcount : after.count other = grid.count other := by simp only [count, htracks]
  refine ⟨?_, ?_, ?_⟩
  · intro cell hcell
    rw [hcells, Table.values_map] at hcell
    obtain ⟨old, hold, rfl⟩ := List.mem_map.1 hcell
    rw [hcount]
    exact (h.cells old hold).of_agreeOff hne (hmove old)
  · rw [hgroups, hcount]
    exact h.members
  · rw [hgroups]
    exact h.nodup

theorem wellFormed_withTrack (h : grid.WellFormed) {axis : Axis} {index : Nat}
    (hle : index ≤ grid.count axis + 1) (track : Track) :
    (grid.withTrack axis index track).WellFormed := by
  intro other
  by_cases ho : other = axis
  · subst ho
    refine ⟨?_, ?_, ?_⟩
    · intro cell hcell
      rw [cells_withTrack, Table.values_map, List.mem_map] at hcell
      obtain ⟨old, hold, rfl⟩ := hcell
      rw [count_withTrack grid other index track hle]
      exact ((h other).cells old hold).afterInsert index
    · intro member hmember
      rw [flatten_groups_withTrack] at hmember
      obtain ⟨old, hold, rfl⟩ := List.mem_map.1 hmember
      have := (h other).members old hold
      rw [count_withTrack grid other index track hle]
      unfold memberAfterInsert
      split_ifs <;> omega
    · rw [flatten_groups_withTrack]
      exact (h other).nodup.map (memberAfterInsert_injective index)
  · exact (h other).of_agreeOff ho (PerAxis.along_modify_of_ne _ _ ho)
      (PerAxis.along_modify_of_ne _ _ ho) rfl (Cell.agreeOff_afterInsert · axis index)

theorem wellFormed_withoutTrack (h : grid.WellFormed) {axis : Axis} {index : Nat}
    (hpos : 1 ≤ index) (hle : index ≤ grid.count axis)
    (honly : ∀ cell ∈ grid.cells.values, cell.liesOnlyIn axis index = false)
    (hgroup : index ∉ (grid.groups.along axis).flatten) :
    (grid.withoutTrack axis index).WellFormed := by
  intro other
  by_cases ho : other = axis
  · subst ho
    have hne : ∀ member ∈ (grid.groups.along other).flatten, member ≠ index :=
      fun member hm he => hgroup (he ▸ hm)
    refine ⟨?_, ?_, ?_⟩
    · intro cell hcell
      rw [cells_withoutTrack, Table.values_map, List.mem_map] at hcell
      obtain ⟨old, hold, rfl⟩ := hcell
      rw [count_withoutTrack grid other index hpos hle]
      exact ((h other).cells old hold).afterRemove hpos hle (honly old hold)
    · intro member hmember
      rw [flatten_groups_withoutTrack] at hmember
      obtain ⟨old, hold, rfl⟩ := List.mem_map.1 hmember
      have := (h other).members old hold
      have := hne old hold
      rw [count_withoutTrack grid other index hpos hle]
      unfold memberAfterRemove
      split_ifs <;> omega
    · rw [flatten_groups_withoutTrack]
      exact (h other).nodup.map_on fun a ha b hb hab =>
        memberAfterRemove_inj (hne a ha) (hne b hb) hab
  · exact (h other).of_agreeOff ho (PerAxis.along_modify_of_ne _ _ ho)
      (PerAxis.along_modify_of_ne _ _ ho) rfl (Cell.agreeOff_afterRemove · axis index)

/-! ## Runs of edits -/

theorem wellFormed_edit (h : grid.WellFormed) {edit : Edit} {outcome : Outcome} {next : Grid}
    (he : grid.edit edit = .ok (outcome, next)) : next.WellFormed := by
  cases edit with
  | place key cell =>
    obtain ⟨⟨previous, after⟩, hp, hr⟩ := bind_eq_ok_iff.1 he
    cases hr
    obtain ⟨hc, hf, -, rfl⟩ := place_eq_ok_iff.1 hp
    refine wellFormed_insert h key fun axis => ?_
    rw [← along_counts]
    exact Cell.fitsIn_of_checks hc hf axis
  | displace key =>
    cases he
    exact wellFormed_displace h key
  | setGroups axis groups =>
    obtain ⟨after, hs, hr⟩ := bind_eq_ok_iff.1 he
    cases hr
    obtain ⟨hm, hnd, rfl⟩ := setGroups_eq_ok_iff.1 hs
    exact wellFormed_setGroups h hm hnd
  | appendTrack axis track =>
    cases he
    exact wellFormed_appendTrack h axis track
  | insertTrackAt axis index track =>
    obtain ⟨after, hi, hr⟩ := bind_eq_ok_iff.1 he
    cases hr
    obtain ⟨⟨-, hle⟩, rfl⟩ := insertTrackAt_eq_ok_iff.1 hi
    exact wellFormed_withTrack h hle track
  | removeTrackAt axis index =>
    obtain ⟨⟨track, after⟩, hm, hr⟩ := bind_eq_ok_iff.1 he
    cases hr
    obtain ⟨ht, honly, hgroup, rfl⟩ := removeTrackAt_eq_ok_iff.1 hm
    obtain ⟨hpos, hle⟩ := bounds_of_trackAt ht
    exact wellFormed_withoutTrack h hpos hle honly hgroup

theorem wellFormed_after (h : grid.WellFormed) (edit : Edit) : (grid.after edit).WellFormed := by
  unfold after
  split
  · rename_i he
    exact wellFormed_edit h he
  · exact h

theorem wellFormed_foldl_after (h : grid.WellFormed) (edits : List Edit) :
    (edits.foldl after grid).WellFormed := by
  induction edits generalizing grid with
  | nil => exact h
  | cons edit edits ih => exact ih (wellFormed_after h edit)

theorem Reachable.wellFormed (h : grid.Reachable) : grid.WellFormed := by
  obtain ⟨tracks, edits, rfl⟩ := h.made
  exact wellFormed_foldl_after (wellFormed_ofTracks tracks) edits

theorem Reachable.fitsIn (h : grid.Reachable) {key : String} {cell : Cell}
    (hcell : grid.cells.get? key = some cell) (axis : Axis) : cell.FitsIn axis (grid.count axis) :=
  (h.wellFormed axis).cells cell (Table.mem_values_of_get? hcell)

/-- A title across three columns, and a label beside a field in outer columns of one width. -/
def sample : Grid :=
  [Edit.place "title" { start := ⟨1, 1⟩, span := ⟨3, 1⟩ }, .place "label" { start := ⟨1, 2⟩ },
    .place "field" { start := ⟨3, 2⟩ }, .setGroups .horizontal [[1, 3]]].foldl after
    { tracks := ⟨[.glue .horizontal, .gap .horizontal ⟨.one, .dialog⟩, .glue .horizontal],
        [.glue .vertical, .glue .vertical]⟩ }

theorem reachable_sample : sample.Reachable where
  made := ⟨_, _, rfl⟩
  counted := by
    intro axis
    cases axis <;> decide

/-- Whatever is done to a new grid, in any order and with any refusals in between, it stays in
order on both axes. -/
theorem wellFormed_of_edits (tracks : PerAxis (List Track)) (edits : List Edit) :
    (edits.foldl after { tracks }).WellFormed :=
  wellFormed_foldl_after (wellFormed_ofTracks tracks) edits

end Grid

end TrackGrid
