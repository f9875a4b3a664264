import TrackGrid.Proofs.Grid.WellFormed

/-! # A track that was inserted can be taken out again -/

namespace TrackGrid

namespace Cell

variable (cell : Cell) (axis : Axis) (index : Nat)

/-- A cell behind the new track moves there and back, and one across it grows and shrinks. -/
theorem afterRemove_afterInsert : (cell.afterInsert axis index).afterRemove axis index = cell := by
  have hstart := start_afterInsert cell axis index
  have hspan := span_afterInsert cell axis index
  have hagree := (agreeOff_afterInsert cell axis index).trans
    (agreeOff_afterRemove (cell.afterInsert axis index) axis index)
  apply hagree.eq
  · rw [start_afterRemove, hstart]
    split_ifs <;> omega
  · rw [span_afterRemove, stop, hstart, hspan, stop]
    split_ifs <;> omega

theorem liesOnlyIn_afterInsert : (cell.afterInsert axis index).liesOnlyIn axis index = false := by
  have hne : (cell.afterInsert axis index).start.along axis ≠ index := by
    rw [start_afterInsert]
    split_ifs <;> omega
  simp [liesOnlyIn, hne]

end Cell

namespace Grid

theorem memberAfterRemove_memberAfterInsert (index member : Nat) :
    memberAfterRemove index (memberAfterInsert index member) = member := by
  unfold memberAfterRemove memberAfterInsert
  split_ifs <;> omega

theorem memberAfterInsert_ne (index member : Nat) : memberAfterInsert index member ≠ index := by
  unfold memberAfterInsert
  split_ifs <;> omega

variable (grid : Grid) (axis : Axis) {index : Nat} (track : Track)

theorem withoutTrack_withTrack (index : Nat) :
    (grid.withTrack axis index track).withoutTrack axis index = grid := by
  have htracks : (grid.tracks.modify axis (·.insertIdx (index - 1) track)).modify axis
      (·.eraseIdx (index - 1)) = grid.tracks := by
    apply PerAxis.modify_modify_cancel
    exact List.eraseIdx_insertIdx_self track
  have hgroups : (grid.groups.modify axis (·.map (·.map (memberAfterInsert index)))).modify axis
      (·.map (·.map (memberAfterRemove index))) = grid.groups := by
    apply PerAxis.modify_modify_cancel
    simp [Function.comp_def, memberAfterRemove_memberAfterInsert]
  have hcells : (grid.cells.map (·.afterInsert axis index)).map (·.afterRemove axis index) =
      grid.cells := by
    apply Table.map_map_cancel
    intro cell
    exact Cell.afterRemove_afterInsert cell axis index
  cases grid
  simp only [withTrack, withoutTrack, mk.injEq]
  exact ⟨htracks, hgroups, hcells⟩

theorem trackAt_withTrack (hpos : 1 ≤ index) (hle : index ≤ grid.count axis + 1) :
    (grid.withTrack axis index track).trackAt axis index = .ok track := by
  simp only [count] at hle
  rw [trackAt_eq_ok_iff, tracks_withTrack, List.getElem?_insertIdx_self, if_pos (by omega)]
  exact ⟨hpos, rfl⟩

/-- Removing the track that was just inserted is never refused. It gives back this track and leaves
the grid as it was, to the order of the members and every cell. -/
theorem remove_undoes_insert (hpos : 1 ≤ index) (hle : index ≤ grid.count axis + 1) :
    (do (← grid.insertTrackAt axis index track).removeTrackAt axis index) = .ok (track, grid) := by
  rw [insertTrackAt_eq_ok_iff.2 ⟨⟨hpos, hle⟩, rfl⟩, ok_bind, removeTrackAt_eq_ok_iff]
  refine ⟨trackAt_withTrack grid axis track hpos hle, ?_, ?_, ?_⟩
  · intro cell hcell
    rw [cells_withTrack, Table.values_map, List.mem_map] at hcell
    obtain ⟨old, -, rfl⟩ := hcell
    exact Cell.liesOnlyIn_afterInsert old axis index
  · intro hmember
    rw [flatten_groups_withTrack, List.mem_map] at hmember
    obtain ⟨old, -, hold⟩ := hmember
    exact memberAfterInsert_ne index old hold
  · exact (withoutTrack_withTrack grid axis track index).symm

/-- The title covers the columns on both sides of the new one: it grows and shrinks again. -/
theorem sample_insert_undone :
    1 ≤ 2 ∧ 2 ≤ sample.count .horizontal + 1 ∧
      (do (← sample.insertTrackAt .horizontal 2 (.glue .horizontal)).removeTrackAt .horizontal 2) =
        .ok (.glue .horizontal, sample) :=
  ⟨by decide, by decide,
    remove_undoes_insert sample .horizontal (.glue .horizontal) (by decide) (by decide)⟩

end Grid

end TrackGrid
