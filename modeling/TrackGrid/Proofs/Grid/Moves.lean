import Mathlib.Data.List.Nodup
import TrackGrid.Grid.Edit

/-! # Where cells and members of groups move when a track comes or goes -/

namespace TrackGrid

/-! ## Cells -/

namespace Cell

/-- Two cells that differ in nothing but the tracks that they cover along `axis`. -/
structure AgreeOff (axis : Axis) (cell other : Cell) : Prop where
  start : ∀ a, a ≠ axis → other.start.along a = cell.start.along a
  span : ∀ a, a ≠ axis → other.span.along a = cell.span.along a
  alignment : other.alignment = cell.alignment
  insets : other.insets = cell.insets
  sizeGroup : other.sizeGroup = cell.sizeGroup

theorem agreeOff_refl (axis : Axis) (cell : Cell) : AgreeOff axis cell cell :=
  ⟨fun _ _ => rfl, fun _ _ => rfl, rfl, rfl, rfl⟩

theorem agreeOff_start (cell : Cell) (axis : Axis) (f : Nat → Nat) :
    AgreeOff axis cell { cell with start := cell.start.modify axis f } :=
  ⟨fun _ h => PerAxis.along_modify_of_ne _ _ h, fun _ _ => rfl, rfl, rfl, rfl⟩

theorem agreeOff_span (cell : Cell) (axis : Axis) (f : Nat → Nat) :
    AgreeOff axis cell { cell with span := cell.span.modify axis f } :=
  ⟨fun _ _ => rfl, fun _ h => PerAxis.along_modify_of_ne _ _ h, rfl, rfl, rfl⟩

theorem AgreeOff.trans {axis : Axis} {a b c : Cell} (hab : AgreeOff axis a b)
    (hbc : AgreeOff axis b c) : AgreeOff axis a c where
  start o ho := (hbc.start o ho).trans (hab.start o ho)
  span o ho := (hbc.span o ho).trans (hab.span o ho)
  alignment := hbc.alignment.trans hab.alignment
  insets := hbc.insets.trans hab.insets
  sizeGroup := hbc.sizeGroup.trans hab.sizeGroup

theorem AgreeOff.eq {axis : Axis} {cell other : Cell} (h : AgreeOff axis cell other)
    (hstart : other.start.along axis = cell.start.along axis)
    (hspan : other.span.along axis = cell.span.along axis) : other = cell := by
  have hs : other.start = cell.start := by
    apply PerAxis.ext_along
    intro a
    by_cases ha : a = axis
    · exact ha ▸ hstart
    · exact h.start a ha
  have hw : other.span = cell.span := by
    apply PerAxis.ext_along
    intro a
    by_cases ha : a = axis
    · exact ha ▸ hspan
    · exact h.span a ha
  cases cell
  cases other
  simp only [mk.injEq]
  exact ⟨hs, hw, h.alignment, h.insets, h.sizeGroup⟩

variable (cell : Cell) (axis : Axis) (index : Nat)

theorem agreeOff_afterInsert : AgreeOff axis cell (cell.afterInsert axis index) := by
  unfold afterInsert
  split_ifs
  · exact agreeOff_start cell axis _
  · exact agreeOff_span cell axis _
  · exact agreeOff_refl axis cell

theorem agreeOff_afterRemove : AgreeOff axis cell (cell.afterRemove axis index) := by
  unfold afterRemove
  split_ifs
  · exact agreeOff_start cell axis _
  · exact agreeOff_span cell axis _
  · exact agreeOff_refl axis cell

theorem start_afterInsert :
    (cell.afterInsert axis index).start.along axis =
      if index ≤ cell.start.along axis then cell.start.along axis + 1
      else cell.start.along axis := by
  unfold afterInsert
  split_ifs <;> simp

theorem span_afterInsert :
    (cell.afterInsert axis index).span.along axis =
      if cell.start.along axis < index ∧ index < cell.stop axis then cell.span.along axis + 1
      else cell.span.along axis := by
  unfold afterInsert
  by_cases hs : index ≤ cell.start.along axis
  · rw [if_pos hs, if_neg (by omega)]
  · rw [if_neg hs]
    by_cases ht : index < cell.stop axis
    · rw [if_pos ht, if_pos ⟨by omega, ht⟩, PerAxis.along_modify_self]
    · rw [if_neg ht, if_neg (fun h => ht h.2)]

theorem start_afterRemove :
    (cell.afterRemove axis index).start.along axis =
      if index < cell.start.along axis then cell.start.along axis - 1
      else cell.start.along axis := by
  unfold afterRemove
  split_ifs <;> simp

theorem span_afterRemove :
    (cell.afterRemove axis index).span.along axis =
      if cell.start.along axis ≤ index ∧ index < cell.stop axis then cell.span.along axis - 1
      else cell.span.along axis := by
  unfold afterRemove
  by_cases hs : index < cell.start.along axis
  · rw [if_pos hs, if_neg (by omega)]
  · rw [if_neg hs]
    by_cases ht : index < cell.stop axis
    · rw [if_pos ht, if_pos ⟨by omega, ht⟩, PerAxis.along_modify_self]
    · rw [if_neg ht, if_neg (fun h => ht h.2)]

end Cell

/-! ## Members of groups -/

namespace Grid

theorem memberAfterInsert_injective (index : Nat) :
    Function.Injective (memberAfterInsert index) := by
  intro a b h
  unfold memberAfterInsert at h
  split_ifs at h <;> omega

theorem memberAfterRemove_inj {index a b : Nat} (ha : a ≠ index) (hb : b ≠ index)
    (h : memberAfterRemove index a = memberAfterRemove index b) : a = b := by
  unfold memberAfterRemove at h
  split_ifs at h <;> omega

/-! ## Grids -/

variable (grid : Grid) (axis : Axis) (index : Nat) (track : Track)

theorem tracks_withTrack :
    (grid.withTrack axis index track).tracks.along axis =
      (grid.tracks.along axis).insertIdx (index - 1) track :=
  PerAxis.along_modify_self _ _ _

theorem groups_withTrack :
    (grid.withTrack axis index track).groups.along axis =
      (grid.groups.along axis).map (·.map (memberAfterInsert index)) :=
  PerAxis.along_modify_self _ _ _

theorem cells_withTrack :
    (grid.withTrack axis index track).cells = grid.cells.map (·.afterInsert axis index) := rfl

theorem tracks_withoutTrack :
    (grid.withoutTrack axis index).tracks.along axis =
      (grid.tracks.along axis).eraseIdx (index - 1) :=
  PerAxis.along_modify_self _ _ _

theorem groups_withoutTrack :
    (grid.withoutTrack axis index).groups.along axis =
      (grid.groups.along axis).map (·.map (memberAfterRemove index)) :=
  PerAxis.along_modify_self _ _ _

theorem cells_withoutTrack :
    (grid.withoutTrack axis index).cells = grid.cells.map (·.afterRemove axis index) := rfl

theorem flatten_groups_withTrack :
    ((grid.withTrack axis index track).groups.along axis).flatten =
      (grid.groups.along axis).flatten.map (memberAfterInsert index) := by
  rw [groups_withTrack, List.map_flatten]

theorem flatten_groups_withoutTrack :
    ((grid.withoutTrack axis index).groups.along axis).flatten =
      (grid.groups.along axis).flatten.map (memberAfterRemove index) := by
  rw [groups_withoutTrack, List.map_flatten]

theorem count_withTrack (h : index ≤ grid.count axis + 1) :
    (grid.withTrack axis index track).count axis = grid.count axis + 1 := by
  simp only [count] at *
  rw [tracks_withTrack, List.length_insertIdx_of_le_length (by omega)]

theorem count_withoutTrack (h1 : 1 ≤ index) (h : index ≤ grid.count axis) :
    (grid.withoutTrack axis index).count axis = grid.count axis - 1 := by
  simp only [count] at *
  rw [tracks_withoutTrack, List.length_eraseIdx_of_lt (by omega)]

end Grid

end TrackGrid
