import TrackGrid.Grid.Edit
import TrackGrid.Proofs.Except

/-! # When a grid accepts an edit, and what it becomes -/

namespace TrackGrid

/-! ## Cells -/

namespace Cell

theorem check_eq_ok_iff {cell : Cell} :
    cell.check = .ok () ↔ ∀ axis, 1 ≤ cell.start.along axis ∧ 1 ≤ cell.span.along axis ∧
      (cell.alignment.along axis).legalOn axis = true := by
  simp only [check, throw_eq_error, error_bind, pure_eq_ok, ite_error_eq_ok_iff, Axis.forall_iff,
    PerAxis.along, Bool.not_eq_true', Bool.not_eq_false, and_true, ← Nat.pos_iff_ne_zero]
  constructor
  · rintro ⟨hx, hy, hw, hh, hah, hav⟩
    exact ⟨⟨hx, hw, hah⟩, hy, hh, hav⟩
  · rintro ⟨⟨hx, hw, hah⟩, hy, hh, hav⟩
    exact ⟨hx, hy, hw, hh, hah, hav⟩

theorem checkFits_eq_ok_iff {cell : Cell} {counts : PerAxis Nat} :
    cell.checkFits counts = .ok () ↔
      ∀ axis, cell.stop axis < coordinateLimit ∧ cell.stop axis ≤ counts.along axis + 1 := by
  simp only [checkFits, checkAlong, bind_eq_ok_iff, ite_eq_ok_iff, fitsAlong, Bool.and_eq_true,
    decide_eq_true_eq, Axis.forall_iff, PerAxis.along]
  simp

end Cell

/-! ## Components -/

namespace Grid

@[simp] theorem along_counts (grid : Grid) (axis : Axis) :
    grid.counts.along axis = grid.count axis := by
  simp [counts]

theorem place_eq_ok_iff {grid after : Grid} {key : String} {cell : Cell} {previous : Option Cell} :
    grid.place key cell = .ok (previous, after) ↔
      cell.check = .ok () ∧ cell.checkFits grid.counts = .ok () ∧
        previous = grid.cells.get? key ∧
        after = { grid with cells := grid.cells.insert key cell } := by
  simp only [place, check_bind_eq_ok_iff, mapError_eq_ok_iff, pure_eq_ok, Except.ok.injEq,
    Prod.mk.injEq, eq_comm (b := previous), eq_comm (b := after)]

/-! ## Groups -/

theorem checkTrack_eq_ok_iff {grid : Grid} {axis : Axis} {index : Nat} :
    grid.checkTrack axis index = .ok () ↔ 1 ≤ index ∧ index ≤ grid.count axis := by
  simp [checkTrack]

theorem checkMembers_eq_ok_iff {grid : Grid} {axis : Axis} {seen members : List Nat} :
    grid.checkMembers axis seen members = .ok () ↔
      (∀ member ∈ members, 1 ≤ member ∧ member ≤ grid.count axis) ∧
        (∀ member ∈ members, member ∉ seen) ∧ members.Nodup := by
  induction members generalizing seen with
  | nil => simp [checkMembers]
  | cons index rest ih =>
    rw [List.forall_mem_cons, List.forall_mem_cons, List.nodup_cons]
    simp only [checkMembers, check_bind_eq_ok_iff, mapError_eq_ok_iff, checkTrack_eq_ok_iff,
      throw_eq_error, error_bind, ite_error_eq_ok_iff, ih, List.mem_cons, not_or]
    constructor
    · rintro ⟨hi, hs, hr, hrs, hnd⟩
      exact ⟨⟨hi, hr⟩, ⟨hs, fun m hm => (hrs m hm).2⟩, fun hm => (hrs index hm).1 rfl, hnd⟩
    · rintro ⟨⟨hi, hr⟩, ⟨hs, hrs⟩, hni, hnd⟩
      refine ⟨hi, hs, hr, ?_, hnd⟩
      intro m hm
      exact ⟨fun he => hni (he ▸ hm), hrs m hm⟩

theorem setGroups_eq_ok_iff {grid after : Grid} {axis : Axis} {groups : List (List Nat)} :
    grid.setGroups axis groups = .ok after ↔
      (∀ member ∈ groups.flatten, 1 ≤ member ∧ member ≤ grid.count axis) ∧
        groups.flatten.Nodup ∧ after = { grid with groups := grid.groups.set axis groups } := by
  simp only [setGroups, check_bind_eq_ok_iff, checkMembers_eq_ok_iff, pure_eq_ok, Except.ok.injEq,
    List.not_mem_nil, not_false_eq_true, implies_true, true_and, and_assoc, eq_comm (b := after)]

/-! ## Tracks -/

theorem trackAt_eq_ok_iff {grid : Grid} {axis : Axis} {index : Nat} {track : Track} :
    grid.trackAt axis index = .ok track ↔
      1 ≤ index ∧ (grid.tracks.along axis)[index - 1]? = some track := by
  simp only [trackAt, check_bind_eq_ok_iff, checkTrack_eq_ok_iff]
  constructor
  · rintro ⟨⟨h1, -⟩, h⟩
    split at h
    · rename_i found hf
      cases h
      exact ⟨h1, hf⟩
    · cases h
  · rintro ⟨h1, h⟩
    have hlt := (List.getElem?_eq_some_iff.1 h).1
    refine ⟨⟨h1, ?_⟩, ?_⟩
    · simp only [count]
      omega
    · rw [h]
      rfl

theorem bounds_of_trackAt {grid : Grid} {axis : Axis} {index : Nat} {track : Track}
    (h : grid.trackAt axis index = .ok track) : 1 ≤ index ∧ index ≤ grid.count axis :=
  checkTrack_eq_ok_iff.1 (check_bind_eq_ok_iff.1 h).1

theorem exists_trackAt {grid : Grid} {axis : Axis} {index : Nat} (hpos : 1 ≤ index)
    (hle : index ≤ grid.count axis) : ∃ track, grid.trackAt axis index = .ok track := by
  have hlt : index - 1 < (grid.tracks.along axis).length := by
    simp only [count] at hle
    omega
  exact ⟨_, trackAt_eq_ok_iff.2 ⟨hpos, List.getElem?_eq_getElem hlt⟩⟩

theorem insertTrackAt_eq_ok_iff {grid after : Grid} {axis : Axis} {index : Nat} {track : Track} :
    grid.insertTrackAt axis index track = .ok after ↔
      (1 ≤ index ∧ index ≤ grid.count axis + 1) ∧ after = grid.withTrack axis index track := by
  rw [insertTrackAt, ite_eq_ok_iff, Except.ok.injEq, eq_comm (a := after)]

theorem removeTrackAt_eq_ok_iff {grid after : Grid} {axis : Axis} {index : Nat} {track : Track} :
    grid.removeTrackAt axis index = .ok (track, after) ↔
      grid.trackAt axis index = .ok track ∧
        (∀ cell ∈ grid.cells.values, cell.liesOnlyIn axis index = false) ∧
        index ∉ (grid.groups.along axis).flatten ∧ after = grid.withoutTrack axis index := by
  simp only [removeTrackAt, bind_eq_ok_iff, mapError_eq_ok_iff, throw_eq_error, error_bind,
    pure_eq_ok, ite_error_eq_ok_iff, Except.ok.injEq, Prod.mk.injEq, Bool.not_eq_true,
    List.any_eq_false, List.contains_iff_mem]
  constructor
  · rintro ⟨found, ht, hc, hg, rfl, rfl⟩
    exact ⟨ht, hc, hg, rfl⟩
  · rintro ⟨ht, hc, hg, rfl⟩
    exact ⟨track, ht, hc, hg, rfl, rfl⟩

end Grid

end TrackGrid
