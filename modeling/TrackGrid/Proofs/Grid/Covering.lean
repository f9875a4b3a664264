import Mathlib.Data.List.Forall2
import TrackGrid.Proofs.Grid.WellFormed

/-! # Components and groups stay on their tracks

An edit of the tracks counts all tracks behind it anew. The cells and the groups are counted along,
so that they name the same tracks afterwards.
-/

namespace TrackGrid

/-! ## Lists with an entry more or less -/

section

variable {α : Type}

theorem insertIdx_eq_take_append {list : List α} {i : Nat} (h : i ≤ list.length)
    (a : α) : list.insertIdx i a = list.take i ++ a :: list.drop i := by
  induction i generalizing list with
  | zero => rfl
  | succ i ih =>
    cases list with
    | nil => simp at h
    | cons head tail =>
      rw [List.insertIdx_succ_cons, List.take_succ_cons, List.drop_succ_cons, List.cons_append,
        ih (by simpa using h)]

theorem getElem?_memberAfterInsert (list : List α) {index member : Nat}
    (hpos : 1 ≤ index) (hm : 1 ≤ member) (a : α) :
    (list.insertIdx (index - 1) a)[Grid.memberAfterInsert index member - 1]? =
      list[member - 1]? := by
  unfold Grid.memberAfterInsert
  split_ifs with h
  · rw [List.getElem?_insertIdx_of_gt (by omega), Nat.add_sub_cancel]
  · rw [List.getElem?_insertIdx_of_lt (by omega)]

theorem getElem?_memberAfterRemove (list : List α) {index member : Nat}
    (hpos : 1 ≤ index) (hm : 1 ≤ member) (hne : member ≠ index) :
    (list.eraseIdx (index - 1))[Grid.memberAfterRemove index member - 1]? = list[member - 1]? := by
  unfold Grid.memberAfterRemove
  split_ifs with h
  · rw [List.getElem?_eraseIdx_of_ge (by omega)]
    congr 1
    omega
  · rw [List.getElem?_eraseIdx_of_lt (by omega)]

end

/-! ## The tracks that a cell covers -/

namespace Cell

def Covers (cell : Cell) (axis : Axis) (index : Nat) : Prop :=
  cell.start.along axis ≤ index ∧ index < cell.stop axis

instance (cell : Cell) (axis : Axis) (index : Nat) : Decidable (cell.Covers axis index) :=
  inferInstanceAs (Decidable (_ ∧ _))

variable {α : Type} {cell : Cell} {axis : Axis}

theorem getElem?_covered (cell : Cell) (axis : Axis) (list : List α) (j : Nat) :
    (cell.covered axis list)[j]? =
      if j < cell.span.along axis then list[cell.start.along axis - 1 + j]? else none := by
  rw [covered, List.getElem?_take, List.getElem?_drop]

theorem length_covered {list : List α} (h : cell.FitsIn axis list.length) :
    (cell.covered axis list).length = cell.span.along axis := by
  have := h.start_pos
  have := h.last_le
  simp only [covered, List.length_take, List.length_drop]
  omega

theorem covered_ne_nil {list : List α} (h : cell.FitsIn axis list.length) :
    cell.covered axis list ≠ [] := by
  have := h.span_pos
  rw [← List.length_pos_iff, length_covered h]
  omega

/-- The new entry comes in exactly if it stands between two covered ones. -/
theorem covered_afterInsert {list : List α} (h : cell.FitsIn axis list.length) {index : Nat}
    (hpos : 1 ≤ index) (hle : index ≤ list.length + 1) (a : α) :
    (cell.afterInsert axis index).covered axis (list.insertIdx (index - 1) a) =
      if cell.Covers axis (index - 1) ∧ cell.Covers axis index then
        (cell.covered axis list).insertIdx (index - cell.start.along axis) a
      else cell.covered axis list := by
  have hs := h.start_pos
  have hlen := length_covered h
  have hstart := start_afterInsert cell axis index
  have hspan := span_afterInsert cell axis index
  have hstop : cell.stop axis = cell.start.along axis + cell.span.along axis := rfl
  by_cases hbehind : index ≤ cell.start.along axis
  · -- The cell moves by one, and so does everything that it covers.
    rw [if_pos hbehind] at hstart
    rw [if_neg (by omega)] at hspan
    have hnot : ¬ (cell.Covers axis (index - 1) ∧ cell.Covers axis index) := by
      rintro ⟨⟨hc, -⟩, -⟩
      omega
    rw [if_neg hnot]
    apply List.ext_getElem?
    intro j
    rw [getElem?_covered, getElem?_covered, hstart, hspan, List.getElem?_insertIdx_of_gt (by omega)]
    congr 2
    omega
  rw [if_neg hbehind] at hstart
  by_cases hwithin : index < cell.stop axis
  · -- The cell straddles the new track and grows by it.
    rw [if_pos ⟨by omega, hwithin⟩] at hspan
    have hboth : cell.Covers axis (index - 1) ∧ cell.Covers axis index :=
      ⟨⟨by omega, by omega⟩, by omega, hwithin⟩
    rw [if_pos hboth]
    apply List.ext_getElem?
    intro j
    rw [getElem?_covered, hstart, hspan, List.getElem?_insertIdx, List.getElem?_insertIdx, hlen]
    rcases Nat.lt_trichotomy j (index - cell.start.along axis) with hj | hj | hj
    · rw [if_pos (by omega), if_pos (by omega), if_pos hj, getElem?_covered, if_pos (by omega)]
    · rw [if_pos (by omega), if_neg (by omega), if_pos (by omega), if_pos (by omega),
        if_neg (by omega), if_pos hj, if_pos (by omega)]
    · rw [if_neg (c := j < index - cell.start.along axis) (by omega),
        if_neg (c := j = index - cell.start.along axis) (by omega), getElem?_covered]
      by_cases hin : j < cell.span.along axis + 1
      · rw [if_pos hin, if_neg (by omega), if_neg (by omega), if_pos (by omega)]
        congr 1
        omega
      · rw [if_neg hin, if_neg (by omega)]
  · -- The new track stands behind the cell.
    rw [if_neg (fun hc => hwithin hc.2)] at hspan
    rw [if_neg (fun hc => hwithin hc.2.2)]
    apply List.ext_getElem?
    intro j
    rw [getElem?_covered, getElem?_covered, hstart, hspan]
    by_cases hin : j < cell.span.along axis
    · rw [if_pos hin, if_pos hin, List.getElem?_insertIdx_of_lt (by omega)]
    · rw [if_neg hin, if_neg hin]

theorem covered_afterRemove {list : List α} (h : cell.FitsIn axis list.length) {index : Nat}
    (hpos : 1 ≤ index) :
    (cell.afterRemove axis index).covered axis (list.eraseIdx (index - 1)) =
      if cell.Covers axis index then
        (cell.covered axis list).eraseIdx (index - cell.start.along axis)
      else cell.covered axis list := by
  have hs := h.start_pos
  have hstart := start_afterRemove cell axis index
  have hspan := span_afterRemove cell axis index
  have hstop : cell.stop axis = cell.start.along axis + cell.span.along axis := rfl
  by_cases hbehind : index < cell.start.along axis
  · -- The cell moves by one, and so does everything that it covers.
    rw [if_pos hbehind] at hstart
    rw [if_neg (by omega)] at hspan
    have hnot : ¬ cell.Covers axis index := by
      rintro ⟨hc, -⟩
      omega
    rw [if_neg hnot]
    apply List.ext_getElem?
    intro j
    rw [getElem?_covered, getElem?_covered, hstart, hspan, List.getElem?_eraseIdx_of_ge (by omega)]
    congr 2
    omega
  rw [if_neg hbehind] at hstart
  by_cases hwithin : index < cell.stop axis
  · -- The track is one of the cell, which shrinks by it.
    rw [if_pos ⟨by omega, hwithin⟩] at hspan
    rw [if_pos ⟨by omega, hwithin⟩]
    apply List.ext_getElem?
    intro j
    rw [getElem?_covered, hstart, hspan, List.getElem?_eraseIdx, List.getElem?_eraseIdx,
      getElem?_covered, getElem?_covered]
    by_cases hj : j < index - cell.start.along axis
    · rw [if_pos hj, if_pos (by omega), if_pos (by omega), if_pos (by omega)]
    · rw [if_neg hj]
      by_cases hin : j < cell.span.along axis - 1
      · rw [if_pos hin, if_neg (by omega), if_pos (by omega), Nat.add_assoc]
      · rw [if_neg hin, if_neg (by omega)]
  · -- The track stands behind the cell.
    rw [if_neg (fun hc => hwithin hc.2)] at hspan
    rw [if_neg (fun hc => hwithin hc.2)]
    apply List.ext_getElem?
    intro j
    rw [getElem?_covered, getElem?_covered, hstart, hspan]
    by_cases hin : j < cell.span.along axis
    · rw [if_pos hin, if_pos hin, List.getElem?_eraseIdx_of_lt (by omega)]
    · rw [if_neg hin, if_neg hin]

end Cell

/-! ## What an edit of the tracks carries along -/

namespace Grid

/-- The tracks that a cell of the grid covers. -/
def tracksOf (grid : Grid) (axis : Axis) (cell : Cell) : List Track :=
  cell.covered axis (grid.tracks.along axis)

/-- The tracks of the cell with one that comes in at `index`, if it comes in between two of them. -/
def tracksOfWith (grid : Grid) (axis : Axis) (index : Nat) (track : Track) (cell : Cell) :
    List Track :=
  if cell.Covers axis (index - 1) ∧ cell.Covers axis index then
    (grid.tracksOf axis cell).insertIdx (index - cell.start.along axis) track
  else grid.tracksOf axis cell

/-- The tracks of the cell without the one at `index`, if this is one of them. -/
def tracksOfWithout (grid : Grid) (axis : Axis) (index : Nat) (cell : Cell) : List Track :=
  if cell.Covers axis index then
    (grid.tracksOf axis cell).eraseIdx (index - cell.start.along axis)
  else grid.tracksOf axis cell

/-- A number in one grid and a number in the other stand for one and the same track. -/
def SameTrack (grid after : Grid) (axis : Axis) (member other : Nat) : Prop :=
  ∃ track, grid.trackAt axis member = .ok track ∧ after.trackAt axis other = .ok track

/-- The components and the groups went along with the tracks of an axis, each cell covering the
tracks that it should now, and nothing else is different. -/
structure Carried (grid after : Grid) (axis : Axis) (expected : Cell → List Track) : Prop where
  cells : List.Forall₂
    (fun entry moved => moved.1 = entry.1 ∧ Cell.AgreeOff axis entry.2 moved.2 ∧
      after.tracksOf axis moved.2 = expected entry.2)
    grid.cells.entries after.cells.entries
  groups : List.Forall₂ (List.Forall₂ (SameTrack grid after axis))
    (grid.groups.along axis) (after.groups.along axis)
  tracks_off : ∀ other, other ≠ axis → after.tracks.along other = grid.tracks.along other
  groups_off : ∀ other, other ≠ axis → after.groups.along other = grid.groups.along other

variable {grid : Grid} {axis : Axis} {index : Nat}

theorem exists_trackAt_of_mem_group (h : grid.WellFormed) {group : List Nat}
    (hg : group ∈ grid.groups.along axis) {member : Nat} (hm : member ∈ group) :
    ∃ track, grid.trackAt axis member = .ok track := by
  obtain ⟨hpos, hle⟩ := (h axis).members member (List.mem_flatten_of_mem hg hm)
  exact exists_trackAt hpos hle

theorem carried_withTrack (h : grid.WellFormed) (hpos : 1 ≤ index)
    (hle : index ≤ grid.count axis + 1) (track : Track) :
    Carried grid (grid.withTrack axis index track) axis (grid.tracksOfWith axis index track) := by
  refine ⟨?_, ?_, fun _ ho => PerAxis.along_modify_of_ne _ _ ho,
    fun _ ho => PerAxis.along_modify_of_ne _ _ ho⟩
  · rw [cells_withTrack, Table.map, List.forall₂_map_right_iff, List.forall₂_same]
    intro entry hentry
    have hfits := (h axis).cells entry.2 (List.mem_map_of_mem hentry)
    refine ⟨rfl, Cell.agreeOff_afterInsert entry.2 axis index, ?_⟩
    rw [tracksOf, tracks_withTrack]
    exact Cell.covered_afterInsert hfits hpos hle track
  · rw [groups_withTrack, List.forall₂_map_right_iff, List.forall₂_same]
    intro group hg
    rw [List.forall₂_map_right_iff, List.forall₂_same]
    intro member hm
    obtain ⟨found, hfound⟩ := exists_trackAt_of_mem_group h hg hm
    obtain ⟨hmpos, hget⟩ := trackAt_eq_ok_iff.1 hfound
    refine ⟨found, hfound, trackAt_eq_ok_iff.2 ⟨?_, ?_⟩⟩
    · unfold memberAfterInsert
      split_ifs <;> omega
    · rw [tracks_withTrack, getElem?_memberAfterInsert _ hpos hmpos, hget]

theorem carried_withoutTrack (h : grid.WellFormed) (hpos : 1 ≤ index)
    (hgroup : index ∉ (grid.groups.along axis).flatten) :
    Carried grid (grid.withoutTrack axis index) axis (grid.tracksOfWithout axis index) := by
  refine ⟨?_, ?_, fun _ ho => PerAxis.along_modify_of_ne _ _ ho,
    fun _ ho => PerAxis.along_modify_of_ne _ _ ho⟩
  · rw [cells_withoutTrack, Table.map, List.forall₂_map_right_iff, List.forall₂_same]
    intro entry hentry
    have hfits := (h axis).cells entry.2 (List.mem_map_of_mem hentry)
    refine ⟨rfl, Cell.agreeOff_afterRemove entry.2 axis index, ?_⟩
    rw [tracksOf, tracks_withoutTrack]
    exact Cell.covered_afterRemove hfits hpos
  · rw [groups_withoutTrack, List.forall₂_map_right_iff, List.forall₂_same]
    intro group hg
    rw [List.forall₂_map_right_iff, List.forall₂_same]
    intro member hm
    have hne : member ≠ index := fun he => hgroup (he ▸ List.mem_flatten_of_mem hg hm)
    obtain ⟨found, hfound⟩ := exists_trackAt_of_mem_group h hg hm
    obtain ⟨hmpos, hget⟩ := trackAt_eq_ok_iff.1 hfound
    refine ⟨found, hfound, trackAt_eq_ok_iff.2 ⟨?_, ?_⟩⟩
    · unfold memberAfterRemove
      split_ifs <;> omega
    · rw [tracks_withoutTrack, getElem?_memberAfterRemove _ hpos hmpos hne, hget]

theorem tracksOf_ne_nil (h : grid.WellFormed) {cell : Cell} (hcell : cell ∈ grid.cells.values) :
    grid.tracksOf axis cell ≠ [] :=
  Cell.covered_ne_nil ((h axis).cells cell hcell)

/-- A track that comes in stands before the ones that were at `index` and behind it. The components
on both sides of it get it, the others and all groups keep the tracks that they had. A track that
goes is the one at `index`; the components lose this one track and still have others. -/
theorem edits_keep_tracks (h : grid.Reachable) (axis : Axis) (index : Nat) :
    (∀ track after, grid.insertTrackAt axis index track = .ok after →
      (∃ front back, grid.tracks.along axis = front ++ back ∧ front.length + 1 = index ∧
        after.tracks.along axis = front ++ track :: back) ∧
      Carried grid after axis (grid.tracksOfWith axis index track)) ∧
    (∀ track after, grid.removeTrackAt axis index = .ok (track, after) →
      (∃ front back, grid.tracks.along axis = front ++ track :: back ∧ front.length + 1 = index ∧
        after.tracks.along axis = front ++ back) ∧
      Carried grid after axis (grid.tracksOfWithout axis index) ∧
      ∀ cell ∈ after.cells.values, after.tracksOf axis cell ≠ []) := by
  have hwf := h.wellFormed
  constructor
  · intro track after he
    obtain ⟨⟨hpos, hle⟩, rfl⟩ := insertTrackAt_eq_ok_iff.1 he
    refine ⟨?_, carried_withTrack hwf hpos hle track⟩
    simp only [count] at hle
    refine ⟨(grid.tracks.along axis).take (index - 1), (grid.tracks.along axis).drop (index - 1),
      (List.take_append_drop _ _).symm, ?_, ?_⟩
    · rw [List.length_take]
      omega
    · rw [tracks_withTrack, insertIdx_eq_take_append (by omega)]
  · intro track after he
    obtain ⟨ht, honly, hgroup, rfl⟩ := removeTrackAt_eq_ok_iff.1 he
    obtain ⟨hpos, hle⟩ := bounds_of_trackAt ht
    refine ⟨?_, carried_withoutTrack hwf hpos hgroup, fun cell hcell => ?_⟩
    · obtain ⟨hlt, hget⟩ := List.getElem?_eq_some_iff.1 (trackAt_eq_ok_iff.1 ht).2
      refine ⟨(grid.tracks.along axis).take (index - 1),
        (grid.tracks.along axis).drop (index - 1 + 1), ?_, ?_, ?_⟩
      · rw [← hget, ← List.drop_eq_getElem_cons hlt, List.take_append_drop]
      · rw [List.length_take]
        omega
      · rw [tracks_withoutTrack, List.eraseIdx_eq_take_drop_succ]
    · exact tracksOf_ne_nil (wellFormed_withoutTrack hwf hpos hle honly hgroup) hcell

/-- The title gets a column that comes in behind the first one, and loses the gap when it goes. -/
theorem sample_keeps_tracks :
    sample.Reachable ∧
      (∃ after, sample.insertTrackAt .horizontal 2 (.glue .horizontal) = .ok after ∧
        Carried sample after .horizontal
          (sample.tracksOfWith .horizontal 2 (.glue .horizontal))) ∧
      ∃ track after, sample.removeTrackAt .horizontal 2 = .ok (track, after) ∧
        Carried sample after .horizontal (sample.tracksOfWithout .horizontal 2) := by
  obtain ⟨hinsert, hremove⟩ := edits_keep_tracks reachable_sample .horizontal 2
  exact ⟨reachable_sample, ⟨_, rfl, (hinsert _ _ rfl).2⟩, _, _, rfl, (hremove _ _ rfl).2.1⟩

end Grid

end TrackGrid
