import TrackGrid.Proofs.Grid.WellFormed
import TrackGrid.Proofs.Layout.Checked

/-! # No look-up of a layout pass fails

On a grid in order, every number that the pass looks something up by is the number of an entry that
is there. So the pass with all its look-ups checked does what the running one does, step by step.
-/

namespace TrackGrid.Checked

/-! ## Look-ups -/

section

variable {α β : Type} {list : List α} {index : Nat}

theorem entry_of_getElem? {i : Nat} {a : α} (h : list[i]? = some a) :
    entry list (i + 1) = .ok a := by
  obtain ⟨hi, rfl⟩ := List.getElem?_eq_some_iff.1 h
  rw [entry, dif_pos ⟨by omega, hi⟩]
  rfl

theorem entry_eq_ok (hpos : 1 ≤ index) (hle : index ≤ list.length) (default : α) :
    entry list index = .ok (list.getD (index - 1) default) := by
  obtain ⟨i, rfl⟩ : ∃ i, index = i + 1 := ⟨index - 1, by omega⟩
  apply entry_of_getElem?
  rw [Nat.add_sub_cancel, List.getD_eq_getElem?_getD, List.getElem?_eq_getElem hle]
  rfl

theorem setEntry_eq_ok (hpos : 1 ≤ index) (hle : index ≤ list.length) (a : α) :
    setEntry list index a = .ok (list.set (index - 1) a) :=
  if_pos ⟨hpos, hle⟩

theorem slice_eq_ok {cell : Cell} {axis : Axis} (h : cell.FitsIn axis list.length) :
    slice list (cell.start.along axis) (cell.span.along axis) = .ok (cell.covered axis list) :=
  if_pos ⟨h.start_pos, h.stop_le⟩

theorem onBoth_eq_ok {f : Axis → Pass α} {g : Axis → α} (h : ∀ axis, f axis = .ok (g axis)) :
    onBoth f = .ok (.ofFn g) := by
  simp only [onBoth, h, ok_bind, pure_eq_ok]
  rfl

theorem mapM_zipIdx_eq_ok_from {f : α × Nat → Pass β} {out : List β} (n : Nat)
    (hlen : out.length = list.length)
    (h : ∀ i a b, list[i]? = some a → out[i]? = some b → f (a, n + i) = .ok b) :
    (list.zipIdx n).mapM f = .ok out := by
  induction list generalizing out n with
  | nil =>
    rw [List.eq_nil_of_length_eq_zero hlen]
    rfl
  | cons a list ih =>
    cases out with
    | nil => cases hlen
    | cons b out =>
      have hrest := ih (n + 1) (Nat.succ.inj hlen) fun i c d hc hd => by
        rw [Nat.add_right_comm]
        exact h (i + 1) c d hc hd
      have hfirst : f (a, n) = .ok b := h 0 a b rfl rfl
      rw [List.zipIdx_cons, List.mapM_cons, hfirst, ok_bind, hrest]
      rfl

theorem mapM_zipIdx_eq_ok {f : α × Nat → Pass β} {out : List β} (hlen : out.length = list.length)
    (h : ∀ i a b, list[i]? = some a → out[i]? = some b → f (a, i + 1) = .ok b) :
    (list.zipIdx 1).mapM f = .ok out :=
  mapM_zipIdx_eq_ok_from 1 hlen fun i a b ha hb => Nat.add_comm 1 i ▸ h i a b ha hb

end

/-! ## What tracks need -/

theorem foldlM_setEntry {sizes : List Int} {group : List Nat}
    (h : ∀ member ∈ group, 1 ≤ member ∧ member ≤ sizes.length) (largest : Int) :
    group.foldlM (fun sizes index => setEntry sizes index largest) sizes =
      .ok (sizes.mapIdx fun i size => if i + 1 ∈ group then largest else size) := by
  induction group generalizing sizes with
  | nil =>
    rw [List.foldlM_nil, pure_eq_ok]
    congr 1
    apply List.ext_getElem?
    intro i
    cases hi : sizes[i]? <;> simp [hi]
  | cons member group ih =>
    obtain ⟨hpos, hle⟩ := h member List.mem_cons_self
    rw [List.foldlM_cons, setEntry_eq_ok hpos hle, ok_bind, ih]
    · congr 1
      apply List.ext_getElem?
      intro i
      rw [List.getElem?_mapIdx, List.getElem?_mapIdx, List.getElem?_set]
      by_cases hi : member = i + 1
      · subst hi
        have hlt : i < sizes.length := hle
        simp [hlt]
      · have hmem : i + 1 ∈ member :: group ↔ i + 1 ∈ group := by
          simp [List.mem_cons, Ne.symm hi]
        rw [if_neg (by omega)]
        simp only [hmem]
    · intro other hother
      rw [List.length_set]
      exact h other (List.mem_cons_of_mem member hother)

theorem equalizeGroup_eq_ok {sizes : List Int} {group : List Nat}
    (h : ∀ member ∈ group, 1 ≤ member ∧ member ≤ sizes.length) :
    equalizeGroup sizes group = .ok (TrackGrid.equalizeGroup sizes group) := by
  have hread := mapM_eq_ok_map fun member hm => entry_eq_ok (h member hm).1 (h member hm).2 0
  rw [equalizeGroup, hread, ok_bind, foldlM_setEntry h]
  rfl

theorem equalize_eq_ok {groups : List (List Nat)} {sizes : List Int}
    (h : ∀ member ∈ groups.flatten, 1 ≤ member ∧ member ≤ sizes.length) :
    equalize groups sizes = .ok (TrackGrid.equalize groups sizes) := by
  induction groups generalizing sizes with
  | nil => rfl
  | cons group groups ih =>
    rw [List.flatten_cons] at h
    have hgroup := equalizeGroup_eq_ok fun member hm => h member (List.mem_append_left _ hm)
    have hrest := @ih (TrackGrid.equalizeGroup sizes group) fun member hm => by
      rw [length_equalizeGroup]
      exact h member (List.mem_append_right _ hm)
    rw [equalize, List.foldlM_cons, hgroup, ok_bind]
    exact hrest

theorem sizes_eq_ok (axis : Axis) (metrics : Metrics) (components : List Component)
    (see : Extent → Extent) (tracks : List Track) :
    sizes axis metrics components see tracks = .ok (tracks.mapIdx fun i track =>
      track.size.toPixels axis metrics ((membersOf axis (i + 1) components).map see)) := by
  apply mapM_zipIdx_eq_ok (List.length_mapIdx)
  intro i track size ht hs
  rw [List.getElem?_mapIdx, ht] at hs
  cases hs
  cases h : track.size <;> simp [SizeRequest.pixels, Size.basis?, h]

theorem needs_eq_ok {grid : Grid} (h : grid.WellFormed) (axis : Axis) (metrics : Metrics)
    (components : List Component) :
    needs grid axis metrics components = .ok (grid.needs axis metrics components) := by
  have hgroups {sizes : List Int} (hlen : sizes.length = grid.count axis) :
      equalize (grid.groups.along axis) sizes =
        .ok (TrackGrid.equalize (grid.groups.along axis) sizes) :=
    equalize_eq_ok fun member hm => by
      rw [hlen]
      exact (h axis).members member hm
  rw [needs, sizes_eq_ok, ok_bind, sizes_eq_ok, ok_bind, hgroups (by simp [Grid.count]), ok_bind,
    hgroups (by simp [Grid.count]), ok_bind]
  rfl

/-! ## Fitting -/

section

variable {tracks : List Track} {needs : Needs}

theorem slacks_eq_ok (h : needs.OfLength tracks.length) :
    (tracks.zipIdx 1).mapM (fun (track, index) => slack needs track index) =
      .ok (slacks tracks needs) := by
  apply mapM_zipIdx_eq_ok (length_slacks h)
  intro i track given ht hg
  rw [slacks, List.getElem?_zipWith, List.getElem?_zipWith, ht] at hg
  have hi : i < tracks.length := (List.getElem?_eq_some_iff.1 ht).1
  have hp : i < needs.preferred.length := by rwa [h.preferred]
  have hm : i < needs.minimum.length := by rwa [h.minimum]
  rw [List.getElem?_eq_getElem hp, List.getElem?_eq_getElem hm] at hg
  obtain rfl := Option.some.inj hg
  change slack needs track (i + 1) = _
  rw [slack, entry_of_getElem? (List.getElem?_eq_getElem hp),
    entry_of_getElem? (List.getElem?_eq_getElem hm)]
  split <;> rfl

theorem squeeze_eq_ok (h : needs.OfLength tracks.length) (available : Int) :
    squeeze tracks needs available = .ok (TrackGrid.squeeze tracks needs available) := by
  rw [squeeze, slacks_eq_ok h, ok_bind]
  simp only [TrackGrid.squeeze]
  split
  · rfl
  have hlen : needs.preferred.length = (slacks tracks needs).length := by
    rw [h.preferred, length_slacks h]
  apply mapM_zipIdx_eq_ok (by rw [List.length_zipWith, hlen, Nat.min_self])
  intro i slack size hs hz
  have hp : i < needs.preferred.length := by
    rw [hlen]
    exact (List.getElem?_eq_some_iff.1 hs).1
  rw [List.getElem?_zipWith, hs, List.getElem?_eq_getElem hp] at hz
  obtain rfl := Option.some.inj hz
  rw [entry_of_getElem? (List.getElem?_eq_getElem hp), ok_bind, pure_eq_ok]

theorem fit_eq_ok {groups : List (List Nat)} (h : needs.OfLength tracks.length)
    (hg : ∀ member ∈ groups.flatten, 1 ≤ member ∧ member ≤ tracks.length) (available : Int) :
    fit tracks groups needs available = .ok (TrackGrid.fit tracks groups needs available) := by
  unfold fit TrackGrid.fit
  split
  · rfl
  split
  · rfl
  rw [squeeze_eq_ok h, ok_bind]
  apply equalize_eq_ok
  rwa [length_squeeze h]

end

/-! ## Growing -/

section

variable (whole : Binary64) (surplus : Int) (rest count : Nat)

theorem growing_cons (first : Nat) (track : Track) (tracks : List Track) :
    growing first (track :: tracks) =
      if track.grows then (track, first) :: growing (first + 1) tracks
      else growing (first + 1) tracks := by
  rw [growing, List.zipIdx_cons, List.filter_cons]
  rfl

theorem length_growing (first : Nat) (tracks : List Track) :
    (growing first tracks).length = tracks.countP Track.grows := by
  induction tracks generalizing first with
  | nil => rfl
  | cons track tracks ih =>
    rw [growing_cons, List.countP_cons]
    split
    · rw [List.length_cons, ih]
    · rw [ih, Nat.add_zero]

/-- The tracks in front have been dealt with: their sizes stay as they are. -/
theorem grow_eq_ok {tracks : List Track} {sizes : List Int} (h : sizes.length = tracks.length)
    (front : List Int) (j : Nat) :
    grow whole surplus rest count j (growing (front.length + 1) tracks) (front ++ sizes) =
      .ok (front ++ TrackGrid.grow whole surplus rest count j tracks sizes) := by
  induction tracks generalizing front j sizes with
  | nil =>
    rw [List.eq_nil_of_length_eq_zero h]
    rfl
  | cons track tracks ih =>
    obtain ⟨size, sizes, rfl⟩ := List.exists_cons_of_length_eq_add_one h
    have hlen : sizes.length = tracks.length := Nat.succ.inj h
    have hrest (size : Int) (j : Nat) := ih hlen (front ++ [size]) j
    simp only [List.length_append, List.length_singleton, List.append_assoc,
      List.singleton_append] at hrest
    rw [growing_cons, TrackGrid.grow]
    split
    · have hin : front.length + 1 ≤ (front ++ size :: sizes).length := by simp
      have hsize : (front ++ size :: sizes)[front.length]? = some size := by simp
      rw [grow, entry_of_getElem? hsize, ok_bind, setEntry_eq_ok (by omega) hin, ok_bind,
        Nat.add_sub_cancel, List.set_append_right _ _ (Nat.le_refl _), Nat.sub_self,
        List.set_cons_zero]
      exact hrest _ (j + 1)
    · exact hrest size j

end

theorem giveOut_eq_ok {tracks : List Track} {sizes : List Int}
    (h : sizes.length = tracks.length) (surplus : Int) :
    giveOut tracks sizes surplus = .ok (TrackGrid.giveOut tracks sizes surplus) := by
  simp only [giveOut, TrackGrid.giveOut]
  split
  · rw [length_growing]
    exact grow_eq_ok _ _ _ _ h [] 0
  · rfl

theorem finalSizes_eq_ok {tracks : List Track} {groups : List (List Nat)} {needs : Needs}
    (h : needs.OfLength tracks.length)
    (hg : ∀ member ∈ groups.flatten, 1 ≤ member ∧ member ≤ tracks.length) (available : Int) :
    finalSizes tracks groups needs available =
      .ok (TrackGrid.finalSizes tracks groups needs available) := by
  rw [finalSizes, fit_eq_ok h hg, ok_bind]
  simp only [TrackGrid.finalSizes]
  split
  · exact giveOut_eq_ok (length_fit h groups available) _
  · rfl

/-! ## Placing -/

theorem place_eq_ok {component : Component} {axis : Axis} {tracks : List Track}
    {boundaries : List Int} (h : component.cell.FitsIn axis tracks.length)
    (hb : boundaries.length = tracks.length + 1) :
    place component axis tracks boundaries = .ok (component.place axis tracks boundaries) := by
  have hs := h.start_pos
  have hw := h.span_pos
  have hstop := h.stop_le
  have hdef : component.cell.stop axis =
    component.cell.start.along axis + component.cell.span.along axis := rfl
  rw [place, entry_eq_ok hs (by omega) 0, ok_bind, entry_eq_ok (by omega) (by omega) 0, ok_bind,
    entry_eq_ok hs (by omega) (.glue axis), ok_bind]
  rfl

end TrackGrid.Checked
