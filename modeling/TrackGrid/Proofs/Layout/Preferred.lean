import TrackGrid.Proofs.Layout.Sized

/-! # Forms at their preferred size

The preferred size of a form has room for every component, also for those that cover several tracks.
The pass gives that room to the tracks that grow, wherever they are. Main statement: in a container
of the preferred size a component gets what it prefers if it covers one track, if its tracks are
large enough without the room, or if it covers all tracks that grow.
-/

namespace TrackGrid

open Pixels

/-! ## Cells between boundaries -/

namespace Cell

variable {cell : Cell} {axis : Axis}

theorem sum_take_stop (h : 1 ≤ cell.start.along axis) (sizes : List Int) :
    (sizes.take (cell.stop axis - 1)).sum =
      (sizes.take (cell.start.along axis - 1)).sum + (cell.covered axis sizes).sum := by
  have hstop : cell.stop axis - 1 = (cell.start.along axis - 1) + cell.span.along axis := by
    rw [stop]
    omega
  rw [hstop, List.take_add, List.sum_append]
  rfl

theorem sum_covered_of_outside (hstart : 1 ≤ cell.start.along axis) {sizes : List Int}
    (h : ∀ i, i + 1 < cell.start.along axis ∨ cell.stop axis ≤ i + 1 → sizes.getD i 0 = 0) :
    (cell.covered axis sizes).sum = sizes.sum := by
  have hbefore : (sizes.take (cell.start.along axis - 1)).sum = 0 := by
    apply List.sum_eq_zero
    intro size hsize
    obtain ⟨i, hi, rfl⟩ := List.mem_take_iff_getElem.1 hsize
    rw [← h i (.inl (by omega)), List.getD_eq_getElem]
  have hafter : (sizes.drop (cell.stop axis - 1)).sum = 0 := by
    apply List.sum_eq_zero
    intro size hsize
    obtain ⟨i, hi, rfl⟩ := List.mem_drop_iff_getElem.1 hsize
    rw [← h (cell.stop axis - 1 + i) (.inr (by omega)), List.getD_eq_getElem]
  have hall := congrArg List.sum (List.take_append_drop (cell.stop axis - 1) sizes)
  rw [List.sum_append, sum_take_stop hstart] at hall
  omega

theorem covered_sublist (cell : Cell) (axis : Axis) (sizes : List Int) :
    (cell.covered axis sizes).Sublist sizes :=
  (List.take_sublist ..).trans (List.drop_sublist ..)

theorem covered_zipWith (cell : Cell) (axis : Axis) (sizes others : List Int) :
    cell.covered axis (sizes.zipWith plus others) =
      (cell.covered axis sizes).zipWith plus (cell.covered axis others) := by
  rw [covered, covered, covered, List.drop_zipWith, List.take_zipWith]

theorem covered_of_span (hspan : cell.span.along axis = 1) {sizes : List Int}
    (h : cell.FitsIn axis sizes.length) :
    cell.covered axis sizes = [sizes.getD (cell.start.along axis - 1) 0] := by
  rw [covered, hspan, List.drop_eq_getElem_cons h.first_lt, List.take_succ_cons, List.take_zero,
    List.getD_eq_getElem _ _ h.first_lt]

theorem extent_inner {start : Int} {sizes : List Int} (h : cell.FitsIn axis sizes.length)
    (huncut : Uncut start sizes) :
    (cell.inner axis (boundaries start sizes)).extent =
      max 0 (minus (clamp (cell.covered axis sizes).sum) (cell.insets.along axis)) := by
  have hstop := h.stop_le
  have hle : cell.start.along axis - 1 ≤ cell.stop axis - 1 := by
    rw [stop]
    omega
  have hfirst := getD_boundaries huncut (hle.trans (by omega))
  have hlast := getD_boundaries huncut (n := cell.stop axis - 1) (by omega)
  rw [sum_take_stop h.start_pos] at hlast
  have hroom : minus (start + ((sizes.take (cell.start.along axis - 1)).sum +
      (cell.covered axis sizes).sum)) (start + (sizes.take (cell.start.along axis - 1)).sum) =
        clamp (cell.covered axis sizes).sum := congrArg clamp (by ring)
  rw [inner, innerBetween, hfirst, hlast, hroom]

end Cell

/-! ## Components in their cells -/

theorem Component.le_extent_placeIn_iff {component : Component} {axis : Axis} {track : Track}
    (htrack : track.size = .component .preferred) {n : Int}
    (hn : n ≤ (component.extents.along axis).preferred) (inner : Stretch) :
    n ≤ (component.placeIn axis track inner).extent ↔ n ≤ inner.extent := by
  simp only [placeIn]
  split
  · rfl
  · rw [htrack]
    exact le_min_iff.trans (and_iff_right hn)

theorem Grid.get?_rects {grid : Grid} {measure : Measure} {keys : List String}
    {components : List Component} (h : grid.components measure keys = .ok components)
    {component : Component} (hc : component ∈ components) (boundaries : PerAxis (List Int)) :
    (grid.rects boundaries components).get? component.key =
      some (grid.rectOf boundaries component) :=
  Table.get?_foldl_insert (fun _ ho hkey => eq_of_key_eq h ho hc hkey) (.inl hc)

/-! ## The size of a form -/

section

variable {axis : Axis} {basis : Basis} {sizes : List Int} {components : List Component}
  {options : Options}

/-- There is room for the tracks, and for each component that covers several of them if its tracks
get all of the room that is left. -/
structure HasRoom (axis : Axis) (basis : Basis) (sizes : List Int) (components : List Component)
    (available : Int) : Prop where
  sum_le : sizes.sum ≤ available
  lt_highest : available < highest
  spanning : ∀ component ∈ components, 1 < component.cell.span.along axis →
    sizes.sum + (component.outerExtent axis).get basis ≤
      available + (component.cell.covered axis sizes).sum

/-- While nothing is cut off, a component over several tracks has room in its stretched total. -/
theorem sum_add_outer_le_stretchedTotal (hs : ∀ size ∈ sizes, 0 ≤ size)
    (hsum : sizes.sum ≤ highest) {component : Component}
    (hlt : Grid.stretchedTotal axis basis sizes component < highest) :
    sizes.sum + (component.outerExtent axis).get basis ≤
      Grid.stretchedTotal axis basis sizes component +
        (component.cell.covered axis sizes).sum := by
  have hsub := component.cell.covered_sublist axis sizes
  have hcovered : ∀ size ∈ component.cell.covered axis sizes, 0 ≤ size :=
    fun size hsize => hs size (hsub.subset hsize)
  have hle : (component.cell.covered axis sizes).sum ≤ sizes.sum := hsub.sum_le_sum hs
  have hnonneg : 0 ≤ (component.cell.covered axis sizes).sum := List.sum_nonneg hcovered
  rw [Grid.stretchedTotal, total_of_nonneg hs, total_of_nonneg hcovered] at hlt ⊢
  simp only [plus, minus, clamp, lowest, highest] at *
  omega

theorem hasRoom_formExtent (hs : ∀ size ∈ sizes, 0 ≤ size)
    (hborder : 0 ≤ options.border.along axis)
    (hlt : Grid.formExtent axis basis sizes components options < highest) :
    HasRoom axis basis sizes components
      (minus (Grid.formExtent axis basis sizes components options)
        (options.border.along axis)) := by
  have hsum : 0 ≤ sizes.sum := List.sum_nonneg hs
  have htotal := total_of_nonneg hs
  rw [Grid.formExtent] at hlt ⊢
  have hbound {n : Int} (h : n ≤ total sizes ∨ n ∈ (components.filter fun component =>
      1 < component.cell.span.along axis).map (Grid.stretchedTotal axis basis sizes)) :=
    le_foldl_max h
  generalize ((components.filter fun component => 1 < component.cell.span.along axis).map
    (Grid.stretchedTotal axis basis sizes)).foldl max (total sizes) = widest at *
  have hwidest := hbound (.inl (Int.le_refl _))
  have htop := lt_highest_of_plus hborder hlt
  rw [htotal] at hwidest
  rw [minus_plus_cancel (by simp only [highest] at *; omega) hborder hlt]
  refine ⟨by omega, htop, fun component hmem hspan => ?_⟩
  have hstretched := hbound (.inr (List.mem_map_of_mem
    (List.mem_filter.2 ⟨hmem, decide_eq_true hspan⟩)))
  have hroom : _ ≤ _ := sum_add_outer_le_stretchedTotal hs (by omega) (hstretched.trans_lt htop)
  omega

end

/-! ## Where the tracks grow -/

/-- Some track of the axis grows, and all that do are covered by the cell. -/
structure Grid.GrowsWithin (grid : Grid) (axis : Axis) (cell : Cell) : Prop where
  grows : ∃ track ∈ grid.tracks.along axis, track.grows = true
  within : ∀ i track, (grid.tracks.along axis)[i]? = some track → track.grows = true →
    cell.start.along axis ≤ i + 1 ∧ i + 1 < cell.stop axis

theorem Grid.GrowsWithin.sum_covered_gifts {grid : Grid} {axis : Axis} {cell : Cell}
    (h : grid.GrowsWithin axis cell) (hstart : 1 ≤ cell.start.along axis) (surplus : Int) :
    (cell.covered axis (gifts (grid.tracks.along axis) surplus)).sum =
      (gifts (grid.tracks.along axis) surplus).sum := by
  refine Cell.sum_covered_of_outside hstart fun i hout => ?_
  rcases Nat.lt_or_ge i (grid.tracks.along axis).length with hi | hi
  · have ht := List.getElem?_eq_getElem hi
    apply gift_of_not_grows ht
    rw [Bool.eq_false_iff]
    intro hgrows
    have hin := h.within i _ ht hgrows
    omega
  · exact List.getD_eq_default _ _ (by rwa [length_gifts])

/-! ## Tracks of preferred size -/

/-- The size is what the components prefer, or a lower bound where that is more. -/
def Size.KeepsPreferred (size : Size) : Prop :=
  size = .component .preferred ∨ ∃ lower, size = .bounded .preferred (.atLeast lower)

namespace Size.KeepsPreferred

variable {size : Size} (h : size.KeepsPreferred)

include h

theorem basis?_eq : size.basis? = some .preferred := by
  rcases h with rfl | ⟨lower, rfl⟩ <;> rfl

theorem preferred_le_toPixels (axis : Axis) (metrics : Metrics) {members : List Extent}
    {extent : Extent} (hmem : extent ∈ members) :
    extent.preferred ≤ size.toPixels axis metrics members := by
  have hlargest : extent.preferred ≤ Basis.preferred.largest members :=
    le_max_getD (List.mem_map_of_mem hmem)
  rcases h with rfl | ⟨lower, rfl⟩
  · exact hlargest
  · exact hlargest.trans (Int.le_max_left ..)

end Size.KeepsPreferred

theorem Grid.outer_le_need {grid : Grid} {axis : Axis} {components : List Component}
    {component : Component} (hmem : component ∈ components)
    (hfits : component.cell.FitsIn axis (grid.count axis))
    (hspan : component.cell.span.along axis = 1) {track : Track}
    (ht : (grid.tracks.along axis)[component.cell.start.along axis - 1]? = some track)
    (hsize : track.size.KeepsPreferred) (metrics : Metrics) :
    (component.outerExtent axis).preferred ≤
      (grid.needs axis metrics components).preferred.getD
        (component.cell.start.along axis - 1) 0 := by
  have hstart := hfits.start_pos
  have hmember : component.outerExtent axis ∈
      membersOf axis (component.cell.start.along axis - 1 + 1) components := by
    apply List.mem_map_of_mem (List.mem_filter.2 ⟨hmem, ?_⟩)
    simp only [Cell.liesOnlyIn, hspan, Bool.and_eq_true, decide_eq_true_eq, and_true]
    omega
  refine Int.le_trans ?_ (getD_le_getD_equalize _ _ _)
  change _ ≤ (grid.ownSizes axis metrics components id).getD _ 0
  rw [getD_ownSizes, ht, Option.map_some, Option.getD_some, List.map_id]
  exact hsize.preferred_le_toPixels axis metrics hmember

/-! ## Grids whose tracks are all of preferred size -/

namespace Grid

/-- All tracks of the axis are as large as their components prefer, and nothing that a layout of
these components along the axis depends on is negative. -/
structure PreferredAlong (grid : Grid) (axis : Axis) (keys : List String) (measure : Measure)
    (options : Options) : Prop extends grid.NonnegSpace axis keys options where
  tracks : ∀ track ∈ grid.tracks.along axis, track.size = .component .preferred
  measures : ∀ key ∈ keys, 0 ≤ ((measure key).along axis).preferred

variable {grid : Grid} {axis : Axis} {keys : List String} {measure : Measure} {options : Options}

namespace PreferredAlong

variable {components : List Component} {component : Component}
  (h : grid.PreferredAlong axis keys measure options)

include h

theorem size_trackAt_start (hfits : component.cell.FitsIn axis (grid.count axis)) :
    ((grid.tracks.along axis).getD (component.cell.start.along axis - 1) (.glue axis)).size =
      .component .preferred := by
  rw [List.getD_eq_getElem _ _ hfits.first_lt]
  exact h.tracks _ (List.getElem_mem _)

theorem outer_le_sum_covered_needs (hmem : component ∈ components)
    (hfits : component.cell.FitsIn axis (grid.count axis))
    (hspan : component.cell.span.along axis = 1) :
    (component.outerExtent axis).preferred ≤
      (component.cell.covered axis
        (grid.needs axis options.metrics components).preferred).sum := by
  have hlen := (grid.ofLength_needs axis options.metrics components).preferred
  have ht := List.getElem?_eq_getElem (l := grid.tracks.along axis) hfits.first_lt
  rw [Cell.covered_of_span hspan (hlen ▸ hfits), List.sum_singleton]
  exact outer_le_need hmem hfits hspan ht (.inl (h.tracks _ (List.mem_of_getElem? ht))) _

variable (hc : grid.components measure keys = .ok components)

include hc

theorem outer_nonneg (hmem : component ∈ components) :
    0 ≤ (component.outerExtent axis).preferred := by
  have hextent : 0 ≤ (component.extents.along axis).preferred :=
    (h.measures component.key (key_mem_of_mem hc hmem).1).trans
      (get_measure_le hc hmem axis .preferred)
  have hinsets := h.insets_nonneg hc hmem
  simp only [Component.outerExtent, Extent.map, plus, clamp, lowest, highest]
  omega

theorem needs_nonneg :
    ∀ size ∈ (grid.needs axis options.metrics components).preferred, 0 ≤ size := by
  apply forall_mem_of_getD
  apply getD_equalize_of_forall
  intro i
  change 0 ≤ (grid.ownSizes axis options.metrics components id).getD i 0
  rw [getD_ownSizes]
  cases ht : (grid.tracks.along axis)[i]? with
  | none => exact Int.le_refl 0
  | some track =>
    rw [Option.map_some, Option.getD_some, h.tracks track (List.mem_of_getElem? ht), List.map_id]
    apply Basis.largest_of_forall (Int.le_refl 0)
    intro extent hextent
    obtain ⟨component, hmem, rfl⟩ := exists_of_mem_membersOf hextent
    exact h.outer_nonneg hc hmem

variable {available : Int} (hroom : HasRoom axis .preferred
  (grid.needs axis options.metrics components).preferred components available)

include hroom

theorem sum_covered_lt (cell : Cell) :
    (cell.covered axis (grid.needs axis options.metrics components).preferred).sum < highest := by
  have hsub := cell.covered_sublist axis (grid.needs axis options.metrics components).preferred
  have hle := hsub.sum_le_sum (h.needs_nonneg hc)
  have hsum := hroom.sum_le
  have hlt := hroom.lt_highest
  omega

theorem fitted_eq : grid.fitted axis options.metrics components available =
    (grid.needs axis options.metrics components).preferred := by
  have htotal := total_of_nonneg (h.needs_nonneg hc)
  have hsum := hroom.sum_le
  rw [fitted, fit, if_pos (by omega)]

theorem spare_eq : grid.spare axis options.metrics components available =
    available - (grid.needs axis options.metrics components).preferred.sum := by
  have hnonneg : 0 ≤ (grid.needs axis options.metrics components).preferred.sum :=
    List.sum_nonneg (h.needs_nonneg hc)
  have htotal := total_of_nonneg (h.needs_nonneg hc)
  have hsum := hroom.sum_le
  have hlt := hroom.lt_highest
  rw [spare, h.fitted_eq hc hroom, htotal, min_eq_right (by omega)]
  exact clamp_of_inRange ⟨by rw [lowest]; omega, by omega⟩

theorem le_sum_covered_sized (cell : Cell) :
    min highest ((cell.covered axis (grid.needs axis options.metrics components).preferred).sum +
        (cell.covered axis (gifts (grid.tracks.along axis)
          (grid.spare axis options.metrics components available))).sum) ≤
      (cell.covered axis (grid.sized axis options.metrics components available)).sum := by
  have hlen : (grid.needs axis options.metrics components).preferred.length =
      (gifts (grid.tracks.along axis)
        (grid.spare axis options.metrics components available)).length := by
    rw [length_gifts, (grid.ofLength_needs axis options.metrics components).preferred]
    rfl
  rw [sized_eq, h.fitted_eq hc hroom, Cell.covered_zipWith]
  apply le_sum_zipWith_plus
  · simp only [Cell.covered, List.length_take, List.length_drop, hlen]
  · exact fun size hsize => h.needs_nonneg hc size ((cell.covered_sublist axis _).subset hsize)
  · exact fun gift hgift => gifts_spare_nonneg gift ((cell.covered_sublist axis _).subset hgift)

theorem sum_covered_needs_le (cell : Cell) :
    (cell.covered axis (grid.needs axis options.metrics components).preferred).sum ≤
      (cell.covered axis (grid.sized axis options.metrics components available)).sum := by
  have hcovered : 0 ≤ (cell.covered axis (gifts (grid.tracks.along axis)
      (grid.spare axis options.metrics components available))).sum :=
    List.sum_nonneg fun gift hgift =>
      gifts_spare_nonneg gift ((cell.covered_sublist axis _).subset hgift)
  have hlt := h.sum_covered_lt hc hroom cell
  have hle := h.le_sum_covered_sized hc hroom cell
  omega

theorem sum_covered_sized_nonneg (cell : Cell) :
    0 ≤ (cell.covered axis (grid.sized axis options.metrics components available)).sum := by
  refine Int.le_trans (List.sum_nonneg fun size hsize => ?_) (h.sum_covered_needs_le hc hroom cell)
  exact h.needs_nonneg hc size ((cell.covered_sublist axis _).subset hsize)

variable (hmem : component ∈ components)
  (hfits : component.cell.FitsIn axis (grid.count axis))

include hmem hfits

theorem outer_lt_highest : (component.outerExtent axis).preferred < highest := by
  have hlt := h.sum_covered_lt hc hroom component.cell
  rcases Nat.eq_or_lt_of_le hfits.span_pos with hspan | hspan
  · have hle := h.outer_le_sum_covered_needs hmem hfits hspan.symm
    omega
  · have hspanning : _ ≤ _ := hroom.spanning component hmem hspan
    have hsub := component.cell.covered_sublist axis
      (grid.needs axis options.metrics components).preferred
    have hle := hsub.sum_le_sum (h.needs_nonneg hc)
    have hroomLt := hroom.lt_highest
    rw [Extent.get] at hspanning
    omega

theorem outer_le_sum_covered_sized
    (hcase : component.cell.span.along axis = 1 ∨ grid.GrowsWithin axis component.cell) :
    (component.outerExtent axis).preferred ≤
      (component.cell.covered axis
        (grid.sized axis options.metrics components available)).sum := by
  have hsized := h.sum_covered_needs_le hc hroom component.cell
  rcases Nat.eq_or_lt_of_le hfits.span_pos with hspan | hspan
  · exact (h.outer_le_sum_covered_needs hmem hfits hspan.symm).trans hsized
  · have hwithin : grid.GrowsWithin axis component.cell := hcase.resolve_left (by omega)
    have hspanning : _ ≤ _ := hroom.spanning component hmem hspan
    rw [Extent.get] at hspanning
    have hspare := h.spare_eq hc hroom
    rcases Int.lt_or_le 0 (grid.spare axis options.metrics components available) with hs | hs
    · -- The tracks that grow get all of the room that is left, and the cell covers them.
      have hgiven := sum_gifts hs (minus_inRange ..) hwithin.grows
      rw [← hwithin.sum_covered_gifts hfits.start_pos] at hgiven
      have hle := h.le_sum_covered_sized hc hroom component.cell
      have hlt := h.outer_lt_highest hc hroom hmem hfits
      omega
    · omega

theorem measure_le_outer :
    ((measure component.key).along axis).preferred + component.cell.insets.along axis ≤
      (component.outerExtent axis).preferred := by
  have hshared : _ ≤ _ := get_measure_le hc hmem axis .preferred
  have hlt := h.outer_lt_highest hc hroom hmem hfits
  simp only [Component.outerExtent, Extent.map, Extent.get, plus, clamp, lowest, highest] at *
  omega

theorem measure_le_extent_iff {start : Int} {bounds : PerAxis (List Int)}
    (hbounds : bounds.along axis =
      boundaries start (grid.sized axis options.metrics components available))
    (huncut : Uncut start (grid.sized axis options.metrics components available)) :
    ((measure component.key).along axis).preferred ≤
        (grid.rectOf bounds component).extent.along axis ↔
      ((measure component.key).along axis).preferred = 0 ∨
        ((measure component.key).along axis).preferred + component.cell.insets.along axis ≤
          (component.cell.covered axis
            (grid.sized axis options.metrics components available)).sum := by
  have hmeasure := h.measures component.key (key_mem_of_mem hc hmem).1
  have hinsets := h.insets_nonneg hc hmem
  have houter := h.measure_le_outer hc hroom hmem hfits
  have hlt := h.outer_lt_highest hc hroom hmem hfits
  have hcovered := h.sum_covered_sized_nonneg hc hroom component.cell
  have hlen : (grid.sized axis options.metrics components available).length = grid.count axis :=
    length_finalSizes (grid.ofLength_needs axis options.metrics components) _ _
  have hrect : (grid.rectOf bounds component).extent.along axis =
      (component.placeIn axis ((grid.tracks.along axis).getD (component.cell.start.along axis - 1)
        (.glue axis)) (component.cell.inner axis (boundaries start
          (grid.sized axis options.metrics components available)))).extent := by
    rw [← hbounds, rectOf, PerAxis.along_ofFn]
    rfl
  have hshared : ((measure component.key).along axis).preferred ≤
      (component.extents.along axis).preferred := get_measure_le hc hmem axis .preferred
  rw [hrect, Component.le_extent_placeIn_iff (h.size_trackAt_start hfits) hshared,
    Cell.extent_inner (hlen ▸ hfits) huncut]
  simp only [minus, clamp, lowest, highest] at *
  omega

end PreferredAlong

/-- In a container of the preferred size a component gets what it prefers exactly if its tracks have
room for that. They do if it covers one track, if they are large enough already, or if they are all
tracks that grow; other tracks get nothing of the room that the form has for the component. -/
theorem extents_of_preferredSize (h : grid.Reachable)
    (hp : grid.PreferredAlong axis keys measure options)
    (hk : ∀ key ∈ keys, grid.cells.contains key = true) :
    ∃ components preferred, grid.components measure keys = .ok components ∧
      grid.preferredSize keys measure options = .ok preferred ∧
      ∀ container : Rect, container.extent.along axis = preferred.along axis →
        preferred.along axis < highest →
        Uncut (plus (container.origin.along axis) (options.border.leading.along axis))
          (grid.sized axis options.metrics components (Grid.available container options axis)) →
        ∃ layout, grid.layout container keys measure options = .ok layout ∧
          ∀ key ∈ keys, ∃ cell rect, grid.cells.get? key = some cell ∧
            layout.rects.get? key = some rect ∧
            (((measure key).along axis).preferred ≤ rect.extent.along axis ↔
              ((measure key).along axis).preferred = 0 ∨
                ((measure key).along axis).preferred + cell.insets.along axis ≤
                  (cell.covered axis (grid.sized axis options.metrics components
                    (Grid.available container options axis))).sum) ∧
            (cell.span.along axis = 1 ∨
              ((measure key).along axis).preferred + cell.insets.along axis ≤
                (cell.covered axis (grid.needs axis options.metrics components).preferred).sum ∨
              grid.GrowsWithin axis cell →
              ((measure key).along axis).preferred ≤ rect.extent.along axis) := by
  obtain ⟨components, hc, hkeys, hholds⟩ := components_eq_ok h hk measure
  obtain ⟨preferred, hsize⟩ := formSize_of_components hc .preferred (·.preferred) options
  refine ⟨components, preferred, hc, hsize, fun container hcontainer hlt huncut => ?_⟩
  rw [formSize, hc, ok_bind] at hsize
  cases hsize
  rw [PerAxis.along_ofFn] at hcontainer hlt
  have hroom := hasRoom_formExtent (hp.needs_nonneg hc) hp.border hlt
  rw [← hcontainer] at hroom
  have hbounds : (PerAxis.ofFn (grid.arrange container components options)).along axis =
      boundaries (plus (container.origin.along axis) (options.border.leading.along axis))
        (grid.sized axis options.metrics components (Grid.available container options axis)) := by
    rw [PerAxis.along_ofFn]
    rfl
  refine ⟨_, by rw [layout, hc]; rfl, fun key hkey => ?_⟩
  obtain ⟨component, hmem, rfl⟩ := List.mem_map.1 (hkeys ▸ hkey)
  have hfits := hholds component hmem axis
  have hiff := hp.measure_le_extent_iff hc hroom hmem hfits hbounds huncut
  refine ⟨component.cell, _, (key_mem_of_mem hc hmem).2, get?_rects hc hmem _, hiff, ?_⟩
  intro hcase
  rw [hiff]
  right
  rcases hcase with hspan | hneeds | hwithin
  · exact (hp.measure_le_outer hc hroom hmem hfits).trans
      (hp.outer_le_sum_covered_sized hc hroom hmem hfits (.inl hspan))
  · exact hneeds.trans (hp.sum_covered_needs_le hc hroom component.cell)
  · exact (hp.measure_le_outer hc hroom hmem hfits).trans
      (hp.outer_le_sum_covered_sized hc hroom hmem hfits (.inr hwithin))

/-- A row for samples, as high as its components prefer. -/
def preferredRow : Track where
  axis := .vertical
  alignment := .standard .vertical
  size := .component .preferred
  weight := .zero
  weight_ok := isWeight_zero

/-- A title over the two columns that grow, beside a label. The first two columns are kept equally
wide. -/
def titled : Grid :=
  [Edit.place "label" { start := ⟨1, 1⟩ }, .place "title" { start := ⟨2, 1⟩, span := ⟨2, 1⟩ },
    .setGroups .horizontal [[1, 2]]].foldl after
    { tracks := ⟨[.sample (.component .preferred) .zero isWeight_zero,
        .sample (.component .preferred) .one isWeight_one,
        .sample (.component .preferred) .half isWeight_half], [preferredRow]⟩ }

theorem reachable_titled : titled.Reachable := reachable_foldl_after _ _ (by decide) (by decide)

def titledMeasure : Measure :=
  .ofTable ⟨[("label", ⟨⟨0, 10, 10⟩, ⟨0, 5, 5⟩⟩), ("title", ⟨⟨0, 100, 100⟩, ⟨0, 5, 5⟩⟩)]⟩

theorem preferred_titled :
    titled.PreferredAlong .horizontal ["label", "title"] titledMeasure {} where
  tracks := by decide
  measures := by decide +kernel
  insets := by decide +kernel
  border := by decide

theorem growsWithin_titled :
    titled.GrowsWithin .horizontal { start := ⟨2, 1⟩, span := ⟨2, 1⟩ } where
  grows := by decide
  within := by
    intro i track ht hgrows
    match i with
    | 0 =>
      cases ht
      cases hgrows
    | 1 => decide
    | 2 => decide
    | _ + 3 => cases ht

/-- The form prefers 110 pixels, and all of the 90 that its columns do not need go to the title. -/
theorem extents_of_titled :
    ∃ preferred layout rect,
      titled.preferredSize ["label", "title"] titledMeasure {} = .ok preferred ∧
        preferred.horizontal = 110 ∧
        titled.layout ⟨⟨0, 0⟩, ⟨110, 5⟩⟩ ["label", "title"] titledMeasure {} = .ok layout ∧
        layout.rects.get? "title" = some rect ∧ 100 ≤ rect.extent.horizontal := by
  have hc : titled.components titledMeasure ["label", "title"] = .ok _ := rfl
  have hsize : titled.preferredSize ["label", "title"] titledMeasure {} = .ok _ := rfl
  have hcell : titled.cells.get? "title" = some { start := ⟨2, 1⟩, span := ⟨2, 1⟩ } := by
    decide +kernel
  obtain ⟨components, preferred, hc', hsize', hextents⟩ :=
    extents_of_preferredSize reachable_titled preferred_titled (by decide +kernel)
  cases hc.symm.trans hc'
  cases hsize.symm.trans hsize'
  obtain ⟨layout, hl, hkeys⟩ := hextents ⟨⟨0, 0⟩, ⟨110, 5⟩⟩ (by decide +kernel) (by decide +kernel)
    (by decide +kernel)
  obtain ⟨cell, rect, hcell', hrect, -, hshown⟩ := hkeys "title" (by decide)
  cases hcell.symm.trans hcell'
  exact ⟨_, layout, rect, hsize, by decide +kernel, hl, hrect,
    hshown (.inr (.inr growsWithin_titled))⟩

/-- A title of 100 pixels over two columns that do not grow. -/
def rigid : Grid :=
  [Edit.place "title" { start := ⟨1, 1⟩, span := ⟨2, 1⟩ }].foldl after
    { tracks := ⟨List.replicate 2 (.sample (.component .preferred) .zero isWeight_zero),
        [preferredRow]⟩ }

/-- The form prefers the 100 pixels of the title, but its columns stay empty, and so does the
title. -/
theorem rigid_hides_title :
    rigid.Reachable ∧ (∀ axis, rigid.PreferredAlong axis ["title"] titledMeasure {}) ∧
      ∃ preferred layout, rigid.preferredSize ["title"] titledMeasure {} = .ok preferred ∧
        rigid.layout ⟨⟨0, 0⟩, preferred⟩ ["title"] titledMeasure {} = .ok layout ∧
        preferred = ⟨100, 5⟩ ∧ layout.sizes .horizontal = [0, 0] ∧
        layout.rects.get? "title" = some ⟨⟨0, 0⟩, ⟨0, 5⟩⟩ ∧
        ((titledMeasure "title").along .horizontal).preferred = 100 := by
  refine ⟨reachable_foldl_after _ _ (by decide) (by decide), fun axis => ?_, _, _, rfl, rfl,
    by decide +kernel, by decide +kernel, by decide +kernel, by decide +kernel⟩
  cases axis <;> exact ⟨⟨by decide +kernel, by decide⟩, by decide, by decide +kernel⟩

end Grid

end TrackGrid
