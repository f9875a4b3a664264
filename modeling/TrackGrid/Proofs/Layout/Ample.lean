import TrackGrid.Proofs.Layout.Anchored

/-! # Containers that are large enough

A form in a container of its preferred size, or of any larger one, has its tracks at what they
prefer. Only tracks that grow are larger.

Main statement: `Grid.sizes_of_ample`.
-/

namespace TrackGrid

open Pixels

/-! ## Components with room -/

theorem Component.extent_placeIn_of_room {component : Component} {axis : Axis} {track : Track}
    (hsize : track.size.KeepsPreferred) {inner : Stretch}
    (hroom : (component.extents.along axis).preferred ≤ inner.extent) :
    (component.extents.along axis).preferred ≤ (component.placeIn axis track inner).extent ∧
      (component.alignmentIn axis track ≠ .fill →
        (component.placeIn axis track inner).extent =
          (component.extents.along axis).preferred) := by
  unfold placeIn alignmentIn
  by_cases hfill : (component.cell.alignment.along axis).orTrack track.alignment = .fill
  · simp [hfill, hroom]
  · simp [hfill, hsize.basis?_eq, Extent.natural, hroom]

theorem Cell.le_extent_inner {cell : Cell} {axis : Axis} {start : Int} {sizes : List Int}
    (hfits : cell.FitsIn axis sizes.length) (hspan : cell.span.along axis = 1)
    (huncut : Uncut start sizes) {preferred : Int} (hpreferred : preferred ≤ highest)
    (hinsets : preferred + cell.insets.along axis ≤ highest)
    (hle : plus preferred (cell.insets.along axis) ≤
      sizes.getD (cell.start.along axis - 1) 0) :
    preferred ≤ (cell.inner axis (boundaries start sizes)).extent := by
  rw [Cell.extent_inner hfits huncut, covered_of_span hspan hfits, List.sum_singleton]
  simp only [plus, minus, clamp, lowest, highest] at *
  omega

namespace Grid

variable {grid : Grid} {axis : Axis} {keys : List String} {measure : Measure} {options : Options}
  {components : List Component} {container : Rect}

/-! ## Tracks with room -/

theorem total_le_available {sizes : List Int} {basis : Basis}
    (hcontainer : formExtent axis basis sizes components options ≤ container.extent.along axis)
    (hrange : InRange (total sizes + options.border.along axis)) :
    total sizes ≤ available container options axis := by
  have hwidest : total sizes ≤ ((components.filter fun component =>
      1 < component.cell.span.along axis).map (stretchedTotal axis basis sizes)).foldl max
        (total sizes) := le_foldl_max (.inl (Int.le_refl _))
  have hborder : total sizes + options.border.along axis ≤ container.extent.along axis := by
    rw [← clamp_of_inRange hrange]
    exact (clamp_mono (Int.add_le_add_right hwidest _)).trans hcontainer
  calc total sizes = clamp (total sizes) := (clamp_of_inRange (total_inRange sizes)).symm
    _ ≤ available container options axis := clamp_mono (by omega)

theorem getD_sized_of_total_le {metrics : Metrics} {available : Int}
    (h : total (grid.needs axis metrics components).preferred ≤ available) {i : Nat} {track : Track}
    (ht : (grid.tracks.along axis)[i]? = some track) (hrigid : track.grows = false) :
    (grid.sized axis metrics components available).getD i 0 =
      (grid.needs axis metrics components).preferred.getD i 0 := by
  rw [getD_sized_of_not_grows ht hrigid, fitted, fit, if_pos h]

/-! ## The main statement -/

/-- In a container that is as large as the form prefers, or larger, each track that does not grow
has what it prefers with its group, whatever the container. So a component that lies in one such
track has what it prefers with its size group, or more if it fills the track. -/
theorem sizes_of_ample (axis : Axis) (h : grid.Reachable) {preferred : Dimension}
    (hp : grid.preferredSize keys measure options = .ok preferred) :
    ∃ components, grid.components measure keys = .ok components ∧
      ∀ container : Rect, preferred.along axis ≤ container.extent.along axis →
        InRange (total (grid.needs axis options.metrics components).preferred +
          options.border.along axis) →
        Uncut (plus (container.origin.along axis) (options.border.leading.along axis))
          (grid.sized axis options.metrics components (available container options axis)) →
        ∃ layout, grid.layout container keys measure options = .ok layout ∧
          (∀ (i : Nat) (track : Track), (grid.tracks.along axis)[i]? = some track →
            track.grows = false → (layout.sizes axis)[i]? =
              (grid.needs axis options.metrics components).preferred[i]?) ∧
          ∀ key ∈ keys, ∃ cell rect track extent, grid.Places layout key cell rect ∧
            (grid.tracks.along axis)[cell.start.along axis - 1]? = some track ∧
            grid.Unifies axis keys measure key extent ∧
            (cell.span.along axis = 1 → track.grows = false → track.size.KeepsPreferred →
              extent.preferred ≤ highest →
              extent.preferred + cell.insets.along axis ≤ highest →
              extent.preferred ≤ rect.extent.along axis ∧
                ((cell.alignment.along axis).orTrack track.alignment ≠ .fill →
                  rect.extent.along axis = extent.preferred)) := by
  obtain ⟨components, hc, hsize⟩ := bind_eq_ok_iff.1 hp
  cases hsize
  rw [PerAxis.along_ofFn]
  refine ⟨components, hc, fun container hcontainer hrange huncut => ?_⟩
  obtain ⟨layout, hl⟩ : ∃ layout, grid.layout container keys measure options = .ok layout :=
    ⟨_, by rw [Grid.layout, hc]; rfl⟩
  obtain ⟨components', hc', hbounds, hrects⟩ := exists_components_of_layout hl
  obtain rfl := Except.ok.inj (hc.symm.trans hc')
  have htotal := total_le_available hcontainer hrange
  have hneeds := (grid.ofLength_needs axis options.metrics components).preferred
  have hlen : (grid.sized axis options.metrics components
      (available container options axis)).length = grid.count axis :=
    length_finalSizes (grid.ofLength_needs axis options.metrics components) _ _
  refine ⟨layout, hl, fun i track ht hrigid => ?_, fun key hkey => ?_⟩
  · have hi : i < grid.count axis := (List.getElem?_eq_some_iff.1 ht).1
    -- The boundaries are not cut off, so they give the sizes back.
    rw [sizes_of_layout hc hl axis, sizesBetween_boundaries huncut inRange_sized,
      getElem?_eq_some_getD (hlen ▸ hi), getD_sized_of_total_le htotal ht hrigid,
      getElem?_eq_some_getD (hneeds ▸ hi)]
  · obtain ⟨component, hmem, rfl⟩ := exists_component_of_mem hc hkey
    have hcell := (key_mem_of_mem hc hmem).2
    have hfits := h.fitsIn hcell axis
    have ht := List.getElem?_eq_getElem (l := grid.tracks.along axis) hfits.first_lt
    refine ⟨component.cell, grid.rectOf layout.boundaries component, _, _,
      ⟨hcell, hrects ▸ get?_rects hc hmem _⟩, ht, unifies_extents hc hmem, ?_⟩
    intro hspan hrigid hkeeps hhigh hinsets
    have houter := outer_le_need hmem hfits hspan ht hkeeps options.metrics
    rw [← getD_sized_of_total_le htotal ht hrigid] at houter
    have hroom := Cell.le_extent_inner (hlen ▸ hfits) hspan huncut hhigh hinsets houter
    have hextent : (grid.rectOf layout.boundaries component).extent.along axis = _ :=
      congrArg Stretch.extent (stretch_rectOf_of_track ht layout.boundaries)
    rw [hextent, hbounds, PerAxis.along_ofFn]
    exact Component.extent_placeIn_of_room hkeeps hroom

/-- A label of 30 pixels at least, a field that grows, and a unit that fills its column. The first
and the last column are kept equally wide. -/
def priced : Grid :=
  [Edit.place "label" { start := ⟨1, 1⟩, insets := .ofSides 0 2 0 3 },
    .place "field" { start := ⟨2, 1⟩ },
    .place "unit" { start := ⟨3, 1⟩, alignment := ⟨.own .fill, .inherited⟩ },
    .setGroups .horizontal [[1, 3]]].foldl after
    { tracks := ⟨[.sample (.bounded .preferred (.atLeast ⟨.ofInt 30, .pixel⟩)) .zero isWeight_zero,
        .sample (.component .preferred) .one isWeight_one,
        .sample (.component .preferred) .zero isWeight_zero], [preferredRow]⟩ }

theorem reachable_priced : priced.Reachable := reachable_foldl_after _ _ (by decide) (by decide)

def pricedMeasure : Measure :=
  .ofTable ⟨[("label", ⟨⟨0, 20, 20⟩, ⟨5, 5, 5⟩⟩), ("field", ⟨⟨0, 60, 60⟩, ⟨5, 5, 5⟩⟩),
    ("unit", ⟨⟨0, 40, 40⟩, ⟨5, 5, 5⟩⟩)]⟩

/-- The form prefers 140 pixels and a border of 10. The field has all that 171 pixels leave. -/
theorem sizes_of_priced :
    ∃ preferred layout label unit,
      priced.preferredSize ["label", "field", "unit"] pricedMeasure { border := .uniform 5 } =
        .ok preferred ∧ preferred.horizontal = 150 ∧
      priced.layout ⟨⟨0, 0⟩, ⟨171, 15⟩⟩ ["label", "field", "unit"] pricedMeasure
        { border := .uniform 5 } = .ok layout ∧
      (layout.sizes .horizontal)[0]? = some 40 ∧ (layout.sizes .horizontal)[2]? = some 40 ∧
      layout.rects.get? "label" = some label ∧ label.extent.horizontal = 20 ∧
      layout.rects.get? "unit" = some unit ∧ 40 ≤ unit.extent.horizontal := by
  have hc : priced.components pricedMeasure ["label", "field", "unit"] = .ok _ := rfl
  have hp : priced.preferredSize ["label", "field", "unit"] pricedMeasure
      { border := .uniform 5 } = .ok _ := rfl
  have hcell : priced.cells.get? "label" =
      some { start := ⟨1, 1⟩, insets := .ofSides 0 2 0 3 } := by decide +kernel
  have hcell' : priced.cells.get? "unit" =
      some { start := ⟨3, 1⟩, alignment := ⟨.own .fill, .inherited⟩ } := by decide +kernel
  obtain ⟨components, hc', hample⟩ := sizes_of_ample .horizontal reachable_priced hp
  cases hc.symm.trans hc'
  obtain ⟨layout, hl, hsizes, hrects⟩ := hample ⟨⟨0, 0⟩, ⟨171, 15⟩⟩ (by decide +kernel)
    (by decide +kernel) (by decide +kernel)
  obtain ⟨cell, label, _, extent, hplaces, ht, hunifies, hlabel⟩ := hrects "label" (by decide)
  obtain ⟨cell', unit, _, extent', hplaces', ht', hunifies', hunit⟩ := hrects "unit" (by decide)
  cases hcell.symm.trans hplaces.cell
  cases hcell'.symm.trans hplaces'.cell
  cases ht
  cases ht'
  have hextent : extent.preferred = 20 :=
    (hunifies.get_eq (by decide +kernel) .preferred).trans (by decide +kernel)
  have hextent' : extent'.preferred = 40 :=
    (hunifies'.get_eq (by decide +kernel) .preferred).trans (by decide +kernel)
  rw [hextent] at hlabel
  rw [hextent'] at hunit
  obtain ⟨-, hexact⟩ := hlabel rfl (by decide) (.inr ⟨_, rfl⟩) (by decide) (by decide)
  obtain ⟨hle, -⟩ := hunit rfl (by decide) (.inl rfl) (by decide) (by decide)
  exact ⟨_, layout, label, unit, hp, by decide +kernel, hl,
    (hsizes 0 _ rfl (by decide)).trans (by decide +kernel),
    (hsizes 2 _ rfl (by decide)).trans (by decide +kernel), hplaces.rect, hexact (by decide),
    hplaces'.rect, hle⟩

end Grid

end TrackGrid
