import TrackGrid.Proofs.Layout.Exact

/-! # Larger components make larger forms

Widening a form for a component takes away what its tracks have, so it does not grow term by term.
What counts are the tracks beside the component. Main statement: the sizes of a form do not decrease
when components are added or enlarged, and the minimum size is at most the preferred one.
-/

namespace TrackGrid

open Pixels

/-! ## Order of extents -/

namespace Extent

/-- None of the three extents is larger. -/
def AtMost (a b : Extent) : Prop := ∀ basis, a.get basis ≤ b.get basis

instance (a b : Extent) : Decidable (a.AtMost b) :=
  inferInstanceAs (Decidable (∀ basis, a.get basis ≤ b.get basis))

variable {a b : Extent}

theorem AtMost.map_add (h : a.AtMost b) (n : Int) : (a.map (· + n)).AtMost (b.map (· + n)) := by
  intro basis
  rw [get_map, get_map]
  exact Int.add_le_add_right (h basis) n

theorem AtMost.tight (h : a.AtMost b) : a.tight.AtMost b.tight
  | .minimum => h .minimum
  | .preferred => h .preferred
  | .default => h .minimum

theorem tight_atMost (h : a.minimum ≤ a.default) : a.tight.AtMost a
  | .minimum => Int.le_refl _
  | .preferred => Int.le_refl _
  | .default => h

/-- Two forms see two components: the tracks by `see` and `see'`, the whole forms by the bases. The
first form sees no more than the second. -/
structure SeenAtMost (see see' : Extent → Extent) (basis basis' : Basis) (a b : Extent) : Prop where
  tracks : (see a).AtMost (see' b)
  form : a.get basis ≤ b.get basis'

theorem AtMost.seen_minimum (h : a.AtMost b) : SeenAtMost .tight .tight .minimum .minimum a b :=
  ⟨h.tight, h .minimum⟩

theorem AtMost.seen_preferred (h : a.AtMost b) : SeenAtMost id id .preferred .preferred a b :=
  ⟨h, h .preferred⟩

theorem seen_of_minimum_le (h : a.minimum ≤ a.preferred ∧ a.minimum ≤ a.default) :
    SeenAtMost .tight id .minimum .preferred a a :=
  ⟨tight_atMost h.2, h.1⟩

end Extent

/-! ## Sizes of tracks -/

section

variable {members others : List Extent}
  (h : ∀ extent ∈ members, ∃ other ∈ others, extent.AtMost other)
  (hnonneg : ∀ other ∈ others, ∀ basis, 0 ≤ other.get basis)

include h hnonneg

theorem Basis.largest_mono (basis : Basis) : basis.largest members ≤ basis.largest others := by
  apply max_getD_le
  · exact largest_of_forall (Int.le_refl 0) fun other hother => hnonneg other hother basis
  · refine List.forall_mem_map.2 fun extent hextent => ?_
    obtain ⟨other, hother, hle⟩ := h extent hextent
    exact (hle basis).trans (le_max_getD (List.mem_map_of_mem hother))

theorem Size.toPixels_mono (size : Size) (axis : Axis) (metrics : Metrics) :
    size.toPixels axis metrics members ≤ size.toPixels axis metrics others := by
  cases size with
  | constant length => exact Int.le_refl _
  | component basis => exact basis.largest_mono h hnonneg
  | bounded basis bounds => exact bounds.apply_mono axis metrics (basis.largest_mono h hnonneg)

end

/-! ## Counterparts -/

/-- Every component has a counterpart in the same cell, and their extents are related. -/
def Matched (R : Extent → Extent → Prop) (axis : Axis) (components others : List Component) :
    Prop :=
  ∀ component ∈ components, ∃ other ∈ others, other.cell = component.cell ∧
    R (component.extents.along axis) (other.extents.along axis)

theorem Matched.imp {R S : Extent → Extent → Prop} {axis : Axis}
    {components others : List Component} (h : Matched R axis components others)
    (hrs : ∀ {a b}, R a b → S a b) : Matched S axis components others := by
  intro component hmem
  obtain ⟨other, hother, hcell, hr⟩ := h component hmem
  exact ⟨other, hother, hcell, hrs hr⟩

theorem Matched.shareExtents {axis : Axis} {components others : List Component}
    (h : Matched Extent.AtMost axis components others) :
    Matched Extent.AtMost axis (Component.shareExtents components)
      (Component.shareExtents others) := by
  refine List.forall_mem_map.2 fun component hmem => ?_
  obtain ⟨other, hother, hcell, hle⟩ := h component hmem
  refine ⟨_, List.mem_map_of_mem hother, hcell, fun basis => ?_⟩
  rw [PerAxis.along_ofFn, PerAxis.along_ofFn]
  cases hgroup : component.cell.sizeGroup.along axis with
  | none =>
    rw [Component.sharedExtent_of_none hgroup, Component.sharedExtent_of_none (hcell ▸ hgroup)]
    exact hle basis
  | some group =>
    -- The largest of the group has a counterpart in the same group, which is no smaller.
    obtain ⟨largest, hlargest, hshared, he⟩ :=
      Component.exists_get_eq_sharedExtent hmem hgroup basis
    obtain ⟨larger, hlarger, hcell', hle'⟩ := h largest hlargest
    calc (component.sharedExtent axis components).get basis
        = (largest.extents.along axis).get basis := he.symm
      _ ≤ (larger.extents.along axis).get basis := hle' basis
      _ ≤ (other.sharedExtent axis others).get basis :=
        Component.get_le_sharedExtent_of_group hother (hcell ▸ hgroup) basis hlarger
          (hcell' ▸ hshared)

/-! ## Two forms -/

/-- What a cell leaves uncovered are the tracks before it and those after it. -/
theorem Cell.sum_sub_covered (cell : Cell) (axis : Axis) (sizes : List Int) :
    sizes.sum - (cell.covered axis sizes).sum =
      (sizes.take (cell.start.along axis - 1)).sum +
        ((sizes.drop (cell.start.along axis - 1)).drop (cell.span.along axis)).sum := by
  have hbefore := List.sum_take_add_sum_drop sizes (cell.start.along axis - 1)
  have hafter := List.sum_take_add_sum_drop (sizes.drop (cell.start.along axis - 1))
    (cell.span.along axis)
  rw [covered]
  omega

section

variable {axis : Axis} {see see' : Extent → Extent} {basis basis' : Basis}
  {components others : List Component}
  (h : Matched (Extent.SeenAtMost see see' basis basis') axis components others)

include h

theorem Exact.trackSizes_mono (hsee : Extent.Picks see) (hsee' : Extent.Picks see')
    (hnonneg : ∀ other ∈ others, other.NonnegAlong axis) (grid : Grid) (metrics : Metrics) :
    List.Forall₂ (· ≤ ·) (trackSizes grid axis metrics components see)
      (trackSizes grid axis metrics others see') := by
  apply forall₂_le_of_getD (by simp [trackSizes, ownSizes])
  apply getD_equalize_le (by simp [ownSizes])
  intro i
  simp only [ownSizes, List.getD_eq_getElem?_getD, List.getElem?_mapIdx]
  cases (grid.tracks.along axis)[i]? with
  | none => exact Int.le_refl _
  | some track =>
    refine track.size.toPixels_mono ?_ (shown_nonneg hnonneg hsee' (i + 1)) axis metrics
    refine List.forall_mem_map.2 (List.forall_mem_map.2 fun component hmem => ?_)
    obtain ⟨hmem, hlies⟩ := List.mem_filter.1 hmem
    obtain ⟨other, hother, hcell, hseen⟩ := h component hmem
    refine ⟨_, List.mem_map_of_mem (List.mem_map_of_mem
      (List.mem_filter.2 ⟨hother, hcell ▸ hlies⟩)), ?_⟩
    rw [outerExtent, outerExtent, hcell, hsee, hsee']
    exact hseen.tracks.map_add _

variable {sizes sizes' : List Int} (hsizes : List.Forall₂ (· ≤ ·) sizes sizes')

include hsizes

theorem Exact.innerExtent_mono :
    innerExtent axis basis sizes components ≤ innerExtent axis basis' sizes' others := by
  apply foldl_max_le (le_foldl_max (.inl hsizes.sum_le_sum))
  refine List.forall_mem_map.2 fun component hmem => ?_
  obtain ⟨hmem, hspan⟩ := List.mem_filter.1 hmem
  obtain ⟨other, hother, hcell, hseen⟩ := h component hmem
  refine le_trans ?_ (le_foldl_max (.inr (List.mem_map_of_mem
    (List.mem_filter.2 ⟨hother, hcell ▸ hspan⟩))))
  -- The sizes of the covered tracks cancel; those before and after them are no smaller.
  have hbefore := (List.forall₂_take (component.cell.start.along axis - 1) hsizes).sum_le_sum
  have hafter := (List.forall₂_drop (component.cell.span.along axis)
    (List.forall₂_drop (component.cell.start.along axis - 1) hsizes)).sum_le_sum
  have hform := hseen.form
  rw [stretchedTotal, stretchedTotal, outerExtent, outerExtent, hcell, Extent.get_map,
    Extent.get_map, Cell.sum_sub_covered, Cell.sum_sub_covered]
  omega

end

/-! ## More components -/

namespace Grid

variable {grid : Grid} {axis : Axis} {keys keys' : List String} {measure measure' : Measure}
  {options : Options} {components others : List Component}

theorem exists_components_of_subset (hkeys : keys ⊆ keys')
    (ho : grid.components measure' keys' = .ok others) (measure : Measure) :
    ∃ components, grid.components measure keys = .ok components := by
  obtain ⟨measured', hmeasured', hfits, -⟩ := components_eq_ok_iff.1 ho
  have hcell (key : String) (hkey : key ∈ keys) : ∃ cell, grid.cells.get? key = some cell ∧
      cell.checkFits grid.counts = .ok () := by
    obtain ⟨other, hother, hk⟩ := exists_mem_of_mapM hmeasured' (hkeys hkey)
    obtain ⟨cell, hget, rfl⟩ := component_eq_ok_iff.1 hk
    exact ⟨cell, hget, hfits _ hother⟩
  obtain ⟨measured, hmeasured⟩ : ∃ measured, keys.mapM (grid.component measure) = .ok measured :=
    exists_mapM_eq_ok fun key hkey => by
      obtain ⟨cell, hget, -⟩ := hcell key hkey
      exact ⟨_, component_eq_ok_iff.2 ⟨cell, hget, rfl⟩⟩
  refine ⟨_, components_eq_ok_iff.2 ⟨measured, hmeasured, fun component hmem => ?_, rfl⟩⟩
  obtain ⟨key, hkey, hk⟩ := exists_of_mem_mapM hmeasured hmem
  obtain ⟨cell, hget, rfl⟩ := component_eq_ok_iff.1 hk
  obtain ⟨cell', hget', hfit⟩ := hcell key hkey
  cases hget.symm.trans hget'
  exact hfit

theorem matched_components (hkeys : keys ⊆ keys')
    (hle : ∀ key ∈ keys, ((measure key).along axis).AtMost ((measure' key).along axis))
    (hc : grid.components measure keys = .ok components)
    (ho : grid.components measure' keys' = .ok others) :
    Matched Extent.AtMost axis components others := by
  obtain ⟨measured, hmeasured, -, rfl⟩ := components_eq_ok_iff.1 hc
  obtain ⟨measured', hmeasured', -, rfl⟩ := components_eq_ok_iff.1 ho
  apply Matched.shareExtents
  intro component hmem
  obtain ⟨key, hkey, hk⟩ := exists_of_mem_mapM hmeasured hmem
  obtain ⟨cell, hget, rfl⟩ := component_eq_ok_iff.1 hk
  obtain ⟨other, hother, hk'⟩ := exists_mem_of_mapM hmeasured' (hkeys hkey)
  obtain ⟨cell', hget', rfl⟩ := component_eq_ok_iff.1 hk'
  exact ⟨_, hother, Option.some.inj (hget'.symm.trans hget), hle key hkey⟩

theorem NonnegListed.formExtent_mono (h : grid.NonnegListed axis keys measure options)
    (h' : grid.NonnegListed axis keys' measure' options)
    (hc : grid.components measure keys = .ok components)
    (ho : grid.components measure' keys' = .ok others) {see see' : Extent → Extent}
    {basis basis' : Basis}
    (hmatched : Matched (Extent.SeenAtMost see see' basis basis') axis components others)
    (hsee : Extent.Picks see) (hsee' : Extent.Picks see') :
    formExtent axis basis (equalize (grid.groups.along axis)
        (grid.ownSizes axis options.metrics components see)) components options ≤
      formExtent axis basis' (equalize (grid.groups.along axis)
        (grid.ownSizes axis options.metrics others see')) others options := by
  have hsizes := Exact.trackSizes_mono hmatched hsee hsee' (fun _ => h'.nonnegAlong ho) grid
    options.metrics
  rw [h.formExtent_trackSizes hc hsee, h'.formExtent_trackSizes ho hsee']
  exact min_le_min_left _ (Int.add_le_add_right (Exact.innerExtent_mono hmatched hsizes) _)

/-- More components, or larger ones, do not make a form smaller. If no component needs less than its
minimum otherwise, neither does the form. -/
theorem formSizes_mono (h : grid.NonnegListed axis keys measure options)
    (h' : grid.NonnegListed axis keys' measure' options) (hkeys : keys ⊆ keys')
    (hle : ∀ key ∈ keys, ((measure key).along axis).AtMost ((measure' key).along axis))
    {minimum' : Dimension} (hlarge : grid.minimumSize keys' measure' options = .ok minimum') :
    ∃ minimum preferred preferred',
      grid.minimumSize keys measure options = .ok minimum ∧
      grid.preferredSize keys measure options = .ok preferred ∧
      grid.preferredSize keys' measure' options = .ok preferred' ∧
      minimum.along axis ≤ minimum'.along axis ∧
      preferred.along axis ≤ preferred'.along axis ∧
      ((∀ key ∈ keys,
          ((measure key).along axis).minimum ≤ ((measure key).along axis).preferred ∧
          ((measure key).along axis).minimum ≤ ((measure key).along axis).default) →
        minimum.along axis ≤ preferred.along axis) := by
  obtain ⟨others, ho, hminimum'⟩ := bind_eq_ok_iff.1 hlarge
  obtain ⟨components, hc⟩ := exists_components_of_subset hkeys ho measure
  have hmatched := matched_components hkeys hle hc ho
  cases hminimum'
  refine ⟨_, _, _, by rw [minimumSize, formSize, hc]; rfl, by rw [preferredSize, formSize, hc]; rfl,
    by rw [preferredSize, formSize, ho]; rfl, ?_, ?_, fun hordered => ?_⟩ <;>
    rw [PerAxis.along_ofFn, PerAxis.along_ofFn]
  · exact h.formExtent_mono h' hc ho (hmatched.imp Extent.AtMost.seen_minimum) Extent.picks_tight
      Extent.picks_tight
  · exact h.formExtent_mono h' hc ho (hmatched.imp Extent.AtMost.seen_preferred) Extent.picks_id
      Extent.picks_id
  · have hself : Matched (Extent.SeenAtMost .tight id .minimum .preferred) axis components
        components := fun component hmem => by
      have hextents := extents_of_max hc (P := fun extent =>
        extent.minimum ≤ extent.preferred ∧ extent.minimum ≤ extent.default)
        (fun a b ha hb => ⟨max_le_max ha.1 hb.1, max_le_max ha.2 hb.2⟩) hordered hmem
      exact ⟨component, hmem, rfl, Extent.seen_of_minimum_le hextents⟩
    exact h.formExtent_mono h hc hc hself Extent.picks_tight Extent.picks_id

def widerMeasure : Measure :=
  .ofTable ⟨[("label", ⟨⟨0, 30, 30⟩, ⟨0, 5, 5⟩⟩), ("title", ⟨⟨0, 120, 110⟩, ⟨0, 5, 5⟩⟩)]⟩

theorem nonneg_titled : titled.NonnegListed .horizontal ["title"] titledMeasure {} where
  measures := by decide +kernel
  insets := by decide +kernel
  border := by decide
  constants := by decide +kernel

theorem nonneg_wider : titled.NonnegListed .horizontal ["label", "title"] widerMeasure {} where
  measures := by decide +kernel
  insets := by decide +kernel
  border := by decide
  constants := by decide +kernel

/-- A title of 120 pixels beside a label of 30 needs more than one of 100 pixels alone. -/
theorem formSizes_of_wider :
    ∃ minimum preferred preferred',
      titled.minimumSize ["title"] titledMeasure {} = .ok minimum ∧
      titled.preferredSize ["title"] titledMeasure {} = .ok preferred ∧
      titled.preferredSize ["label", "title"] widerMeasure {} = .ok preferred' ∧
      preferred.horizontal = 100 ∧ preferred'.horizontal = 150 ∧
      preferred.horizontal ≤ preferred'.horizontal ∧
      minimum.horizontal ≤ preferred.horizontal := by
  have hlarge : titled.minimumSize ["label", "title"] widerMeasure {} = .ok _ := rfl
  have hsmall : titled.preferredSize ["title"] titledMeasure {} = .ok _ := rfl
  have hwider : titled.preferredSize ["label", "title"] widerMeasure {} = .ok _ := rfl
  have hle : ∀ key ∈ ["title"], ((titledMeasure key).along .horizontal).AtMost
      ((widerMeasure key).along .horizontal) := by decide +kernel
  obtain ⟨minimum, preferred, preferred', hmin, hpref, hpref', -, hgrown, hordered⟩ :=
    formSizes_mono nonneg_titled nonneg_wider (by decide) hle hlarge
  cases hsmall.symm.trans hpref
  cases hwider.symm.trans hpref'
  exact ⟨minimum, _, _, hmin, hpref, hpref', by decide +kernel, by decide +kernel, hgrown,
    hordered (by decide +kernel)⟩

end Grid

end TrackGrid
