import TrackGrid.Proofs.Layout.Overflow

/-! # Forms in a container of their own size

Where no component covers several tracks, a form asks for exactly what its tracks need. Main
statement: in a container of the minimum size of the form, and in one of its preferred size, the
tracks reach from border to border, whatever the groups, sizes and weights are.
-/

namespace TrackGrid

open Pixels

/-! ## Tracks that need what there is -/

theorem head_boundaries (start : Int) (sizes : List Int) :
    (boundaries start sizes).head? = some start := by
  rw [boundaries_eq_cons, List.head?_cons]

theorem getLast_boundaries {start : Int} {sizes : List Int} (h : Uncut start sizes) :
    (boundaries start sizes).getLast? = some (start + sizes.sum) := by
  induction sizes generalizing start with
  | nil => simp [boundaries]
  | cons size sizes ih =>
    obtain ⟨hnext, htail⟩ := h.cons
    rw [boundaries, hnext, List.getLast?_cons, ih htail, Option.getD_some, List.sum_cons,
      Int.add_assoc]

namespace Needs.Plain

variable {tracks : List Track} {groups : List (List Nat)} {needs : Needs} {available : Int}
  (h : needs.Plain tracks groups)

include h

theorem sum_minimum_le_sum_preferred : needs.minimum.sum ≤ needs.preferred.sum := by
  have hnonneg : 0 ≤ (slacks tracks needs).sum := List.sum_nonneg h.slacks_nonneg
  have hle := h.sum_slacks_le
  omega

theorem sum_fit (hpref : needs.preferred.sum ≤ highest)
    (havailable : available = needs.minimum.sum ∨ available = needs.preferred.sum) :
    (fit tracks groups needs available).sum = available := by
  have hle := h.sum_minimum_le_sum_preferred
  have hminimum : total needs.minimum = needs.minimum.sum := by
    rw [total_of_nonneg h.minimum_nonneg, min_eq_right (hle.trans hpref)]
  have hpreferred : total needs.preferred = needs.preferred.sum := by
    rw [total_of_nonneg h.preferred_nonneg, min_eq_right hpref]
  unfold fit
  split
  · -- If the minimum leaves room for what the tracks prefer, both are the same.
    omega
  · rw [if_pos (by omega)]
    omega

theorem sum_finalSizes (hpref : needs.preferred.sum ≤ highest)
    (havailable : available = needs.minimum.sum ∨ available = needs.preferred.sum) :
    (finalSizes tracks groups needs available).sum = available := by
  have hsum := h.sum_fit hpref havailable
  have hnonneg : ∀ size ∈ fit tracks groups needs available, 0 ≤ size :=
    forall_mem_of_getD fun i => (h.nonneg i).trans (h.minimum_le_fit available i)
  have htotal : total (fit tracks groups needs available) = available := by
    have hle := h.sum_minimum_le_sum_preferred
    rw [total_of_nonneg hnonneg, hsum, min_eq_right (by omega)]
  have hsurplus : minus available (total (fit tracks groups needs available)) = 0 := by
    rw [htotal, minus, Int.sub_self]
    rfl
  simp only [finalSizes, hsurplus, lt_irrefl, if_false]
  exact hsum

end Needs.Plain

/-! ## Forms in which nothing spans -/

namespace Grid

variable {grid : Grid} {axis : Axis} {keys : List String} {measure : Measure} {options : Options}
  {components : List Component}

theorem formExtent_of_single {basis : Basis} {sizes : List Int}
    (hsingle : ∀ component ∈ components, component.cell.span.along axis = 1)
    (hnonneg : ∀ size ∈ sizes, 0 ≤ size) (hborder : 0 ≤ options.border.along axis)
    (hsum : sizes.sum + options.border.along axis ≤ highest) :
    formExtent axis basis sizes components options = sizes.sum + options.border.along axis := by
  have hnone : (components.filter fun component => 1 < component.cell.span.along axis) = [] := by
    rw [List.filter_eq_nil_iff]
    intro component hmem
    rw [hsingle component hmem]
    decide
  have hsizes : 0 ≤ sizes.sum := List.sum_nonneg hnonneg
  rw [formExtent, hnone, List.map_nil, List.foldl_nil, total_of_nonneg hnonneg,
    min_eq_right (by omega)]
  exact clamp_of_inRange ⟨by rw [lowest]; omega, hsum⟩

theorem components_of_single (h : grid.Reachable)
    (hsingle : ∀ key ∈ keys, ∃ cell, grid.cells.get? key = some cell ∧ cell.span.along axis = 1)
    (measure : Measure) :
    ∃ components, grid.components measure keys = .ok components ∧
      ∀ component ∈ components, component.cell.span.along axis = 1 := by
  have hplaced : ∀ key ∈ keys, grid.cells.contains key = true := by
    intro key hkey
    obtain ⟨cell, hcell, -⟩ := hsingle key hkey
    rw [Table.contains, hcell]
    rfl
  obtain ⟨components, hc, -, -⟩ := components_eq_ok h hplaced measure
  refine ⟨components, hc, fun component hmem => ?_⟩
  obtain ⟨hkey, hcell⟩ := key_mem_of_mem hc hmem
  obtain ⟨cell, hcell', hspan⟩ := hsingle component.key hkey
  cases hcell.symm.trans hcell'
  exact hspan

/-- Along an axis on which every component covers one track, a container of the minimum size of the
form, or of its preferred size, is filled by the tracks exactly. -/
theorem boundaries_of_formSize (h : grid.Reachable)
    (hregular : grid.RegularListed axis keys measure options)
    (hsingle : ∀ key ∈ keys, ∃ cell, grid.cells.get? key = some cell ∧ cell.span.along axis = 1) :
    ∃ components minimum preferred, grid.components measure keys = .ok components ∧
      grid.minimumSize keys measure options = .ok minimum ∧
      grid.preferredSize keys measure options = .ok preferred ∧
      ∀ container : Rect,
        container.extent.along axis = minimum.along axis ∨
          container.extent.along axis = preferred.along axis →
        (grid.needs axis options.metrics components).preferred.sum + options.border.along axis ≤
          highest →
        Uncut (plus (container.origin.along axis) (options.border.leading.along axis))
          (grid.sized axis options.metrics components (Grid.available container options axis)) →
        ∃ layout first last, grid.layout container keys measure options = .ok layout ∧
          (layout.boundaries.along axis).head? = some first ∧
          (layout.boundaries.along axis).getLast? = some last ∧
          last - first = container.extent.along axis - options.border.along axis := by
  obtain ⟨components, hc, hspans⟩ := components_of_single h hsingle measure
  refine ⟨components, _, _, hc, by rw [minimumSize, formSize, hc]; rfl,
    by rw [preferredSize, formSize, hc]; rfl, fun container hextent hsum huncut => ?_⟩
  have hplain := plain_needs (h.wellFormed axis) hregular hc
  have hborder := hregular.border
  have hle := hplain.sum_minimum_le_sum_preferred
  have hnonneg : 0 ≤ (grid.needs axis options.metrics components).minimum.sum :=
    List.sum_nonneg hplain.minimum_nonneg
  rw [PerAxis.along_ofFn, PerAxis.along_ofFn,
    formExtent_of_single hspans hplain.minimum_nonneg hborder (by omega),
    formExtent_of_single hspans hplain.preferred_nonneg hborder hsum] at hextent
  have havailable : Grid.available container options axis =
      container.extent.along axis - options.border.along axis :=
    clamp_of_inRange ⟨by rw [lowest]; omega, by omega⟩
  have hfilled : (grid.sized axis options.metrics components
      (Grid.available container options axis)).sum = Grid.available container options axis :=
    hplain.sum_finalSizes (by omega) (by omega)
  have hbounds : (PerAxis.ofFn (grid.arrange container components options)).along axis =
      boundaries (plus (container.origin.along axis) (options.border.leading.along axis))
        (grid.sized axis options.metrics components (Grid.available container options axis)) :=
    PerAxis.along_ofFn ..
  refine ⟨_, _, _, by rw [layout, hc]; rfl, hbounds ▸ head_boundaries ..,
    hbounds ▸ getLast_boundaries huncut, ?_⟩
  rw [hfilled, havailable]
  omega

/-- A border of 6 pixels from left to right. -/
def bordered : Options := { border := .ofSides 1 2 3 4 }

theorem regular_bordered :
    labelled.RegularListed .horizontal ["label", "field"] labelledMeasure bordered :=
  { regular_labelled with border := by decide }

/-- The two columns are 5 pixels wide each at least and prefer 10. With the border the form is 16
pixels wide at least and prefers 26, and the columns fill both exactly. -/
theorem boundaries_of_labelled :
    labelled.Reachable ∧
      ∃ minimum preferred,
        labelled.minimumSize ["label", "field"] labelledMeasure bordered = .ok minimum ∧
        labelled.preferredSize ["label", "field"] labelledMeasure bordered = .ok preferred ∧
        minimum.horizontal = 16 ∧ preferred.horizontal = 26 ∧
        ∀ width, width = 16 ∨ width = 26 →
          ∃ layout first last,
            labelled.layout ⟨⟨0, 0⟩, ⟨width, 1⟩⟩ ["label", "field"] labelledMeasure bordered =
              .ok layout ∧
            layout.boundaries.horizontal.head? = some first ∧
            layout.boundaries.horizontal.getLast? = some last ∧ last - first = width - 6 := by
  have hc : labelled.components labelledMeasure ["label", "field"] = .ok _ := rfl
  obtain ⟨components, minimum, preferred, hc', hmin, hpref, hfilled⟩ :=
    boundaries_of_formSize reachable_labelled regular_bordered (by decide +kernel)
  cases hc.symm.trans hc'
  have hminimum : minimum.horizontal = 16 := by
    cases hmin
    decide +kernel
  have hpreferred : preferred.horizontal = 26 := by
    cases hpref
    decide +kernel
  refine ⟨reachable_labelled, minimum, preferred, hmin, hpref, hminimum, hpreferred, ?_⟩
  rintro width (rfl | rfl)
  · exact hfilled ⟨⟨0, 0⟩, ⟨16, 1⟩⟩ (.inl hminimum.symm) (by decide +kernel) (by decide +kernel)
  · exact hfilled ⟨⟨0, 0⟩, ⟨26, 1⟩⟩ (.inr hpreferred.symm) (by decide +kernel) (by decide +kernel)

end Grid

end TrackGrid
