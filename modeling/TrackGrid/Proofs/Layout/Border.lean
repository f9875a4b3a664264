import TrackGrid.Proofs.Layout.Overflow

/-! # Borders as insets of the container

A border can leave less than no space, while a container that is inset stays empty. Tracks have
their minimum sizes in both. Main statement: a border does what the same insets of the container do.
-/

namespace TrackGrid

open Pixels

/-! ## Insets of a rectangle -/

/-- The insets can be taken away from the rectangle along an axis without leaving the range. -/
structure Rect.InsetFits (rect : Rect) (insets : Insets) (axis : Axis) : Prop where
  extent : InRange (rect.extent.along axis)
  origin : InRange (rect.origin.along axis + insets.leading.along axis)
  difference : InRange
    (rect.extent.along axis - insets.leading.along axis - insets.trailing.along axis)

instance (rect : Rect) (insets : Insets) (axis : Axis) : Decidable (rect.InsetFits insets axis) :=
  decidable_of_iff (InRange _ ∧ InRange _ ∧ InRange _)
    ⟨fun h => ⟨h.1, h.2.1, h.2.2⟩, fun h => ⟨h.extent, h.origin, h.difference⟩⟩

theorem Insets.along_zero (axis : Axis) : Insets.zero.along axis = 0 := by cases axis <;> rfl

theorem Insets.leading_zero (axis : Axis) : Insets.zero.leading.along axis = 0 := by
  cases axis <;> rfl

/-! ## No space -/

namespace Needs.Plain

variable {tracks : List Track} {groups : List (List Nat)} {needs : Needs} {available : Int}
  (h : needs.Plain tracks groups)

include h

theorem preferred_eq_minimum_of_total (hzero : total needs.preferred ≤ 0) :
    needs.preferred = needs.minimum := by
  have hsum : needs.preferred.sum = 0 := by
    have hnonneg : 0 ≤ needs.preferred.sum := List.sum_nonneg h.preferred_nonneg
    have hmax : 0 < highest := by decide
    rw [total_of_nonneg h.preferred_nonneg] at hzero
    omega
  apply ext_getD (h.lengths.preferred.trans h.lengths.minimum.symm)
  intro i
  have hle : needs.preferred.getD i 0 ≤ needs.preferred.sum := by
    by_cases hi : i < needs.preferred.length
    · rw [List.getD_eq_getElem _ _ hi]
      exact List.single_le_sum h.preferred_nonneg _ (List.getElem_mem hi)
    · rw [List.getD_eq_default _ _ (Nat.le_of_not_lt hi), hsum]
  have hnonneg := h.nonneg i
  have hordered := h.ordered i
  omega

theorem total_minimum_nonneg : 0 ≤ total needs.minimum := by
  rw [total_of_nonneg h.minimum_nonneg]
  exact le_min (by decide) (List.sum_nonneg h.minimum_nonneg)

theorem fit_of_nonpos (hnone : available ≤ 0) :
    fit tracks groups needs available = needs.minimum := by
  unfold fit
  split
  · rename_i hroom
    exact h.preferred_eq_minimum_of_total (hroom.trans hnone)
  · rw [if_pos (hnone.trans h.total_minimum_nonneg)]

theorem finalSizes_of_nonpos (hnone : available ≤ 0) :
    finalSizes tracks groups needs available = needs.minimum := by
  have hminimum := h.total_minimum_nonneg
  have hspare : ¬ 0 < minus available (total needs.minimum) := by
    simp only [minus, clamp, lowest, highest]
    omega
  simp only [finalSizes, h.fit_of_nonpos hnone, if_neg hspare]

theorem finalSizes_max_zero :
    finalSizes tracks groups needs (max 0 available) = finalSizes tracks groups needs available := by
  rcases Int.le_total 0 available with hspace | hnone
  · rw [max_eq_right hspace]
  · rw [max_eq_left hnone, h.finalSizes_of_nonpos (Int.le_refl 0), h.finalSizes_of_nonpos hnone]

end Needs.Plain

/-! ## Layouts -/

namespace Grid

variable {grid : Grid} {axis : Axis} {keys : List String} {measure : Measure} {options : Options}
  {container : Rect} {components : List Component}

theorem available_inset (hborder : 0 ≤ options.border.along axis)
    (hfits : container.InsetFits options.border axis) :
    available (container.inset options.border) { options with border := .zero } axis =
      max 0 (available container options axis) := by
  obtain ⟨⟨-, hhigh⟩, -, hlow, -⟩ := hfits
  simp only [available, Insets.along_zero, Rect.inset, PerAxis.along_ofFn]
  simp only [Insets.along, plus, minus, clamp, lowest, highest] at *
  omega

theorem arrange_inset (hplain : (grid.needs axis options.metrics components).Plain
      (grid.tracks.along axis) (grid.groups.along axis))
    (hborder : 0 ≤ options.border.along axis) (hfits : container.InsetFits options.border axis) :
    grid.arrange (container.inset options.border) components { options with border := .zero } axis =
      grid.arrange container components options axis := by
  have hstart : plus (container.origin.along axis) (options.border.leading.along axis) =
      container.origin.along axis + options.border.leading.along axis :=
    clamp_of_inRange hfits.origin
  have hinset : plus ((container.inset options.border).origin.along axis)
      (Insets.zero.leading.along axis) =
        container.origin.along axis + options.border.leading.along axis := by
    rw [Rect.inset, PerAxis.along_ofFn, Insets.leading_zero, plus_zero hfits.origin]
  have hsizes : finalSizes (grid.tracks.along axis) (grid.groups.along axis)
      (grid.needs axis options.metrics components)
      (available (container.inset options.border) { options with border := .zero } axis) =
        finalSizes (grid.tracks.along axis) (grid.groups.along axis)
          (grid.needs axis options.metrics components) (available container options axis) := by
    rw [available_inset hborder hfits, hplain.finalSizes_max_zero]
  simp only [arrange, hinset, hsizes, hstart]

/-- A form with a border is laid out as it is without one in the container less the border, even if
the border is larger than the container. -/
theorem layout_of_border (h : grid.Reachable)
    (hregular : ∀ axis, grid.RegularListed axis keys measure options)
    (hfits : ∀ axis, container.InsetFits options.border axis) :
    grid.layout container keys measure options =
      grid.layout (container.inset options.border) keys measure
        { options with border := .zero } := by
  unfold layout
  cases hc : grid.components measure keys with
  | error error => simp only [error_bind]
  | ok components =>
    have harrange : grid.arrange (container.inset options.border) components
        { options with border := .zero } = grid.arrange container components options := by
      funext axis
      exact arrange_inset (plain_needs (h.wellFormed axis) (hregular axis) hc)
        (hregular axis).border (hfits axis)
    simp only [ok_bind, harrange]

/-- A border of 20 leaves nothing of the width for the columns, which need 5 pixels each, and 20
pixels of the height, which the row takes. -/
theorem layout_of_border_labelled :
    labelled.Reachable ∧
      (∀ axis, labelled.RegularListed axis ["label", "field"] labelledMeasure
        { border := .uniform 20 }) ∧
      (∀ axis, (Rect.ofSides 1 2 30 60).InsetFits (.uniform 20) axis) ∧
      ∃ layout,
        labelled.layout (.ofSides 1 2 30 60) ["label", "field"] labelledMeasure
          { border := .uniform 20 } = .ok layout ∧
        labelled.layout (.ofSides 21 22 0 20) ["label", "field"] labelledMeasure {} = .ok layout ∧
        layout.boundaries = ⟨[21, 26, 31], [22, 42]⟩ := by
  have hregular : ∀ axis, labelled.RegularListed axis ["label", "field"] labelledMeasure
      { border := .uniform 20 } := fun axis =>
    { insets := by cases axis <;> decide +kernel
      border := by cases axis <;> decide
      measures := by cases axis <;> decide +kernel
      constants := by cases axis <;> decide +kernel
      ordered := by cases axis <;> decide +kernel }
  have hfits : ∀ axis, (Rect.ofSides 1 2 30 60).InsetFits (.uniform 20) axis := by
    intro axis
    cases axis <;> decide
  have hlayout := layout_of_border reachable_labelled hregular hfits
  exact ⟨reachable_labelled, hregular, hfits, _, rfl, hlayout.symm, by decide +kernel⟩

end Grid

end TrackGrid
