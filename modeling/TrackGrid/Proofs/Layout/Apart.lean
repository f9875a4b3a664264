import TrackGrid.Proofs.Grid.Covering
import TrackGrid.Proofs.Layout.Preferred

/-! # Components in cells that have no track in common

A component that is shown lies between the first and the last boundary of its cell, however it is
measured and aligned, and whatever is cut off at the ends of the range. Main statement: components
whose cells have no column or no row in common show no pixel in common.
-/

namespace TrackGrid

open Pixels

/-! ## Places between boundaries -/

theorem inRange_boundaries {start : Int} (h : InRange start) (sizes : List Int) :
    ∀ boundary ∈ boundaries start sizes, InRange boundary := by
  induction sizes generalizing start with
  | nil => simpa [boundaries] using h
  | cons size sizes ih =>
    rw [boundaries, List.forall_mem_cons]
    exact ⟨h, ih (plus_inRange start size)⟩

theorem le_of_sorted {list : List Int} (h : list.Pairwise (· ≤ ·)) {i j : Nat} {a b : Int}
    (hle : i ≤ j) (ha : list[i]? = some a) (hb : list[j]? = some b) : a ≤ b := by
  obtain ⟨hi, rfl⟩ := List.getElem?_eq_some_iff.1 ha
  obtain ⟨hj, rfl⟩ := List.getElem?_eq_some_iff.1 hb
  rcases Nat.eq_or_lt_of_le hle with rfl | hlt
  · exact Int.le_refl _
  · exact List.pairwise_iff_getElem.1 h i j hi hj hlt

/-- The stretch lies between these boundaries, unless it is empty. -/
def Stretch.Between (stretch : Stretch) (first last : Int) : Prop :=
  0 < stretch.extent → first ≤ stretch.origin ∧ stretch.origin + stretch.extent ≤ last

variable {axis : Axis} {first last : Int}

/-- Insets that are too large for the cell leave nothing, and what others leave is not cut off. -/
theorem Cell.between_innerBetween {cell : Cell} (hfirst : InRange first) (hlast : InRange last)
    (hleading : 0 ≤ cell.insets.leading.along axis)
    (htrailing : 0 ≤ cell.insets.trailing.along axis) :
    (cell.innerBetween axis first last).Between first last := by
  intro hpos
  simp only [innerBetween, Insets.along, plus, minus, clamp, InRange, lowest, highest] at *
  omega

theorem Alignment.leadingSpace_le (alignment : Alignment) {spare : Int} (h : 0 ≤ spare) :
    0 ≤ alignment.leadingSpace spare ∧ alignment.leadingSpace spare ≤ spare := by
  have hhalf := Int.tdiv_eq_ediv_of_nonneg (b := 2) h
  cases alignment <;> simp only [leadingSpace] <;> omega

theorem Component.between_placeIn {inner : Stretch} (hinner : inner.Between first last)
    (hfirst : InRange first) (hlast : InRange last) (component : Component) (axis : Axis)
    (track : Track) : (component.placeIn axis track inner).Between first last := by
  simp only [placeIn]
  split
  · exact hinner
  · intro hpos
    dsimp only at hpos ⊢
    generalize (component.extents.along axis).natural _ _ = natural at *
    have hspare : 0 ≤ inner.extent - min natural inner.extent := by omega
    have hspace := Alignment.leadingSpace_le
      ((component.cell.alignment.along axis).orTrack track.alignment) hspare
    have hbounds := hinner (lt_of_lt_of_le hpos (min_le_right ..))
    simp only [plus, clamp, InRange, lowest, highest] at *
    omega

/-! ## Components in cells -/

/-- The rectangle has the pixel that starts at this point. -/
def Rect.Shows (rect : Rect) (pixel : PerAxis Int) : Prop :=
  ∀ axis, rect.origin.along axis ≤ pixel.along axis ∧ pixel.along axis < rect.stop axis

namespace Cell

variable {cell other : Cell}

theorem stop_le_or_stop_le {count : Nat} (h : cell.FitsIn axis count) (ho : other.FitsIn axis count)
    (hapart : ∀ index, ¬ (cell.Covers axis index ∧ other.Covers axis index)) :
    cell.stop axis ≤ other.start.along axis ∨ other.stop axis ≤ cell.start.along axis := by
  have hspan := h.span_pos
  have hspan' := ho.span_pos
  have hmost := hapart (max (cell.start.along axis) (other.start.along axis))
  simp only [Covers, stop] at *
  omega

end Cell

namespace Grid

variable {grid : Grid} {container : Rect} {keys : List String} {measure : Measure}
  {options : Options} {layout : Layout}

/-- The component has this cell, and the layout gives it this rectangle. -/
structure Places (grid : Grid) (layout : Layout) (key : String) (cell : Cell) (rect : Rect) :
    Prop where
  cell : grid.cells.get? key = some cell
  rect : layout.rects.get? key = some rect

/-- The cell reaches from the first of these boundaries to the last one. -/
structure Reaches (layout : Layout) (axis : Axis) (cell : Cell) (first last : Int) : Prop where
  first : (layout.boundaries.along axis)[cell.start.along axis - 1]? = some first
  last : (layout.boundaries.along axis)[cell.stop axis - 1]? = some last

theorem Reaches.inner_eq {cell : Cell} (h : Reaches layout axis cell first last) :
    cell.inner axis (layout.boundaries.along axis) = cell.innerBetween axis first last := by
  rw [Cell.inner, List.getD_eq_getElem?_getD, List.getD_eq_getElem?_getD, h.first, h.last]
  rfl

section

variable (h : grid.Reachable) (hl : grid.layout container keys measure options = .ok layout)

include hl

theorem exists_placed {key : String} (hkey : key ∈ keys) :
    ∃ cell rect, grid.Places layout key cell rect := by
  obtain ⟨components, hc, -, hrects⟩ := exists_components_of_layout hl
  obtain ⟨component, hmem, rfl⟩ := exists_component_of_mem hc hkey
  exact ⟨component.cell, _, (key_mem_of_mem hc hmem).2, hrects ▸ get?_rects hc hmem _⟩

theorem exists_component_of_places {key : String} (hkey : key ∈ keys) {cell : Cell} {rect : Rect}
    (hp : grid.Places layout key cell rect) :
    ∃ component : Component, component.cell = cell ∧
      grid.rectOf layout.boundaries component = rect := by
  obtain ⟨components, hc, -, hrects⟩ := exists_components_of_layout hl
  obtain ⟨component, hmem, rfl⟩ := exists_component_of_mem hc hkey
  refine ⟨component, ?_, ?_⟩
  · exact Option.some.inj ((key_mem_of_mem hc hmem).2.symm.trans hp.cell)
  · exact Option.some.inj ((get?_rects hc hmem _).symm.trans (hrects ▸ hp.rect))

theorem inRange_boundary (axis : Axis) :
    ∀ boundary ∈ layout.boundaries.along axis, InRange boundary := by
  obtain ⟨components, -, hbounds, -⟩ := exists_components_of_layout hl
  rw [hbounds, PerAxis.along_ofFn]
  exact inRange_boundaries (plus_inRange ..) _

include h

theorem exists_reaches {key : String} {cell : Cell} {rect : Rect}
    (hp : grid.Places layout key cell rect) (axis : Axis) :
    ∃ first last, Reaches layout axis cell first last := by
  obtain ⟨components, -, hbounds, -⟩ := exists_components_of_layout hl
  have hlen : (layout.boundaries.along axis).length = grid.count axis + 1 := by
    rw [hbounds, PerAxis.along_ofFn, length_arrange]
  have hfits := h.fitsIn hp.cell axis
  have hfirst := hfits.first_lt
  have hstop := hfits.stop_le
  exact ⟨_, _, List.getElem?_eq_getElem (by omega), List.getElem?_eq_getElem (by omega)⟩

end

theorem between_of_places (hl : grid.layout container keys measure options = .ok layout)
    {key : String} (hkey : key ∈ keys) {cell : Cell} {rect : Rect}
    (hp : grid.Places layout key cell rect)
    (hinsets : 0 ≤ cell.insets.leading.along axis ∧ 0 ≤ cell.insets.trailing.along axis)
    (hr : Reaches layout axis cell first last) (hpos : 0 < rect.extent.along axis) :
    first ≤ rect.origin.along axis ∧ rect.stop axis ≤ last := by
  obtain ⟨component, rfl, rfl⟩ := exists_component_of_places hl hkey hp
  have hrange := inRange_boundary hl axis
  have hfirst := hrange _ (List.mem_of_getElem? hr.first)
  have hlast := hrange _ (List.mem_of_getElem? hr.last)
  have hinner : (component.cell.inner axis (layout.boundaries.along axis)).Between first last := by
    rw [hr.inner_eq]
    exact Cell.between_innerBetween hfirst hlast hinsets.1 hinsets.2
  rw [rectOf, PerAxis.along_ofFn] at hpos
  rw [Rect.stop, rectOf, PerAxis.along_ofFn, PerAxis.along_ofFn]
  exact Component.between_placeIn hinner hfirst hlast component axis _ hpos

theorem not_shows_of_stop_le {first last first' last' : Int} {rect other : Rect}
    (hrect : 0 < rect.extent.along axis → first ≤ rect.origin.along axis ∧ rect.stop axis ≤ last)
    (hother : 0 < other.extent.along axis →
      first' ≤ other.origin.along axis ∧ other.stop axis ≤ last')
    (hle : last ≤ first') {pixel : PerAxis Int} (h : rect.Shows pixel) : ¬ other.Shows pixel := by
  intro ho
  have hin := h axis
  have hin' := ho axis
  simp only [Rect.stop] at *
  omega

/-- As far as it is shown along an axis, each component lies between the boundaries of its cell. So
components with no column or no row in common do not overlap, as long as the boundaries are in
order. -/
theorem rects_apart (h : grid.Reachable)
    (hl : grid.layout container keys measure options = .ok layout)
    (hinsets : ∀ key ∈ keys, ∀ cell, grid.cells.get? key = some cell → ∀ axis,
      0 ≤ cell.insets.leading.along axis ∧ 0 ≤ cell.insets.trailing.along axis)
    (hsorted : ∀ axis, (layout.boundaries.along axis).Pairwise (· ≤ ·)) :
    (∀ key ∈ keys, ∃ cell rect, grid.Places layout key cell rect ∧
      ∀ axis, ∃ first last, Reaches layout axis cell first last ∧
        (0 < rect.extent.along axis →
          first ≤ rect.origin.along axis ∧ rect.stop axis ≤ last)) ∧
    ∀ key ∈ keys, ∀ other ∈ keys, ∀ cell cell' rect rect',
      grid.Places layout key cell rect → grid.Places layout other cell' rect' →
      (∃ axis, ∀ index, ¬ (cell.Covers axis index ∧ cell'.Covers axis index)) →
      ∀ pixel, ¬ (rect.Shows pixel ∧ rect'.Shows pixel) := by
  have hbetween {key : String} (hkey : key ∈ keys) {cell : Cell} {rect : Rect}
      (hp : grid.Places layout key cell rect) (axis : Axis) :
      ∃ first last, Reaches layout axis cell first last ∧
        (0 < rect.extent.along axis →
          first ≤ rect.origin.along axis ∧ rect.stop axis ≤ last) := by
    obtain ⟨first, last, hr⟩ := exists_reaches h hl hp axis
    exact ⟨first, last, hr, between_of_places hl hkey hp (hinsets key hkey cell hp.cell axis) hr⟩
  constructor
  · intro key hkey
    obtain ⟨cell, rect, hp⟩ := exists_placed hl hkey
    exact ⟨cell, rect, hp, hbetween hkey hp⟩
  · rintro key hkey other hother cell cell' rect rect' hp hp' ⟨axis, hapart⟩ pixel ⟨hs, hs'⟩
    obtain ⟨first, last, hr, hrect⟩ := hbetween hkey hp axis
    obtain ⟨first', last', hr', hrect'⟩ := hbetween hother hp' axis
    have hfits := h.fitsIn hp.cell axis
    have hfits' := h.fitsIn hp'.cell axis
    rcases Cell.stop_le_or_stop_le hfits hfits' hapart with hstop | hstop
    · have hle : last ≤ first' :=
        le_of_sorted (hsorted axis) (Nat.sub_le_sub_right hstop 1) hr.last hr'.first
      exact not_shows_of_stop_le hrect hrect' hle hs hs'
    · have hle : last' ≤ first :=
        le_of_sorted (hsorted axis) (Nat.sub_le_sub_right hstop 1) hr'.last hr.first
      exact not_shows_of_stop_le hrect' hrect hle hs' hs

/-- At the right end of the range, where the columns of the title are cut off after 37 pixels. -/
theorem rects_apart_titled :
    ∃ layout label title,
      titled.layout ⟨⟨2147483600, 0⟩, ⟨110, 5⟩⟩ ["label", "title"] titledMeasure {} = .ok layout ∧
        layout.boundaries.horizontal = [2147483600, 2147483610, 2147483647, 2147483647] ∧
        layout.rects.get? "label" = some label ∧ layout.rects.get? "title" = some title ∧
        title.extent.horizontal = 37 ∧ title.stop .horizontal ≤ 2147483647 ∧
        ∀ pixel, ¬ (label.Shows pixel ∧ title.Shows pixel) := by
  have hl : titled.layout ⟨⟨2147483600, 0⟩, ⟨110, 5⟩⟩ ["label", "title"] titledMeasure {} =
      .ok _ := rfl
  have hinsets : ∀ key ∈ ["label", "title"], ∀ cell, titled.cells.get? key = some cell →
      ∀ axis, 0 ≤ cell.insets.leading.along axis ∧ 0 ≤ cell.insets.trailing.along axis := by
    intro key _ cell hcell axis
    have hzero : ∀ cell ∈ titled.cells.values, cell.insets = .zero := by decide +kernel
    rw [hzero cell (Table.mem_values_of_get? hcell)]
    cases axis <;> decide
  have hlabel : titled.cells.get? "label" = some { start := ⟨1, 1⟩ } := by decide +kernel
  have htitle : titled.cells.get? "title" = some { start := ⟨2, 1⟩, span := ⟨2, 1⟩ } := by
    decide +kernel
  obtain ⟨hbetween, hapart⟩ := rects_apart reachable_titled hl hinsets
    (Axis.forall_iff.2 ⟨by decide +kernel, by decide +kernel⟩)
  obtain ⟨_, label, hplaced, -⟩ := hbetween "label" (by decide)
  obtain ⟨_, title, hplaced', hinside⟩ := hbetween "title" (by decide)
  cases hlabel.symm.trans hplaced.cell
  cases htitle.symm.trans hplaced'.cell
  obtain ⟨first, last, hreaches, hstop⟩ := hinside .horizontal
  have hlast : last = 2147483647 := Option.some.inj (hreaches.last.symm.trans (by decide +kernel))
  have hrect : title = ⟨⟨2147483610, 0⟩, ⟨37, 5⟩⟩ :=
    Option.some.inj (hplaced'.rect.symm.trans (by decide +kernel))
  have hextent : title.extent.horizontal = 37 := congrArg (·.extent.horizontal) hrect
  refine ⟨_, label, title, hl, by decide +kernel, hplaced.rect, hplaced'.rect, hextent, ?_, ?_⟩
  · have hpos : 0 < title.extent.horizontal := by omega
    exact hlast ▸ (hstop hpos).2
  · refine hapart "label" (by decide) "title" (by decide) _ _ _ _ hplaced hplaced'
      ⟨.horizontal, fun index => ?_⟩
    simp only [Cell.Covers, Cell.stop, PerAxis.along, PerAxis.both]
    omega

end Grid

end TrackGrid
