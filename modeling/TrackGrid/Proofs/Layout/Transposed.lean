import TrackGrid.Proofs.Layout.Pass
import TrackGrid.Proofs.Layout.Sized
import TrackGrid.Proofs.Transpose

/-! # Layouts with columns and rows swapped

No step of a pass treats one axis in another way than the other. Main statement: where a dialog unit
has as many pixels on both axes, the transpose of a form is laid out as the transpose of its layout.
-/

namespace TrackGrid

open Pixels

variable {axis : Axis} {metrics : Metrics}

/-! ## Pixels of a size -/

/-- A dialog unit has as many pixels on one axis as on the other. -/
def Metrics.Square (metrics : Metrics) : Prop :=
  (metrics.dialogUnit .horizontal).SameNumber (metrics.dialogUnit .vertical)

namespace Metrics.Square

variable (h : metrics.Square)

include h

theorem pixelsPer_transpose (axis : Axis) (unit : LengthUnit) :
    (metrics.pixelsPer axis.other unit.transpose).SameNumber (metrics.pixelsPer axis unit) := by
  cases unit with
  | dialog =>
    cases axis with
    | horizontal => exact h.symm
    | vertical => exact h
  | dialogX => exact h.symm
  | dialogY => exact h
  | pixel | point | inch | millimeter | centimeter => exact .inl rfl

theorem toPixels_length_transpose (length : Length) (axis : Axis) :
    length.transpose.toPixels axis.other metrics = length.toPixels axis metrics :=
  congrArg Binary64.floor
    (((h.pixelsPer_transpose axis length.unit).mul_left length.value).add_right (by decide +kernel))

theorem apply_bounds_transpose (bounds : Bounds) (axis : Axis) (size : Int) :
    bounds.transpose.apply axis.other metrics size = bounds.apply axis metrics size := by
  cases bounds <;> simp only [Bounds.transpose, Bounds.apply, h.toPixels_length_transpose]

theorem toPixels_size_transpose (size : Size) (axis : Axis) (members : List Extent) :
    size.transpose.toPixels axis.other metrics members = size.toPixels axis metrics members := by
  cases size with
  | constant length => exact h.toPixels_length_transpose length axis
  | component basis => rfl
  | bounded basis bounds => exact h.apply_bounds_transpose bounds axis _

end Metrics.Square

/-! ## Fitting tracks into the space there is -/

section

variable (tracks : List Track) (needs : Needs)

theorem slacks_transpose : slacks (tracks.map .transpose) needs = slacks tracks needs := by
  rw [slacks, slacks, List.zipWith_map_left]
  simp only [Track.isElastic_transpose]

theorem squeeze_transpose (available : Int) :
    squeeze (tracks.map .transpose) needs available = squeeze tracks needs available := by
  simp only [squeeze, slacks_transpose]

theorem weightSum_transpose : weightSum (tracks.map .transpose) = weightSum tracks := by
  rw [weightSum, List.foldl_map]
  rfl

theorem share_transpose (surplus : Int) (whole : Binary64) (track : Track) :
    share surplus whole track.transpose = share surplus whole track := rfl

theorem grow_transpose (whole : Binary64) (surplus : Int) (rest count j : Nat) (sizes : List Int) :
    grow whole surplus rest count j (tracks.map .transpose) sizes =
      grow whole surplus rest count j tracks sizes := by
  induction tracks generalizing j sizes with
  | nil => rfl
  | cons track tracks ih =>
    cases sizes with
    | nil => rfl
    | cons size sizes =>
      simp only [List.map_cons, grow, Track.grows_transpose, share_transpose, ih]

theorem giveOut_transpose (sizes : List Int) (surplus : Int) :
    giveOut (tracks.map .transpose) sizes surplus = giveOut tracks sizes surplus := by
  have hshares (whole : Binary64) : (tracks.map .transpose).map (share surplus whole) =
      tracks.map (share surplus whole) := by
    rw [List.map_map]
    rfl
  have hcount : (tracks.map .transpose).countP Track.grows = tracks.countP Track.grows := by
    rw [List.countP_map]
    rfl
  simp only [giveOut, weightSum_transpose, hshares, hcount, grow_transpose]

theorem finalSizes_transpose (groups : List (List Nat)) (available : Int) :
    finalSizes (tracks.map .transpose) groups needs available =
      finalSizes tracks groups needs available := by
  have hfit : fit (tracks.map .transpose) groups needs available =
      fit tracks groups needs available := by
    rw [fit, fit, squeeze_transpose]
  unfold finalSizes
  rw [hfit]
  simp only [giveOut_transpose]

end

/-! ## Components -/

namespace Component

theorem outerExtent_transpose (component : Component) (axis : Axis) :
    component.transpose.outerExtent axis.other = component.outerExtent axis := by
  simp only [outerExtent, transpose, Cell.transpose, PerAxis.along_swap, Insets.along_transpose]

theorem groupExtent?_transpose (axis : Axis) (group : Nat) (components : List Component) :
    groupExtent? axis.other group (components.map .transpose) =
      groupExtent? axis group components := by
  have hmembers : ((components.map Component.transpose).filter
        (·.cell.sizeGroup.along axis.other = some group)).map (·.extents.along axis.other) =
      (components.filter (·.cell.sizeGroup.along axis = some group)).map
        (·.extents.along axis) := by
    simp only [List.filter_map, List.map_map, Function.comp_def, transpose, Cell.transpose,
      PerAxis.along_swap]
  simp only [groupExtent?, hmembers]

theorem sharedExtent_transpose (axis : Axis) (components : List Component) (component : Component) :
    component.transpose.sharedExtent axis.other (components.map .transpose) =
      component.sharedExtent axis components := by
  simp only [sharedExtent, groupExtent?_transpose]
  simp only [transpose, Cell.transpose, PerAxis.along_swap]

theorem shareExtents_transpose (components : List Component) :
    shareExtents (components.map .transpose) = (shareExtents components).map .transpose := by
  simp only [shareExtents, List.map_map]
  apply List.map_congr_left
  intro component _
  simp only [Function.comp_apply, transpose, Component.mk.injEq, true_and]
  exact PerAxis.ofFn_eq_swap fun axis => sharedExtent_transpose axis components component

end Component

theorem membersOf_transpose (axis : Axis) (index : Nat) (components : List Component) :
    membersOf axis.other index (components.map .transpose) = membersOf axis index components := by
  simp only [membersOf, List.filter_map, List.map_map, Function.comp_def,
    Component.outerExtent_transpose]
  simp only [Component.transpose, Cell.liesOnlyIn_transpose]

/-! ## Cells -/

theorem Alignment.leadingSpace_transpose (alignment : Alignment) (spare : Int) :
    alignment.transpose.leadingSpace spare = alignment.leadingSpace spare := by
  cases alignment <;> rfl

theorem Alignment.transpose_eq_fill_iff {alignment : Alignment} :
    alignment.transpose = .fill ↔ alignment = .fill := by
  cases alignment <;> decide

theorem Cell.inner_transpose (cell : Cell) (axis : Axis) (boundaries : List Int) :
    cell.transpose.inner axis.other boundaries = cell.inner axis boundaries := by
  simp only [inner, innerBetween, stop_transpose]
  simp only [transpose, Insets.along_transpose, Insets.leading_transpose, PerAxis.along_swap]

namespace Component

theorem placeIn_transpose (component : Component) (axis : Axis) (track : Track) (inner : Stretch) :
    component.transpose.placeIn axis.other track.transpose inner =
      component.placeIn axis track inner := by
  have halignment : (component.transpose.cell.alignment.along axis.other).orTrack
      track.transpose.alignment =
        ((component.cell.alignment.along axis).orTrack track.alignment).transpose := by
    simp only [transpose, Cell.transpose, Track.transpose, PerAxis.along_swap, PerAxis.along_map,
      CellAlignment.orTrack_transpose]
  simp only [placeIn, halignment, Alignment.transpose_eq_fill_iff, Alignment.leadingSpace_transpose]
  simp only [transpose, Track.transpose, PerAxis.along_swap, Size.basis?_transpose]

theorem place_transpose {component : Component} {tracks : List Track}
    (h : component.cell.FitsIn axis tracks.length) (boundaries : List Int) :
    component.transpose.place axis.other (tracks.map .transpose) boundaries =
      component.place axis tracks boundaries := by
  have hfirst := h.first_lt
  have hstart : component.transpose.cell.start.along axis.other =
      component.cell.start.along axis := PerAxis.along_swap ..
  rw [place, place, hstart, List.getD_eq_getElem _ _ (by rwa [List.length_map]),
    List.getD_eq_getElem _ _ hfirst, List.getElem_map, placeIn_transpose]
  exact congrArg _ (component.cell.inner_transpose axis boundaries)

end Component

/-! ## Grids -/

namespace Grid

variable (grid : Grid)

theorem tracks_transpose (axis : Axis) :
    grid.transpose.tracks.along axis.other = (grid.tracks.along axis).map .transpose := by
  simp only [transpose, PerAxis.along_swap, PerAxis.along_map]

theorem groups_transpose (axis : Axis) :
    grid.transpose.groups.along axis.other = grid.groups.along axis := PerAxis.along_swap ..

theorem count_transpose (axis : Axis) : grid.transpose.count axis.other = grid.count axis := by
  rw [count, count, tracks_transpose, List.length_map]

theorem ownSizes_transpose (h : metrics.Square) (axis : Axis) (components : List Component)
    (see : Extent → Extent) :
    grid.transpose.ownSizes axis.other metrics (components.map .transpose) see =
      grid.ownSizes axis metrics components see := by
  apply List.ext_getElem?
  intro i
  simp only [ownSizes, tracks_transpose, membersOf_transpose, List.getElem?_mapIdx,
    List.getElem?_map, Option.map_map, Function.comp_def]
  simp only [Track.transpose, h.toPixels_size_transpose]

theorem needs_transpose (h : metrics.Square) (axis : Axis) (components : List Component) :
    grid.transpose.needs axis.other metrics (components.map .transpose) =
      grid.needs axis metrics components := by
  rw [needs_eq, needs_eq, groups_transpose, ownSizes_transpose grid h, ownSizes_transpose grid h]

variable {options : Options}

theorem arrange_transpose (h : options.metrics.Square) (container : Rect)
    (components : List Component) (axis : Axis) :
    grid.transpose.arrange container.transpose (components.map .transpose) options.transpose
      axis.other = grid.arrange container components options axis := by
  simp only [arrange, available, tracks_transpose, groups_transpose, finalSizes_transpose]
  simp only [Options.transpose, needs_transpose grid h, Rect.transpose, Insets.along_transpose,
    Insets.leading_transpose, PerAxis.along_swap]

theorem formExtent_transpose (axis : Axis) (basis : Basis) (sizes : List Int)
    (components : List Component) :
    formExtent axis.other basis sizes (components.map .transpose) options.transpose =
      formExtent axis basis sizes components options := by
  have hspan (component : Component) : component.transpose.cell.span.along axis.other =
      component.cell.span.along axis := PerAxis.along_swap ..
  have htotal (component : Component) :
      stretchedTotal axis.other basis sizes component.transpose =
        stretchedTotal axis basis sizes component := by
    rw [stretchedTotal, stretchedTotal, Component.outerExtent_transpose]
    simp only [Component.transpose, Cell.transpose, Cell.covered, PerAxis.along_swap]
  simp only [formExtent, List.filter_map, List.map_map, Function.comp_def, hspan, htotal]
  simp only [Options.transpose, Insets.along_transpose]

/-! ## Rectangles -/

variable {grid} {components : List Component}

theorem rectOf_transpose {component : Component}
    (h : ∀ axis, component.cell.FitsIn axis (grid.count axis)) (boundaries : PerAxis (List Int)) :
    grid.transpose.rectOf boundaries.swap component.transpose =
      (grid.rectOf boundaries component).transpose := by
  have hplace (axis : Axis) : component.transpose.place axis.other
      (grid.transpose.tracks.along axis.other) (boundaries.swap.along axis.other) =
        component.place axis (grid.tracks.along axis) (boundaries.along axis) := by
    rw [tracks_transpose, PerAxis.along_swap, Component.place_transpose (h axis)]
  simp only [rectOf, Rect.transpose, Rect.mk.injEq]
  exact ⟨PerAxis.ofFn_eq_swap fun axis => congrArg Stretch.origin (hplace axis),
    PerAxis.ofFn_eq_swap fun axis => congrArg Stretch.extent (hplace axis)⟩

theorem rects_transpose (h : grid.Holds components) (boundaries : PerAxis (List Int)) :
    grid.transpose.rects boundaries.swap (components.map .transpose) =
      (grid.rects boundaries components).map .transpose := by
  rw [rects, rects, Table.map_foldl_insert, List.foldl_map]
  apply List.foldl_ext
  intro table component hmem
  rw [rectOf_transpose (h component hmem)]
  rfl

/-! ## Measuring -/

variable {keys : List String} {measure : Measure}

theorem component_transpose (grid : Grid) (measure : Measure) (key : String) :
    grid.transpose.component measure.transpose key =
      (grid.component measure key).map .transpose := by
  simp only [component, transpose, Table.get?_map]
  cases grid.cells.get? key <;> rfl

theorem holds_of_components (h : grid.Reachable)
    (hc : grid.components measure keys = .ok components) : grid.Holds components :=
  fun _ hmem => h.fitsIn (key_mem_of_mem hc hmem).2

theorem checkFits_transpose {cell : Cell} (h : cell.checkFits grid.counts = .ok ()) :
    cell.transpose.checkFits grid.transpose.counts = .ok () := by
  rw [Cell.checkFits_eq_ok_iff] at *
  rw [← Axis.forall_other]
  intro axis
  rw [Cell.stop_transpose, along_counts, count_transpose, ← along_counts]
  exact h axis

theorem components_transpose (h : grid.Reachable) (measure : Measure) (keys : List String) :
    grid.transpose.components measure.transpose keys =
      (grid.components measure keys).map (·.map .transpose) := by
  have hmapM : keys.mapM (grid.transpose.component measure.transpose) =
      (keys.mapM (grid.component measure)).map (·.map .transpose) := by
    rw [funext (grid.component_transpose measure), mapM_map]
  cases hmeasured : keys.mapM (grid.component measure) with
  | error error =>
    rw [hmeasured] at hmapM
    rw [components, components, hmapM, hmeasured]
    rfl
  | ok measured =>
    rw [hmeasured] at hmapM
    -- A cell out of range would be an error of its axis, and so another one for the transpose.
    have hfits : ∀ component ∈ measured, component.cell.checkFits grid.counts = .ok () := by
      intro component hmem
      obtain ⟨key, -, hcomponent⟩ := exists_of_mem_mapM hmeasured hmem
      obtain ⟨cell, hcell, rfl⟩ := component_eq_ok_iff.1 hcomponent
      exact checkFits_eq_ok h (Table.mem_values_of_get? hcell)
    have hfits' : ∀ component ∈ measured.map Component.transpose,
        component.cell.checkFits grid.transpose.counts = .ok () := by
      intro component hmem
      obtain ⟨old, hold, rfl⟩ := List.mem_map.1 hmem
      exact checkFits_transpose (hfits old hold)
    rw [components_eq_ok_iff.2 ⟨_, hmapM, hfits', rfl⟩,
      components_eq_ok_iff.2 ⟨measured, hmeasured, hfits, rfl⟩, Component.shareExtents_transpose]
    rfl

/-! ## Results -/

theorem formSize_transpose (h : grid.Reachable) (hmetrics : options.metrics.Square) (basis : Basis)
    (sizes : Needs → List Int) :
    grid.transpose.formSize basis sizes keys measure.transpose options.transpose =
      (grid.formSize basis sizes keys measure options).map .swap := by
  rw [formSize, formSize, components_transpose h]
  cases grid.components measure keys with
  | error error => rfl
  | ok components =>
    refine congrArg Except.ok (PerAxis.ofFn_eq_swap fun axis => ?_)
    rw [formExtent_transpose]
    exact congrArg (fun needs => formExtent axis basis (sizes needs) components options)
      (needs_transpose grid hmetrics axis components)

/-- Columns and rows are treated alike. Where a dialog unit has as many pixels on both axes, a pass
over the transpose of a form fails for the same reason as one over the form, or gives the transpose
of its layout; and so do the queries for its sizes. -/
theorem pass_transpose (h : grid.Reachable) (hmetrics : options.metrics.Square) (container : Rect)
    (keys : List String) (measure : Measure) :
    grid.transpose.layout container.transpose keys measure.transpose options.transpose =
        (grid.layout container keys measure options).map .transpose ∧
      grid.transpose.minimumSize keys measure.transpose options.transpose =
        (grid.minimumSize keys measure options).map .swap ∧
      grid.transpose.preferredSize keys measure.transpose options.transpose =
        (grid.preferredSize keys measure options).map .swap := by
  refine ⟨?_, formSize_transpose h hmetrics .minimum _, formSize_transpose h hmetrics .preferred _⟩
  rw [layout, layout, components_transpose h]
  cases hc : grid.components measure keys with
  | error error => rfl
  | ok components =>
    have hboundaries : PerAxis.ofFn (grid.transpose.arrange container.transpose
        (components.map .transpose) options.transpose) =
          (PerAxis.ofFn (grid.arrange container components options)).swap :=
      PerAxis.ofFn_eq_swap (arrange_transpose grid hmetrics container components)
    change Except.ok _ = Except.ok _
    rw [hboundaries, rects_transpose (holds_of_components h hc)]
    rfl

/-- A form with a margin of 4 dialog units on its left and one of 3 at its bottom. -/
def margined : Grid :=
  [Edit.place "label"
      { start := ⟨2, 1⟩
        alignment := ⟨.own .right, .inherited⟩
        insets := .ofSides 1 2 3 4 }].foldl after
    { tracks := ⟨[.gap .horizontal ⟨.ofInt 4, .dialogX⟩, .glue .horizontal],
        [.glue .vertical, .gap .vertical ⟨.ofInt 3, .dialog⟩]⟩ }

theorem reachable_margined : margined.Reachable :=
  reachable_foldl_after _ _ (by decide) (by decide)

def marginedMeasure : Measure := .ofTable ⟨[("label", ⟨⟨10, 30, 30⟩, ⟨5, 7, 7⟩⟩)]⟩

/-- In this font, a dialog unit has 2 pixels on both axes. -/
def marginedOptions : Options where
  border := .ofSides 1 2 3 4
  metrics := ⟨⟨.ofInt 8, .ofInt 16⟩, .ofInt 96⟩

/-- The label stands at the right of its cell, and so at the bottom of the transposed one. -/
theorem pass_transpose_margined :
    ∃ layout, margined.transpose.layout ⟨⟨20, 10⟩, ⟨60, 100⟩⟩ ["label"] marginedMeasure.transpose
        marginedOptions.transpose = .ok layout ∧
      layout.boundaries = ⟨[21, 71, 77], [12, 20, 106]⟩ ∧
      layout.rects.get? "label" = some ⟨⟨41, 72⟩, ⟨7, 30⟩⟩ := by
  have hl : margined.layout ⟨⟨10, 20⟩, ⟨100, 60⟩⟩ ["label"] marginedMeasure marginedOptions =
      .ok _ := rfl
  have hsquare : marginedOptions.metrics.Square := .inl (by decide +kernel)
  have hpass := (pass_transpose reachable_margined hsquare ⟨⟨10, 20⟩, ⟨100, 60⟩⟩ ["label"]
    marginedMeasure).1
  rw [hl] at hpass
  exact ⟨_, hpass, by decide +kernel, by decide +kernel⟩

end Grid

end TrackGrid
