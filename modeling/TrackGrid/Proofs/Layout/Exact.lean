import TrackGrid.Proofs.Layout.Preferred

/-! # Sizes of forms over all whole numbers

The size of a form once more, with sums and differences that stop at no end of a range. Main
statement: while nothing is negative, the sizes of a form are these, cut off at the highest pixel
count. What is cut off on the way makes no other difference.
-/

namespace TrackGrid

open Pixels

/-! ## The recipe -/

namespace Exact

def insets (insets : Insets) (axis : Axis) : Int :=
  insets.leading.along axis + insets.trailing.along axis

def outerExtent (component : Component) (axis : Axis) : Extent :=
  (component.extents.along axis).map (· + insets component.cell.insets axis)

def membersOf (axis : Axis) (index : Nat) (components : List Component) : List Extent :=
  (components.filter (·.cell.liesOnlyIn axis index)).map (outerExtent · axis)

/-- The size of each track for itself, as the components in it show `see`. -/
def ownSizes (grid : Grid) (axis : Axis) (metrics : Metrics) (components : List Component)
    (see : Extent → Extent) : List Int :=
  (grid.tracks.along axis).mapIdx fun i track =>
    track.size.toPixels axis metrics ((membersOf axis (i + 1) components).map see)

def trackSizes (grid : Grid) (axis : Axis) (metrics : Metrics) (components : List Component)
    (see : Extent → Extent) : List Int :=
  equalize (grid.groups.along axis) (ownSizes grid axis metrics components see)

/-- The total of the tracks once those that a component spans are large enough for it. -/
def stretchedTotal (axis : Axis) (basis : Basis) (sizes : List Int) (component : Component) : Int :=
  sizes.sum - (component.cell.covered axis sizes).sum + (outerExtent component axis).get basis

/-- The size of the form without its border when its tracks have these sizes. -/
def innerExtent (axis : Axis) (basis : Basis) (sizes : List Int) (components : List Component) :
    Int :=
  let spanning := components.filter fun component => 1 < component.cell.span.along axis
  (spanning.map (stretchedTotal axis basis sizes)).foldl max sizes.sum

def formSize (grid : Grid) (basis : Basis) (see : Extent → Extent) (keys : List String)
    (measure : Measure) (options : Options) : Except MeasureError Dimension := do
  let components ← grid.components measure keys
  return .ofFn fun axis =>
    innerExtent axis basis (trackSizes grid axis options.metrics components see) components +
      insets options.border axis

def minimumSize (grid : Grid) (keys : List String) (measure : Measure) (options : Options) :
    Except MeasureError Dimension :=
  formSize grid .minimum Extent.tight keys measure options

def preferredSize (grid : Grid) (keys : List String) (measure : Measure) (options : Options) :
    Except MeasureError Dimension :=
  formSize grid .preferred id keys measure options

end Exact

/-! ## What is not negative -/

section

variable {grid : Grid} {axis : Axis} {keys : List String} {measure : Measure} {options : Options}
  {components : List Component}

theorem Insets.along_eq_clamp (insets : Insets) (axis : Axis) :
    insets.along axis = clamp (Exact.insets insets axis) := rfl

theorem Insets.exact_nonneg {insets : Insets} (h : 0 ≤ insets.along axis) :
    0 ≤ Exact.insets insets axis := clamp_nonneg_iff.1 h

namespace Component.NonnegAlong

variable {component : Component} (h : component.NonnegAlong axis)

include h

theorem exact_nonneg (basis : Basis) : 0 ≤ (Exact.outerExtent component axis).get basis := by
  rw [Exact.outerExtent, Extent.get_map]
  exact add_nonneg (h.extents basis) (Insets.exact_nonneg h.insets)

theorem outerExtent_eq :
    component.outerExtent axis = (Exact.outerExtent component axis).map clamp := by
  apply Extent.ext_get
  intro basis
  rw [outerExtent, Exact.outerExtent, Extent.get_map, Extent.get_map, Extent.get_map,
    Insets.along_eq_clamp]
  exact plus_clamp_right (h.extents basis) (Insets.exact_nonneg h.insets)

end Component.NonnegAlong

end

/-! ## Sizes of tracks -/

theorem Basis.largest_map_clamp (basis : Basis) (members : List Extent) :
    basis.largest (members.map (.map clamp)) = clamp (basis.largest members) := by
  rw [largest, largest, ← max_getD_map_clamp, List.map_map, List.map_map]
  simp only [Function.comp_def, Extent.get_map]

theorem Length.clamp_toPixels (length : Length) (axis : Axis) (metrics : Metrics) :
    clamp (length.toPixels axis metrics) = length.toPixels axis metrics :=
  clamp_of_inRange (length.inRange_toPixels axis metrics)

/-- Constants are numbers of pixels, so a size that is cut off at the end stays in its bounds. -/
theorem Bounds.apply_clamp (bounds : Bounds) (axis : Axis) (metrics : Metrics) (size : Int) :
    bounds.apply axis metrics (clamp size) = clamp (bounds.apply axis metrics size) := by
  cases bounds with
  | atLeast lower => rw [apply, apply, clamp_max, lower.clamp_toPixels]
  | atMost upper => rw [apply, apply, clamp_min, upper.clamp_toPixels]
  | between lower upper =>
    rw [apply, apply, clamp_min, clamp_max, lower.clamp_toPixels, upper.clamp_toPixels]

theorem Size.toPixels_map_clamp (size : Size) (axis : Axis) (metrics : Metrics)
    (members : List Extent) :
    size.toPixels axis metrics (members.map (.map clamp)) =
      clamp (size.toPixels axis metrics members) := by
  cases size with
  | constant length => exact (length.clamp_toPixels axis metrics).symm
  | component basis => exact basis.largest_map_clamp members
  | bounded basis bounds => rw [toPixels, toPixels, basis.largest_map_clamp, bounds.apply_clamp]

namespace Extent

/-- Only one of the three extents is shown for each of the three. -/
def Picks (see : Extent → Extent) : Prop := ∀ f extent, see (extent.map f) = (see extent).map f

theorem picks_tight : Picks tight := fun _ _ => rfl

theorem picks_id : Picks id := fun _ _ => rfl

theorem Picks.nonneg {see : Extent → Extent} (h : Picks see) {extent : Extent}
    (hextent : ∀ basis, 0 ≤ extent.get basis) (basis : Basis) : 0 ≤ (see extent).get basis := by
  have hraised : extent.map (Max.max 0) = extent := ext_get fun basis => by
    rw [get_map, max_eq_right (hextent basis)]
  rw [← hraised, h, get_map]
  exact le_max_left ..

end Extent

section

variable {grid : Grid} {axis : Axis} {metrics : Metrics} {components : List Component}
  (h : ∀ component ∈ components, component.NonnegAlong axis) {see : Extent → Extent}
  (hsee : Extent.Picks see)

include h

theorem membersOf_eq_exact (index : Nat) :
    membersOf axis index components = (Exact.membersOf axis index components).map (.map clamp) := by
  rw [membersOf, Exact.membersOf, List.map_map]
  apply List.map_congr_left
  intro component hmem
  exact (h component (List.mem_filter.1 hmem).1).outerExtent_eq

include hsee

theorem ownSizes_eq_exact : grid.ownSizes axis metrics components see =
    (Exact.ownSizes grid axis metrics components see).map clamp := by
  have hmembers (index : Nat) : (membersOf axis index components).map see =
      ((Exact.membersOf axis index components).map see).map (.map clamp) := by
    rw [membersOf_eq_exact h, List.map_map, List.map_map]
    exact List.map_congr_left fun extent _ => hsee clamp extent
  apply List.ext_getElem?
  intro i
  simp only [Grid.ownSizes, Exact.ownSizes, hmembers, Size.toPixels_map_clamp, List.getElem?_map,
    List.getElem?_mapIdx, Option.map_map, Function.comp_def]

theorem trackSizes_eq_exact :
    equalize (grid.groups.along axis) (grid.ownSizes axis metrics components see) =
      (Exact.trackSizes grid axis metrics components see).map clamp := by
  rw [ownSizes_eq_exact h hsee, equalize_map_clamp, Exact.trackSizes]

theorem Exact.shown_nonneg (index : Nat) :
    ∀ shown ∈ (membersOf axis index components).map see, ∀ basis, 0 ≤ shown.get basis := by
  refine List.forall_mem_map.2 (List.forall_mem_map.2 fun component hmem => ?_)
  exact hsee.nonneg (h component (List.mem_filter.1 hmem).1).exact_nonneg

theorem Exact.trackSizes_nonneg (hconstants : ∀ track ∈ grid.tracks.along axis,
      ∀ length ∈ track.size.lengths, 0 ≤ length.toPixels axis metrics) :
    ∀ size ∈ trackSizes grid axis metrics components see, 0 ≤ size := by
  apply forall_mem_of_getD
  apply getD_equalize_of_forall
  apply getD_of_forall_mem (Int.le_refl 0)
  intro size hsize
  obtain ⟨i, hi, rfl⟩ := List.mem_mapIdx.1 hsize
  exact Size.toPixels_nonneg (hconstants _ (List.getElem_mem hi)) (shown_nonneg h hsee (i + 1))

end

/-! ## Components over several tracks -/

theorem Cell.covered_map (cell : Cell) (axis : Axis) (f : Int → Int) (sizes : List Int) :
    cell.covered axis (sizes.map f) = (cell.covered axis sizes).map f := by
  rw [covered, covered, List.map_take, List.map_drop]

section

variable {axis : Axis} {basis : Basis} {sizes : List Int} {components : List Component}
  {start : Int} (hs : ∀ size ∈ sizes, 0 ≤ size)

include hs

/-- Where the total of the tracks is cut off, the stretched total is wrong, but too small to
matter. -/
theorem max_stretchedTotal {component : Component} (h : component.NonnegAlong axis)
    (hstart : sizes.sum ≤ start) :
    max (clamp start) (Grid.stretchedTotal axis basis (sizes.map clamp) component) =
      clamp (max start (Exact.stretchedTotal axis basis sizes component)) := by
  have hsub := component.cell.covered_sublist axis sizes
  have hcovered : ∀ size ∈ component.cell.covered axis sizes, 0 ≤ size :=
    fun size hsize => hs size (hsub.subset hsize)
  have hle : (component.cell.covered axis sizes).sum ≤ sizes.sum := hsub.sum_le_sum hs
  have hnonneg : 0 ≤ (component.cell.covered axis sizes).sum := List.sum_nonneg hcovered
  have hneed := h.exact_nonneg basis
  rw [Grid.stretchedTotal, Exact.stretchedTotal, Cell.covered_map, total_map_clamp hs,
    total_map_clamp hcovered, h.outerExtent_eq, Extent.get_map]
  have hlowest : lowest ≤ 0 := by decide
  rcases le_or_gt sizes.sum highest with hsum | hsum
  · have hrest : minus sizes.sum (component.cell.covered axis sizes).sum =
        sizes.sum - (component.cell.covered axis sizes).sum :=
      clamp_of_inRange ⟨by omega, by omega⟩
    rw [clamp_of_inRange ⟨by omega, hsum⟩, clamp_of_inRange ⟨by omega, hle.trans hsum⟩, hrest,
      plus_clamp_right (by omega) hneed, clamp_max]
  · -- The start is at least the total, so both sides are at the end of the range.
    rw [clamp_of_highest_le (by omega), clamp_of_highest_le (le_max_of_le_left (by omega))]
    exact max_eq_left (plus_inRange ..).2

theorem foldl_stretchedTotal (h : ∀ component ∈ components, component.NonnegAlong axis)
    (hstart : sizes.sum ≤ start) :
    (components.map (Grid.stretchedTotal axis basis (sizes.map clamp))).foldl max (clamp start) =
      clamp ((components.map (Exact.stretchedTotal axis basis sizes)).foldl max start) := by
  induction components generalizing start with
  | nil => rfl
  | cons component components ih =>
    obtain ⟨hfirst, hrest⟩ := List.forall_mem_cons.1 h
    rw [List.map_cons, List.map_cons, List.foldl_cons, List.foldl_cons,
      max_stretchedTotal hs hfirst hstart, ih hrest (hstart.trans (le_max_left ..))]

theorem formExtent_eq_exact (h : ∀ component ∈ components, component.NonnegAlong axis)
    {options : Options} (hborder : 0 ≤ options.border.along axis) :
    Grid.formExtent axis basis (sizes.map clamp) components options =
      min highest (Exact.innerExtent axis basis sizes components +
        Exact.insets options.border axis) := by
  have hspanning : ∀ component ∈ components.filter fun component =>
      1 < component.cell.span.along axis, component.NonnegAlong axis :=
    fun component hmem => h component (List.mem_filter.1 hmem).1
  have hinner : 0 ≤ Exact.innerExtent axis basis sizes components :=
    le_foldl_max (.inl (List.sum_nonneg hs))
  have hexact := Insets.exact_nonneg hborder
  rw [Grid.formExtent, total_map_clamp hs, foldl_stretchedTotal hs hspanning (Int.le_refl _),
    ← clamp_of_nonneg (add_nonneg hinner hexact)]
  calc plus (clamp (Exact.innerExtent axis basis sizes components)) (options.border.along axis)
      = plus (Exact.innerExtent axis basis sizes components)
          (clamp (Exact.insets options.border axis)) := plus_clamp_left hinner hborder
    _ = _ := plus_clamp_right hinner hexact

end

/-! ## Forms -/

namespace Grid

variable {grid : Grid} {axis : Axis} {keys : List String} {measure : Measure} {options : Options}

namespace NonnegListed

variable (h : grid.NonnegListed axis keys measure options)

include h

theorem formExtent_trackSizes {components : List Component}
    (hc : grid.components measure keys = .ok components) {see : Extent → Extent}
    (hsee : Extent.Picks see) (basis : Basis) :
    formExtent axis basis (equalize (grid.groups.along axis)
        (grid.ownSizes axis options.metrics components see)) components options =
      min highest (Exact.innerExtent axis basis
        (Exact.trackSizes grid axis options.metrics components see) components +
          Exact.insets options.border axis) := by
  have hcomponents : ∀ component ∈ components, component.NonnegAlong axis :=
    fun component hmem => h.nonnegAlong hc hmem
  rw [trackSizes_eq_exact hcomponents hsee]
  exact formExtent_eq_exact (Exact.trackSizes_nonneg hcomponents hsee h.constants) hcomponents
    h.border

theorem formSize_eq_exact {see : Extent → Extent} (hsee : Extent.Picks see) (basis : Basis)
    {sizes : Needs → List Int}
    (hsizes : ∀ components, sizes (grid.needs axis options.metrics components) =
      equalize (grid.groups.along axis) (grid.ownSizes axis options.metrics components see)) :
    (grid.formSize basis sizes keys measure options).map (·.along axis) =
      (Exact.formSize grid basis see keys measure options).map
        fun size => min highest (size.along axis) := by
  rw [formSize, Exact.formSize]
  cases hc : grid.components measure keys with
  | error error => rfl
  | ok components =>
    simp only [ok_bind, pure_eq_ok, Except.map, PerAxis.along_ofFn, hsizes]
    exact congrArg Except.ok (h.formExtent_trackSizes hc hsee basis)

end NonnegListed

/-- The pixel range shows in the sizes of a form only as a cut at its end. -/
theorem formSizes_eq_exact (h : grid.NonnegListed axis keys measure options) :
    (grid.minimumSize keys measure options).map (·.along axis) =
        (Exact.minimumSize grid keys measure options).map
          (fun size => min highest (size.along axis)) ∧
      (grid.preferredSize keys measure options).map (·.along axis) =
        (Exact.preferredSize grid keys measure options).map
          (fun size => min highest (size.along axis)) :=
  ⟨h.formSize_eq_exact Extent.picks_tight .minimum fun _ => rfl,
    h.formSize_eq_exact Extent.picks_id .preferred fun _ => rfl⟩

/-- A banner over the first two of three columns, which together are wider than pixels go. -/
def vast : Grid :=
  [Edit.place "banner" { start := ⟨1, 1⟩, span := ⟨2, 1⟩, insets := .uniform 5 }].foldl after
    { tracks := ⟨List.replicate 3 (.sample (.constant ⟨.ofInt 1500000000, .pixel⟩) .zero
        isWeight_zero), [preferredRow]⟩ }

def vastMeasure : Measure := .ofTable ⟨[("banner", ⟨⟨0, 100, 100⟩, ⟨0, 20, 20⟩⟩)]⟩

theorem reachable_vast : vast.Reachable := reachable_foldl_after _ _ (by decide) (by decide +kernel)

theorem nonneg_vast : vast.NonnegListed .horizontal ["banner"] vastMeasure {} where
  measures := by decide +kernel
  insets := by decide +kernel
  border := by decide
  constants := by decide +kernel

/-- Both the total of the columns and that of the two below the banner are cut off, which leaves
nothing for the third column. The form is as wide as can be all the same. -/
theorem formSizes_of_vast :
    vast.Reachable ∧ vast.NonnegListed .horizontal ["banner"] vastMeasure {} ∧
      (Exact.preferredSize vast ["banner"] vastMeasure {}).map (·.along .horizontal) =
        .ok 4500000000 ∧
      (vast.minimumSize ["banner"] vastMeasure {}).map (·.along .horizontal) = .ok highest ∧
      (vast.preferredSize ["banner"] vastMeasure {}).map (·.along .horizontal) = .ok highest := by
  obtain ⟨hmin, hpref⟩ := formSizes_eq_exact nonneg_vast
  refine ⟨reachable_vast, nonneg_vast, congrArg Except.ok ?_, hmin.trans (congrArg Except.ok ?_),
    hpref.trans (congrArg Except.ok ?_)⟩ <;> decide +kernel

end Grid

end TrackGrid
