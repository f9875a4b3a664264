import TrackGrid.Proofs.Layout.Components
import TrackGrid.Proofs.Layout.Lookups

/-! # When a layout pass succeeds

The components of a pass must all have a cell. Nothing else can keep it from a result: the cells of
a grid in order lie in its tracks, and so every look-up finds what it looks for.
-/

namespace TrackGrid

variable {grid : Grid} {keys : List String} {components : List Component}

/-! ## Measured components -/

namespace Grid

/-- The components lie in the tracks of the grid. -/
def Holds (grid : Grid) (components : List Component) : Prop :=
  ∀ component ∈ components, ∀ axis, component.cell.FitsIn axis (grid.count axis)

theorem checkFits_eq_ok (h : grid.Reachable) {cell : Cell} (hcell : cell ∈ grid.cells.values) :
    cell.checkFits grid.counts = .ok () := by
  rw [Cell.checkFits_eq_ok_iff]
  intro axis
  have hstop := ((h.wellFormed axis).cells cell hcell).stop_le
  have hlimit := h.counted axis
  rw [along_counts]
  omega

theorem component_eq_error {key : String} (h : grid.cells.contains key = false)
    (measure : Measure) : grid.component measure key = .error (.unplaced key) := by
  have hnone : grid.cells.get? key = none := by simpa [Table.contains] using h
  simp [component, hnone]

theorem component_eq_ok {key : String} (h : grid.cells.contains key = true) (measure : Measure) :
    ∃ cell ∈ grid.cells.values, grid.component measure key = .ok ⟨key, cell, measure key⟩ := by
  obtain ⟨cell, hcell⟩ := Option.isSome_iff_exists.1 h
  exact ⟨cell, Table.mem_values_of_get? hcell, by simp [component, hcell]⟩

theorem mapM_component_eq_ok (hk : ∀ key ∈ keys, grid.cells.contains key = true)
    (measure : Measure) :
    ∃ components, keys.mapM (grid.component measure) = .ok components ∧
      components.map (·.key) = keys ∧
      ∀ component ∈ components, component.cell ∈ grid.cells.values := by
  induction keys with
  | nil => exact ⟨[], rfl, rfl, by simp⟩
  | cons key keys ih =>
    obtain ⟨cell, hcell, hfirst⟩ := component_eq_ok (hk key List.mem_cons_self) measure
    obtain ⟨components, hrest, hkeys, hcells⟩ :=
      ih fun other hother => hk other (List.mem_cons_of_mem key hother)
    refine ⟨⟨key, cell, measure key⟩ :: components, ?_, ?_, ?_⟩
    · rw [List.mapM_cons, hfirst, ok_bind, hrest]
      rfl
    · rw [List.map_cons, hkeys]
    · intro component hmem
      rcases List.mem_cons.1 hmem with rfl | hmem
      · exact hcell
      · exact hcells component hmem

theorem components_eq_ok (h : grid.Reachable) (hk : ∀ key ∈ keys, grid.cells.contains key = true)
    (measure : Measure) :
    ∃ components, grid.components measure keys = .ok components ∧
      components.map (·.key) = keys ∧ grid.Holds components := by
  obtain ⟨measured, hmeasured, hkeys, hcells⟩ := mapM_component_eq_ok hk measure
  have hshared : ∀ component ∈ Component.shareExtents measured,
      component.cell ∈ grid.cells.values := by
    intro component hmem
    obtain ⟨old, hold, rfl⟩ := List.mem_map.1 hmem
    exact hcells old hold
  refine ⟨Component.shareExtents measured, ?_, ?_, ?_⟩
  · exact components_eq_ok_iff.2
      ⟨measured, hmeasured, fun component hmem => checkFits_eq_ok h (hcells component hmem), rfl⟩
  · rw [Component.shareExtents, List.map_map]
    exact hkeys
  · intro component hmem axis
    exact (h.wellFormed axis).cells component.cell (hshared component hmem)

theorem components_eq_error {key : String}
    (hk : keys.find? (fun key => !grid.cells.contains key) = some key) (measure : Measure) :
    grid.components measure keys = .error (.unplaced key) := by
  have hok (key : String) (hkey : grid.cells.contains key = true) :
      ∃ component, grid.component measure key = .ok component := by
    obtain ⟨cell, -, hmeasured⟩ := component_eq_ok hkey measure
    exact ⟨_, hmeasured⟩
  have herror (key : String) (hkey : grid.cells.contains key = false) :=
    component_eq_error hkey measure
  rw [components, mapM_eq_error hok herror hk, error_bind]

end Grid

/-! ## The pass with its look-ups checked -/

namespace Checked

open Grid

theorem arrange_eq_ok (h : grid.WellFormed) (container : Rect) (components : List Component)
    (options : Options) (axis : Axis) :
    arrange grid container components options axis =
      .ok (grid.arrange container components options axis) := by
  have hfinal := finalSizes_eq_ok (grid.ofLength_needs axis options.metrics components)
    (h axis).members (available container options axis)
  rw [arrange, needs_eq_ok h, ok_bind, hfinal]
  rfl

theorem rectOf_eq_ok {boundaries : PerAxis (List Int)}
    (hb : ∀ axis, (boundaries.along axis).length = grid.count axis + 1) {component : Component}
    (hc : ∀ axis, component.cell.FitsIn axis (grid.count axis)) :
    rectOf grid boundaries component = .ok (grid.rectOf boundaries component) := by
  rw [rectOf, onBoth_eq_ok fun axis => place_eq_ok (hc axis) (hb axis)]
  rfl

theorem rects_eq_ok {boundaries : PerAxis (List Int)}
    (hb : ∀ axis, (boundaries.along axis).length = grid.count axis + 1)
    (hh : grid.Holds components) :
    rects grid boundaries components = .ok (grid.rects boundaries components) := by
  apply foldlM_eq_ok_foldl
  intro rects component hmem
  rw [rectOf_eq_ok hb (hh component hmem)]
  rfl

theorem layout_eq (h : grid.WellFormed) {measure : Measure}
    (hc : grid.components measure keys = .ok components) (hh : grid.Holds components)
    (container : Rect) (options : Options) :
    layout grid container keys measure options =
      (grid.layout container keys measure options).mapError .measure := by
  have hboundaries := onBoth_eq_ok (arrange_eq_ok h container components options)
  have hlength (axis : Axis) :
      ((PerAxis.ofFn (grid.arrange container components options)).along axis).length =
        grid.count axis + 1 := by
    rw [PerAxis.along_ofFn, length_arrange]
  have hrects := rects_eq_ok hlength hh
  rw [layout, Grid.layout, hc]
  simp only [mapError_ok, ok_bind, hboundaries, hrects, pure_eq_ok]

theorem stretchedTotal_eq_ok {axis : Axis} {sizes : List Int} {component : Component}
    (h : component.cell.FitsIn axis sizes.length) (basis : Basis) :
    stretchedTotal axis basis sizes component =
      .ok (Grid.stretchedTotal axis basis sizes component) := by
  rw [stretchedTotal, slice_eq_ok h]
  rfl

theorem formExtent_eq_ok {axis : Axis} {sizes : List Int}
    (hlen : sizes.length = grid.count axis) (hh : grid.Holds components) (basis : Basis)
    (options : Options) :
    formExtent axis basis sizes components options =
      .ok (Grid.formExtent axis basis sizes components options) := by
  have htotals : (components.filter fun component => 1 < component.cell.span.along axis).mapM
        (stretchedTotal axis basis sizes) =
      .ok ((components.filter fun component => 1 < component.cell.span.along axis).map
        (Grid.stretchedTotal axis basis sizes)) := by
    apply mapM_eq_ok_map
    intro component hmem
    apply stretchedTotal_eq_ok
    rw [hlen]
    exact hh component (List.mem_filter.1 hmem).1 axis
  rw [formExtent, htotals]
  rfl

theorem formSize_eq (h : grid.WellFormed) {measure : Measure}
    (hc : grid.components measure keys = .ok components) (hh : grid.Holds components)
    (basis : Basis) {sizes : Needs → List Int}
    (hsizes : ∀ {needs : Needs} {count : Nat}, needs.OfLength count → (sizes needs).length = count)
    (options : Options) :
    formSize grid basis sizes keys measure options =
      (grid.formSize basis sizes keys measure options).mapError .measure := by
  have hextent (axis : Axis) := formExtent_eq_ok
    (hsizes (grid.ofLength_needs axis options.metrics components)) hh basis options
  rw [formSize, Grid.formSize, hc]
  simp only [mapError_ok, ok_bind, needs_eq_ok h, onBoth_eq_ok hextent, pure_eq_ok]

end Checked

/-! ## Results -/

namespace Grid

theorem layout_of_components {measure : Measure}
    (hc : grid.components measure keys = .ok components) (hkeys : components.map (·.key) = keys)
    (container : Rect) (options : Options) :
    ∃ layout, grid.layout container keys measure options = .ok layout ∧
      (∀ axis, (layout.boundaries.along axis).length = grid.count axis + 1) ∧
      layout.rects.keys = keys.eraseDups := by
  refine ⟨_, by rw [layout, hc]; rfl, ?_, ?_⟩
  · intro axis
    rw [PerAxis.along_ofFn, length_arrange]
  · rw [keys_rects, hkeys]

theorem exists_components_of_layout {container : Rect} {measure : Measure} {options : Options}
    {layout : Layout} (h : grid.layout container keys measure options = .ok layout) :
    ∃ components, grid.components measure keys = .ok components ∧
      layout.boundaries = .ofFn (grid.arrange container components options) ∧
      layout.rects = grid.rects layout.boundaries components := by
  obtain ⟨components, hc, h⟩ := bind_eq_ok_iff.1 h
  cases h
  exact ⟨components, hc, rfl, rfl⟩

theorem formSize_of_components {measure : Measure}
    (hc : grid.components measure keys = .ok components) (basis : Basis)
    (sizes : Needs → List Int) (options : Options) :
    ∃ size, grid.formSize basis sizes keys measure options = .ok size :=
  ⟨_, by rw [formSize, hc]; rfl⟩

/-- No look-up fails in a pass over any grid that edits make, and no size lacks its components. A
pass and both size queries have a result if every component has a cell, with the right number of
boundaries and one rectangle for each component; else they all name the first that has none. -/
theorem pass_fails_only_unplaced (h : grid.Reachable) (container : Rect) (keys : List String)
    (measure : Measure) (options : Options) :
    (Checked.layout grid container keys measure options =
        (grid.layout container keys measure options).mapError .measure ∧
      Checked.minimumSize grid keys measure options =
        (grid.minimumSize keys measure options).mapError .measure ∧
      Checked.preferredSize grid keys measure options =
        (grid.preferredSize keys measure options).mapError .measure) ∧
    match keys.find? fun key => !grid.cells.contains key with
    | some key =>
      grid.layout container keys measure options = .error (.unplaced key) ∧
        grid.minimumSize keys measure options = .error (.unplaced key) ∧
        grid.preferredSize keys measure options = .error (.unplaced key)
    | none =>
      ∃ layout minimum preferred,
        grid.layout container keys measure options = .ok layout ∧
        grid.minimumSize keys measure options = .ok minimum ∧
        grid.preferredSize keys measure options = .ok preferred ∧
        (∀ axis, (layout.boundaries.along axis).length = grid.count axis + 1) ∧
        layout.rects.keys = keys.eraseDups := by
  split
  · rename_i key hkey
    have hc := components_eq_error hkey measure
    refine ⟨⟨?_, ?_, ?_⟩, ?_, ?_, ?_⟩
    · rw [Checked.layout, layout, hc]
      rfl
    · rw [Checked.minimumSize, minimumSize, Checked.formSize, formSize, hc]
      rfl
    · rw [Checked.preferredSize, preferredSize, Checked.formSize, formSize, hc]
      rfl
    · rw [layout, hc, error_bind]
    · rw [minimumSize, formSize, hc, error_bind]
    · rw [preferredSize, formSize, hc, error_bind]
  · rename_i hkeys
    have hplaced : ∀ key ∈ keys, grid.cells.contains key = true := by simpa using hkeys
    obtain ⟨components, hc, hnames, hh⟩ := components_eq_ok h hplaced measure
    have hwf := h.wellFormed
    refine ⟨⟨Checked.layout_eq hwf hc hh container options,
      Checked.formSize_eq hwf hc hh .minimum (·.minimum) options,
      Checked.formSize_eq hwf hc hh .preferred (·.preferred) options⟩, ?_⟩
    obtain ⟨layout, hlayout, hlength, hrects⟩ := layout_of_components hc hnames container options
    obtain ⟨minimum, hminimum⟩ := formSize_of_components hc .minimum (·.minimum) options
    obtain ⟨preferred, hpreferred⟩ := formSize_of_components hc .preferred (·.preferred) options
    exact ⟨layout, minimum, preferred, hlayout, hminimum, hpreferred, hlength, hrects⟩

/-- A button without a cell keeps the sample from a result; what is listed twice is placed once. -/
theorem sample_pass :
    sample.Reachable ∧
      sample.layout ⟨⟨0, 0⟩, ⟨640, 480⟩⟩ ["label", "button"] (.ofTable {}) {} =
        .error (.unplaced "button") ∧
      ∃ layout, sample.layout ⟨⟨0, 0⟩, ⟨640, 480⟩⟩ ["field", "title", "field"] (.ofTable {}) {} =
          .ok layout ∧
        (layout.boundaries.along .horizontal).length = 4 ∧
        layout.rects.keys = ["field", "title"] := by
  have hbutton := (pass_fails_only_unplaced reachable_sample ⟨⟨0, 0⟩, ⟨640, 480⟩⟩
    ["label", "button"] (.ofTable {}) {}).2
  have hfield := (pass_fails_only_unplaced reachable_sample ⟨⟨0, 0⟩, ⟨640, 480⟩⟩
    ["field", "title", "field"] (.ofTable {}) {}).2
  obtain ⟨layout, -, -, hlayout, -, -, hlength, hkeys⟩ := hfield
  exact ⟨reachable_sample, hbutton.1, layout, hlayout, hlength .horizontal, hkeys⟩

end Grid

end TrackGrid
