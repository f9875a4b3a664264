import TrackGrid.Proofs.Layout.Preferred

/-! # One axis at a time

What a pass does along an axis depends on what there is along this axis. Main statement: two forms
that agree along an axis are laid out alike along it, whatever they have along the other one.
-/

namespace TrackGrid

open Pixels

/-! ## What agrees along an axis -/

structure Insets.SameAlong (axis : Axis) (insets others : Insets) : Prop where
  leading : insets.leading.along axis = others.leading.along axis
  trailing : insets.trailing.along axis = others.trailing.along axis

structure Cell.SameAlong (axis : Axis) (cell other : Cell) : Prop where
  start : cell.start.along axis = other.start.along axis
  span : cell.span.along axis = other.span.along axis
  alignment : cell.alignment.along axis = other.alignment.along axis
  insets : cell.insets.SameAlong axis other.insets
  sizeGroup : cell.sizeGroup.along axis = other.sizeGroup.along axis

instance (axis : Axis) (insets others : Insets) : Decidable (insets.SameAlong axis others) :=
  decidable_of_iff (insets.leading.along axis = others.leading.along axis ∧
      insets.trailing.along axis = others.trailing.along axis)
    ⟨fun ⟨hl, ht⟩ => ⟨hl, ht⟩, fun ⟨hl, ht⟩ => ⟨hl, ht⟩⟩

instance (axis : Axis) (cell other : Cell) : Decidable (cell.SameAlong axis other) :=
  decidable_of_iff (cell.start.along axis = other.start.along axis ∧
      cell.span.along axis = other.span.along axis ∧
      cell.alignment.along axis = other.alignment.along axis ∧
      cell.insets.SameAlong axis other.insets ∧
      cell.sizeGroup.along axis = other.sizeGroup.along axis)
    ⟨fun ⟨hs, hn, ha, hi, hg⟩ => ⟨hs, hn, ha, hi, hg⟩,
      fun ⟨hs, hn, ha, hi, hg⟩ => ⟨hs, hn, ha, hi, hg⟩⟩

structure Component.SameAlong (axis : Axis) (component other : Component) : Prop where
  key : component.key = other.key
  cell : component.cell.SameAlong axis other.cell
  extents : component.extents.along axis = other.extents.along axis

/-- The components with these keys agree along the axis in both grids, and so does all else that a
pass over them depends on but the container. -/
structure Grid.SameAlong (axis : Axis) (grid other : Grid) (keys : List String)
    (measure measure' : Measure) (options options' : Options) : Prop where
  tracks : grid.tracks.along axis = other.tracks.along axis
  groups : grid.groups.along axis = other.groups.along axis
  cells : ∀ key ∈ keys, ∀ cell ∈ grid.cells.get? key, ∀ cell' ∈ other.cells.get? key,
    cell.SameAlong axis cell'
  measures : ∀ key ∈ keys, (measure key).along axis = (measure' key).along axis
  border : options.border.SameAlong axis options'.border
  metrics : options.metrics = options'.metrics

/-- What a rectangle covers along an axis. -/
def Rect.stretch (rect : Rect) (axis : Axis) : Stretch :=
  ⟨rect.origin.along axis, rect.extent.along axis⟩

/-! ## Cells and components -/

variable {axis : Axis}

theorem Insets.SameAlong.along_eq {insets others : Insets} (h : insets.SameAlong axis others) :
    insets.along axis = others.along axis := by
  rw [along, along, h.leading, h.trailing]

namespace Cell.SameAlong

variable {cell other : Cell} (h : cell.SameAlong axis other)

include h

theorem liesOnlyIn_eq (index : Nat) : cell.liesOnlyIn axis index = other.liesOnlyIn axis index := by
  rw [liesOnlyIn, liesOnlyIn, h.start, h.span]

theorem covered_eq (sizes : List Int) : cell.covered axis sizes = other.covered axis sizes := by
  rw [covered, covered, h.start, h.span]

theorem inner_eq (boundaries : List Int) :
    cell.inner axis boundaries = other.inner axis boundaries := by
  rw [inner, inner, innerBetween, innerBetween, stop, stop, h.start, h.span, h.insets.leading,
    h.insets.along_eq]

end Cell.SameAlong

namespace Component.SameAlong

variable {component other : Component} (h : component.SameAlong axis other)

include h

theorem outerExtent_eq : component.outerExtent axis = other.outerExtent axis := by
  rw [outerExtent, outerExtent, h.extents, h.cell.insets.along_eq]

theorem place_eq (tracks : List Track) (boundaries : List Int) :
    component.place axis tracks boundaries = other.place axis tracks boundaries := by
  rw [place, place, placeIn, placeIn, h.cell.start, h.cell.alignment, h.extents,
    h.cell.inner_eq]

end Component.SameAlong

theorem Grid.stretch_rectOf (grid : Grid) (boundaries : PerAxis (List Int)) (component : Component)
    (axis : Axis) : (grid.rectOf boundaries component).stretch axis =
      component.place axis (grid.tracks.along axis) (boundaries.along axis) := by
  rw [Rect.stretch, rectOf, PerAxis.along_ofFn, PerAxis.along_ofFn]

theorem Grid.map_stretch_rects (grid : Grid) (boundaries : PerAxis (List Int))
    (components : List Component) (axis : Axis) :
    (grid.rects boundaries components).map (·.stretch axis) =
      (components.map fun component => (component.key,
        component.place axis (grid.tracks.along axis) (boundaries.along axis))).foldl
          (fun stretches entry => stretches.insert entry.1 entry.2) {} := by
  rw [rects, Table.map_foldl_insert, List.foldl_map]
  simp only [stretch_rectOf]
  rfl

/-! ## Lists of components -/

section

variable {α : Type} {components others : List Component}
  (h : List.Forall₂ (Component.SameAlong axis) components others)

include h

theorem map_eq_of_sameAlong {f : Component → α}
    (hf : ∀ component other, component.SameAlong axis other → f component = f other) :
    components.map f = others.map f := by
  rw [← List.forall₂_eq_eq_eq, List.forall₂_map_left_iff, List.forall₂_map_right_iff]
  exact h.imp hf

theorem filter_of_sameAlong {p : Component → Bool}
    (hp : ∀ component other, component.SameAlong axis other → p component = p other) :
    List.Forall₂ (Component.SameAlong axis) (components.filter p) (others.filter p) :=
  List.rel_filter (fun component other hsame => Bool.eq_iff_iff.1 (hp component other hsame)) h

theorem Component.SameAlong.shareExtents :
    List.Forall₂ (Component.SameAlong axis) (Component.shareExtents components)
      (Component.shareExtents others) := by
  have hgroup (group : Nat) :
      groupExtent? axis group components = groupExtent? axis group others := by
    have hmembers := filter_of_sameAlong h
      (p := fun component => component.cell.sizeGroup.along axis = some group)
      fun component other hsame => by rw [hsame.cell.sizeGroup]
    rw [groupExtent?, groupExtent?, map_eq_of_sameAlong hmembers fun _ _ hsame => hsame.extents]
  rw [Component.shareExtents, Component.shareExtents, List.forall₂_map_left_iff,
    List.forall₂_map_right_iff]
  refine h.imp fun component other hsame => ⟨hsame.key, hsame.cell, ?_⟩
  rw [PerAxis.along_ofFn, PerAxis.along_ofFn, sharedExtent, sharedExtent, hsame.cell.sizeGroup,
    hsame.extents, funext hgroup]

theorem membersOf_of_sameAlong (index : Nat) :
    membersOf axis index components = membersOf axis index others :=
  map_eq_of_sameAlong
    (filter_of_sameAlong h fun _ _ hsame => hsame.cell.liesOnlyIn_eq index)
    fun _ _ hsame => hsame.outerExtent_eq

end

/-! ## Forms -/

namespace Grid

theorem formExtent_of_sameAlong {components others : List Component} {options options' : Options}
    (h : List.Forall₂ (Component.SameAlong axis) components others)
    (hborder : options.border.SameAlong axis options'.border) (basis : Basis) (sizes : List Int) :
    formExtent axis basis sizes components options =
      formExtent axis basis sizes others options' := by
  have hspanning := filter_of_sameAlong h
    (p := fun component => 1 < component.cell.span.along axis)
    fun component other hsame => by rw [hsame.cell.span]
  have htotals := map_eq_of_sameAlong hspanning
    (f := stretchedTotal axis basis sizes) fun component other hsame => by
      rw [stretchedTotal, stretchedTotal, hsame.cell.covered_eq, hsame.outerExtent_eq]
  rw [formExtent, formExtent, htotals, hborder.along_eq]

variable {grid other : Grid} {keys : List String} {measure measure' : Measure}
  {options options' : Options}

namespace SameAlong

variable (h : grid.SameAlong axis other keys measure measure' options options')

include h

theorem components {components others : List Component}
    (hc : grid.components measure keys = .ok components)
    (ho : other.components measure' keys = .ok others) :
    List.Forall₂ (Component.SameAlong axis) components others := by
  obtain ⟨measured, hmeasured, -, rfl⟩ := components_eq_ok_iff.1 hc
  obtain ⟨measured', hmeasured', -, rfl⟩ := components_eq_ok_iff.1 ho
  apply Component.SameAlong.shareExtents
  refine forall₂_of_mapM hmeasured hmeasured' fun key hkey component component' hk hk' => ?_
  obtain ⟨cell, hcell, rfl⟩ := component_eq_ok_iff.1 hk
  obtain ⟨cell', hcell', rfl⟩ := component_eq_ok_iff.1 hk'
  exact ⟨rfl, h.cells key hkey cell hcell cell' hcell', h.measures key hkey⟩

variable {components others : List Component}
  (hsame : List.Forall₂ (Component.SameAlong axis) components others)

include hsame

theorem needs_eq : grid.needs axis options.metrics components =
    other.needs axis options'.metrics others := by
  simp only [needs, h.tracks, h.groups, h.metrics, membersOf_of_sameAlong hsame]

theorem arrange_eq {container container' : Rect}
    (hcontainer : container.stretch axis = container'.stretch axis) :
    grid.arrange container components options axis =
      other.arrange container' others options' axis := by
  obtain ⟨horigin, hextent⟩ := Stretch.mk.inj hcontainer
  rw [arrange, arrange, available, available, h.needs_eq hsame, h.tracks, h.groups, horigin,
    hextent, h.border.leading, h.border.along_eq]

theorem stretch_rects_eq {boundaries boundaries' : PerAxis (List Int)}
    (hboundaries : boundaries.along axis = boundaries'.along axis) :
    (grid.rects boundaries components).map (·.stretch axis) =
      (other.rects boundaries' others).map (·.stretch axis) := by
  have hplaced := map_eq_of_sameAlong hsame
    (f := fun component => (component.key,
      component.place axis (other.tracks.along axis) (boundaries'.along axis)))
    fun component other hsame => by rw [hsame.key, hsame.place_eq]
  rw [map_stretch_rects, map_stretch_rects, h.tracks, hboundaries, hplaced]

theorem formExtent_eq (basis : Basis) (sizes : Needs → List Int) :
    formExtent axis basis (sizes (grid.needs axis options.metrics components)) components options =
      formExtent axis basis (sizes (other.needs axis options'.metrics others)) others options' := by
  rw [h.needs_eq hsame, formExtent_of_sameAlong hsame h.border]

end SameAlong

/-- Two passes over forms that agree along an axis agree along it on the boundaries, on where each
component stands, and on the sizes of the forms. -/
theorem pass_of_sameAlong (h : grid.SameAlong axis other keys measure measure' options options')
    {container container' : Rect}
    (hcontainer : container.stretch axis = container'.stretch axis) {layout layout' : Layout}
    (hlayout : grid.layout container keys measure options = .ok layout)
    (hlayout' : other.layout container' keys measure' options' = .ok layout') :
    layout.boundaries.along axis = layout'.boundaries.along axis ∧
    layout.rects.map (·.stretch axis) = layout'.rects.map (·.stretch axis) ∧
    ∃ minimum minimum' preferred preferred',
      grid.minimumSize keys measure options = .ok minimum ∧
      other.minimumSize keys measure' options' = .ok minimum' ∧
      minimum.along axis = minimum'.along axis ∧
      grid.preferredSize keys measure options = .ok preferred ∧
      other.preferredSize keys measure' options' = .ok preferred' ∧
      preferred.along axis = preferred'.along axis := by
  obtain ⟨components, hc, hlayout⟩ := bind_eq_ok_iff.1 hlayout
  obtain ⟨others, ho, hlayout'⟩ := bind_eq_ok_iff.1 hlayout'
  cases hlayout
  cases hlayout'
  have hsame := h.components hc ho
  have hboundaries : (PerAxis.ofFn (grid.arrange container components options)).along axis =
      (PerAxis.ofFn (other.arrange container' others options')).along axis := by
    rw [PerAxis.along_ofFn, PerAxis.along_ofFn, h.arrange_eq hsame hcontainer]
  refine ⟨hboundaries, h.stretch_rects_eq hsame hboundaries, _, _, _, _,
    by rw [minimumSize, formSize, hc]; rfl, by rw [minimumSize, formSize, ho]; rfl, ?_,
    by rw [preferredSize, formSize, hc]; rfl, by rw [preferredSize, formSize, ho]; rfl, ?_⟩ <;>
    rw [PerAxis.along_ofFn, PerAxis.along_ofFn]
  · exact h.formExtent_eq hsame .minimum (·.minimum)
  · exact h.formExtent_eq hsame .preferred (·.preferred)

/-- The columns of the titled form over two rows. The label stands below the title, at the bottom of
its row. -/
def stacked : Grid :=
  [Edit.place "label" { start := ⟨1, 2⟩, alignment := ⟨.inherited, .own .bottom⟩ },
    .place "title" { start := ⟨2, 1⟩, span := ⟨2, 1⟩, insets := .ofSides 3 0 4 0 },
    .setGroups .horizontal [[1, 2]]].foldl after
    { tracks := ⟨titled.tracks.horizontal, [preferredRow, .glue .vertical]⟩ }

def stackedMeasure : Measure :=
  .ofTable ⟨[("label", ⟨⟨0, 10, 10⟩, ⟨0, 8, 8⟩⟩), ("title", ⟨⟨0, 100, 100⟩, ⟨0, 20, 0⟩⟩)]⟩

theorem sameAlong_stacked : titled.SameAlong .horizontal stacked ["label", "title"] titledMeasure
    stackedMeasure {} { border := .ofSides 1 0 2 0 } where
  tracks := by decide +kernel
  groups := by decide +kernel
  cells := by decide +kernel
  measures := by decide +kernel
  border := by decide
  metrics := rfl

/-- The rows change nothing of the columns. -/
theorem pass_of_stacked :
    ∃ layout layout',
      titled.layout ⟨⟨0, 0⟩, ⟨110, 5⟩⟩ ["label", "title"] titledMeasure {} = .ok layout ∧
      stacked.layout ⟨⟨0, 50⟩, ⟨110, 60⟩⟩ ["label", "title"] stackedMeasure
        { border := .ofSides 1 0 2 0 } = .ok layout' ∧
      layout.boundaries = ⟨[0, 10, 80, 110], [0, 5]⟩ ∧
      layout'.boundaries = ⟨[0, 10, 80, 110], [51, 78, 108]⟩ ∧
      layout.rects.map (·.stretch .horizontal) = layout'.rects.map (·.stretch .horizontal) ∧
      layout.rects.map (·.stretch .vertical) ≠ layout'.rects.map (·.stretch .vertical) := by
  have hl : titled.layout ⟨⟨0, 0⟩, ⟨110, 5⟩⟩ ["label", "title"] titledMeasure {} = .ok _ := rfl
  have hl' : stacked.layout ⟨⟨0, 50⟩, ⟨110, 60⟩⟩ ["label", "title"] stackedMeasure
      { border := .ofSides 1 0 2 0 } = .ok _ := rfl
  obtain ⟨-, hrects, -⟩ := pass_of_sameAlong sameAlong_stacked (by decide) hl hl'
  exact ⟨_, _, hl, hl', by decide +kernel, by decide +kernel, hrects, by decide +kernel⟩

end Grid

end TrackGrid
