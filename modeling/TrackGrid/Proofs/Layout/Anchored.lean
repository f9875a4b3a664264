import Mathlib.Order.Bounds.Basic
import TrackGrid.Proofs.Layout.Apart
import TrackGrid.Proofs.Layout.Exact
import TrackGrid.Proofs.Layout.OneAxis
import TrackGrid.Proofs.Layout.Strict

/-! # Components anchored in their cells

A component fills its cell, or it is as large as it is measured and its cell allows, and stands at
one end of the cell or in the middle. What it is measured to need is looked up in its size group.

Main statement: `Grid.anchored_of_layout`.
-/

namespace TrackGrid

open Pixels

/-! ## Stretches in stretches -/

def Stretch.stop (stretch : Stretch) : Int := stretch.origin + stretch.extent

/-- How a stretch lies in a cell, if it would be `natural` pixels long in an endless one. -/
structure Stretch.Anchored (stretch : Stretch) (alignment : Alignment) (cell : Stretch)
    (natural : Int) : Prop where
  filled : alignment = .fill → stretch = cell
  nonneg : 0 ≤ stretch.extent
  extent_le : stretch.extent ≤ cell.extent
  extent_le_natural : alignment ≠ .fill → stretch.extent ≤ natural
  extent_eq_natural : alignment ≠ .fill → natural ≤ cell.extent → stretch.extent = natural
  leading : alignment = .left ∨ alignment = .top → stretch.origin = cell.origin
  trailing : alignment = .right ∨ alignment = .bottom → stretch.stop = cell.stop
  /-- The margin in front is the smaller one, by one pixel at most. -/
  centered : alignment = .center →
    stretch.origin - cell.origin ≤ cell.stop - stretch.stop ∧
      cell.stop - stretch.stop ≤ stretch.origin - cell.origin + 1

theorem Stretch.anchored_of_leadingSpace {alignment : Alignment} (h : alignment ≠ .fill)
    {cell : Stretch} {natural : Int} (hcell : 0 ≤ cell.extent) (hnatural : 0 ≤ natural) :
    (Stretch.mk (cell.origin + alignment.leadingSpace (cell.extent - min natural cell.extent))
      (min natural cell.extent)).Anchored alignment cell natural := by
  have hspare : 0 ≤ cell.extent - min natural cell.extent := by omega
  have hhalf := Int.tdiv_eq_ediv_of_nonneg (b := 2) hspare
  constructor
  case filled => exact fun hfill => absurd hfill h
  case nonneg => exact le_min hnatural hcell
  case extent_le => exact min_le_right ..
  case extent_le_natural => exact fun _ => min_le_left ..
  case extent_eq_natural => exact fun _ hroom => min_eq_left hroom
  case leading =>
    rintro (rfl | rfl) <;> exact Int.add_zero _
  case trailing =>
    rintro (rfl | rfl) <;> simp only [stop, Alignment.leadingSpace] <;> omega
  case centered =>
    rintro rfl
    simp only [stop, Alignment.leadingSpace]
    omega

/-! ## Components in cells -/

theorem Extent.natural_eq (extent : Extent) (basis : Option Basis) (room : Int) :
    extent.natural basis room =
      if basis = some .minimum ∨ basis = some .default ∧ room < extent.preferred
      then extent.minimum else extent.preferred := by
  unfold natural
  split <;> simp

theorem Component.anchored_placeIn {component : Component} {axis : Axis} {track : Track}
    {cell : Stretch} (hcell : 0 ≤ cell.extent)
    (hnatural : 0 ≤ component.naturalIn axis track cell.extent)
    (hrange : InRange (cell.origin + (component.alignmentIn axis track).leadingSpace
      (cell.extent - (component.placeIn axis track cell).extent))) :
    (component.placeIn axis track cell).Anchored (component.alignmentIn axis track) cell
      (component.naturalIn axis track cell.extent) := by
  have hplaced : component.placeIn axis track cell =
      if component.alignmentIn axis track = .fill then cell
      else
        { origin := plus cell.origin ((component.alignmentIn axis track).leadingSpace
            (cell.extent - min (component.naturalIn axis track cell.extent) cell.extent))
          extent := min (component.naturalIn axis track cell.extent) cell.extent } := rfl
  rw [hplaced] at hrange ⊢
  split at hrange
  · rename_i hfill
    rw [if_pos hfill]
    constructor <;> simp [hfill, hcell]
  · rename_i hfill
    rw [if_neg hfill, plus, clamp_of_inRange hrange]
    exact Stretch.anchored_of_leadingSpace hfill hcell hnatural

/-- The space of a cell between two boundaries, over all whole numbers. -/
def Exact.inner (cell : Cell) (axis : Axis) (first last : Int) : Stretch where
  origin := first + cell.insets.leading.along axis
  extent := max 0 (last - first - insets cell.insets axis)

/-- No sum or difference on the way to that space is cut off. -/
structure Cell.Unsaturated (cell : Cell) (axis : Axis) (first last : Int) : Prop where
  origin : InRange (first + cell.insets.leading.along axis)
  insets : InRange (Exact.insets cell.insets axis)
  length : InRange (last - first)
  room : InRange (last - first - Exact.insets cell.insets axis)

theorem Cell.Unsaturated.innerBetween_eq {cell : Cell} {axis : Axis} {first last : Int}
    (h : cell.Unsaturated axis first last) :
    cell.innerBetween axis first last = Exact.inner cell axis first last := by
  have hinsets : cell.insets.along axis = Exact.insets cell.insets axis := clamp_of_inRange h.insets
  unfold innerBetween Exact.inner
  rw [plus, clamp_of_inRange h.origin, minus, minus, clamp_of_inRange h.length, hinsets,
    clamp_of_inRange h.room]

/-! ## Extents of size groups -/

namespace Grid

variable {grid : Grid} {container : Rect} {keys : List String} {measure : Measure}
  {options : Options} {layout : Layout} {axis : Axis} {components : List Component}

def sizeGroup? (grid : Grid) (axis : Axis) (key : String) : Option Nat :=
  (grid.cells.get? key).bind (·.sizeGroup.along axis)

/-- The component with this key and the other listed ones of its size group. -/
def sizedWith (grid : Grid) (axis : Axis) (keys : List String) (key : String) : Set String :=
  {other | other = key ∨ other ∈ keys ∧ ∃ group, grid.sizeGroup? axis key = some group ∧
    grid.sizeGroup? axis other = some group}

/-- Each of the three extents is the largest that one of these components is measured to need. -/
def Unifies (grid : Grid) (axis : Axis) (keys : List String) (measure : Measure) (key : String)
    (extent : Extent) : Prop :=
  ∀ basis, IsGreatest
    ((fun other => ((measure other).along axis).get basis) '' grid.sizedWith axis keys key)
    (extent.get basis)

theorem Unifies.get_eq {key : String} {extent : Extent}
    (h : grid.Unifies axis keys measure key extent) (hnone : grid.sizeGroup? axis key = none)
    (basis : Basis) : extent.get basis = ((measure key).along axis).get basis := by
  obtain ⟨other, rfl | ⟨-, group, hgroup, -⟩, he⟩ := (h basis).1
  · exact he.symm
  · rw [hnone] at hgroup
    cases hgroup

theorem sizeGroup?_of_measured {measured : List Component}
    (h : keys.mapM (grid.component measure) = .ok measured) {member : Component}
    (hmember : member ∈ measured) :
    member.key ∈ keys ∧ grid.sizeGroup? axis member.key = member.cell.sizeGroup.along axis ∧
      member.extents = measure member.key := by
  obtain ⟨key, hkey, he⟩ := exists_of_mem_mapM h hmember
  obtain ⟨cell, hcell, rfl⟩ := component_eq_ok_iff.1 he
  exact ⟨hkey, by rw [sizeGroup?, hcell, Option.bind_some], rfl⟩

theorem unifies_extents (hc : grid.components measure keys = .ok components)
    {component : Component} (hmem : component ∈ components) :
    grid.Unifies axis keys measure component.key (component.extents.along axis) := by
  obtain ⟨measured, hmeasured, -, rfl⟩ := components_eq_ok_iff.1 hc
  obtain ⟨old, hold, rfl⟩ := List.mem_map.1 hmem
  obtain ⟨-, hgroup, hextents⟩ := sizeGroup?_of_measured hmeasured hold
  rw [PerAxis.along_ofFn]
  intro basis
  constructor
  · -- The component alone, or some member of its group, needs as much.
    cases hnumber : old.cell.sizeGroup.along axis with
    | none =>
      rw [Component.sharedExtent_of_none hnumber, hextents]
      exact ⟨old.key, .inl rfl, rfl⟩
    | some group =>
      obtain ⟨member, hmember, hnumber', he⟩ :=
        Component.exists_get_eq_sharedExtent hold hnumber basis
      obtain ⟨hkey, hgroup', hextents'⟩ := sizeGroup?_of_measured hmeasured hmember
      rw [← he, hextents']
      exact ⟨member.key, .inr ⟨hkey, group, hgroup.trans hnumber, hgroup'.trans hnumber'⟩, rfl⟩
  · -- None of them needs more.
    rintro _ ⟨other, rfl | ⟨hother, group, hshared, hshared'⟩, rfl⟩
    · change ((measure old.key).along axis).get basis ≤ _
      rw [← hextents]
      exact Component.get_le_sharedExtent hold basis
    · obtain ⟨member, hmember, he⟩ := exists_mem_of_mapM hmeasured hother
      obtain ⟨cell, hcell, rfl⟩ := component_eq_ok_iff.1 he
      obtain ⟨-, hgroup', -⟩ := sizeGroup?_of_measured hmeasured hmember
      exact Component.get_le_sharedExtent_of_group hold (hgroup.symm.trans hshared) basis hmember
        (hgroup'.symm.trans hshared')

/-! ## Laid-out components -/

theorem stretch_rectOf_of_track {component : Component} {track : Track}
    (ht : (grid.tracks.along axis)[component.cell.start.along axis - 1]? = some track)
    (boundaries : PerAxis (List Int)) :
    (grid.rectOf boundaries component).stretch axis =
      component.placeIn axis track (component.cell.inner axis (boundaries.along axis)) := by
  rw [stretch_rectOf, Component.place, List.getD_eq_getElem?_getD, ht]
  rfl

/-- A component that is listed stands in its cell as its alignment says, or else that of the first
track of the cell. The track also decides which of the extents of its size group it has. -/
theorem anchored_of_layout (axis : Axis) (h : grid.Reachable)
    (hl : grid.layout container keys measure options = .ok layout)
    (hm : ∀ key ∈ keys, ∀ basis, 0 ≤ ((measure key).along axis).get basis) {key : String}
    (hkey : key ∈ keys) :
    ∃ cell rect track first last extent, grid.Places layout key cell rect ∧
      (grid.tracks.along axis)[cell.start.along axis - 1]? = some track ∧
      Reaches layout axis cell first last ∧ grid.Unifies axis keys measure key extent ∧
      let alignment := (cell.alignment.along axis).orTrack track.alignment
      let inner := Exact.inner cell axis first last
      let natural :=
        if track.size.basis? = some .minimum ∨
          track.size.basis? = some .default ∧ inner.extent < extent.preferred
        then extent.minimum else extent.preferred
      cell.Unsaturated axis first last →
        InRange (inner.origin + alignment.leadingSpace (inner.extent - rect.extent.along axis)) →
        (rect.stretch axis).Anchored alignment inner natural := by
  obtain ⟨components, hc, -, hrects⟩ := exists_components_of_layout hl
  obtain ⟨component, hmem, rfl⟩ := exists_component_of_mem hc hkey
  have hcell := (key_mem_of_mem hc hmem).2
  have hplaces : grid.Places layout component.key component.cell
      (grid.rectOf layout.boundaries component) := ⟨hcell, hrects ▸ get?_rects hc hmem _⟩
  obtain ⟨first, last, hreaches⟩ := exists_reaches h hl hplaces axis
  have hfirst : component.cell.start.along axis - 1 < (grid.tracks.along axis).length :=
    (h.fitsIn hcell axis).first_lt
  have ht := List.getElem?_eq_getElem hfirst
  generalize (grid.tracks.along axis)[component.cell.start.along axis - 1] = track at ht
  refine ⟨component.cell, _, track, first, last, _, hplaces, ht, hreaches,
    unifies_extents hc hmem, ?_⟩
  intro alignment inner natural hunsaturated hrange
  have hnatural : natural = component.naturalIn axis track inner.extent :=
    (Extent.natural_eq _ track.size.basis? inner.extent).symm
  have hstretch : (grid.rectOf layout.boundaries component).stretch axis =
      component.placeIn axis track inner := by
    rw [stretch_rectOf_of_track ht, hreaches.inner_eq, hunsaturated.innerBetween_eq]
  have hextent : (grid.rectOf layout.boundaries component).extent.along axis =
      (component.placeIn axis track inner).extent := congrArg Stretch.extent hstretch
  rw [hextent] at hrange
  rw [hstretch, hnatural]
  exact Component.anchored_placeIn (Int.le_max_left ..)
    (Component.naturalIn_nonneg (extents_nonneg hc hm hmem)) hrange

/-- The cell of a centered field with insets of 3 and 2 pixels. -/
def nameCell : Cell where
  start := ⟨1, 1⟩
  alignment := ⟨.own .center, .inherited⟩
  insets := .ofSides 0 3 0 2
  sizeGroup := ⟨some 1, none⟩

/-- Two fields of one size group. The column of the first one grows. -/
def fields : Grid :=
  [Edit.place "name" nameCell,
    .place "code" { start := ⟨2, 1⟩, sizeGroup := ⟨some 1, none⟩ }].foldl after
    { tracks := ⟨[.sample (.component .default) .one isWeight_one,
        .sample (.component .preferred) .zero isWeight_zero], [preferredRow]⟩ }

theorem reachable_fields : fields.Reachable := reachable_foldl_after _ _ (by decide) (by decide)

def fieldsMeasure : Measure :=
  .ofTable ⟨[("name", ⟨⟨10, 25, 25⟩, ⟨5, 5, 5⟩⟩), ("code", ⟨⟨30, 40, 40⟩, ⟨5, 5, 5⟩⟩)]⟩

/-- The first column is 56 pixels wide, and the insets leave 51 of them. The field takes the 40 that
its group prefers, with 5 pixels in front and 6 behind. -/
theorem anchored_fields :
    ∃ layout rect, fields.layout ⟨⟨0, 0⟩, ⟨96, 5⟩⟩ ["name", "code"] fieldsMeasure {} = .ok layout ∧
      layout.rects.get? "name" = some rect ∧ rect.extent.horizontal = 40 ∧
      rect.origin.horizontal - 3 ≤ 54 - rect.stop .horizontal ∧
      54 - rect.stop .horizontal ≤ rect.origin.horizontal - 3 + 1 := by
  have hl : fields.layout ⟨⟨0, 0⟩, ⟨96, 5⟩⟩ ["name", "code"] fieldsMeasure {} = .ok _ := rfl
  have hcell : fields.cells.get? "name" = some nameCell := by decide +kernel
  obtain ⟨cell, rect, track, first, last, extent, hplaces, ht, hreaches, hunifies, hanchored⟩ :=
    anchored_of_layout .horizontal reachable_fields hl (by decide +kernel)
      (by decide : "name" ∈ ["name", "code"])
  cases hcell.symm.trans hplaces.cell
  cases ht
  have hfirst : first = 0 := Option.some.inj (hreaches.first.symm.trans (by decide +kernel))
  have hlast : last = 56 := Option.some.inj (hreaches.last.symm.trans (by decide +kernel))
  have hshared : extent.preferred = 40 := by
    apply (hunifies .preferred).unique
    constructor
    · exact ⟨"code", .inr ⟨by decide, 1, by decide +kernel, by decide +kernel⟩, by decide +kernel⟩
    · have hmost : ∀ other ∈ ["name", "code"],
          ((fieldsMeasure other).along .horizontal).preferred ≤ 40 := by decide +kernel
      rintro _ ⟨other, rfl | ⟨hother, -⟩, rfl⟩
      · exact hmost "name" (by decide)
      · exact hmost other hother
  have hrect : rect = ⟨⟨8, 0⟩, ⟨40, 5⟩⟩ :=
    Option.some.inj (hplaces.rect.symm.trans (by decide +kernel))
  subst hfirst hlast hrect
  have hplaced := hanchored ⟨by decide, by decide, by decide, by decide⟩ (by decide)
  have hmargins := hplaced.centered rfl
  have hextent := hplaced.extent_eq_natural (by decide)
  rw [hshared, if_neg (by decide)] at hextent
  exact ⟨_, _, hl, hplaces.rect, hextent (by decide), hmargins.1, hmargins.2⟩

end Grid

end TrackGrid
