import TrackGrid.Layout
import TrackGrid.Proofs.Except
import TrackGrid.Proofs.Pixels

/-! # What measured components need -/

namespace TrackGrid

open Pixels

/-! ## Extents -/

namespace Extent

/-- All three extents are numbers of pixels. -/
def InRange (extent : Extent) : Prop := ∀ basis, Pixels.InRange (extent.get basis)

theorem ext_get {a b : Extent} (h : ∀ basis, a.get basis = b.get basis) : a = b := by
  cases a
  cases b
  cases h .minimum
  cases h .preferred
  cases h .default
  rfl

theorem ext_map_get {a b : Option Extent}
    (h : ∀ basis, a.map (·.get basis) = b.map (·.get basis)) : a = b := by
  cases a with
  | none => exact (Option.map_eq_none_iff.1 (h .minimum).symm).symm
  | some extent =>
    cases b with
    | none => cases h .minimum
    | some other => exact congrArg some (ext_get fun basis => Option.some.inj (h basis))

theorem get_map (f : Int → Int) (extent : Extent) (basis : Basis) :
    (extent.map f).get basis = f (extent.get basis) := by
  cases basis <;> rfl

theorem get_max (a b : Extent) (basis : Basis) :
    (a.max b).get basis = Max.max (a.get basis) (b.get basis) := by
  cases basis <;> rfl

theorem get_foldl_max (extents : List Extent) (start : Extent) (basis : Basis) :
    (extents.foldl .max start).get basis =
      (extents.map (·.get basis)).foldl Max.max (start.get basis) := by
  induction extents generalizing start with
  | nil => rfl
  | cons extent extents ih => rw [List.foldl_cons, ih, get_max, List.map_cons, List.foldl_cons]

end Extent

/-! ## Size groups -/

namespace Component

variable {axis : Axis} {components : List Component} {component : Component} {P : Extent → Prop}

/-- What holds of the measured extents, and of the larger of two that it holds of, holds of the
extents that size groups share. -/
theorem sharedExtent_of_max (hmax : ∀ a b, P a → P b → P (a.max b))
    (h : ∀ component ∈ components, P (component.extents.along axis)) (hc : component ∈ components) :
    P (component.sharedExtent axis components) := by
  rw [sharedExtent]
  cases component.cell.sizeGroup.along axis with
  | none => exact h component hc
  | some group =>
    have hmembers : ∀ extent ∈ (components.filter (·.cell.sizeGroup.along axis = some group)).map
        (·.extents.along axis), P extent := by
      intro extent hextent
      obtain ⟨member, hmember, rfl⟩ := List.mem_map.1 hextent
      exact h member (List.mem_filter.1 hmember).1
    simp only [Option.bind_some, groupExtent?]
    split
    · exact h component hc
    · rename_i extent rest he
      rw [he] at hmembers
      have hfold (start : Extent) (hs : P start) (hr : ∀ extent ∈ rest, P extent) :
          P (rest.foldl .max start) := by
        clear he hmembers
        induction rest generalizing start with
        | nil => exact hs
        | cons next rest ih =>
          exact ih (start.max next) (hmax _ _ hs (hr next List.mem_cons_self))
            fun extent hextent => hr extent (List.mem_cons_of_mem _ hextent)
      exact hfold extent (hmembers extent List.mem_cons_self)
        fun other hother => hmembers other (List.mem_cons_of_mem _ hother)

theorem map_get_groupExtent? (axis : Axis) (group : Nat) (components : List Component)
    (basis : Basis) :
    (groupExtent? axis group components).map (·.get basis) =
      (((components.filter (·.cell.sizeGroup.along axis = some group)).map
        (·.extents.along axis)).map (·.get basis)).max? := by
  simp only [groupExtent?]
  split
  · rename_i he
    rw [he]
    rfl
  · rename_i extent rest he
    rw [he, Option.map_some, Extent.get_foldl_max, List.map_cons, List.max?_cons']

section

variable {group : Nat} (hc : component ∈ components)
  (hgroup : component.cell.sizeGroup.along axis = some group) (basis : Basis)

include hc hgroup

theorem max?_group :
    (((components.filter (·.cell.sizeGroup.along axis = some group)).map
      (·.extents.along axis)).map (·.get basis)).max? =
        some ((component.sharedExtent axis components).get basis) := by
  have hlargest := map_get_groupExtent? axis group components basis
  rw [sharedExtent, hgroup, Option.bind_some]
  cases hshared : groupExtent? axis group components with
  | none =>
    rw [hshared, Option.map_none, eq_comm, List.max?_eq_none_iff, List.map_eq_nil_iff,
      List.map_eq_nil_iff, List.filter_eq_nil_iff] at hlargest
    exact absurd (decide_eq_true hgroup) (hlargest component hc)
  | some shared => rw [← hlargest, hshared, Option.map_some, Option.getD_some]

theorem get_le_sharedExtent_of_group {member : Component} (hmember : member ∈ components)
    (hshared : member.cell.sizeGroup.along axis = some group) :
    (member.extents.along axis).get basis ≤
      (component.sharedExtent axis components).get basis := by
  apply (List.max?_eq_some_iff.1 (max?_group hc hgroup basis)).2
  rw [List.map_map]
  exact List.mem_map_of_mem (List.mem_filter.2 ⟨hmember, decide_eq_true hshared⟩)

theorem exists_get_eq_sharedExtent :
    ∃ member ∈ components, member.cell.sizeGroup.along axis = some group ∧
      (member.extents.along axis).get basis =
        (component.sharedExtent axis components).get basis := by
  have hmem := (List.max?_eq_some_iff.1 (max?_group hc hgroup basis)).1
  rw [List.map_map] at hmem
  obtain ⟨member, hmember, he⟩ := List.mem_map.1 hmem
  obtain ⟨hmember, hshared⟩ := List.mem_filter.1 hmember
  exact ⟨member, hmember, of_decide_eq_true hshared, he⟩

end

theorem sharedExtent_of_none (h : component.cell.sizeGroup.along axis = none) :
    component.sharedExtent axis components = component.extents.along axis := by
  rw [sharedExtent, h, Option.bind_none, Option.getD_none]

theorem get_le_sharedExtent (hc : component ∈ components) (basis : Basis) :
    (component.extents.along axis).get basis ≤
      (component.sharedExtent axis components).get basis := by
  cases hgroup : component.cell.sizeGroup.along axis with
  | none => rw [sharedExtent_of_none hgroup]
  | some group => exact get_le_sharedExtent_of_group hc hgroup basis hc hgroup

end Component

/-! ## Measuring -/

namespace Grid

variable {grid : Grid} {measure : Measure} {keys : List String} {components : List Component}

theorem component_eq_ok_iff {key : String} {component : Component} :
    grid.component measure key = .ok component ↔
      ∃ cell, grid.cells.get? key = some cell ∧ component = ⟨key, cell, measure key⟩ := by
  rw [Grid.component]
  split
  · rename_i cell hcell
    simp [hcell, eq_comm]
  · rename_i hcell
    simp [hcell]

theorem components_eq_ok_iff :
    grid.components measure keys = .ok components ↔
      ∃ measured, keys.mapM (grid.component measure) = .ok measured ∧
        (∀ component ∈ measured, component.cell.checkFits grid.counts = .ok ()) ∧
        components = Component.shareExtents measured := by
  rw [Grid.components, bind_eq_ok_iff]
  refine exists_congr fun measured => and_congr_right fun _ => ?_
  rw [check_bind_eq_ok_iff, forM_eq_ok_iff, pure_eq_ok, Except.ok.injEq, @eq_comm _ components]
  simp only [mapError_eq_ok_iff, Component.shareExtents, List.forall_mem_map]

theorem exists_measured (h : grid.components measure keys = .ok components) :
    ∃ measured, components = Component.shareExtents measured ∧
      ∀ component ∈ measured, component.key ∈ keys ∧
        grid.cells.get? component.key = some component.cell ∧
        component.extents = measure component.key := by
  obtain ⟨measured, hmeasured, -, rfl⟩ := components_eq_ok_iff.1 h
  refine ⟨measured, rfl, ?_⟩
  intro component hc
  obtain ⟨key, hkey, he⟩ := exists_of_mem_mapM hmeasured hc
  obtain ⟨cell, hcell, rfl⟩ := component_eq_ok_iff.1 he
  exact ⟨hkey, hcell, rfl⟩

theorem extents_of_max {P : Extent → Prop} (h : grid.components measure keys = .ok components)
    (hmax : ∀ a b, P a → P b → P (a.max b)) {axis : Axis}
    (hm : ∀ key ∈ keys, P ((measure key).along axis)) {component : Component}
    (hc : component ∈ components) : P (component.extents.along axis) := by
  obtain ⟨measured, rfl, hmeasured⟩ := exists_measured h
  obtain ⟨old, hold, rfl⟩ := List.mem_map.1 hc
  rw [PerAxis.along_ofFn]
  apply Component.sharedExtent_of_max hmax _ hold
  intro other hother
  obtain ⟨hkey, -, he⟩ := hmeasured other hother
  rw [he]
  exact hm other.key hkey

theorem key_mem_of_mem (h : grid.components measure keys = .ok components)
    {component : Component} (hc : component ∈ components) :
    component.key ∈ keys ∧ grid.cells.get? component.key = some component.cell := by
  obtain ⟨measured, rfl, hmeasured⟩ := exists_measured h
  obtain ⟨old, hold, rfl⟩ := List.mem_map.1 hc
  obtain ⟨hkey, hcell, -⟩ := hmeasured old hold
  exact ⟨hkey, hcell⟩

theorem exists_component_of_mem (h : grid.components measure keys = .ok components) {key : String}
    (hkey : key ∈ keys) : ∃ component ∈ components, component.key = key := by
  obtain ⟨measured, hmeasured, -, rfl⟩ := components_eq_ok_iff.1 h
  obtain ⟨component, hmem, hc⟩ := exists_mem_of_mapM hmeasured hkey
  obtain ⟨cell, -, rfl⟩ := component_eq_ok_iff.1 hc
  exact ⟨_, List.mem_map_of_mem hmem, rfl⟩

theorem get_measure_le (h : grid.components measure keys = .ok components)
    {component : Component} (hc : component ∈ components) (axis : Axis) (basis : Basis) :
    ((measure component.key).along axis).get basis ≤
      (component.extents.along axis).get basis := by
  obtain ⟨measured, rfl, hmeasured⟩ := exists_measured h
  obtain ⟨old, hold, rfl⟩ := List.mem_map.1 hc
  obtain ⟨-, -, he⟩ := hmeasured old hold
  rw [PerAxis.along_ofFn, ← he]
  exact Component.get_le_sharedExtent hold basis

theorem extents_nonneg (h : grid.components measure keys = .ok components) {axis : Axis}
    (hm : ∀ key ∈ keys, ∀ basis, 0 ≤ ((measure key).along axis).get basis) {component : Component}
    (hc : component ∈ components) (basis : Basis) :
    0 ≤ (component.extents.along axis).get basis := by
  obtain ⟨hkey, -⟩ := key_mem_of_mem h hc
  exact (hm component.key hkey basis).trans (get_measure_le h hc axis basis)

theorem eq_of_key_eq (h : grid.components measure keys = .ok components)
    {component other : Component} (hc : component ∈ components) (ho : other ∈ components)
    (hkey : component.key = other.key) : component = other := by
  obtain ⟨measured, rfl, hmeasured⟩ := exists_measured h
  obtain ⟨old, hold, rfl⟩ := List.mem_map.1 hc
  obtain ⟨old', hold', rfl⟩ := List.mem_map.1 ho
  obtain ⟨-, hcell, he⟩ := hmeasured old hold
  obtain ⟨-, hcell', he'⟩ := hmeasured old' hold'
  have hsame : old.key = old'.key := hkey
  rw [hsame, hcell', Option.some.injEq] at hcell
  rw [hsame, ← he'] at he
  have heq : old = old' := by
    cases old
    cases old'
    cases hsame
    cases hcell
    cases he
    rfl
  rw [heq]

end Grid

/-! ## Insets -/

namespace Component

theorem inRange_outerExtent (component : Component) (axis : Axis) :
    (component.outerExtent axis).InRange := by
  intro basis
  cases basis <;> exact plus_inRange ..

theorem minimum_le_default_outerExtent {component : Component} {axis : Axis}
    (h : (component.extents.along axis).minimum ≤ (component.extents.along axis).default) :
    (component.outerExtent axis).minimum ≤ (component.outerExtent axis).default :=
  clamp_mono (Int.add_le_add_right h _)

end Component

/-! ## What is not negative -/

/-- Neither what the component needs along an axis nor the space around it is negative. -/
structure Component.NonnegAlong (component : Component) (axis : Axis) : Prop where
  extents : ∀ basis, 0 ≤ (component.extents.along axis).get basis
  insets : 0 ≤ component.cell.insets.along axis

/-- Neither the space around the listed components nor the border is negative along an axis. -/
structure Grid.NonnegSpace (grid : Grid) (axis : Axis) (keys : List String) (options : Options) :
    Prop where
  insets : ∀ key ∈ keys, ∀ cell ∈ grid.cells.get? key, 0 ≤ cell.insets.along axis
  border : 0 ≤ options.border.along axis

/-- Nothing that the size of the form along an axis depends on is negative. -/
structure Grid.NonnegListed (grid : Grid) (axis : Axis) (keys : List String) (measure : Measure)
    (options : Options) : Prop extends grid.NonnegSpace axis keys options where
  measures : ∀ key ∈ keys, ∀ basis, 0 ≤ ((measure key).along axis).get basis
  constants : ∀ track ∈ grid.tracks.along axis, ∀ length ∈ track.size.lengths,
    0 ≤ length.toPixels axis options.metrics

/-- In addition, no component needs more than it prefers or than its default extent. -/
structure Grid.RegularListed (grid : Grid) (axis : Axis) (keys : List String) (measure : Measure)
    (options : Options) : Prop extends grid.NonnegListed axis keys measure options where
  ordered : ∀ key ∈ keys,
    ((measure key).along axis).minimum ≤ ((measure key).along axis).preferred ∧
      ((measure key).along axis).minimum ≤ ((measure key).along axis).default

section

variable {grid : Grid} {axis : Axis} {keys : List String} {measure : Measure} {options : Options}
  {components : List Component} {component : Component}

theorem Grid.NonnegSpace.insets_nonneg (h : grid.NonnegSpace axis keys options)
    (hc : grid.components measure keys = .ok components) (hmem : component ∈ components) :
    0 ≤ component.cell.insets.along axis := by
  obtain ⟨hkey, hcell⟩ := key_mem_of_mem hc hmem
  exact h.insets component.key hkey component.cell hcell

theorem Grid.NonnegListed.nonnegAlong (h : grid.NonnegListed axis keys measure options)
    (hc : grid.components measure keys = .ok components) (hmem : component ∈ components) :
    component.NonnegAlong axis where
  extents := extents_nonneg hc h.measures hmem
  insets := h.insets_nonneg hc hmem

theorem Component.NonnegAlong.outerExtent_nonneg (h : component.NonnegAlong axis) (basis : Basis) :
    0 ≤ (component.outerExtent axis).get basis := by
  rw [outerExtent, Extent.get_map]
  exact clamp_nonneg_iff.2 (Int.add_nonneg (h.extents basis) h.insets)

end

end TrackGrid
