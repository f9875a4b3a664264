import TrackGrid.Proofs.Layout.Anchored

/-! # Size groups along one axis after the other

The extents of size groups can be shared in two loops for each axis. The first one enters the
components into a table, which has the largest extents of every group so far. The second one writes
the entries of this table to the members. The running program takes the largest extents from the
list itself, on both axes at once.

Main statement: `Grid.share_of_measured`.
-/

namespace TrackGrid

/-! ## The two loops -/

namespace SizeGroups

/-- The largest extents so far, by the number of the size group. -/
abbrev Maxima := List (Nat × Extent)

def largest? (group : Nat) (maxima : Maxima) : Option Extent :=
  (maxima.find? (·.1 = group)).map (·.2)

/-- Enters the extent of one more member of a group. -/
def enter (group : Nat) (extent : Extent) : Maxima → Maxima
  | [] => [(group, extent)]
  | (other, largest) :: maxima =>
    if other = group then (other, largest.max extent) :: maxima
    else (other, largest) :: enter group extent maxima

def enterMember (axis : Axis) (maxima : Maxima) (component : Component) : Maxima :=
  match component.cell.sizeGroup.along axis with
  | some group => enter group (component.extents.along axis) maxima
  | none => maxima

def maxima (axis : Axis) (components : List Component) : Maxima :=
  components.foldl (enterMember axis) []

/-- Writes the largest extents of its group to a component. -/
def write (axis : Axis) (maxima : Maxima) (component : Component) : Component :=
  match (component.cell.sizeGroup.along axis).bind (largest? · maxima) with
  | some largest => { component with extents := component.extents.set axis largest }
  | none => component

def shareAlong (axis : Axis) (components : List Component) : List Component :=
  let maxima := maxima axis components
  if maxima.isEmpty then components else components.map (write axis maxima)

def share (components : List Component) : List Component :=
  [Axis.horizontal, Axis.vertical].foldl (fun components axis => shareAlong axis components)
    components

/-! ## The first loop -/

variable {axis other : Axis} {components : List Component}

theorem largest?_cons (group : Nat) (entry : Nat × Extent) (maxima : Maxima) :
    largest? group (entry :: maxima) =
      if entry.1 = group then some entry.2 else largest? group maxima := by
  unfold largest?
  rw [List.find?_cons]
  by_cases h : entry.1 = group <;> simp [h]

theorem largest?_enter (group number : Nat) (extent : Extent) (maxima : Maxima) :
    largest? number (enter group extent maxima) =
      if group = number then some ((largest? group maxima).elim extent (·.max extent))
      else largest? number maxima := by
  induction maxima with
  | nil => rw [enter, largest?_cons]; rfl
  | cons entry maxima ih =>
    rw [enter]
    split
    · rename_i hentry
      simp only [largest?_cons, hentry, if_true, Option.elim_some]
      split <;> rfl
    · rename_i hentry
      simp only [largest?_cons, hentry, if_false, ih]
      by_cases hnumber : group = number
      · subst hnumber
        simp [hentry]
      · simp [hnumber]

theorem groupExtent?_concat (axis : Axis) (group : Nat) (components : List Component)
    (component : Component) :
    Component.groupExtent? axis group (components ++ [component]) =
      if component.cell.sizeGroup.along axis = some group then
        some ((Component.groupExtent? axis group components).elim (component.extents.along axis)
          (·.max (component.extents.along axis)))
      else Component.groupExtent? axis group components := by
  unfold Component.groupExtent?
  rw [List.filter_append, List.filter_singleton]
  by_cases hgroup : component.cell.sizeGroup.along axis = some group
  · simp only [hgroup, decide_true, if_true, List.map_append]
    cases (components.filter (·.cell.sizeGroup.along axis = some group)).map
      (·.extents.along axis) with
    | nil => rfl
    | cons first rest => simp [List.foldl_append]
  · simp [hgroup]

theorem largest?_maxima (axis : Axis) (group : Nat) (components : List Component) :
    largest? group (maxima axis components) = Component.groupExtent? axis group components := by
  induction components using List.reverseRecOn generalizing group with
  | nil => rfl
  | append_singleton components component ih =>
    rw [groupExtent?_concat, maxima, List.foldl_concat, ← maxima, enterMember]
    cases hgroup : component.cell.sizeGroup.along axis with
    | none => rw [if_neg (by simp), ih]
    | some number =>
      rw [largest?_enter, ih, ih]
      simp only [Option.some.injEq]
      split
      · rename_i hnumber
        rw [hnumber]
      · rfl

/-! ## The second loop -/

/-- The component with what its group needs along one axis. -/
def shared (axis : Axis) (components : List Component) (component : Component) : Component :=
  { component with
    extents := component.extents.set axis (component.sharedExtent axis components) }

theorem along_shared (axis : Axis) (components : List Component) (component : Component) :
    (shared axis components component).extents.along axis =
      component.sharedExtent axis components := PerAxis.along_set_self ..

theorem along_shared_of_ne (h : other ≠ axis) (components : List Component)
    (component : Component) :
    (shared axis components component).extents.along other = component.extents.along other :=
  PerAxis.along_set_of_ne component.extents _ h

theorem shared_eq_self {component : Component}
    (h : component.sharedExtent axis components = component.extents.along axis) :
    shared axis components component = component := by
  rw [shared, h, PerAxis.set_along_self]

theorem map_shared_eq_self
    (h : ∀ component ∈ components,
      component.sharedExtent axis components = component.extents.along axis) :
    components.map (shared axis components) = components := by
  rw [List.map_congr_left fun component hc => shared_eq_self (h component hc), List.map_id']

theorem write_maxima (axis : Axis) (components : List Component) (component : Component) :
    write axis (maxima axis components) component = shared axis components component := by
  unfold write
  simp only [largest?_maxima]
  split
  · rename_i largest hlargest
    rw [shared, Component.sharedExtent, hlargest, Option.getD_some]
  · rename_i hnone
    rw [shared_eq_self (by rw [Component.sharedExtent, hnone, Option.getD_none])]

theorem shareAlong_eq (axis : Axis) (components : List Component) :
    shareAlong axis components = components.map (shared axis components) := by
  unfold shareAlong
  simp only [funext (write_maxima axis components)]
  split
  · rename_i hempty
    have hnone (group : Nat) : Component.groupExtent? axis group components = none := by
      rw [← largest?_maxima, List.isEmpty_iff.1 hempty]
      rfl
    rw [map_shared_eq_self]
    intro component _
    simp [Component.sharedExtent, hnone]
  · rfl

/-! ## One axis and the other -/

theorem map_extents_shareAlong_of_ne (h : other ≠ axis) (components : List Component) :
    (shareAlong axis components).map (·.extents.along other) =
      components.map (·.extents.along other) := by
  rw [shareAlong_eq, List.map_map]
  apply List.map_congr_left
  intro component _
  exact along_shared_of_ne h components component

theorem members_shareAlong (group : Nat) (axis : Axis) (components : List Component) :
    (shareAlong axis components).filter (·.cell.sizeGroup.along other = some group) =
      (components.filter (·.cell.sizeGroup.along other = some group)).map
        (shared axis components) := by
  rw [shareAlong_eq, List.filter_map]
  rfl

theorem groupExtent?_shareAlong_of_ne (h : other ≠ axis) (group : Nat)
    (components : List Component) :
    Component.groupExtent? other group (shareAlong axis components) =
      Component.groupExtent? other group components := by
  unfold Component.groupExtent?
  simp only [members_shareAlong, List.map_map, Function.comp_def, along_shared_of_ne h]

theorem sharedExtent_shareAlong_of_ne (h : other ≠ axis) (components : List Component)
    (component : Component) :
    (shared axis components component).sharedExtent other (shareAlong axis components) =
      component.sharedExtent other components := by
  simp only [Component.sharedExtent, groupExtent?_shareAlong_of_ne h, along_shared_of_ne h]
  rfl

/-- In either order, both axes together are what the running program does at once. -/
theorem shareAlong_shareAlong_of_ne (h : other ≠ axis) (components : List Component) :
    shareAlong other (shareAlong axis components) = Component.shareExtents components := by
  rw [shareAlong_eq other, shareAlong_eq axis, List.map_map, ← shareAlong_eq axis]
  apply List.map_congr_left
  intro component _
  have hextents : (shared other (shareAlong axis components)
      (shared axis components component)).extents =
        .ofFn fun axis => component.sharedExtent axis components := by
    apply PerAxis.ext_along
    intro along
    rw [PerAxis.along_ofFn]
    by_cases hother : along = other
    · rw [hother, along_shared, sharedExtent_shareAlong_of_ne h]
    · have haxis : along = axis := by
        cases along <;> cases axis <;> cases other <;> simp at *
      rw [along_shared_of_ne hother, haxis, along_shared]
  rw [Function.comp_apply, ← hextents]
  rfl

theorem share_eq (components : List Component) :
    share components = Component.shareExtents components :=
  shareAlong_shareAlong_of_ne (by decide) components

/-! ## Once more -/

theorem sharedExtent_eq_of_group {component member : Component} {group : Nat}
    (hc : component ∈ components) (hgroup : component.cell.sizeGroup.along axis = some group)
    (hmember : member ∈ components) (hsame : member.cell.sizeGroup.along axis = some group) :
    member.sharedExtent axis components = component.sharedExtent axis components := by
  apply Extent.ext_get
  intro basis
  have hlargest := Component.max?_group hc hgroup basis
  rw [Component.max?_group hmember hsame basis] at hlargest
  exact Option.some.inj hlargest

theorem sharedExtent_shareAlong_self {component : Component} (hc : component ∈ components) :
    (shared axis components component).sharedExtent axis (shareAlong axis components) =
      component.sharedExtent axis components := by
  cases hgroup : component.cell.sizeGroup.along axis with
  | none =>
    have hown : (shared axis components component).cell.sizeGroup.along axis = none := hgroup
    rw [Component.sharedExtent_of_none hown, along_shared]
  | some group =>
    have hmem : shared axis components component ∈ shareAlong axis components := by
      rw [shareAlong_eq]
      exact List.mem_map_of_mem hc
    apply Extent.ext_get
    intro basis
    obtain ⟨member', hmember', hsame, he⟩ :=
      Component.exists_get_eq_sharedExtent hmem hgroup basis
    rw [shareAlong_eq] at hmember'
    obtain ⟨member, hmember, rfl⟩ := List.mem_map.1 hmember'
    rw [← he, along_shared, sharedExtent_eq_of_group hc hgroup hmember hsame]

theorem shareAlong_shareAlong_self (axis : Axis) (components : List Component) :
    shareAlong axis (shareAlong axis components) = shareAlong axis components := by
  rw [shareAlong_eq axis (shareAlong axis components)]
  apply map_shared_eq_self
  intro member hmember
  rw [shareAlong_eq] at hmember
  obtain ⟨component, hc, rfl⟩ := List.mem_map.1 hmember
  rw [sharedExtent_shareAlong_self hc, along_shared]

theorem shareAlong_shareExtents (axis : Axis) (components : List Component) :
    shareAlong axis (Component.shareExtents components) = Component.shareExtents components := by
  have hother : ∃ other, axis ≠ other := by
    cases axis with
    | horizontal => exact ⟨.vertical, by decide⟩
    | vertical => exact ⟨.horizontal, by decide⟩
  obtain ⟨other, h⟩ := hother
  rw [← shareAlong_shareAlong_of_ne h, shareAlong_shareAlong_self]

theorem shareExtents_shareExtents (components : List Component) :
    Component.shareExtents (Component.shareExtents components) =
      Component.shareExtents components := by
  rw [← share_eq (Component.shareExtents components)]
  simp only [share, List.foldl_cons, List.foldl_nil, shareAlong_shareExtents]

end SizeGroups

/-! ## Measured components -/

namespace Grid

variable {grid : Grid} {keys : List String} {measure : Measure} {measured : List Component}

/-- What the listed components of a size group are measured to need. -/
def groupNeeds (grid : Grid) (axis : Axis) (group : Nat) (keys : List String) (measure : Measure)
    (basis : Basis) : Set Int :=
  {n | ∃ key ∈ keys, grid.sizeGroup? axis key = some group ∧
    ((measure key).along axis).get basis = n}

/-- The component with this key has its own cell. Along each axis it has the largest of each of the
three extents in its size group, or its own extents if it is in none. -/
structure Grouped (grid : Grid) (keys : List String) (measure : Measure) (key : String)
    (component : Component) : Prop where
  key_eq : component.key = key
  cell : grid.cells.get? key = some component.cell
  member : ∀ axis group, component.cell.sizeGroup.along axis = some group → ∀ basis,
    IsGreatest (grid.groupNeeds axis group keys measure basis)
      ((component.extents.along axis).get basis)
  single : ∀ axis, component.cell.sizeGroup.along axis = none →
    component.extents.along axis = (measure key).along axis

theorem isGreatest_groupNeeds (h : keys.mapM (grid.component measure) = .ok measured)
    {component : Component} (hmem : component ∈ measured) {axis : Axis} {group : Nat}
    (hgroup : component.cell.sizeGroup.along axis = some group) (basis : Basis) :
    IsGreatest (grid.groupNeeds axis group keys measure basis)
      ((component.sharedExtent axis measured).get basis) := by
  constructor
  · obtain ⟨member, hmember, hsame, he⟩ :=
      Component.exists_get_eq_sharedExtent hmem hgroup basis
    obtain ⟨hkey, hnumber, hextents⟩ := sizeGroup?_of_measured h hmember
    rw [hextents] at he
    exact ⟨member.key, hkey, hnumber.trans hsame, he⟩
  · rintro n ⟨key, hkey, hnumber, rfl⟩
    obtain ⟨member, hmember, he⟩ := exists_mem_of_mapM h hkey
    obtain ⟨cell, -, rfl⟩ := component_eq_ok_iff.1 he
    obtain ⟨-, hsame, -⟩ := sizeGroup?_of_measured h hmember
    exact Component.get_le_sharedExtent_of_group hmem hgroup basis hmember (hsame.symm.trans hnumber)

theorem grouped_shareExtents (h : keys.mapM (grid.component measure) = .ok measured) :
    List.Forall₂ (grid.Grouped keys measure) keys (Component.shareExtents measured) := by
  rw [Component.shareExtents, List.forall₂_map_right_iff]
  apply forall₂_mapM h
  intro key hkey component hcomponent
  have hmem : component ∈ measured := (mem_mapM_iff h).2 ⟨key, hkey, hcomponent⟩
  obtain ⟨cell, hcell, rfl⟩ := component_eq_ok_iff.1 hcomponent
  constructor
  case key_eq => rfl
  case cell => exact hcell
  case member =>
    intro axis group hgroup basis
    rw [PerAxis.along_ofFn]
    exact isGreatest_groupNeeds h hmem hgroup basis
  case single =>
    intro axis hnone
    rw [PerAxis.along_ofFn]
    exact Component.sharedExtent_of_none hnone

/-- The two loops on each axis come to what the running program does at once. Components that can
be measured then have the largest extents of their size groups, and these are the components of a
layout. Each axis leaves the extents along the other axis alone, and a second run changes nothing. -/
theorem share_of_measured (h : keys.mapM (grid.component measure) = .ok measured) :
    let shared := Component.shareExtents measured
    SizeGroups.share measured = shared ∧
      (∀ components, grid.components measure keys = .ok components → components = shared) ∧
      List.Forall₂ (grid.Grouped keys measure) keys shared ∧
      (∀ (axis other : Axis), other ≠ axis → ∀ components : List Component,
        (SizeGroups.shareAlong axis components).map (·.extents.along other) =
          components.map (·.extents.along other)) ∧
      (∀ axis, SizeGroups.shareAlong axis shared = shared) ∧
      Component.shareExtents shared = shared := by
  intro shared
  refine ⟨SizeGroups.share_eq measured, fun components hc => ?_, grouped_shareExtents h,
    fun axis other hne => SizeGroups.map_extents_shareAlong_of_ne hne,
    fun axis => SizeGroups.shareAlong_shareExtents axis measured,
    SizeGroups.shareExtents_shareExtents measured⟩
  obtain ⟨others, hothers, -, rfl⟩ := components_eq_ok_iff.1 hc
  cases h.symm.trans hothers
  rfl

/-- Three buttons. The first two are as wide as each other, and the last two as high. -/
def buttons : Grid where
  tracks := ⟨.replicate 3 (.glue .horizontal), [.glue .vertical]⟩
  cells := ⟨[("ok", { start := ⟨1, 1⟩, sizeGroup := ⟨some 1, none⟩ }),
    ("cancel", { start := ⟨2, 1⟩, sizeGroup := ⟨some 1, some 1⟩ }),
    ("help", { start := ⟨3, 1⟩, sizeGroup := ⟨none, some 1⟩ })]⟩

def buttonsMeasure : Measure :=
  .ofTable ⟨[("ok", ⟨⟨-10, 80, 80⟩, ⟨5, 5, 5⟩⟩), ("cancel", ⟨⟨-20, 100, 70⟩, ⟨6, 7, 9⟩⟩),
    ("help", ⟨⟨1, 2, 3⟩, ⟨4, 8, 8⟩⟩)]⟩

/-- The button "ok" is listed twice. Its minimum and default width are its own, and its preferred
width is that of the other member; it is as high as before. -/
theorem share_of_buttons :
    ∃ measured ok, ["ok", "help", "cancel", "ok"].mapM (buttons.component buttonsMeasure) =
        .ok measured ∧
      (SizeGroups.share measured)[3]? = some ok ∧
      IsGreatest (buttons.groupNeeds .horizontal 1 ["ok", "help", "cancel", "ok"] buttonsMeasure
        .preferred) ok.extents.horizontal.preferred ∧
      ok.extents.horizontal.preferred = 100 ∧ ok.extents.vertical = ⟨5, 5, 5⟩ ∧
      Component.shareExtents (SizeGroups.share measured) = SizeGroups.share measured := by
  have hmeasured : ["ok", "help", "cancel", "ok"].mapM (buttons.component buttonsMeasure) =
      .ok _ := rfl
  obtain ⟨hloops, -, hgrouped, -, -, hagain⟩ := share_of_measured hmeasured
  rw [← hloops] at hgrouped hagain
  obtain ⟨hlen, hget⟩ := List.forall₂_iff_get.1 hgrouped
  have hok := hget 3 (by decide) (hlen ▸ by decide)
  have hcell : buttons.cells.get? "ok" =
      some { start := ⟨1, 1⟩, sizeGroup := ⟨some 1, none⟩ } := by decide +kernel
  have hgroup := congrArg (·.sizeGroup) (Option.some.inj (hcell.symm.trans hok.cell))
  have hgreatest := hok.member .horizontal 1 (by rw [← hgroup]; rfl) .preferred
  have hown := hok.single .vertical (by rw [← hgroup]; rfl)
  refine ⟨_, _, hmeasured, List.getElem?_eq_getElem (hlen ▸ by decide), hgreatest, ?_, hown, hagain⟩
  apply hgreatest.unique
  constructor
  · exact ⟨"cancel", by decide, by decide +kernel, by decide +kernel⟩
  · have hmost : ∀ key ∈ ["ok", "help", "cancel", "ok"],
        ((buttonsMeasure key).along .horizontal).preferred ≤ 100 := by decide +kernel
    rintro n ⟨key, hkey, -, rfl⟩
    exact hmost key hkey

end Grid

end TrackGrid
