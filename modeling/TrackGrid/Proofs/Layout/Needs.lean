import TrackGrid.Layout.Fit
import TrackGrid.Proofs.Grid.WellFormed
import TrackGrid.Proofs.Layout.Components
import TrackGrid.Proofs.Layout.Groups

/-! # How the needs of tracks compare

A track prefers at least its minimum, and exactly its minimum unless it is of default size. The
tracks of a group need the same.
-/

namespace TrackGrid

open Pixels

/-! ## The largest extent -/

namespace Basis

variable {basis : Basis} {members : List Extent}

theorem largest_of_forall {P : Int → Prop} (hzero : P 0)
    (h : ∀ extent ∈ members, P (extent.get basis)) : P (basis.largest members) := by
  rw [largest]
  cases members with
  | nil => exact hzero
  | cons extent members =>
    have hmem : extent.get basis ∈ (extent :: members).map (·.get basis) := List.mem_cons_self
    obtain ⟨largest, hlargest, he⟩ := List.mem_map.1 (max_getD_mem hmem)
    rw [← he]
    exact h largest hlargest

theorem largest_tight_of_ne (h : basis ≠ .default) :
    basis.largest (members.map Extent.tight) = basis.largest members := by
  have hget : (fun extent : Extent => extent.get basis) ∘ Extent.tight = (·.get basis) := by
    funext extent
    cases basis with
    | minimum => rfl
    | preferred => rfl
    | default => exact absurd rfl h
  rw [largest, largest, List.map_map, hget]

theorem largest_tight_le (h : ∀ extent ∈ members, extent.minimum ≤ extent.default) :
    basis.largest (members.map Extent.tight) ≤ basis.largest members := by
  by_cases hbasis : basis = .default
  · subst hbasis
    cases members with
    | nil => exact Int.le_refl _
    | cons extent members =>
      have hmem : extent.minimum ∈ ((extent :: members).map Extent.tight).map (·.get .default) :=
        List.mem_cons_self
      obtain ⟨tight, htight, he⟩ := List.mem_map.1 (max_getD_mem hmem)
      obtain ⟨largest, hlargest, rfl⟩ := List.mem_map.1 htight
      calc Basis.largest .default ((extent :: members).map Extent.tight)
          = largest.minimum := he.symm
        _ ≤ largest.default := h largest hlargest
        _ ≤ Basis.largest .default (extent :: members) := le_max_getD (List.mem_map_of_mem hlargest)
  · exact (largest_tight_of_ne hbasis).le

end Basis

/-! ## Pixels of a size -/

theorem Bounds.apply_mono (bounds : Bounds) (axis : Axis) (metrics : Metrics) {m n : Int}
    (h : m ≤ n) : bounds.apply axis metrics m ≤ bounds.apply axis metrics n := by
  cases bounds <;> simp only [apply] <;> omega

theorem Length.inRange_toPixels (length : Length) (axis : Axis) (metrics : Metrics) :
    InRange (length.toPixels axis metrics) := by
  rw [toPixels, Binary64.floor]
  split
  · exact inRange_zero
  · exact clamp_inRange _

namespace Size

variable {size : Size} {axis : Axis} {metrics : Metrics} {members : List Extent}

theorem toPixels_tight_le (h : ∀ extent ∈ members, extent.minimum ≤ extent.default) :
    size.toPixels axis metrics (members.map Extent.tight) ≤ size.toPixels axis metrics members := by
  cases size with
  | constant length => exact Int.le_refl _
  | component basis => exact Basis.largest_tight_le h
  | bounded basis bounds => exact bounds.apply_mono axis metrics (Basis.largest_tight_le h)

theorem toPixels_tight_of_ne (h : size.basis? ≠ some .default) :
    size.toPixels axis metrics (members.map Extent.tight) = size.toPixels axis metrics members := by
  cases size with
  | constant length => rfl
  | component basis => exact Basis.largest_tight_of_ne fun hb => h (congrArg some hb)
  | bounded basis bounds =>
    rw [toPixels, toPixels, Basis.largest_tight_of_ne fun hb => h (congrArg some hb)]

theorem inRange_toPixels (h : ∀ extent ∈ members, extent.InRange) :
    InRange (size.toPixels axis metrics members) := by
  have hlargest (basis : Basis) : InRange (basis.largest members) :=
    Basis.largest_of_forall inRange_zero fun extent hextent => h extent hextent basis
  have hlength (length : Length) := length.inRange_toPixels axis metrics
  cases size with
  | constant length => exact hlength length
  | component basis => exact hlargest basis
  | bounded basis bounds =>
    obtain ⟨hlow, hhigh⟩ := hlargest basis
    cases bounds with
    | atLeast lower =>
      obtain ⟨hlow', hhigh'⟩ := hlength lower
      constructor <;> simp only [toPixels, Bounds.apply] <;> omega
    | atMost upper =>
      obtain ⟨hlow', hhigh'⟩ := hlength upper
      constructor <;> simp only [toPixels, Bounds.apply] <;> omega
    | between lower upper =>
      obtain ⟨hlow', hhigh'⟩ := hlength lower
      obtain ⟨hlow'', hhigh''⟩ := hlength upper
      constructor <;> simp only [toPixels, Bounds.apply] <;> omega

theorem toPixels_nonneg (hlengths : ∀ length ∈ size.lengths, 0 ≤ length.toPixels axis metrics)
    (h : ∀ extent ∈ members, ∀ basis, 0 ≤ extent.get basis) :
    0 ≤ size.toPixels axis metrics members := by
  have hlargest (basis : Basis) : 0 ≤ basis.largest members :=
    Basis.largest_of_forall (Int.le_refl 0) fun extent hextent => h extent hextent basis
  cases size with
  | constant length => exact hlengths length List.mem_cons_self
  | component basis => exact hlargest basis
  | bounded basis bounds =>
    have hlow := hlargest basis
    cases bounds with
    | atLeast lower =>
      simp only [toPixels, Bounds.apply]
      omega
    | atMost upper =>
      have hupper := hlengths upper List.mem_cons_self
      simp only [toPixels, Bounds.apply]
      omega
    | between lower upper =>
      have hupper := hlengths upper (List.mem_cons_of_mem _ List.mem_cons_self)
      simp only [toPixels, Bounds.apply]
      omega

end Size

/-! ## Single tracks -/

def isElasticAt (tracks : List Track) (index : Nat) : Bool :=
  (tracks[index - 1]?).any Track.isElastic

/-- The size of each track for itself, as the components in it show `see`. -/
def Grid.ownSizes (grid : Grid) (axis : Axis) (metrics : Metrics) (components : List Component)
    (see : Extent → Extent) : List Int :=
  (grid.tracks.along axis).mapIdx fun i track =>
    track.size.toPixels axis metrics ((membersOf axis (i + 1) components).map see)

section

variable {grid : Grid} {axis : Axis} {metrics : Metrics} {components : List Component}
  {see : Extent → Extent} {i : Nat}

@[simp] theorem Grid.length_ownSizes :
    (grid.ownSizes axis metrics components see).length = grid.count axis := by
  simp [ownSizes, count]

theorem Grid.getD_ownSizes :
    (grid.ownSizes axis metrics components see).getD i 0 =
      (((grid.tracks.along axis)[i]?).map fun track =>
        track.size.toPixels axis metrics ((membersOf axis (i + 1) components).map see)).getD 0 := by
  rw [ownSizes, List.getD_eq_getElem?_getD, List.getElem?_mapIdx]

theorem Grid.needs_eq : grid.needs axis metrics components =
    ⟨equalize (grid.groups.along axis) (grid.ownSizes axis metrics components Extent.tight),
      equalize (grid.groups.along axis) (grid.ownSizes axis metrics components id)⟩ := rfl

theorem exists_of_mem_membersOf {index : Nat} {extent : Extent}
    (h : extent ∈ membersOf axis index components) :
    ∃ component ∈ components, component.outerExtent axis = extent := by
  obtain ⟨component, hc, he⟩ := List.mem_map.1 h
  exact ⟨component, (List.mem_filter.1 hc).1, he⟩

theorem Grid.ownSizes_tight_le (h : ∀ component ∈ components,
      (component.outerExtent axis).minimum ≤ (component.outerExtent axis).default) (i : Nat) :
    (grid.ownSizes axis metrics components Extent.tight).getD i 0 ≤
      (grid.ownSizes axis metrics components id).getD i 0 := by
  rw [getD_ownSizes, getD_ownSizes]
  cases (grid.tracks.along axis)[i]? with
  | none => exact Int.le_refl _
  | some track =>
    rw [List.map_id]
    apply Size.toPixels_tight_le
    intro extent hextent
    obtain ⟨component, hc, rfl⟩ := exists_of_mem_membersOf hextent
    exact h component hc

theorem Grid.ownSizes_tight_of_rigid {index : Nat}
    (h : isElasticAt (grid.tracks.along axis) index = false) :
    (grid.ownSizes axis metrics components Extent.tight).getD (index - 1) 0 =
      (grid.ownSizes axis metrics components id).getD (index - 1) 0 := by
  rw [getD_ownSizes, getD_ownSizes]
  rw [isElasticAt] at h
  cases ht : (grid.tracks.along axis)[index - 1]? with
  | none => rfl
  | some track =>
    rw [ht] at h
    rw [List.map_id]
    exact Size.toPixels_tight_of_ne (of_decide_eq_false h)

theorem Grid.inRange_ownSizes (hsee : ∀ extent : Extent, extent.InRange → (see extent).InRange)
    (i : Nat) : InRange ((grid.ownSizes axis metrics components see).getD i 0) := by
  rw [getD_ownSizes]
  cases (grid.tracks.along axis)[i]? with
  | none => exact inRange_zero
  | some track =>
    apply Size.inRange_toPixels
    intro shown hshown
    obtain ⟨extent, hextent, rfl⟩ := List.mem_map.1 hshown
    obtain ⟨component, -, rfl⟩ := exists_of_mem_membersOf hextent
    exact hsee _ (component.inRange_outerExtent axis)

theorem Extent.inRange_tight {extent : Extent} (h : extent.InRange) : extent.tight.InRange := by
  intro basis
  cases basis with
  | minimum => exact h .minimum
  | preferred => exact h .preferred
  | default => exact h .minimum

end

/-! ## Tracks in groups -/

namespace Needs

/-- The tracks of each group need the same. -/
structure Grouped (needs : Needs) (groups : List (List Nat)) : Prop where
  minimum : Uniform groups needs.minimum
  preferred : Uniform groups needs.preferred

/-- All needs are numbers of pixels. -/
structure InRange (needs : Needs) : Prop where
  minimum : ∀ i, Pixels.InRange (needs.minimum.getD i 0)
  preferred : ∀ i, Pixels.InRange (needs.preferred.getD i 0)

/-- No track prefers less than its minimum. -/
def Ordered (needs : Needs) : Prop := ∀ i, needs.minimum.getD i 0 ≤ needs.preferred.getD i 0

end Needs

/-- Some tracks of the group are of default size and some are not. -/
def isMixed (tracks : List Track) (group : List Nat) : Bool :=
  group.any (isElasticAt tracks) && group.any fun index => !isElasticAt tracks index

def inMixedGroup (tracks : List Track) (groups : List (List Nat)) (i : Nat) : Bool :=
  groups.any fun group => group.contains (i + 1) && isMixed tracks group

theorem isElasticAt_eq_of_pure {tracks : List Track} {groups : List (List Nat)} {i index : Nat}
    {group : List Nat} (hmixed : inMixedGroup tracks groups i = false) (hgroup : group ∈ groups)
    (hi : i + 1 ∈ group) (hindex : index ∈ group) :
    isElasticAt tracks index = isElasticAt tracks (i + 1) := by
  have hpure := List.any_eq_false.1 hmixed group hgroup
  rw [List.contains_iff_mem.2 hi, Bool.true_and, isMixed, Bool.and_eq_true] at hpure
  by_contra hne
  apply hpure
  rw [List.any_eq_true, List.any_eq_true]
  cases helastic : isElasticAt tracks index with
  | true =>
    rw [helastic] at hne
    exact ⟨⟨index, hindex, helastic⟩, i + 1, hi, by simpa using Ne.symm hne⟩
  | false =>
    rw [helastic] at hne
    exact ⟨⟨i + 1, hi, by simpa using Ne.symm hne⟩, index, hindex, by simp [helastic]⟩

namespace Grid

variable {grid : Grid} {axis : Axis} {components : List Component}

theorem WellFormedAlong.groupsWithin (h : grid.WellFormedAlong axis) :
    GroupsWithin (grid.groups.along axis) (grid.count axis) := ⟨h.members, h.nodup⟩

theorem WellFormedAlong.groupsWithin_ownSizes (h : grid.WellFormedAlong axis) (metrics : Metrics)
    (components : List Component) (see : Extent → Extent) :
    GroupsWithin (grid.groups.along axis) (grid.ownSizes axis metrics components see).length := by
  rw [length_ownSizes]
  exact h.groupsWithin

theorem grouped_needs (h : grid.WellFormedAlong axis) (metrics : Metrics)
    (components : List Component) :
    (grid.needs axis metrics components).Grouped (grid.groups.along axis) where
  minimum := (h.groupsWithin_ownSizes metrics components Extent.tight).uniform_equalize
  preferred := (h.groupsWithin_ownSizes metrics components id).uniform_equalize

theorem inRange_needs (grid : Grid) (axis : Axis) (metrics : Metrics)
    (components : List Component) : (grid.needs axis metrics components).InRange where
  minimum := getD_equalize_of_forall (inRange_ownSizes fun _ => Extent.inRange_tight)
  preferred := getD_equalize_of_forall (inRange_ownSizes fun _ => id)

theorem ordered_needs (metrics : Metrics) (h : ∀ component ∈ components,
      (component.outerExtent axis).minimum ≤ (component.outerExtent axis).default) :
    (grid.needs axis metrics components).Ordered :=
  getD_equalize_le (by simp) (ownSizes_tight_le h) _

/-- A rigid track prefers its minimum, unless it shares it with tracks of default size. -/
theorem preferred_eq_minimum (h : grid.WellFormedAlong axis) (metrics : Metrics)
    (components : List Component) {i : Nat}
    (hrigid : isElasticAt (grid.tracks.along axis) (i + 1) = false)
    (hmixed : inMixedGroup (grid.tracks.along axis) (grid.groups.along axis) i = false) :
    (grid.needs axis metrics components).preferred.getD i 0 =
      (grid.needs axis metrics components).minimum.getD i 0 := by
  rw [needs_eq]
  by_cases hmem : i + 1 ∈ (grid.groups.along axis).flatten
  · obtain ⟨group, hgroup, hi⟩ := List.mem_flatten.1 hmem
    have hpref := (h.groupsWithin_ownSizes metrics components id).getD_equalize hgroup hi
    have hmin := (h.groupsWithin_ownSizes metrics components Extent.tight).getD_equalize hgroup hi
    rw [Nat.add_sub_cancel] at hpref hmin
    rw [hpref, hmin]
    -- The other members of its group are rigid like the track itself.
    apply largestOf_congr
    intro index hindex
    have hother := isElasticAt_eq_of_pure hmixed hgroup hi hindex
    exact (ownSizes_tight_of_rigid (hother.trans hrigid)).symm
  · rw [getD_equalize_of_not_mem hmem, getD_equalize_of_not_mem hmem]
    exact (ownSizes_tight_of_rigid hrigid).symm

end Grid

end TrackGrid
