import TrackGrid.Layout.Needs
import TrackGrid.Proofs.Pixels

/-! # Tracks of one size

Each track of a group gets the largest of the sizes of the group. No track is in two groups, so the
groups do not disturb each other.
-/

namespace TrackGrid

variable {sizes others : List Int} {group : List Nat} {groups : List (List Nat)} {i index : Nat}

/-! ## The largest size of a group -/

def largestOf (sizes : List Int) (group : List Nat) : Int :=
  ((group.map fun index => sizes.getD (index - 1) 0).max?).getD 0

theorem le_largestOf (h : index ∈ group) : sizes.getD (index - 1) 0 ≤ largestOf sizes group :=
  Pixels.le_max_getD (List.mem_map_of_mem h)

theorem exists_largestOf (h : index ∈ group) :
    ∃ member ∈ group, largestOf sizes group = sizes.getD (member - 1) 0 := by
  have hmem : largestOf sizes group ∈ group.map fun index => sizes.getD (index - 1) 0 :=
    Pixels.max_getD_mem (List.mem_map_of_mem h)
  obtain ⟨member, hmember, he⟩ := List.mem_map.1 hmem
  exact ⟨member, hmember, he.symm⟩

theorem largestOf_congr
    (h : ∀ index ∈ group, sizes.getD (index - 1) 0 = others.getD (index - 1) 0) :
    largestOf sizes group = largestOf others group := by
  rw [largestOf, largestOf, List.map_congr_left h]

/-! ## One group -/

theorem getD_equalizeGroup_of_mem (h : i + 1 ∈ group) (hi : i < sizes.length) :
    (equalizeGroup sizes group).getD i 0 = largestOf sizes group := by
  simp only [equalizeGroup, List.getD_eq_getElem?_getD, List.getElem?_mapIdx,
    List.getElem?_eq_getElem hi, Option.map_some, Option.getD_some, if_pos h]
  rfl

theorem getD_equalizeGroup_of_not_mem (h : i + 1 ∉ group) :
    (equalizeGroup sizes group).getD i 0 = sizes.getD i 0 := by
  simp only [equalizeGroup, List.getD_eq_getElem?_getD, List.getElem?_mapIdx, if_neg h]
  cases sizes[i]? <;> rfl

/-! ## All groups -/

theorem equalize_cons :
    equalize (group :: groups) sizes = equalize groups (equalizeGroup sizes group) := rfl

theorem getD_equalize_of_not_mem (h : i + 1 ∉ groups.flatten) :
    (equalize groups sizes).getD i 0 = sizes.getD i 0 := by
  induction groups generalizing sizes with
  | nil => rfl
  | cons group groups ih =>
    rw [List.flatten_cons, List.mem_append, not_or] at h
    rw [equalize_cons, ih h.2, getD_equalizeGroup_of_not_mem h.1]

theorem getD_equalize_of_mem (hnodup : groups.flatten.Nodup)
    (hpos : ∀ member ∈ groups.flatten, 1 ≤ member) (hgroup : group ∈ groups) (h : i + 1 ∈ group)
    (hi : i < sizes.length) : (equalize groups sizes).getD i 0 = largestOf sizes group := by
  induction groups generalizing sizes with
  | nil => cases hgroup
  | cons first groups ih =>
    rw [List.flatten_cons, List.nodup_append] at hnodup
    obtain ⟨-, hrest, hdisjoint⟩ := hnodup
    rw [List.flatten_cons] at hpos
    rw [equalize_cons]
    rcases List.mem_cons.1 hgroup with rfl | hgroup
    · have hnot : i + 1 ∉ groups.flatten := fun hmem => hdisjoint _ h _ hmem rfl
      rw [getD_equalize_of_not_mem hnot, getD_equalizeGroup_of_mem h hi]
    · rw [ih hrest (fun member hm => hpos member (List.mem_append_right _ hm)) hgroup
        (by rwa [length_equalizeGroup])]
      -- The first group leaves the members of the other groups alone.
      apply largestOf_congr
      intro index hindex
      have hflat : index ∈ groups.flatten := List.mem_flatten.2 ⟨group, hgroup, hindex⟩
      have hone := hpos index (List.mem_append_right _ hflat)
      apply getD_equalizeGroup_of_not_mem
      rw [Nat.sub_add_cancel hone]
      exact fun hmem => hdisjoint _ hmem _ hflat rfl

theorem getD_equalize_of_forall {P : Int → Prop} (h : ∀ i, P (sizes.getD i 0)) (i : Nat) :
    P ((equalize groups sizes).getD i 0) := by
  induction groups generalizing sizes with
  | nil => exact h i
  | cons group groups ih =>
    apply ih
    intro i
    by_cases hmem : i + 1 ∈ group
    · rcases Nat.lt_or_ge i sizes.length with hi | hi
      · obtain ⟨member, -, he⟩ := @exists_largestOf sizes group _ hmem
        rw [getD_equalizeGroup_of_mem hmem hi, he]
        exact h (member - 1)
      · rw [List.getD_eq_default _ _ (by rwa [length_equalizeGroup]),
          ← List.getD_eq_default sizes 0 hi]
        exact h i
    · rw [getD_equalizeGroup_of_not_mem hmem]
      exact h i

/-! ## Cutting off at the end -/

theorem largestOf_map_clamp (sizes : List Int) (group : List Nat) :
    largestOf (sizes.map Pixels.clamp) group = Pixels.clamp (largestOf sizes group) := by
  have hget (index : Nat) : (sizes.map Pixels.clamp).getD (index - 1) 0 =
      Pixels.clamp (sizes.getD (index - 1) 0) := List.getD_map sizes 0 Pixels.clamp
  rw [largestOf, largestOf, ← Pixels.max_getD_map_clamp, List.map_map]
  simp only [hget, Function.comp_def]

theorem equalize_map_clamp (groups : List (List Nat)) (sizes : List Int) :
    equalize groups (sizes.map Pixels.clamp) = (equalize groups sizes).map Pixels.clamp := by
  induction groups generalizing sizes with
  | nil => rfl
  | cons group groups ih =>
    have hgroup : equalizeGroup (sizes.map Pixels.clamp) group =
        (equalizeGroup sizes group).map Pixels.clamp := by
      apply List.ext_getElem?
      intro i
      have hlargest := largestOf_map_clamp sizes group
      rw [largestOf] at hlargest
      simp only [equalizeGroup, hlargest, List.getElem?_mapIdx, List.getElem?_map, Option.map_map,
        Function.comp_def]
      split <;> rfl
    rw [equalize_cons, equalize_cons, hgroup, ih]

/-! ## Order -/

theorem getD_le_getD_equalizeGroup (sizes : List Int) (group : List Nat) (i : Nat) :
    sizes.getD i 0 ≤ (equalizeGroup sizes group).getD i 0 := by
  by_cases h : i + 1 ∈ group
  · rcases Nat.lt_or_ge i sizes.length with hi | hi
    · rw [getD_equalizeGroup_of_mem h hi]
      exact le_largestOf h
    · rw [List.getD_eq_default _ _ hi, List.getD_eq_default _ _ (by rwa [length_equalizeGroup])]
  · exact (getD_equalizeGroup_of_not_mem h).ge

theorem getD_le_getD_equalize (groups : List (List Nat)) (sizes : List Int) (i : Nat) :
    sizes.getD i 0 ≤ (equalize groups sizes).getD i 0 := by
  induction groups generalizing sizes with
  | nil => exact Int.le_refl _
  | cons group groups ih => exact Int.le_trans (getD_le_getD_equalizeGroup sizes group i) (ih _)

theorem largestOf_le_largestOf (h : ∀ i, sizes.getD i 0 ≤ others.getD i 0) (hmem : index ∈ group) :
    largestOf sizes group ≤ largestOf others group := by
  obtain ⟨member, hmember, he⟩ := exists_largestOf hmem
  rw [he]
  exact Int.le_trans (h (member - 1)) (le_largestOf hmember)

theorem getD_equalizeGroup_le (hlen : sizes.length = others.length)
    (h : ∀ i, sizes.getD i 0 ≤ others.getD i 0) (group : List Nat) (i : Nat) :
    (equalizeGroup sizes group).getD i 0 ≤ (equalizeGroup others group).getD i 0 := by
  by_cases hmem : i + 1 ∈ group
  · rcases Nat.lt_or_ge i sizes.length with hi | hi
    · rw [getD_equalizeGroup_of_mem hmem hi, getD_equalizeGroup_of_mem hmem (by omega)]
      exact largestOf_le_largestOf h hmem
    · rw [List.getD_eq_default _ _ (by rwa [length_equalizeGroup]),
        List.getD_eq_default _ _ (by rw [length_equalizeGroup]; omega)]
  · rw [getD_equalizeGroup_of_not_mem hmem, getD_equalizeGroup_of_not_mem hmem]
    exact h i

theorem getD_equalize_le (hlen : sizes.length = others.length)
    (h : ∀ i, sizes.getD i 0 ≤ others.getD i 0) (groups : List (List Nat)) (i : Nat) :
    (equalize groups sizes).getD i 0 ≤ (equalize groups others).getD i 0 := by
  induction groups generalizing sizes others with
  | nil => exact h i
  | cons group groups ih =>
    exact ih (by rw [length_equalizeGroup, length_equalizeGroup, hlen])
      (getD_equalizeGroup_le hlen h group)

/-! ## Groups of a grid in order -/

/-- Every member is the number of one of `count` tracks, and none is listed twice. -/
structure GroupsWithin (groups : List (List Nat)) (count : Nat) : Prop where
  members : ∀ member ∈ groups.flatten, 1 ≤ member ∧ member ≤ count
  nodup : groups.flatten.Nodup

/-- The members of each group have one size. -/
def Uniform (groups : List (List Nat)) (sizes : List Int) : Prop :=
  ∀ group ∈ groups, ∀ index ∈ group, ∀ other ∈ group,
    sizes.getD (index - 1) 0 = sizes.getD (other - 1) 0

namespace GroupsWithin

variable {count : Nat}

theorem getD_equalize (h : GroupsWithin groups sizes.length) (hgroup : group ∈ groups)
    (hmem : index ∈ group) :
    (equalize groups sizes).getD (index - 1) 0 = largestOf sizes group := by
  obtain ⟨hpos, hle⟩ := h.members index (List.mem_flatten.2 ⟨group, hgroup, hmem⟩)
  apply getD_equalize_of_mem h.nodup (fun member hm => (h.members member hm).1) hgroup _ (by omega)
  rwa [Nat.sub_add_cancel hpos]

theorem uniform_equalize (h : GroupsWithin groups sizes.length) :
    Uniform groups (equalize groups sizes) := by
  intro group hgroup index hindex other hother
  rw [h.getD_equalize hgroup hindex, h.getD_equalize hgroup hother]

theorem getD_equalize_of_common (h : GroupsWithin groups sizes.length) (hgroup : group ∈ groups)
    (hmem : i + 1 ∈ group) (hcommon : ∀ index ∈ group, sizes.getD (index - 1) 0 = sizes.getD i 0) :
    (equalize groups sizes).getD i 0 = sizes.getD i 0 := by
  have hi := h.getD_equalize hgroup hmem
  obtain ⟨member, hmember, he⟩ := @exists_largestOf sizes group _ hmem
  rw [Nat.add_sub_cancel] at hi
  rw [hi, he, hcommon member hmember]

theorem getD_equalize_of_uniform (h : GroupsWithin groups sizes.length) (hu : Uniform groups sizes)
    (i : Nat) : (equalize groups sizes).getD i 0 = sizes.getD i 0 := by
  by_cases hmem : i + 1 ∈ groups.flatten
  · obtain ⟨group, hgroup, hi⟩ := List.mem_flatten.1 hmem
    exact h.getD_equalize_of_common hgroup hi fun index hindex =>
      hu group hgroup index hindex (i + 1) hi
  · exact getD_equalize_of_not_mem hmem

end GroupsWithin

end TrackGrid
