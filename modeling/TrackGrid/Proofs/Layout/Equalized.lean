import Mathlib.Order.Bounds.Basic
import TrackGrid.Proofs.Grid.Edit
import TrackGrid.Proofs.Layout.Groups
import TrackGrid.Proofs.Layout.Lookups

/-! # Groups in any order

The loop over the groups of an axis reads and writes one and the same list of sizes. The groups that
a grid accepts have no track in common, so no group reads what another one has written.

Main statement: `Grid.equalize_of_setGroups`.
-/

namespace TrackGrid

open Pixels

variable {groups others : List (List Nat)} {group other : List Nat} {sizes out : List Int}

/-! ## Equal sizes -/

/-- The sizes that the members of a group have. -/
def memberSizes (sizes : List Int) (group : List Nat) : Set Int :=
  {size | ∃ member ∈ group, sizes[member - 1]? = some size}

/-- Every listed track has the largest size of its group, and every other track its own size. -/
structure Equalized (groups : List (List Nat)) (sizes out : List Int) : Prop where
  listed : ∀ group ∈ groups, ∀ index ∈ group, ∃ largest,
    out[index - 1]? = some largest ∧ IsGreatest (memberSizes sizes group) largest
  unlisted : ∀ i, i + 1 ∉ groups.flatten → out[i]? = sizes[i]?

theorem Equalized.unique {out' : List Int} (h : Equalized groups sizes out)
    (h' : Equalized groups sizes out') : out = out' := by
  apply List.ext_getElem?
  intro i
  by_cases hmem : i + 1 ∈ groups.flatten
  · obtain ⟨group, hgroup, hi⟩ := List.mem_flatten.1 hmem
    obtain ⟨largest, hl, hgreatest⟩ := h.listed group hgroup (i + 1) hi
    obtain ⟨largest', hl', hgreatest'⟩ := h'.listed group hgroup (i + 1) hi
    rw [Nat.add_sub_cancel] at hl hl'
    rw [hl, hl', hgreatest.unique hgreatest']
  · rw [h.unlisted i hmem, h'.unlisted i hmem]

namespace GroupsWithin

variable (h : GroupsWithin groups sizes.length)

include h

theorem member_lt (hgroup : group ∈ groups) {index : Nat} (hindex : index ∈ group) :
    index - 1 < sizes.length := by
  obtain ⟨hpos, hle⟩ := h.members index (List.mem_flatten.2 ⟨group, hgroup, hindex⟩)
  omega

theorem isGreatest_largestOf (hgroup : group ∈ groups) {index : Nat} (hindex : index ∈ group) :
    IsGreatest (memberSizes sizes group) (largestOf sizes group) := by
  constructor
  · obtain ⟨member, hmember, he⟩ := @exists_largestOf sizes group index hindex
    rw [he]
    exact ⟨member, hmember, getElem?_eq_some_getD (h.member_lt hgroup hmember)⟩
  · rintro size ⟨member, hmember, hsize⟩
    rw [← getD_of_getElem? hsize]
    exact le_largestOf hmember

theorem equalized : Equalized groups sizes (equalize groups sizes) where
  listed group hgroup index hindex := by
    refine ⟨largestOf sizes group, ?_, h.isGreatest_largestOf hgroup hindex⟩
    have hlt := h.member_lt hgroup hindex
    rw [getElem?_eq_some_getD (by rwa [length_equalize]), h.getD_equalize hgroup hindex]
  unlisted i hi := by
    have hget := @getD_equalize_of_not_mem sizes groups i hi
    rcases Nat.lt_or_ge i sizes.length with hlt | hge
    · rw [getElem?_eq_some_getD (by rwa [length_equalize]), hget, getElem?_eq_some_getD hlt]
    · rw [List.getElem?_eq_none hge, List.getElem?_eq_none (by rwa [length_equalize])]

theorem equalize_equalize : equalize groups (equalize groups sizes) = equalize groups sizes := by
  have hagain : GroupsWithin groups (equalize groups sizes).length := by rwa [length_equalize]
  apply ext_getD (length_equalize ..)
  exact hagain.getD_equalize_of_uniform h.uniform_equalize

end GroupsWithin

/-! ## Other orders -/

/-- The same groups in another order, and the members of each group in another order. -/
def Rearranged (groups others : List (List Nat)) : Prop :=
  ∃ between, groups.Perm between ∧ List.Forall₂ List.Perm between others

namespace Rearranged

variable (h : Rearranged groups others)

include h

theorem flatten_perm : groups.flatten.Perm others.flatten := by
  obtain ⟨between, hgroups, hmembers⟩ := h
  exact hgroups.flatten.trans (List.Perm.flatten_congr hmembers)

theorem exists_perm (hother : other ∈ others) : ∃ group ∈ groups, group.Perm other := by
  obtain ⟨between, hgroups, hmembers⟩ := h
  obtain ⟨i, hi, rfl⟩ := List.getElem_of_mem hother
  have hlt : i < between.length := by rwa [hmembers.length_eq]
  exact ⟨between[i], hgroups.mem_iff.2 (List.getElem_mem hlt), hmembers.get hlt hi⟩

theorem groupsWithin {count : Nat} (hwithin : GroupsWithin groups count) :
    GroupsWithin others count where
  members member hmember := hwithin.members member (h.flatten_perm.mem_iff.2 hmember)
  nodup := h.flatten_perm.nodup_iff.1 hwithin.nodup

theorem equalized (hequal : Equalized groups sizes out) : Equalized others sizes out where
  listed other hother index hindex := by
    obtain ⟨group, hgroup, hperm⟩ := h.exists_perm hother
    have hsame : memberSizes sizes group = memberSizes sizes other := by
      simp only [memberSizes, hperm.mem_iff]
    rw [← hsame]
    exact hequal.listed group hgroup index (hperm.mem_iff.2 hindex)
  unlisted i hi := hequal.unlisted i fun hmem => hi (h.flatten_perm.mem_iff.1 hmem)

end Rearranged

/-! ## Groups that a grid accepts -/

namespace Grid

variable {grid after : Grid} {axis : Axis}

theorem groupsWithin_of_setGroups (h : grid.setGroups axis groups = .ok after) :
    GroupsWithin groups (grid.count axis) := by
  obtain ⟨hmembers, hnodup, -⟩ := setGroups_eq_ok_iff.1 h
  exact ⟨hmembers, hnodup⟩

/-- For groups that a grid accepts, every look-up of the loop succeeds and the sizes come out as
`Equalized` says. The grid accepts the groups in any order, with the same result. No track gets
smaller, and a second run changes nothing. -/
theorem equalize_of_setGroups (h : grid.setGroups axis groups = .ok after)
    (hlen : sizes.length = grid.count axis) :
    Checked.equalize groups sizes = .ok (equalize groups sizes) ∧
      Equalized groups sizes (equalize groups sizes) ∧
      (∀ others, Rearranged groups others →
        (∃ after', grid.setGroups axis others = .ok after') ∧
          equalize others sizes = equalize groups sizes) ∧
      List.Forall₂ (· ≤ ·) sizes (equalize groups sizes) ∧
      equalize groups (equalize groups sizes) = equalize groups sizes := by
  have hwithin : GroupsWithin groups sizes.length := hlen ▸ groupsWithin_of_setGroups h
  refine ⟨Checked.equalize_eq_ok hwithin.members, hwithin.equalized, fun others hsame => ?_, ?_,
    hwithin.equalize_equalize⟩
  · have hothers := hsame.groupsWithin hwithin
    constructor
    · rw [hlen] at hothers
      exact ⟨_, setGroups_eq_ok_iff.2 ⟨hothers.members, hothers.nodup, rfl⟩⟩
    · exact hothers.equalized.unique (hsame.equalized hwithin.equalized)
  · exact forall₂_le_of_getD (length_equalize ..).symm (getD_le_getD_equalize groups sizes)

def fiveColumns : Grid where
  tracks := ⟨.replicate 5 (.glue .horizontal), []⟩

/-- Two groups of two columns and an empty one, in two orders. The last column is in no group. -/
theorem equalize_of_fiveColumns :
    ∃ after after', fiveColumns.setGroups .horizontal [[4, 1], [], [2, 3]] = .ok after ∧
      fiveColumns.setGroups .horizontal [[3, 2], [1, 4], []] = .ok after' ∧
      Checked.equalize [[4, 1], [], [2, 3]] [-7, 40, 20, -5, 3] = .ok [-5, 40, 40, -5, 3] ∧
      equalize [[3, 2], [1, 4], []] [-7, 40, 20, -5, 3] = [-5, 40, 40, -5, 3] := by
  have hset : fiveColumns.setGroups .horizontal [[4, 1], [], [2, 3]] = .ok _ := rfl
  have hsame : Rearranged [[4, 1], [], [2, 3]] [[3, 2], [1, 4], []] := by
    refine ⟨[[2, 3], [4, 1], []], by decide, ?_⟩
    exact .cons (by decide) (.cons (by decide) (.cons (by decide) .nil))
  have hlen : ([-7, 40, 20, -5, 3] : List Int).length = fiveColumns.count .horizontal := rfl
  obtain ⟨hrun, -, horder, -, -⟩ := equalize_of_setGroups hset hlen
  obtain ⟨⟨after', hset'⟩, hresult⟩ := horder _ hsame
  exact ⟨_, after', hset, hset', hrun, hresult⟩

end Grid

end TrackGrid
