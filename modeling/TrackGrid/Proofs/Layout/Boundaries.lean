import TrackGrid.Proofs.Layout.Sized

/-! # Boundaries and what lies between them

Boundaries are added up track by track and stop at the end of the range; sizes are differences of
neighbours, which could stop there as well. While no size is negative, every boundary is the sum of
what lies in front of it, cut off once. A track is as large between its boundaries as the range has
room for it.

Main statement: `boundaries_exact`.
-/

namespace TrackGrid

open Pixels

variable {start size : Int} {sizes : List Int} {i : Nat}

/-! ## One after the other -/

theorem getElem?_boundaries (start : Int) (hi : i ≤ sizes.length) :
    (boundaries start sizes)[i]? = some ((sizes.take i).foldl plus start) := by
  induction sizes generalizing start i with
  | nil =>
    obtain rfl : i = 0 := by simpa using hi
    rfl
  | cons size sizes ih =>
    cases i with
    | zero => rfl
    | succ i =>
      rw [boundaries, List.getElem?_cons_succ, ih _ (Nat.le_of_succ_le_succ hi),
        List.take_succ_cons, List.foldl_cons]

theorem getElem?_sizesBetween {list : List Int} {left right : Int} (hleft : list[i]? = some left)
    (hright : list[i + 1]? = some right) :
    (sizesBetween list)[i]? = some (minus right left) := by
  unfold sizesBetween
  rw [List.getElem?_zipWith, List.getElem?_tail, hright, hleft]

theorem length_sizesBetween (start : Int) (sizes : List Int) :
    (sizesBetween (boundaries start sizes)).length = sizes.length := by
  simp [sizesBetween]

/-! ## Cut off once -/

theorem sum_take_succ (hsize : sizes[i]? = some size) :
    (sizes.take (i + 1)).sum = (sizes.take i).sum + size := by
  rw [List.take_add_one, hsize, List.sum_append, Option.toList_some, List.sum_singleton]

/-- What is left of a track between boundaries that are cut off is what the range has room for. -/
theorem minus_min_min {first : Int} (hfirst : lowest ≤ first) (hsize : 0 ≤ size)
    (hhigh : size ≤ highest) :
    minus (min highest (first + size)) (min highest first) =
      max 0 (min size (highest - first)) := by
  simp only [minus, clamp, lowest, highest] at *
  omega

theorem sum_take_le_sum_take (hnonneg : ∀ size ∈ sizes, 0 ≤ size) {k : Nat} (hk : k ≤ i) :
    (sizes.take k).sum ≤ (sizes.take i).sum := by
  apply (List.take_sublist_take_left hk).sum_le_sum
  exact fun size hmem => hnonneg size (List.mem_of_mem_take hmem)

section

variable (hstart : InRange start) (hnonneg : ∀ size ∈ sizes, 0 ≤ size)

include hstart hnonneg

theorem lowest_le_boundary (i : Nat) : lowest ≤ start + (sizes.take i).sum := by
  have hsum : 0 ≤ (sizes.take i).sum := sum_take_le_sum_take hnonneg (Nat.zero_le i)
  have hlow := hstart.1
  omega

theorem getElem?_boundaries_of_nonneg (hi : i ≤ sizes.length) :
    (boundaries start sizes)[i]? = some (min highest (start + (sizes.take i).sum)) := by
  have htaken : ∀ size ∈ sizes.take i, 0 ≤ size :=
    fun size hmem => hnonneg size (List.mem_of_mem_take hmem)
  have hfold := foldl_plus_clamp htaken hstart.1
  rw [getElem?_boundaries start hi, ← clamp_of_lowest_le (lowest_le_boundary hstart hnonneg i),
    ← hfold, clamp_of_inRange hstart]

theorem getElem?_sizesBetween_boundaries (hsize : sizes[i]? = some size)
    (hhigh : size ≤ highest) :
    (sizesBetween (boundaries start sizes))[i]? =
      some (max 0 (min size (highest - (start + (sizes.take i).sum)))) := by
  have hi : i < sizes.length := (List.getElem?_eq_some_iff.1 hsize).1
  have hleft := getElem?_boundaries_of_nonneg hstart hnonneg (Nat.le_of_lt hi)
  have hright := getElem?_boundaries_of_nonneg hstart hnonneg (Nat.succ_le_of_lt hi)
  rw [sum_take_succ hsize, ← Int.add_assoc] at hright
  rw [getElem?_sizesBetween hleft hright]
  apply congrArg some
  exact minus_min_min (lowest_le_boundary hstart hnonneg i)
    (hnonneg size (List.mem_of_getElem? hsize)) hhigh

theorem highest_le_of_getElem? {k : Nat} (hk : k ≤ i)
    (hcut : (boundaries start sizes)[k]? = some highest) :
    highest ≤ start + (sizes.take i).sum := by
  have hlt : k < (boundaries start sizes).length := (List.getElem?_eq_some_iff.1 hcut).1
  rw [length_boundaries] at hlt
  rw [getElem?_boundaries_of_nonneg hstart hnonneg (Nat.le_of_lt_succ hlt)] at hcut
  have hreached : highest ≤ start + (sizes.take k).sum := min_eq_left_iff.1 (Option.some.inj hcut)
  have hmore := sum_take_le_sum_take hnonneg hk
  omega

end

/-! ## Boundaries of a layout -/

/-- Boundary `i` is the start and the first `i` sizes together, cut off at the end of the range.
A layout with these boundaries has tracks of these sizes as far as the boundary behind them is not
cut off. It has no larger ones, and none at all behind a boundary at the end. -/
theorem boundaries_exact {layout : Layout} {axis : Axis}
    (hl : layout.boundaries.along axis = boundaries start sizes) (hstart : InRange start)
    (hsizes : ∀ size ∈ sizes, 0 ≤ size ∧ InRange size) :
    (layout.boundaries.along axis).length = sizes.length + 1 ∧
      (∀ i ≤ sizes.length, (layout.boundaries.along axis)[i]? =
        some (min highest (start + (sizes.take i).sum))) ∧
      (layout.sizes axis).length = sizes.length ∧
      ∀ (i : Nat) (size : Int), sizes[i]? = some size →
        ∃ width, (layout.sizes axis)[i]? = some width ∧ 0 ≤ width ∧ width ≤ size ∧
          (start + (sizes.take (i + 1)).sum ≤ highest → width = size) ∧
          (∀ k ≤ i, (layout.boundaries.along axis)[k]? = some highest → width = 0) := by
  have hnonneg : ∀ size ∈ sizes, 0 ≤ size := fun size hmem => (hsizes size hmem).1
  unfold Layout.sizes
  rw [hl]
  refine ⟨length_boundaries .., fun i hi => getElem?_boundaries_of_nonneg hstart hnonneg hi,
    length_sizesBetween .., fun i size hsize => ?_⟩
  have hrange := hsizes size (List.mem_of_getElem? hsize)
  refine ⟨_, getElem?_sizesBetween_boundaries hstart hnonneg hsize hrange.2.2, le_max_left .., ?_,
    ?_, ?_⟩
  · exact max_le hrange.1 (min_le_left ..)
  · intro huncut
    rw [sum_take_succ hsize] at huncut
    rw [min_eq_left (by omega), max_eq_right hrange.1]
  · intro k hk hcut
    have hpast := highest_le_of_getElem? hstart hnonneg hk hcut
    apply max_eq_left
    exact (min_le_right ..).trans (by omega)

/-- From one end of the range to the other: two of the largest sizes fit in, one pixel is left for
the third track, and nothing for the last one. -/
theorem boundaries_of_widest :
    let layout : Layout := ⟨.both (boundaries lowest [highest, highest, 5, 7]), {}⟩
    (layout.boundaries.along .horizontal)[2]? = some 2147483646 ∧
      (layout.boundaries.along .horizontal)[3]? = some 2147483647 ∧
      (layout.sizes .horizontal)[1]? = some 2147483647 ∧
      (∃ width, (layout.sizes .horizontal)[2]? = some width ∧ width ≤ 5) ∧
      (layout.sizes .horizontal)[3]? = some 0 := by
  intro layout
  have hl : layout.boundaries.along .horizontal = boundaries lowest [highest, highest, 5, 7] := rfl
  obtain ⟨-, hboundary, -, hwidth⟩ := boundaries_exact hl (by decide) (by decide)
  obtain ⟨second, hsecond, -, -, huncut, -⟩ := hwidth 1 highest rfl
  obtain ⟨third, hthird, -, hle, -, -⟩ := hwidth 2 5 rfl
  obtain ⟨last, hlast, -, -, -, hcut⟩ := hwidth 3 7 rfl
  obtain rfl := huncut (by decide)
  obtain rfl := hcut 3 (Nat.le_refl 3) (hboundary 3 (by decide))
  exact ⟨hboundary 2 (by decide), hboundary 3 (by decide), hsecond, ⟨third, hthird, hle⟩, hlast⟩

end TrackGrid
