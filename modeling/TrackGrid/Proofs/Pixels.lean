import Mathlib.Algebra.BigOperators.Group.Finset.Basic
import Mathlib.Algebra.Order.BigOperators.Group.List
import Mathlib.Algebra.Order.Group.Int
import Mathlib.Data.List.GetD
import Mathlib.Tactic.Ring
import TrackGrid.Pixels

/-! # Sums of pixels

While nothing is negative, a sum that stops at the ends of the range is the exact sum or the highest
pixel count.
-/

namespace TrackGrid.Pixels

theorem inRange_zero : InRange 0 := ⟨by decide, by decide⟩

theorem clamp_le {n : Int} (h : lowest ≤ n) : clamp n ≤ n := by
  simp only [clamp, lowest, highest] at *
  omega

theorem clamp_of_lowest_le {n : Int} (h : lowest ≤ n) : clamp n = min highest n := by
  rw [clamp]
  apply max_eq_right
  exact le_min (by decide) h

theorem clamp_of_nonneg {n : Int} (h : 0 ≤ n) : clamp n = min highest n :=
  clamp_of_lowest_le (le_trans (by decide) h)

theorem plus_zero {n : Int} (h : InRange n) : plus n 0 = n := by
  rw [plus, Int.add_zero, clamp_of_inRange h]

theorem plus_plus {m n k : Int} (h : lowest ≤ m) (hn : 0 ≤ n) (hk : 0 ≤ k) :
    plus (plus m n) k = plus m (n + k) := by
  simp only [plus, clamp, lowest, highest] at *
  omega

theorem le_plus {m n : Int} (h : InRange m) (hn : 0 ≤ n) : m ≤ plus m n := by
  simp only [InRange, plus, clamp, lowest, highest] at *
  omega

theorem lt_highest_of_plus {m n : Int} (hn : 0 ≤ n) (h : plus m n < highest) : m < highest := by
  simp only [plus, clamp, lowest, highest] at *
  omega

theorem minus_plus_cancel {m n : Int} (hm : 0 ≤ m) (hn : 0 ≤ n) (h : plus m n < highest) :
    minus (plus m n) n = m := by
  simp only [plus, minus, clamp, lowest, highest] at *
  omega

/-- Where nothing is negative, it is enough to stop at the end once. -/
theorem foldl_plus_clamp {sizes : List Int} (h : ∀ size ∈ sizes, 0 ≤ size) {start : Int}
    (hlow : lowest ≤ start) : sizes.foldl plus (clamp start) = clamp (start + sizes.sum) := by
  induction sizes generalizing start with
  | nil => simp
  | cons size sizes ih =>
    obtain ⟨hsize, hrest⟩ := List.forall_mem_cons.1 h
    have hplus : plus (clamp start) size = clamp (start + size) := by
      simp only [plus, clamp, lowest, highest] at *
      omega
    rw [List.foldl_cons, hplus, ih hrest (by omega), List.sum_cons, Int.add_assoc]

theorem foldl_plus_of_nonneg {sizes : List Int} (h : ∀ size ∈ sizes, 0 ≤ size) {start : Int}
    (hlow : 0 ≤ start) (hhigh : start ≤ highest) :
    sizes.foldl plus start = min highest (start + sizes.sum) := by
  have hsum : 0 ≤ sizes.sum := List.sum_nonneg h
  have hrange : InRange start := ⟨by rw [lowest]; omega, hhigh⟩
  rw [← clamp_of_nonneg (by omega), ← foldl_plus_clamp h hrange.1, clamp_of_inRange hrange]

theorem total_of_nonneg {sizes : List Int} (h : ∀ size ∈ sizes, 0 ≤ size) :
    total sizes = min highest sizes.sum := by
  rw [total, foldl_plus_of_nonneg h (by decide) (by decide), Int.zero_add]

theorem total_inRange (sizes : List Int) : InRange (total sizes) := by
  rw [total]
  rcases List.eq_nil_or_concat sizes with rfl | ⟨front, last, rfl⟩
  · exact inRange_zero
  · rw [List.concat_eq_append, List.foldl_append]
    exact plus_inRange ..

/-! ## The largest of several -/

section

variable {sizes : List Int} {size : Int}

theorem le_max_getD (h : size ∈ sizes) : size ≤ sizes.max?.getD 0 := by
  cases hmax : sizes.max? with
  | none =>
    rw [List.max?_eq_none_iff.1 hmax] at h
    cases h
  | some largest => exact (List.max?_eq_some_iff.1 hmax).2 size h

theorem max_getD_mem (h : size ∈ sizes) : sizes.max?.getD 0 ∈ sizes := by
  cases hmax : sizes.max? with
  | none =>
    rw [List.max?_eq_none_iff.1 hmax] at h
    cases h
  | some largest => exact (List.max?_eq_some_iff.1 hmax).1

theorem le_foldl_max {n start : Int} (h : n ≤ start ∨ n ∈ sizes) : n ≤ sizes.foldl max start := by
  induction sizes generalizing start with
  | nil => exact h.resolve_right List.not_mem_nil
  | cons size sizes ih =>
    apply ih
    rcases h with h | h
    · exact .inl (Int.le_trans h (Int.le_max_left start size))
    · rcases List.mem_cons.1 h with rfl | h
      · exact .inl (Int.le_max_right start n)
      · exact .inr h

theorem foldl_max_le {start bound : Int} (hstart : start ≤ bound)
    (h : ∀ size ∈ sizes, size ≤ bound) : sizes.foldl max start ≤ bound := by
  induction sizes generalizing start with
  | nil => exact hstart
  | cons size sizes ih =>
    obtain ⟨hsize, hrest⟩ := List.forall_mem_cons.1 h
    exact ih (max_le hstart hsize) hrest

theorem max_getD_le {bound : Int} (hzero : 0 ≤ bound) (h : ∀ size ∈ sizes, size ≤ bound) :
    sizes.max?.getD 0 ≤ bound := by
  cases sizes with
  | nil => exact hzero
  | cons size sizes => exact h _ (max_getD_mem List.mem_cons_self)

end

/-! ## Cutting off at the end

Maxima, and sums of what is not negative, can be taken first and cut off afterwards.
-/

theorem clamp_max (m n : Int) : clamp (max m n) = max (clamp m) (clamp n) :=
  Monotone.map_max fun _ _ => clamp_mono

theorem clamp_min (m n : Int) : clamp (min m n) = min (clamp m) (clamp n) :=
  Monotone.map_min fun _ _ => clamp_mono

theorem clamp_nonneg_iff {n : Int} : 0 ≤ clamp n ↔ 0 ≤ n := by
  simp only [clamp, lowest, highest]
  omega

theorem clamp_of_highest_le {n : Int} (h : highest ≤ n) : clamp n = highest := by
  simp only [clamp, lowest, highest] at *
  omega

theorem plus_clamp_left {m n : Int} (hm : 0 ≤ m) (hn : 0 ≤ n) :
    plus (clamp m) n = clamp (m + n) := by
  simp only [plus, clamp, lowest, highest]
  omega

theorem plus_clamp_right {m n : Int} (hm : 0 ≤ m) (hn : 0 ≤ n) :
    plus m (clamp n) = clamp (m + n) := by
  simp only [plus, clamp, lowest, highest]
  omega

theorem foldl_max_map_clamp (sizes : List Int) (start : Int) :
    (sizes.map clamp).foldl max (clamp start) = clamp (sizes.foldl max start) := by
  induction sizes generalizing start with
  | nil => rfl
  | cons size sizes ih => rw [List.map_cons, List.foldl_cons, List.foldl_cons, ← clamp_max, ih]

theorem max_getD_map_clamp (sizes : List Int) :
    (sizes.map clamp).max?.getD 0 = clamp (sizes.max?.getD 0) := by
  cases sizes with
  | nil => rfl
  | cons size sizes =>
    rw [List.map_cons, List.max?_cons', List.max?_cons', Option.getD_some, Option.getD_some,
      foldl_max_map_clamp]

theorem total_map_clamp {sizes : List Int} (h : ∀ size ∈ sizes, 0 ≤ size) :
    total (sizes.map clamp) = clamp sizes.sum := by
  have hclamped : ∀ size ∈ sizes.map clamp, 0 ≤ size :=
    List.forall_mem_map.2 fun size hsize => clamp_nonneg_iff.2 (h size hsize)
  rw [total_of_nonneg hclamped, clamp_of_nonneg (List.sum_nonneg h)]
  clear hclamped
  induction sizes with
  | nil => rfl
  | cons size sizes ih =>
    obtain ⟨hsize, hrest⟩ := List.forall_mem_cons.1 h
    have hsum : 0 ≤ sizes.sum := List.sum_nonneg hrest
    have htail := ih hrest
    have hcut : 0 ≤ (sizes.map clamp).sum :=
      List.sum_nonneg (List.forall_mem_map.2 fun size hmem => clamp_nonneg_iff.2 (hrest size hmem))
    rw [List.map_cons, List.sum_cons, List.sum_cons, clamp_of_nonneg hsize]
    omega

/-! ## Lists by position -/

theorem getElem?_eq_some_getD {sizes : List Int} {i : Nat} (h : i < sizes.length) :
    sizes[i]? = some (sizes.getD i 0) := by
  rw [List.getElem?_eq_getElem h, List.getD_eq_getElem _ _ h]

theorem getD_of_getElem? {sizes : List Int} {i : Nat} {size : Int} (h : sizes[i]? = some size) :
    sizes.getD i 0 = size := by
  rw [List.getD_eq_getElem?_getD, h, Option.getD_some]

theorem forall_mem_of_getD {P : Int → Prop} {sizes : List Int} (h : ∀ i, P (sizes.getD i 0)) :
    ∀ size ∈ sizes, P size := by
  intro size hsize
  obtain ⟨i, hi, rfl⟩ := List.getElem_of_mem hsize
  have hget := h i
  rwa [List.getD_eq_getElem _ _ hi] at hget

theorem getD_of_forall_mem {P : Int → Prop} {sizes : List Int} (hzero : P 0)
    (h : ∀ size ∈ sizes, P size) (i : Nat) : P (sizes.getD i 0) := by
  rcases Nat.lt_or_ge i sizes.length with hi | hi
  · rw [List.getD_eq_getElem _ _ hi]
    exact h _ (List.getElem_mem hi)
  · rwa [List.getD_eq_default _ _ hi]

theorem ext_getD {sizes others : List Int} (hlen : sizes.length = others.length)
    (h : ∀ i, sizes.getD i 0 = others.getD i 0) : sizes = others := by
  apply List.ext_getElem hlen
  intro i hi ho
  have hget := h i
  rwa [List.getD_eq_getElem _ _ hi, List.getD_eq_getElem _ _ ho] at hget

theorem forall₂_le_of_getD {sizes others : List Int} (hlen : sizes.length = others.length)
    (h : ∀ i, sizes.getD i 0 ≤ others.getD i 0) : List.Forall₂ (· ≤ ·) sizes others := by
  refine List.forall₂_iff_get.2 ⟨hlen, fun i hi ho => ?_⟩
  have hget := h i
  rwa [List.getD_eq_getElem _ _ hi, List.getD_eq_getElem _ _ ho] at hget

theorem getD_zipWith_plus {sizes others : List Int} (hlen : sizes.length = others.length)
    (i : Nat) :
    (sizes.zipWith plus others).getD i 0 = plus (sizes.getD i 0) (others.getD i 0) := by
  rcases Nat.lt_or_ge i sizes.length with hi | hi
  · have hs := List.getElem?_eq_getElem hi
    have ho := List.getElem?_eq_getElem (hlen ▸ hi)
    simp only [List.getD_eq_getElem?_getD, List.getElem?_zipWith, hs, ho, Option.getD_some]
  · rw [List.getD_eq_default _ _ (by simp [hlen ▸ hi]), List.getD_eq_default _ _ hi,
      List.getD_eq_default _ _ (hlen ▸ hi)]
    exact (plus_zero inRange_zero).symm

theorem sum_zipWith_plus_le {sizes others : List Int} (hlen : sizes.length = others.length)
    (hs : ∀ size ∈ sizes, InRange size) (ho : ∀ other ∈ others, 0 ≤ other) :
    (sizes.zipWith plus others).sum ≤ sizes.sum + others.sum := by
  induction sizes generalizing others with
  | nil => simp [List.eq_nil_of_length_eq_zero hlen.symm]
  | cons size sizes ih =>
    obtain ⟨other, others, rfl⟩ := List.exists_cons_of_length_eq_add_one hlen.symm
    obtain ⟨hsize, hs⟩ := List.forall_mem_cons.1 hs
    obtain ⟨hother, ho⟩ := List.forall_mem_cons.1 ho
    have hrest := ih (Nat.succ.inj hlen) hs ho
    have hfirst : plus size other ≤ size + other := clamp_le (by have := hsize.1; omega)
    rw [List.zipWith_cons_cons, List.sum_cons, List.sum_cons, List.sum_cons]
    omega

theorem le_sum_zipWith_plus {sizes others : List Int} (hlen : sizes.length = others.length)
    (hs : ∀ size ∈ sizes, 0 ≤ size) (ho : ∀ other ∈ others, 0 ≤ other) :
    min highest (sizes.sum + others.sum) ≤ (sizes.zipWith plus others).sum := by
  induction sizes generalizing others with
  | nil =>
    rw [List.eq_nil_of_length_eq_zero hlen.symm]
    decide
  | cons size sizes ih =>
    obtain ⟨other, others, rfl⟩ := List.exists_cons_of_length_eq_add_one hlen.symm
    obtain ⟨hsize, hs⟩ := List.forall_mem_cons.1 hs
    obtain ⟨hother, ho⟩ := List.forall_mem_cons.1 ho
    have hrest := ih (Nat.succ.inj hlen) hs ho
    have hsum : 0 ≤ sizes.sum := List.sum_nonneg hs
    have hothers : 0 ≤ others.sum := List.sum_nonneg ho
    have hfirst : plus size other = min highest (size + other) := clamp_of_nonneg (by omega)
    have htop : 0 ≤ highest := by decide
    rw [List.zipWith_cons_cons, List.sum_cons, List.sum_cons, List.sum_cons, hfirst]
    omega

theorem sum_zipWith_plus {sizes others : List Int} (hlen : sizes.length = others.length)
    (hs : ∀ size ∈ sizes, InRange size) (ho : ∀ other ∈ others, 0 ≤ other)
    (hroom : ∀ size ∈ sizes, size + others.sum ≤ highest) :
    (sizes.zipWith plus others).sum = sizes.sum + others.sum := by
  induction sizes generalizing others with
  | nil => simp [List.eq_nil_of_length_eq_zero hlen.symm]
  | cons size sizes ih =>
    obtain ⟨other, others, rfl⟩ := List.exists_cons_of_length_eq_add_one hlen.symm
    obtain ⟨hsize, hs⟩ := List.forall_mem_cons.1 hs
    obtain ⟨hother, ho⟩ := List.forall_mem_cons.1 ho
    obtain ⟨hhead, hroom⟩ := List.forall_mem_cons.1 hroom
    have hothers : 0 ≤ others.sum := List.sum_nonneg ho
    rw [List.sum_cons] at hhead hroom
    have hrest := ih (Nat.succ.inj hlen) hs ho fun size hmem => by
      have hle := hroom size hmem
      omega
    have hfirst : plus size other = size + other :=
      clamp_of_inRange ⟨by have := hsize.1; omega, by omega⟩
    rw [List.zipWith_cons_cons, List.sum_cons, List.sum_cons, List.sum_cons, hfirst, hrest]
    ring

theorem sum_eq_sum_getD (sizes : List Int) :
    sizes.sum = ∑ i ∈ Finset.range sizes.length, sizes.getD i 0 := by
  induction sizes with
  | nil => rfl
  | cons size sizes ih =>
    rw [List.sum_cons, ih, List.length_cons, Finset.sum_range_succ', add_comm]
    rfl

end TrackGrid.Pixels
