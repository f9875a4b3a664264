import TrackGrid.Proofs.Binary64.Arithmetic

/-! # Parts of pixel counts

A ratio of two pixel counts that is cut at one, as a double, and the whole pixels of such a part of
a third one.
-/

namespace TrackGrid.Binary64

/-- A double that is at most one, and not below `part` but for the error of a division. -/
structure IsPart (x : Binary64) (part : ℚ) : Prop where
  nonneg : x.IsNonneg
  finite : x.isFinite = true
  le_one : x.toRat ≤ 1
  le : part ≤ x.toRat * (1 + 1 / 2 ^ 53) + halfQuantum

theorem lt_of_inRange {n : Int} (h : Pixels.InRange n) : n < 2 ^ 53 := by
  have hle := h.2
  rw [Pixels.highest] at hle
  omega

variable {m n : Int}

theorem isZero_ofInt (hpos : 0 < n) (hn : Pixels.InRange n) : (ofInt n).isZero = false := by
  have hunit := unit_pos
  have hmul : 0 < n.toNat * unit := Nat.mul_pos (by omega) hunit
  rw [Bool.eq_false_iff, Ne, ← magnitude_eq_zero_iff, magnitude_ofInt hpos.le (lt_of_inRange hn)]
  omega

theorem isPart_min_div (hm : 0 ≤ m) (hmr : Pixels.InRange m) (hn : 0 < n)
    (hnr : Pixels.InRange n) :
    (Binary64.min (ofInt m / ofInt n) one).IsPart (Min.min ((m : ℚ) / n) 1) := by
  have hx := isNonneg_ofInt hm
  have hxf := isFinite_ofInt hm (lt_of_inRange hmr)
  have hy := isNonneg_ofInt hn.le
  have hyf := isFinite_ofInt hn.le (lt_of_inRange hnr)
  have hzero := isZero_ofInt hn hnr
  have hquot := isNonneg_div hx hxf hy hyf hzero
  obtain ⟨hnonneg, hfinite, hmin⟩ := min_one hquot
  refine ⟨hnonneg, hfinite, by rw [hmin]; exact min_le_right .., ?_⟩
  rw [hmin]
  rcases le_total (ofInt m / ofInt n).toRat 1 with hle | hge
  · -- A quotient that is at most one is finite, and its error is that of the division.
    have hfin : (ofInt m / ofInt n).isFinite = true := by
      rcases hquot.isFinite_or_isInfinite with hfin | hinf
      · exact hfin
      · exact absurd hle (not_le.2 (one_lt_toRat_of_isInfinite hinf))
    have hdiv := le_toRat_div hx hxf hy hyf hzero hfin
    rw [toRat_ofInt hm (lt_of_inRange hmr), toRat_ofInt hn.le (lt_of_inRange hnr)] at hdiv
    rw [min_eq_left hle]
    exact (min_le_left ..).trans hdiv
  · have hone : Min.min ((m : ℚ) / n) 1 ≤ 1 := min_le_right ..
    have hhalf := halfQuantum_pos
    rw [min_eq_right hge]
    linarith

namespace IsPart

variable {x : Binary64} {part : ℚ} (h : x.IsPart part) (hn : 0 ≤ n) (hnr : Pixels.InRange n)

include h hn hnr

theorem isNonneg_mul : (ofInt n * x).IsNonneg :=
  isNonneg_mul_ofInt hn (lt_of_inRange hnr) h.nonneg h.finite

theorem round_nonneg : 0 ≤ (ofInt n * x).round := Binary64.round_nonneg (h.isNonneg_mul hn hnr)

theorem round_le : (ofInt n * x).round ≤ n :=
  Binary64.round_le (h.isNonneg_mul hn hnr)
    (toRat_mul_ofInt_le_self hn (lt_of_inRange hnr) h.nonneg h.finite h.le_one).2

theorem le_round : n * part ≤ (ofInt n * x).round + 1 / 2 + n / 2 ^ 51 := by
  have hlt := lt_of_inRange hnr
  have hn' : (0 : ℚ) ≤ n := by exact_mod_cast hn
  obtain ⟨hfin, hself⟩ := toRat_mul_ofInt_le_self hn hlt h.nonneg h.finite h.le_one
  have hprod := le_toRat_mul_ofInt hn hlt h.nonneg h.finite hfin
  have hround := Binary64.le_round (h.isNonneg_mul hn hnr)
    (hself.trans (by exact_mod_cast hnr.2))
  have hhalf := halfQuantum_le
  have hle := h.le
  generalize (ofInt n * x).toRat = product at *
  calc (n * part : ℚ)
      ≤ n * (x.toRat * (1 + 1 / 2 ^ 53) + halfQuantum) := by gcongr
    _ = n * x.toRat * (1 + 1 / 2 ^ 53) + n * halfQuantum := by ring
    _ ≤ product * (1 + 1 / 2 ^ 53) * (1 + 1 / 2 ^ 53) + n * (1 / 2 ^ 60) := by gcongr
    _ = product + product * (2 / 2 ^ 53 + 1 / 2 ^ 106) + n * (1 / 2 ^ 60) := by ring
    _ ≤ product + n * (2 / 2 ^ 53 + 1 / 2 ^ 106) + n * (1 / 2 ^ 60) := by gcongr
    _ ≤ product + n / 2 ^ 51 := by linarith
    _ ≤ (ofInt n * x).round + 1 / 2 + n / 2 ^ 51 := by linarith

end IsPart

end TrackGrid.Binary64
