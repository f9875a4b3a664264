import Mathlib.Algebra.Order.Field.Rat
import Mathlib.Tactic.FieldSimp
import Mathlib.Tactic.NormNum
import Mathlib.Tactic.SplitIfs
import TrackGrid.Proofs.Binary64.Rounding
import TrackGrid.Proofs.Pixels

/-! # Arithmetic on doubles that are not negative -/

namespace TrackGrid.Binary64

variable {x y : Binary64}

theorem cast_unit_pos : (0 : ℚ) < unit := by exact_mod_cast unit_pos

theorem cast_toNat {n : Int} (h : 0 ≤ n) : (n.toNat : ℚ) = n := by
  exact_mod_cast Int.toNat_of_nonneg h

/-! ## Numbers from ranks -/

theorem rank_ofRank {rank : Nat} (h : rank ≤ infinityRank) (negative : Bool) :
    (ofRank negative rank).rank = rank := by
  simp only [Binary64.rank, ofRank, infinityRank, binade, rankLimit, UInt64.toNat_ofNat'] at *
  cases negative <;> simp <;> omega

theorem isNegative_ofRank {rank : Nat} (h : rank ≤ infinityRank) (negative : Bool) :
    (ofRank negative rank).isNegative = negative := by
  simp only [isNegative, ofRank, infinityRank, binade, rankLimit, UInt64.toNat_ofNat'] at *
  cases negative <;> simp <;> omega

theorem nearestRank_le (num den : Nat) : nearestRank num den ≤ infinityRank := by
  rw [nearestRank_eq]
  exact Nat.min_le_left ..

/-- A number, and not below zero: infinity is one, minus zero is not. -/
structure IsNonneg (x : Binary64) : Prop where
  not_negative : x.isNegative = false
  not_nan : x.isNaN = false

theorem isNonneg_ofRank {rank : Nat} (h : rank ≤ infinityRank) : (ofRank false rank).IsNonneg where
  not_negative := isNegative_ofRank h false
  not_nan := by
    rw [isNaN, rank_ofRank h, decide_eq_false_iff_not]
    omega

/-- The magnitude as a rational number. For an infinity it is the first one that is too large. -/
def toRat (x : Binary64) : ℚ := x.magnitude / unit

theorem toRat_nonneg (x : Binary64) : 0 ≤ x.toRat := by
  rw [toRat]
  positivity

theorem IsNonneg.value_eq (h : x.IsNonneg) : x.value = x.magnitude := by
  simp [value, h.not_negative]

theorem value_eq_of_nonneg (h : 0 ≤ x.value) : x.value = x.magnitude := by
  rw [value] at *
  split_ifs at * <;> omega

theorem isInfinite_eq_false (h : x.isFinite = true) : x.isInfinite = false := by
  simp only [isFinite, isInfinite, decide_eq_true_eq, decide_eq_false_iff_not] at *
  omega

theorem isNaN_eq_false (h : x.isFinite = true) : x.isNaN = false := by
  simp only [isFinite, isNaN, decide_eq_true_eq, decide_eq_false_iff_not] at *
  omega

theorem IsNonneg.isFinite_or_isInfinite (h : x.IsNonneg) :
    x.isFinite = true ∨ x.isInfinite = true := by
  have hn := h.not_nan
  simp only [isFinite, isInfinite, isNaN, decide_eq_true_eq, decide_eq_false_iff_not] at *
  omega

theorem magnitude_eq_zero_iff : x.magnitude = 0 ↔ x.isZero = true := by
  have hzero : quanta 0 = 0 := by decide
  rw [magnitude, isZero, decide_eq_true_eq]
  exact ⟨fun h => quanta_strictMono.injective (h.trans hzero.symm), fun h => h ▸ hzero⟩

theorem one_lt_toRat_of_isInfinite (h : x.isInfinite = true) : 1 < x.toRat := by
  have hunit := cast_unit_pos
  have hlt : unit < quanta infinityRank := by decide +kernel
  rw [isInfinite, decide_eq_true_eq] at h
  rw [toRat, magnitude, h, one_lt_div hunit]
  exact_mod_cast hlt

theorem magnitude_pos (h : x.isZero = false) : 0 < x.magnitude := by
  have hne : ¬ x.magnitude = 0 := by
    rw [magnitude_eq_zero_iff, h]
    decide
  omega

theorem rank_le_of_isFinite (h : x.isFinite = true) : x.rank ≤ infinityRank := by
  rw [isFinite, decide_eq_true_eq] at h
  exact h.le

theorem isFinite_of_isZero (h : x.isZero = true) : x.isFinite = true := by
  rw [isZero, decide_eq_true_eq] at h
  rw [isFinite, h, decide_eq_true_eq]
  decide

theorem toRat_of_isZero (h : x.isZero = true) : x.toRat = 0 := by
  rw [toRat, magnitude_eq_zero_iff.2 h, Nat.cast_zero, zero_div]

theorem toRat_pos (h : x.isZero = false) : 0 < x.toRat := by
  have hunit := cast_unit_pos
  have hmag : (0 : ℚ) < x.magnitude := by exact_mod_cast magnitude_pos h
  exact div_pos hmag hunit

/-! ## Operations -/

theorem mul_eq (hx : x.IsNonneg) (hxf : x.isFinite = true) (hy : y.IsNonneg)
    (hyf : y.isFinite = true) :
    x * y = ofRank false (nearestRank (x.magnitude * y.magnitude) unit) := by
  change mul x y = _
  simp [mul, hx.not_nan, hy.not_nan, hx.not_negative, hy.not_negative, isInfinite_eq_false hxf,
    isInfinite_eq_false hyf]

theorem div_eq (hx : x.IsNonneg) (hxf : x.isFinite = true) (hy : y.IsNonneg)
    (hyf : y.isFinite = true) (h0 : y.isZero = false) :
    x / y = ofRank false (nearestRank (x.magnitude * unit) y.magnitude) := by
  change div x y = _
  simp [div, hx.not_nan, hy.not_nan, hx.not_negative, hy.not_negative, isInfinite_eq_false hxf,
    isInfinite_eq_false hyf, h0]

theorem add_eq (hx : x.IsNonneg) (hxf : x.isFinite = true) (hy : 0 ≤ y.value)
    (hyf : y.isFinite = true) :
    x + y = ofRank false (nearestRank (x.magnitude + y.magnitude) 1) := by
  have hyv := value_eq_of_nonneg hy
  change add x y = _
  simp only [add, hx.not_nan, isNaN_eq_false hyf, hx.not_negative, isInfinite_eq_false hxf,
    isInfinite_eq_false hyf, hx.value_eq, hyv]
  by_cases h : x.magnitude + y.magnitude = 0
  · rw [h]
    simp [show (x.magnitude : Int) + y.magnitude = 0 by omega]
    decide
  · have hsum : (x.magnitude : Int) + y.magnitude ≠ 0 := by omega
    have hpos : ¬ (x.magnitude : Int) + y.magnitude < 0 := by omega
    have habs : ((x.magnitude : Int) + y.magnitude).natAbs = x.magnitude + y.magnitude := by omega
    simp [hsum, hpos, habs]

theorem isNonneg_ofInt {n : Int} (h : 0 ≤ n) : (ofInt n).IsNonneg := by
  rw [ofInt, decide_eq_false (by omega)]
  exact isNonneg_ofRank (nearestRank_le ..)

theorem exists_rank_ofInt {n : Int} (h : 0 ≤ n) (hn : n < 2 ^ 53) :
    ∃ rank < infinityRank, ofInt n = ofRank false rank ∧ quanta rank = n.toNat * unit := by
  have hlt : n.toNat < 2 * binade := by
    rw [binade_eq]
    omega
  obtain ⟨rank, hinf, hq⟩ := exists_quanta_eq_mul_unit hlt
  have hnearest := nearestRank_mul_quanta Nat.one_pos hinf.le
  rw [Nat.one_mul, hq] at hnearest
  have hnat : n.natAbs = n.toNat := by omega
  refine ⟨rank, hinf, ?_, hq⟩
  rw [ofInt, decide_eq_false (by omega), hnat]
  exact congrArg (ofRank false) hnearest

theorem isFinite_ofInt {n : Int} (h : 0 ≤ n) (hn : n < 2 ^ 53) : (ofInt n).isFinite = true := by
  obtain ⟨rank, hrank, he, -⟩ := exists_rank_ofInt h hn
  rw [he, isFinite, rank_ofRank hrank.le, decide_eq_true hrank]

theorem magnitude_ofInt {n : Int} (h : 0 ≤ n) (hn : n < 2 ^ 53) :
    (ofInt n).magnitude = n.toNat * unit := by
  obtain ⟨rank, hrank, he, hq⟩ := exists_rank_ofInt h hn
  rw [he, magnitude, rank_ofRank hrank.le, hq]

theorem toRat_ofInt {n : Int} (h : 0 ≤ n) (hn : n < 2 ^ 53) : (ofInt n).toRat = n := by
  have hunit := cast_unit_pos.ne'
  have hcast := cast_toNat h
  rw [toRat, magnitude_ofInt h hn, Nat.cast_mul, mul_div_cancel_right₀ _ hunit, hcast]

/-! ## Errors of operations -/

def halfQuantum : ℚ := 1 / (2 * unit)

theorem halfQuantum_pos : 0 < halfQuantum := by
  have hunit := cast_unit_pos
  rw [halfQuantum]
  positivity

theorem halfQuantum_le : halfQuantum ≤ 1 / 2 ^ 60 := by
  have hunit : 2 ^ 59 ≤ unit := by decide +kernel
  have hunit' : (2 ^ 59 : ℚ) ≤ unit := by exact_mod_cast hunit
  rw [halfQuantum]
  apply one_div_le_one_div_of_le (by positivity)
  linarith

theorem toRat_ofRank {rank : Nat} (h : rank ≤ infinityRank) :
    (ofRank false rank).toRat = (quanta rank : ℚ) / unit := by
  rw [toRat, magnitude, rank_ofRank h]

theorem isFinite_ofRank_iff {rank : Nat} (h : rank ≤ infinityRank) :
    (ofRank false rank).isFinite = true ↔ rank < infinityRank := by
  rw [isFinite, rank_ofRank h, decide_eq_true_eq]

section

variable {num den : Nat}

theorem div_unit_le {a b : ℚ} (h : a ≤ b) : a / unit ≤ b / unit :=
  div_le_div_of_nonneg_right h (Nat.cast_nonneg unit)

theorem quanta_nearestRank_le_cast (hden : 0 < den) :
    (quanta (nearestRank num den) : ℚ) ≤ nearest num den := by
  exact_mod_cast quanta_nearestRank_le hden

theorem toRat_nearest_le (hden : 0 < den) :
    (ofRank false (nearestRank num den)).toRat ≤
      num / den / unit * (1 + 1 / 2 ^ 53) + halfQuantum := by
  rw [toRat_ofRank (nearestRank_le ..)]
  calc (quanta (nearestRank num den) : ℚ) / unit
      ≤ (num / den * (1 + 1 / 2 ^ 53) + 1 / 2) / unit :=
        div_unit_le ((quanta_nearestRank_le_cast hden).trans (nearest_le hden))
    _ = num / den / unit * (1 + 1 / 2 ^ 53) + halfQuantum := by
        rw [halfQuantum]
        ring

theorem le_toRat_nearest (hden : 0 < den) (h : nearestRank num den < infinityRank) :
    (num / den / unit : ℚ) ≤
      (ofRank false (nearestRank num den)).toRat * (1 + 1 / 2 ^ 53) + halfQuantum := by
  rw [toRat_ofRank (nearestRank_le ..), quanta_nearestRank hden h]
  calc (num / den / unit : ℚ)
      ≤ (nearest num den * (1 + 1 / 2 ^ 53) + 1 / 2) / unit := div_unit_le (le_nearest hden)
    _ = nearest num den / unit * (1 + 1 / 2 ^ 53) + halfQuantum := by
        rw [halfQuantum]
        ring

theorem toRat_nearest_le_of_dvd (hden : 0 < den) (hdvd : den ∣ num) :
    (ofRank false (nearestRank num den)).toRat ≤ num / den / unit * (1 + 1 / 2 ^ 53) := by
  rw [toRat_ofRank (nearestRank_le ..), div_mul_eq_mul_div]
  exact div_unit_le ((quanta_nearestRank_le_cast hden).trans (nearest_le_of_dvd hden hdvd))

theorem le_toRat_nearest_of_dvd (hden : 0 < den) (hdvd : den ∣ num)
    (h : nearestRank num den < infinityRank) :
    (num / den / unit : ℚ) ≤ (ofRank false (nearestRank num den)).toRat * (1 + 1 / 2 ^ 53) := by
  rw [toRat_ofRank (nearestRank_le ..), quanta_nearestRank hden h, div_mul_eq_mul_div]
  exact div_unit_le (le_nearest_of_dvd hden hdvd)

end

/-! ### Products with whole numbers -/

section

variable {n : Int}

theorem mul_ofInt_eq (hn : 0 ≤ n) (hlt : n < 2 ^ 53) (hx : x.IsNonneg) (hxf : x.isFinite = true) :
    ofInt n * x = ofRank false (nearestRank (unit * (n.toNat * x.magnitude)) unit) := by
  rw [mul_eq (isNonneg_ofInt hn) (isFinite_ofInt hn hlt) hx hxf, magnitude_ofInt hn hlt,
    Nat.mul_comm n.toNat, Nat.mul_assoc]

theorem cast_mul_magnitude (hn : 0 ≤ n) :
    ((unit * (n.toNat * x.magnitude) : Nat) : ℚ) / unit / unit = n * x.toRat := by
  have hunit := cast_unit_pos.ne'
  have hcast := cast_toNat hn
  rw [Nat.cast_mul, mul_div_cancel_left₀ _ hunit, Nat.cast_mul, hcast, toRat, mul_div_assoc]

theorem isNonneg_mul_ofInt (hn : 0 ≤ n) (hlt : n < 2 ^ 53) (hx : x.IsNonneg)
    (hxf : x.isFinite = true) : (ofInt n * x).IsNonneg := by
  rw [mul_ofInt_eq hn hlt hx hxf]
  exact isNonneg_ofRank (nearestRank_le ..)

theorem toRat_mul_ofInt_le (hn : 0 ≤ n) (hlt : n < 2 ^ 53) (hx : x.IsNonneg)
    (hxf : x.isFinite = true) :
    (ofInt n * x).toRat ≤ n * x.toRat * (1 + 1 / 2 ^ 53) := by
  rw [mul_ofInt_eq hn hlt hx hxf, ← cast_mul_magnitude hn]
  exact toRat_nearest_le_of_dvd unit_pos (Nat.dvd_mul_right ..)

theorem toRat_mul_ofInt_le_self (hn : 0 ≤ n) (hlt : n < 2 ^ 53) (hx : x.IsNonneg)
    (hxf : x.isFinite = true) (hone : x.toRat ≤ 1) :
    (ofInt n * x).isFinite = true ∧ (ofInt n * x).toRat ≤ n := by
  have hlt' : n.toNat < 2 * binade := by
    rw [binade_eq]
    omega
  obtain ⟨rank, hrank, hq⟩ := exists_quanta_eq_mul_unit hlt'
  have hunit := cast_unit_pos
  have hmag : x.magnitude ≤ unit := by
    rw [toRat, div_le_one hunit] at hone
    exact_mod_cast hone
  -- The whole number is a magnitude, so rounding does not pass it.
  have hle : quanta (nearestRank (unit * (n.toNat * x.magnitude)) unit) ≤ quanta rank := by
    apply quanta_nearestRank_le_quanta unit_pos
    rw [hq]
    exact Nat.mul_le_mul_left _ (Nat.mul_le_mul_left _ hmag)
  have hcast := cast_toNat hn
  rw [mul_ofInt_eq hn hlt hx hxf]
  constructor
  · rw [isFinite_ofRank_iff (nearestRank_le ..)]
    exact Nat.lt_of_le_of_lt (quanta_strictMono.le_iff_le.1 hle) hrank
  · rw [toRat_ofRank (nearestRank_le ..), div_le_iff₀ hunit, ← hcast]
    rw [hq] at hle
    exact_mod_cast hle

theorem le_toRat_mul_ofInt (hn : 0 ≤ n) (hlt : n < 2 ^ 53) (hx : x.IsNonneg)
    (hxf : x.isFinite = true) (h : (ofInt n * x).isFinite = true) :
    n * x.toRat ≤ (ofInt n * x).toRat * (1 + 1 / 2 ^ 53) := by
  rw [mul_ofInt_eq hn hlt hx hxf] at *
  rw [← cast_mul_magnitude hn]
  exact le_toRat_nearest_of_dvd unit_pos (Nat.dvd_mul_right ..)
    ((isFinite_ofRank_iff (nearestRank_le ..)).1 h)

end

/-! ### Quotients -/

section

variable (hx : x.IsNonneg) (hxf : x.isFinite = true) (hy : y.IsNonneg) (hyf : y.isFinite = true)
  (h0 : y.isZero = false)

include h0 in
theorem cast_magnitude_div :
    ((x.magnitude * unit : Nat) : ℚ) / y.magnitude / unit = x.toRat / y.toRat := by
  have hunit := cast_unit_pos.ne'
  have hmag : (y.magnitude : ℚ) ≠ 0 := by exact_mod_cast (magnitude_pos h0).ne'
  rw [toRat, toRat, Nat.cast_mul]
  field_simp

include hx hxf hy hyf h0

theorem isNonneg_div : (x / y).IsNonneg := by
  rw [div_eq hx hxf hy hyf h0]
  exact isNonneg_ofRank (nearestRank_le ..)

theorem toRat_div_le :
    (x / y).toRat ≤ x.toRat / y.toRat * (1 + 1 / 2 ^ 53) + halfQuantum := by
  rw [div_eq hx hxf hy hyf h0, ← cast_magnitude_div h0]
  exact toRat_nearest_le (magnitude_pos h0)

theorem le_toRat_div (h : (x / y).isFinite = true) :
    x.toRat / y.toRat ≤ (x / y).toRat * (1 + 1 / 2 ^ 53) + halfQuantum := by
  rw [div_eq hx hxf hy hyf h0] at *
  rw [← cast_magnitude_div h0]
  exact le_toRat_nearest (magnitude_pos h0) ((isFinite_ofRank_iff (nearestRank_le ..)).1 h)

end

theorem isInfinite_div (hx : x.IsNonneg) (hinf : x.isInfinite = true) (hy : y.IsNonneg)
    (hyf : y.isFinite = true) : (x / y).isInfinite = true := by
  have hdiv : x / y = infinity false := by
    change div x y = _
    simp [div, hx.not_nan, hy.not_nan, hx.not_negative, hy.not_negative, hinf,
      isInfinite_eq_false hyf]
  rw [hdiv]
  decide

theorem isNonneg_div_or_isNaN (hx : x.IsNonneg) (hy : y.IsNonneg) :
    (x / y).IsNonneg ∨ (x / y).isNaN = true := by
  have hnonneg {rank : Nat} (h : rank ≤ infinityRank) :
      (ofRank (x.isNegative != y.isNegative) rank).IsNonneg := by
    rw [hx.not_negative, hy.not_negative]
    exact isNonneg_ofRank h
  have hnan : nan.isNaN = true := by decide
  change (div x y).IsNonneg ∨ (div x y).isNaN = true
  simp only [div, hx.not_nan, hy.not_nan, Bool.or_false, Bool.false_eq_true, if_false]
  split_ifs
  · exact .inr hnan
  · exact .inl (hnonneg le_rfl)
  · exact .inl (hnonneg (Nat.zero_le _))
  · exact .inr hnan
  · exact .inl (hnonneg le_rfl)
  · exact .inl (hnonneg (nearestRank_le ..))

/-! ### Sums -/

theorem add_of_isInfinite (hx : x.IsNonneg) (hinf : x.isInfinite = true) (hyf : y.isFinite = true) :
    x + y = x := by
  change add x y = x
  simp [add, hx.not_nan, isNaN_eq_false hyf, hinf, isInfinite_eq_false hyf]

theorem isFinite_of_isFinite_add (hx : x.IsNonneg) (hyf : y.isFinite = true)
    (h : (x + y).isFinite = true) : x.isFinite = true := by
  rcases hx.isFinite_or_isInfinite with hxf | hinf
  · exact hxf
  · rwa [add_of_isInfinite hx hinf hyf] at h

section

variable (hx : x.IsNonneg) (hy : 0 ≤ y.value) (hyf : y.isFinite = true)

include hx hy hyf

theorem isNonneg_add : (x + y).IsNonneg := by
  rcases hx.isFinite_or_isInfinite with hxf | hinf
  · rw [add_eq hx hxf hy hyf]
    exact isNonneg_ofRank (nearestRank_le ..)
  · rwa [add_of_isInfinite hx hinf hyf]

theorem toRat_le_toRat_add : x.toRat ≤ (x + y).toRat := by
  rcases hx.isFinite_or_isInfinite with hxf | hinf
  · have hrank : x.rank ≤ infinityRank := rank_le_of_isFinite hxf
    have hle : 1 * x.magnitude ≤ x.magnitude + y.magnitude := by omega
    rw [add_eq hx hxf hy hyf, toRat_ofRank (nearestRank_le ..), toRat]
    apply div_unit_le
    exact_mod_cast quanta_le_quanta_nearestRank Nat.one_pos hrank hle
  · rw [add_of_isInfinite hx hinf hyf]

theorem toRat_add_le (h : (x + y).isFinite = true) :
    x.toRat + y.toRat ≤ (x + y).toRat * (1 + 1 / 2 ^ 53) := by
  have hxf := isFinite_of_isFinite_add hx hyf h
  rw [add_eq hx hxf hy hyf] at *
  have hle := le_toRat_nearest_of_dvd Nat.one_pos (Nat.one_dvd (x.magnitude + y.magnitude))
    ((isFinite_ofRank_iff (nearestRank_le ..)).1 h)
  rw [Nat.cast_one, div_one, Nat.cast_add, add_div] at hle
  exact hle

theorem toRat_add_of_isZero (h0 : y.isZero = true) : (x + y).toRat = x.toRat := by
  rcases hx.isFinite_or_isInfinite with hxf | hinf
  · have hnearest := nearestRank_mul_quanta Nat.one_pos (rank_le_of_isFinite hxf)
    rw [Nat.one_mul] at hnearest
    rw [add_eq hx hxf hy hyf, magnitude_eq_zero_iff.2 h0, Nat.add_zero,
      toRat_ofRank (nearestRank_le ..), magnitude, hnearest, toRat, magnitude]
  · rw [add_of_isInfinite hx hinf hyf]

end

/-! ## Whole pixels -/

theorem floor_eq (hx : x.IsNonneg) :
    x.floor = Min.min Pixels.highest (x.magnitude / unit : Int) := by
  have hdiv : (0 : Int) ≤ x.magnitude / unit :=
    Int.ediv_nonneg (Int.natCast_nonneg _) (Int.natCast_nonneg _)
  rw [floor, hx.not_nan, hx.value_eq]
  simp only [Bool.false_eq_true, if_false, Pixels.clamp_of_nonneg hdiv]

theorem floor_nonneg (hx : x.IsNonneg) : 0 ≤ x.floor := by
  rw [floor_eq hx]
  exact le_min (by decide) (Int.ediv_nonneg (Int.natCast_nonneg _) (Int.natCast_nonneg _))

theorem floor_le (hx : x.IsNonneg) : (x.floor : ℚ) ≤ x.toRat := by
  have hunit : (0 : Int) < unit := by exact_mod_cast unit_pos
  have hunit' := cast_unit_pos
  have hle : x.floor ≤ x.magnitude / unit := by
    rw [floor_eq hx]
    exact min_le_right ..
  have hmul : x.floor * unit ≤ x.magnitude := (Int.le_ediv_iff_mul_le hunit).1 hle
  rw [toRat, le_div_iff₀ hunit']
  exact_mod_cast hmul

theorem floor_of_isNaN (h : x.isNaN = true) : x.floor = 0 := by
  rw [floor, if_pos h]

theorem floor_div_nonneg (hx : x.IsNonneg) (hy : y.IsNonneg) : 0 ≤ (x / y).floor := by
  rcases isNonneg_div_or_isNaN hx hy with h | h
  · exact floor_nonneg h
  · exact (floor_of_isNaN h).ge

theorem floor_div_of_isInfinite (hx : x.IsNonneg) (hy : y.IsNonneg) (hinf : y.isInfinite = true) :
    (x / y).floor = 0 := by
  have hdiv : x / y = nan ∨ x / y = ofRank false 0 := by
    change div x y = nan ∨ div x y = _
    simp only [div, hx.not_nan, hy.not_nan, hinf, hx.not_negative, hy.not_negative, Bool.or_false,
      Bool.false_eq_true, if_false, if_true, bne_self_eq_false]
    split
    · exact .inl rfl
    · exact .inr rfl
  rcases hdiv with h | h
  · rw [h]
    decide
  · rw [h]
    decide +kernel

theorem round_eq (hx : x.IsNonneg) :
    x.round = Min.min Pixels.highest ((2 * x.magnitude + unit) / (2 * unit) : Int) := by
  have hdiv : (0 : Int) ≤ (2 * x.magnitude + unit) / (2 * unit) :=
    Int.ediv_nonneg (by omega) (by omega)
  rw [round, hx.not_nan, hx.not_negative]
  simp only [Bool.false_eq_true, if_false, Pixels.clamp_of_nonneg hdiv]

theorem round_nonneg (hx : x.IsNonneg) : 0 ≤ x.round := by
  rw [round_eq hx]
  exact le_min (by decide) (Int.ediv_nonneg (by omega) (by omega))

theorem round_le (hx : x.IsNonneg) {n : Int} (h : x.toRat ≤ n) : x.round ≤ n := by
  have hunit : (0 : Int) < unit := by exact_mod_cast unit_pos
  have hunit' := cast_unit_pos
  rw [toRat, div_le_iff₀ hunit'] at h
  have hmul : (x.magnitude : Int) ≤ n * unit := by exact_mod_cast h
  have hlt : ((2 * x.magnitude + unit) / (2 * unit) : Int) < n + 1 := by
    rw [Int.ediv_lt_iff_lt_mul (by omega)]
    linarith
  rw [round_eq hx]
  exact (min_le_right ..).trans (Int.lt_add_one_iff.1 hlt)

theorem le_round (hx : x.IsNonneg) (h : x.toRat ≤ Pixels.highest) :
    x.toRat ≤ x.round + 1 / 2 := by
  have hunit : (0 : Int) < unit := by exact_mod_cast unit_pos
  have hunit' := cast_unit_pos
  rw [toRat, div_le_iff₀ hunit'] at h
  have hmul : (x.magnitude : Int) ≤ Pixels.highest * unit := by exact_mod_cast h
  have hlt : ((2 * x.magnitude + unit) / (2 * unit) : Int) < Pixels.highest + 1 := by
    rw [Int.ediv_lt_iff_lt_mul (by omega)]
    linarith
  have hround : x.round = (2 * x.magnitude + unit) / (2 * unit) := by
    rw [round_eq hx]
    exact min_eq_right (Int.lt_add_one_iff.1 hlt)
  have hnext : (2 * x.magnitude + unit : Int) < (x.round + 1) * (2 * unit) := by
    rw [hround]
    exact Int.lt_ediv_add_one_mul_self _ (by omega)
  have hnext' : (2 * x.magnitude + unit : ℚ) < (x.round + 1) * (2 * unit) := by
    exact_mod_cast hnext
  rw [toRat, div_le_iff₀ hunit']
  linarith

/-! ## At most one -/

theorem magnitude_one : one.magnitude = unit := by decide +kernel

theorem toRat_one : one.toRat = 1 := by
  have hunit := cast_unit_pos.ne'
  rw [toRat, magnitude_one, div_self hunit]

theorem isNonneg_one : one.IsNonneg := ⟨by decide, by decide⟩

theorem min_one (hx : x.IsNonneg) :
    (Binary64.min x one).IsNonneg ∧ (Binary64.min x one).isFinite = true ∧
      (Binary64.min x one).toRat = Min.min x.toRat 1 := by
  have hunit := cast_unit_pos
  rw [Binary64.min, hx.value_eq, isNonneg_one.value_eq, magnitude_one]
  split
  · rename_i h
    have hle : 1 ≤ x.toRat := by
      rw [toRat, one_le_div hunit]
      exact_mod_cast h.le
    exact ⟨isNonneg_one, by decide, by rw [toRat_one, min_eq_right hle]⟩
  · rename_i h
    have hle : x.toRat ≤ 1 := by
      rw [toRat, div_le_one hunit]
      exact_mod_cast not_lt.1 h
    refine ⟨hx, ?_, (min_eq_left hle).symm⟩
    have hmag : x.magnitude ≤ one.magnitude := by
      rw [magnitude_one]
      exact_mod_cast not_lt.1 h
    have hrank : x.rank ≤ one.rank := quanta_strictMono.le_iff_le.1 hmag
    have hone : one.rank < infinityRank := by decide
    rw [isFinite, decide_eq_true_eq]
    omega

/-! ## The two zeros -/

/-- The same number: zero and minus zero are one. -/
def SameNumber (x y : Binary64) : Prop := x = y ∨ x.isZero = true ∧ y.isZero = true

theorem isZero_mul (hx : x.isFinite = true) (hy : y.isZero = true) : (x * y).isZero = true := by
  have hyf := isFinite_of_isZero hy
  have hrank : nearestRank 0 unit = 0 := by decide +kernel
  change (mul x y).isZero = true
  simp only [mul, isNaN_eq_false hx, isNaN_eq_false hyf, isInfinite_eq_false hx,
    isInfinite_eq_false hyf, magnitude_eq_zero_iff.2 hy, Nat.mul_zero, hrank, Bool.or_false,
    Bool.false_eq_true, if_false]
  rw [isZero, rank_ofRank (Nat.zero_le _), decide_eq_true_eq]

theorem mul_eq_nan (hx : x.isFinite = false) (hy : y.isZero = true) : x * y = nan := by
  change mul x y = nan
  have hinf : x.isNaN = false → x.isInfinite = true := by
    simp only [isFinite, isInfinite, isNaN, decide_eq_true_eq, decide_eq_false_iff_not] at *
    omega
  simp only [mul, hy, isNaN_eq_false (isFinite_of_isZero hy), Bool.or_false, Bool.or_true, if_true]
  split
  · rfl
  · rename_i hnan
    rw [hinf (Bool.eq_false_iff.2 hnan), Bool.true_or, if_pos rfl]

theorem value_of_isZero (h : x.isZero = true) : x.value = 0 := by
  simp [value, magnitude_eq_zero_iff.2 h]

namespace SameNumber

theorem symm (h : x.SameNumber y) : y.SameNumber x := h.imp Eq.symm And.symm

theorem mul_left (h : x.SameNumber y) (z : Binary64) : (z * x).SameNumber (z * y) := by
  rcases h with rfl | ⟨hx, hy⟩
  · exact .inl rfl
  · cases hz : z.isFinite with
    | true => exact .inr ⟨isZero_mul hz hx, isZero_mul hz hy⟩
    | false => exact .inl ((mul_eq_nan hz hx).trans (mul_eq_nan hz hy).symm)

theorem add_right (h : x.SameNumber y) {z : Binary64} (hz : z.value ≠ 0) : x + z = y + z := by
  rcases h with rfl | ⟨hx, hy⟩
  · rfl
  · have hxf := isFinite_of_isZero hx
    have hyf := isFinite_of_isZero hy
    change add x z = add y z
    simp only [add, isNaN_eq_false hxf, isNaN_eq_false hyf, isInfinite_eq_false hxf,
      isInfinite_eq_false hyf, value_of_isZero hx, value_of_isZero hy, Int.zero_add, if_neg hz,
      Bool.false_eq_true, if_false]

end SameNumber

end TrackGrid.Binary64
