import Mathlib.Algebra.Order.Field.Basic
import Mathlib.Algebra.Order.Ring.Rat
import Mathlib.Tactic.Linarith
import Mathlib.Tactic.Positivity
import Mathlib.Tactic.Ring
import TrackGrid.Binary64

/-! # Rounding to the nearest double

The nearest magnitude is found in steps of a power of two. Rounding keeps the order of magnitudes,
it leaves a magnitude as it is, and its error is a `2 ^ 53`rd part of the number or half a quantum.
-/

namespace TrackGrid.Binary64

/-! ## Quanta -/

theorem binade_eq : binade = 2 ^ 52 := by decide

theorem binade_pos : 0 < binade := by decide

theorem unit_pos : 0 < unit := by decide +kernel

theorem quanta_add {shift d : Nat} (hd : d ≤ 2 * binade) (h : shift = 0 ∨ binade ≤ d) :
    quanta (shift * binade + d) = d * 2 ^ shift := by
  have hb := binade_pos
  rw [quanta]
  split
  · rename_i hlt
    obtain rfl : shift = 0 := by
      rcases h with h | h
      · exact h
      · by_contra hs
        have : binade ≤ shift * binade := Nat.le_mul_of_pos_left binade (by omega)
        omega
    simp
  · rename_i hge
    have hle : binade ≤ d := by
      rcases h with rfl | h
      · omega
      · exact h
    obtain ⟨r, rfl⟩ : ∃ r, d = binade + r := ⟨d - binade, by omega⟩
    have hsplit : shift * binade + (binade + r) = binade * (shift + 1) + r := by ring
    rw [hsplit, Nat.mul_add_mod, Nat.mul_add_div hb, Nat.pow_eq]
    rcases Nat.lt_or_ge r binade with hr | hr
    · rw [Nat.mod_eq_of_lt hr, Nat.div_eq_of_lt hr]
      rfl
    · -- The end of one binade is the beginning of the next.
      obtain rfl : r = binade := by omega
      rw [Nat.mod_self, Nat.div_self hb, show shift + 1 + 1 - 1 = shift + 1 by omega]
      ring

theorem exists_rank_eq (rank : Nat) :
    ∃ shift d, rank = shift * binade + d ∧ d < 2 * binade ∧ (shift = 0 ∨ binade ≤ d) := by
  have hb := binade_pos
  rcases Nat.lt_or_ge rank (2 * binade) with h | h
  · exact ⟨0, rank, by simp, h, .inl rfl⟩
  · obtain ⟨shift, hshift⟩ : ∃ shift, rank / binade = shift + 1 := by
      have : 2 ≤ rank / binade := (Nat.le_div_iff_mul_le hb).2 h
      exact ⟨rank / binade - 1, by omega⟩
    have hdiv := Nat.div_add_mod rank binade
    have hmod := Nat.mod_lt rank hb
    rw [hshift] at hdiv
    exact ⟨shift, binade + rank % binade, by linarith, by omega, .inr (by omega)⟩

theorem quanta_strictMono : StrictMono quanta := by
  apply strictMono_nat_of_lt_succ
  intro rank
  obtain ⟨shift, d, rfl, hd, hs⟩ := exists_rank_eq rank
  rw [Nat.add_assoc, quanta_add (by omega) hs, quanta_add (by omega) (by omega)]
  exact Nat.mul_lt_mul_of_pos_right (Nat.lt_succ_self d) (Nat.two_pow_pos shift)

theorem quanta_le_quanta {r s : Nat} (h : r ≤ s) : quanta r ≤ quanta s :=
  quanta_strictMono.monotone h

theorem exists_quanta_eq {n : Nat} (hn : n < 2 * binade) (k : Nat) :
    ∃ rank < (k + 3) * binade, quanta rank = n * 2 ^ k := by
  have hb := binade_pos
  induction k generalizing n with
  | zero =>
    refine ⟨0 * binade + n, by omega, ?_⟩
    rw [quanta_add (by omega) (.inl rfl)]
  | succ k ih =>
    rcases Nat.lt_or_ge (2 * n) (2 * binade) with h | h
    · obtain ⟨rank, hrank, hq⟩ := ih h
      refine ⟨rank, by linarith, ?_⟩
      rw [hq, pow_succ]
      ring
    · refine ⟨(k + 1) * binade + n, by linarith, ?_⟩
      rw [quanta_add (by omega) (.inr (by omega))]

theorem exists_quanta_eq_mul_unit {n : Nat} (hn : n < 2 * binade) :
    ∃ rank < infinityRank, quanta rank = n * unit := by
  -- The exponent is kept as a name: nothing here is to compute the power.
  obtain ⟨k, hk⟩ : ∃ k, k = 1074 := ⟨_, rfl⟩
  obtain ⟨rank, hrank, hq⟩ := exists_quanta_eq hn k
  unfold unit
  rw [← hk, Nat.pow_eq]
  refine ⟨rank, Nat.lt_of_lt_of_le hrank (Nat.mul_le_mul_right _ ?_), hq⟩
  omega

/-! ## Division -/

variable {num den k : Nat}

theorem divideToEven_le (h : num ≤ den * k) (hden : 0 < den) : divideToEven num den ≤ k := by
  have hdiv := Nat.div_add_mod num den
  have hmod := Nat.mod_lt num hden
  simp only [divideToEven]
  split
  · exact Nat.div_le_of_le_mul h
  · by_contra hk
    -- A quotient of `k` leaves no remainder, and then there is nothing to round up.
    have hq : k ≤ num / den := by omega
    have hmul : den * k ≤ den * (num / den) := Nat.mul_le_mul_left den hq
    omega

theorem le_divideToEven (h : den * k ≤ num) (hden : 0 < den) : k ≤ divideToEven num den := by
  have hk : k ≤ num / den := (Nat.le_div_iff_mul_le hden).2 (by rwa [Nat.mul_comm])
  simp only [divideToEven]
  split <;> omega

theorem two_mul_divideToEven_le (num : Nat) (hden : 0 < den) :
    2 * (den * divideToEven num den) ≤ 2 * num + den := by
  have hdiv := Nat.div_add_mod num den
  simp only [divideToEven]
  split
  · omega
  · have hmul : den * (num / den + 1) = den * (num / den) + den := Nat.mul_succ ..
    omega

theorem two_mul_le_divideToEven (num : Nat) (hden : 0 < den) :
    2 * num ≤ 2 * (den * divideToEven num den) + den := by
  have hdiv := Nat.div_add_mod num den
  have hmod := Nat.mod_lt num hden
  simp only [divideToEven]
  split
  · omega
  · have hmul : den * (num / den + 1) = den * (num / den) + den := Nat.mul_succ ..
    omega

/-! ## The nearest magnitude -/

/-- How many binades the nearest magnitude lies above the first two. -/
def shiftOf (num den : Nat) : Nat := (num / den).log2 - 52

/-- How many steps of `2 ^ shiftOf num den` quanta are nearest to `num / den`. -/
def significand (num den : Nat) : Nat := divideToEven num (den * 2 ^ shiftOf num den)

/-- The nearest magnitude if there is none that is too large. -/
def nearest (num den : Nat) : Nat := significand num den * 2 ^ shiftOf num den

theorem nearestRank_eq (num den : Nat) :
    nearestRank num den =
      Min.min infinityRank (shiftOf num den * binade + significand num den) := rfl

theorem div_lt_two_pow (num den : Nat) : num / den < 2 ^ (53 + shiftOf num den) := by
  rcases Nat.eq_zero_or_pos (num / den) with h | h
  · rw [h]
    exact Nat.two_pow_pos _
  · rw [← Nat.log2_lt h.ne', shiftOf]
    omega

theorem two_pow_le_div (h : shiftOf num den ≠ 0) : 2 ^ (52 + shiftOf num den) ≤ num / den := by
  rw [shiftOf] at *
  have hne : num / den ≠ 0 := by
    intro h0
    rw [h0] at h
    simp at h
  rw [← Nat.le_log2 hne]
  omega

theorem significand_le (hden : 0 < den) : significand num den ≤ 2 * binade := by
  apply divideToEven_le _ (Nat.mul_pos hden (Nat.two_pow_pos _))
  have hlt := (Nat.div_lt_iff_lt_mul hden).1 (div_lt_two_pow num den)
  rw [pow_add] at hlt
  rw [binade_eq]
  linarith

theorem binade_le_significand (hden : 0 < den) (h : shiftOf num den ≠ 0) :
    binade ≤ significand num den := by
  apply le_divideToEven _ (Nat.mul_pos hden (Nat.two_pow_pos _))
  have hle := (Nat.le_div_iff_mul_le hden).1 (two_pow_le_div h)
  rw [pow_add] at hle
  rw [binade_eq]
  linarith

theorem quanta_nearest (hden : 0 < den) :
    quanta (shiftOf num den * binade + significand num den) = nearest num den :=
  quanta_add (significand_le hden) (or_iff_not_imp_left.2 (binade_le_significand hden))

theorem quanta_nearestRank_le (hden : 0 < den) :
    quanta (nearestRank num den) ≤ nearest num den := by
  rw [← quanta_nearest hden, nearestRank_eq]
  exact quanta_le_quanta (Nat.min_le_right ..)

theorem quanta_nearestRank (hden : 0 < den) (h : nearestRank num den < infinityRank) :
    quanta (nearestRank num den) = nearest num den := by
  rw [← quanta_nearest hden]
  rw [nearestRank_eq] at *
  congr 1
  omega

theorem quanta_nearestRank_le_quanta {rank : Nat} (hden : 0 < den)
    (h : num ≤ den * quanta rank) : quanta (nearestRank num den) ≤ quanta rank := by
  refine Nat.le_trans (quanta_nearestRank_le hden) ?_
  obtain ⟨e, d, rfl, hd, he⟩ := exists_rank_eq rank
  rw [quanta_add (by omega) he] at *
  -- The quotient is rounded to steps that are not larger than those around the magnitude.
  have hle : shiftOf num den ≤ e := by
    rcases Nat.eq_zero_or_pos (shiftOf num den) with h0 | h0
    · omega
    · by_contra hlt
      have hq := Nat.le_trans (two_pow_le_div h0.ne') (Nat.div_le_of_le_mul h)
      have hp : 2 * binade * 2 ^ e ≤ 2 ^ (52 + shiftOf num den) := by
        rw [binade_eq, ← pow_succ', ← pow_add]
        exact Nat.pow_le_pow_right (by decide) (by omega)
      have := Nat.mul_lt_mul_of_pos_right hd (Nat.two_pow_pos e)
      omega
  obtain ⟨k, rfl⟩ := Nat.exists_eq_add_of_le hle
  rw [pow_add] at *
  have hs : significand num den ≤ d * 2 ^ k := by
    apply divideToEven_le _ (Nat.mul_pos hden (Nat.two_pow_pos _))
    linarith
  calc nearest num den ≤ d * 2 ^ k * 2 ^ shiftOf num den := Nat.mul_le_mul_right _ hs
    _ = _ := by ring

theorem quanta_le_quanta_nearestRank {rank : Nat} (hden : 0 < den) (hrank : rank ≤ infinityRank)
    (h : den * quanta rank ≤ num) : quanta rank ≤ quanta (nearestRank num den) := by
  rw [nearestRank_eq]
  rcases Nat.le_total infinityRank (shiftOf num den * binade + significand num den) with hi | hi
  · rw [Nat.min_eq_left hi]
    exact quanta_le_quanta hrank
  · rw [Nat.min_eq_right hi, quanta_nearest hden]
    obtain ⟨e, d, rfl, hd, he⟩ := exists_rank_eq rank
    rw [quanta_add (by omega) he] at *
    rcases Nat.lt_or_ge e (shiftOf num den) with hlt | hge
    · -- With larger steps the quotient is in a binade above that of the magnitude.
      have hne : shiftOf num den ≠ 0 := by omega
      have hs := binade_le_significand hden hne
      calc d * 2 ^ e ≤ 2 * binade * 2 ^ e := Nat.mul_le_mul_right _ hd.le
        _ = binade * 2 ^ (e + 1) := by rw [pow_succ]; ring
        _ ≤ binade * 2 ^ shiftOf num den :=
          Nat.mul_le_mul_left _ (Nat.pow_le_pow_right (by decide) hlt)
        _ ≤ nearest num den := Nat.mul_le_mul_right _ hs
    · -- Otherwise the magnitude is a whole number of steps.
      obtain ⟨k, rfl⟩ := Nat.exists_eq_add_of_le hge
      rw [pow_add] at *
      have hs : d * 2 ^ k ≤ significand num den := by
        apply le_divideToEven _ (Nat.mul_pos hden (Nat.two_pow_pos _))
        linarith
      calc d * (2 ^ shiftOf num den * 2 ^ k) = d * 2 ^ k * 2 ^ shiftOf num den := by ring
        _ ≤ nearest num den := Nat.mul_le_mul_right _ hs

theorem nearestRank_mul_quanta {rank : Nat} (hden : 0 < den) (hrank : rank ≤ infinityRank) :
    nearestRank (den * quanta rank) den = rank :=
  quanta_strictMono.injective <| Nat.le_antisymm
    (quanta_nearestRank_le_quanta hden (Nat.le_refl _))
    (quanta_le_quanta_nearestRank hden hrank (Nat.le_refl _))

/-! ## Rounding errors -/

theorem two_mul_nearest_le (num : Nat) (hden : 0 < den) :
    2 * (den * nearest num den) ≤ 2 * num + den * 2 ^ shiftOf num den := by
  have h := two_mul_divideToEven_le num (Nat.mul_pos hden (Nat.two_pow_pos (shiftOf num den)))
  rw [nearest, significand]
  linarith

theorem two_mul_le_nearest (num : Nat) (hden : 0 < den) :
    2 * num ≤ 2 * (den * nearest num den) + den * 2 ^ shiftOf num den := by
  have h := two_mul_le_divideToEven num (Nat.mul_pos hden (Nat.two_pow_pos (shiftOf num den)))
  rw [nearest, significand]
  linarith

/-- Above the first two binades the error is relative. -/
theorem nearest_bounds (hden : 0 < den) (h : shiftOf num den ≠ 0) :
    (nearest num den : ℚ) ≤ num / den * (1 + 1 / 2 ^ 53) ∧
      (num / den : ℚ) ≤ nearest num den * (1 + 1 / 2 ^ 53) := by
  -- The quotient and what it is rounded to are both `2 ^ 52` steps or more, and the error is half
  -- a step.
  have hstep := (Nat.le_div_iff_mul_le hden).1 (two_pow_le_div h)
  have hstep' := Nat.mul_le_mul_right (2 ^ shiftOf num den)
    (binade_le_significand hden h)
  have hstep'' := Nat.mul_le_mul_left den hstep'
  have hup := two_mul_nearest_le num hden
  have hdown := two_mul_le_nearest num hden
  rw [binade_eq] at hstep''
  rw [pow_add] at hstep
  change den * (2 ^ 52 * 2 ^ shiftOf num den) ≤ den * nearest num den at hstep''
  have hupper : 2 ^ 53 * (den * nearest num den) ≤ (2 ^ 53 + 1) * num := by linarith
  have hlower : 2 ^ 53 * num ≤ (2 ^ 53 + 1) * (den * nearest num den) := by linarith
  have hden' : (0 : ℚ) < den := by exact_mod_cast hden
  have hupper' : (2 ^ 53 * (den * nearest num den) : ℚ) ≤ (2 ^ 53 + 1) * num := by
    exact_mod_cast hupper
  have hlower' : (2 ^ 53 * num : ℚ) ≤ (2 ^ 53 + 1) * (den * nearest num den) := by
    exact_mod_cast hlower
  constructor
  · rw [div_mul_eq_mul_div, le_div_iff₀ hden']
    linarith
  · rw [div_le_iff₀ hden']
    linarith

theorem nearest_bounds_of_shift (hden : 0 < den) (h : shiftOf num den = 0) :
    (nearest num den : ℚ) ≤ num / den + 1 / 2 ∧ (num / den : ℚ) ≤ nearest num den + 1 / 2 := by
  have hup := two_mul_nearest_le num hden
  have hdown := two_mul_le_nearest num hden
  rw [h, pow_zero, Nat.mul_one] at hup hdown
  have hden' : (0 : ℚ) < den := by exact_mod_cast hden
  have hup' : (2 * (den * nearest num den) : ℚ) ≤ 2 * num + den := by exact_mod_cast hup
  have hdown' : (2 * num : ℚ) ≤ 2 * (den * nearest num den) + den := by exact_mod_cast hdown
  constructor
  · rw [← sub_le_iff_le_add, le_div_iff₀ hden']
    linarith
  · rw [div_le_iff₀ hden']
    linarith

theorem nearest_of_dvd_of_shift (hden : 0 < den) (hdvd : den ∣ num) (h : shiftOf num den = 0) :
    (nearest num den : ℚ) = num / den := by
  obtain ⟨k, rfl⟩ := hdvd
  have hk : nearest (den * k) den = k := by
    rw [nearest, significand, h, pow_zero, Nat.mul_one, Nat.mul_one]
    exact Nat.le_antisymm (divideToEven_le (Nat.le_refl _) hden)
      (le_divideToEven (Nat.le_refl _) hden)
  have hden' : (den : ℚ) ≠ 0 := by exact_mod_cast hden.ne'
  rw [hk, Nat.cast_mul, mul_div_cancel_left₀ _ hden']

theorem nearest_le (hden : 0 < den) :
    (nearest num den : ℚ) ≤ num / den * (1 + 1 / 2 ^ 53) + 1 / 2 := by
  have hpos : (0 : ℚ) ≤ num / den := by positivity
  by_cases h : shiftOf num den = 0
  · linarith [(nearest_bounds_of_shift hden h).1]
  · linarith [(nearest_bounds hden h).1]

theorem le_nearest (hden : 0 < den) :
    (num / den : ℚ) ≤ nearest num den * (1 + 1 / 2 ^ 53) + 1 / 2 := by
  have hpos : (0 : ℚ) ≤ nearest num den := by positivity
  by_cases h : shiftOf num den = 0
  · linarith [(nearest_bounds_of_shift hden h).2]
  · linarith [(nearest_bounds hden h).2]

theorem nearest_le_of_dvd (hden : 0 < den) (hdvd : den ∣ num) :
    (nearest num den : ℚ) ≤ num / den * (1 + 1 / 2 ^ 53) := by
  have hpos : (0 : ℚ) ≤ num / den := by positivity
  by_cases h : shiftOf num den = 0
  · linarith [nearest_of_dvd_of_shift hden hdvd h]
  · exact (nearest_bounds hden h).1

theorem le_nearest_of_dvd (hden : 0 < den) (hdvd : den ∣ num) :
    (num / den : ℚ) ≤ nearest num den * (1 + 1 / 2 ^ 53) := by
  have hpos : (0 : ℚ) ≤ nearest num den := by positivity
  by_cases h : shiftOf num den = 0
  · linarith [nearest_of_dvd_of_shift hden hdvd h]
  · exact (nearest_bounds hden h).2

end TrackGrid.Binary64
