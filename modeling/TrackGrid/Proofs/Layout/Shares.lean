import TrackGrid.Proofs.Binary64.Arithmetic
import TrackGrid.Layout.Fit

/-! # Shares of a surplus

The shares are computed in doubles. Each of them is off by a few parts in `2 ^ 53`, and so is their
sum, by a few parts for each track that grows.
-/

namespace TrackGrid

open Binary64

/-! ## Weights -/

namespace Track

theorem weight_isFinite (track : Track) : track.weight.isFinite = true := by
  have h := track.weight_ok
  rw [Binary64.isWeight, Bool.and_eq_true] at h
  exact h.1

theorem weight_nonneg (track : Track) : 0 ≤ track.weight.value := by
  have h := track.weight_ok
  rw [Binary64.isWeight, Bool.and_eq_true, decide_eq_true_eq] at h
  exact h.2

theorem isZero_weight {track : Track} (h : track.grows = false) : track.weight.isZero = true := by
  rw [grows] at h
  simpa using h

theorem isZero_weight_of_grows {track : Track} (h : track.grows = true) :
    track.weight.isZero = false := by
  rw [grows] at h
  simpa using h

theorem isNonneg_weight {track : Track} (h : track.grows = true) : track.weight.IsNonneg where
  not_negative := by
    rw [Bool.eq_false_iff]
    intro hneg
    have hpos := magnitude_pos (isZero_weight_of_grows h)
    have hvalue := track.weight_nonneg
    rw [Binary64.value, if_pos hneg] at hvalue
    omega
  not_nan := isNaN_eq_false track.weight_isFinite

theorem toRat_weight_pos {track : Track} (h : track.grows = true) : 0 < track.weight.toRat :=
  toRat_pos (isZero_weight_of_grows h)

end Track

/-! ## The sum of the weights -/

/-- The weights of the tracks that grow, as rational numbers. -/
def exactWeights (tracks : List Track) : ℚ :=
  ((tracks.filter Track.grows).map (·.weight.toRat)).sum

def weightSumFrom (start : Binary64) (tracks : List Track) : Binary64 :=
  tracks.foldl (fun sum track => sum + track.weight) start

variable {tracks : List Track} {start : Binary64}

theorem exactWeights_cons {track : Track} (h : track.grows = true) :
    exactWeights (track :: tracks) = track.weight.toRat + exactWeights tracks := by
  rw [exactWeights, List.filter_cons_of_pos h, List.map_cons, List.sum_cons, ← exactWeights]

theorem weightSumFrom_cons {track : Track} :
    weightSumFrom start (track :: tracks) = weightSumFrom (start + track.weight) tracks := rfl

theorem isNonneg_weightSumFrom (h : start.IsNonneg) (tracks : List Track) :
    (weightSumFrom start tracks).IsNonneg := by
  induction tracks generalizing start with
  | nil => exact h
  | cons track tracks ih => exact ih (isNonneg_add h track.weight_nonneg track.weight_isFinite)

theorem toRat_le_weightSumFrom (h : start.IsNonneg) (tracks : List Track) :
    start.toRat ≤ (weightSumFrom start tracks).toRat := by
  induction tracks generalizing start with
  | nil => exact le_rfl
  | cons track tracks ih =>
    exact (toRat_le_toRat_add h track.weight_nonneg track.weight_isFinite).trans
      (ih (isNonneg_add h track.weight_nonneg track.weight_isFinite))

theorem isFinite_start (h : start.IsNonneg) (hf : (weightSumFrom start tracks).isFinite = true) :
    start.isFinite = true := by
  induction tracks generalizing start with
  | nil => exact hf
  | cons track tracks ih =>
    have hnext := ih (isNonneg_add h track.weight_nonneg track.weight_isFinite) hf
    exact isFinite_of_isFinite_add h track.weight_isFinite hnext

theorem exactWeights_le {tracks : List Track} (h : start.IsNonneg)
    (hf : (weightSumFrom start tracks).isFinite = true) :
    start.toRat + exactWeights tracks ≤
      (weightSumFrom start tracks).toRat * (1 + tracks.countP Track.grows / 2 ^ 53) := by
  induction tracks generalizing start with
  | nil => simp [exactWeights, weightSumFrom]
  | cons track tracks ih =>
    have hnonneg := isNonneg_add h track.weight_nonneg track.weight_isFinite
    rw [weightSumFrom_cons] at hf ⊢
    have hnext := isFinite_start hnonneg hf
    have hrest := ih hnonneg hf
    cases hgrows : track.grows with
    | false =>
      have hsame := toRat_add_of_isZero h track.weight_nonneg track.weight_isFinite
        (Track.isZero_weight hgrows)
      rw [hsame] at hrest
      simpa [exactWeights, hgrows] using hrest
    | true =>
      -- The sums only rise, so the error of this addition is a part of the last one.
      have hstep := toRat_add_le h track.weight_nonneg track.weight_isFinite hnext
      have hmono := toRat_le_weightSumFrom hnonneg tracks
      have hcount : (track :: tracks).countP Track.grows = tracks.countP Track.grows + 1 :=
        List.countP_cons_of_pos hgrows
      rw [hcount, exactWeights_cons hgrows, Nat.cast_add, Nat.cast_one]
      generalize (weightSumFrom (start + track.weight) tracks).toRat = whole at *
      generalize (start + track.weight).toRat = next at *
      linarith

theorem isNonneg_zero : Binary64.zero.IsNonneg := ⟨by decide, by decide⟩

theorem toRat_zero : Binary64.zero.toRat = 0 := by
  have hmag : Binary64.zero.magnitude = 0 := by decide
  rw [toRat, hmag, Nat.cast_zero, zero_div]

theorem isNonneg_weightSum (tracks : List Track) : (weightSum tracks).IsNonneg :=
  isNonneg_weightSumFrom isNonneg_zero tracks

theorem exactWeights_le_weightSum (h : (weightSum tracks).isFinite = true) :
    exactWeights tracks ≤ (weightSum tracks).toRat * (1 + tracks.countP Track.grows / 2 ^ 53) := by
  have hle := exactWeights_le isNonneg_zero h
  rwa [toRat_zero, zero_add] at hle

theorem exactWeights_pos (h : ∃ track ∈ tracks, track.grows = true) : 0 < exactWeights tracks := by
  obtain ⟨track, hmem, hgrows⟩ := h
  have hle : track.weight.toRat ≤ exactWeights tracks := by
    apply List.single_le_sum
    · intro weight hweight
      obtain ⟨other, -, rfl⟩ := List.mem_map.1 hweight
      exact toRat_nonneg _
    · exact List.mem_map.2 ⟨track, List.mem_filter.2 ⟨hmem, hgrows⟩, rfl⟩
  exact (Track.toRat_weight_pos hgrows).trans_le hle

theorem isZero_weightSum (h : ∃ track ∈ tracks, track.grows = true) :
    (weightSum tracks).isZero = false := by
  rw [Bool.eq_false_iff]
  intro hzero
  have hfinite : (weightSum tracks).isFinite = true := isFinite_of_isZero hzero
  have hle := exactWeights_le_weightSum hfinite
  have hpos := exactWeights_pos h
  rw [toRat_of_isZero hzero, zero_mul] at hle
  linarith

theorem isPositive_weightSum (h : ∃ track ∈ tracks, track.grows = true) :
    (weightSum tracks).isPositive = true := by
  have hnonneg := isNonneg_weightSum tracks
  simp [Binary64.isPositive, hnonneg.not_negative, hnonneg.not_nan, isZero_weightSum h]

theorem toRat_weightSumFrom_of_not_grows (hstart : start.IsNonneg)
    (h : ∀ track ∈ tracks, track.grows = false) :
    (weightSumFrom start tracks).toRat = start.toRat := by
  induction tracks generalizing start with
  | nil => rfl
  | cons track tracks ih =>
    obtain ⟨hrigid, hrest⟩ := List.forall_mem_cons.1 h
    have hnext := isNonneg_add hstart track.weight_nonneg track.weight_isFinite
    rw [weightSumFrom_cons, ih hnext hrest]
    exact toRat_add_of_isZero hstart track.weight_nonneg track.weight_isFinite
      (Track.isZero_weight hrigid)

theorem exists_grows_of_isPositive (h : (weightSum tracks).isPositive = true) :
    ∃ track ∈ tracks, track.grows = true := by
  by_contra hnone
  have hrigid : ∀ track ∈ tracks, track.grows = false := by simpa using hnone
  have hzero : (weightSum tracks).toRat = 0 :=
    (toRat_weightSumFrom_of_not_grows isNonneg_zero hrigid).trans toRat_zero
  have hnot : (weightSum tracks).isZero = false := by
    rw [Binary64.isPositive, Bool.and_eq_true] at h
    simpa using h.2
  have hpos := toRat_pos hnot
  rw [hzero] at hpos
  exact lt_irrefl 0 hpos

/-! ## Single shares -/

section

variable {surplus : Int} {whole : Binary64} {track : Track}

theorem share_of_not_grows (h : track.grows = false) : share surplus whole track = 0 := by
  simp [share, h]

theorem share_nonneg (hs : 0 ≤ surplus) (hlt : surplus < 2 ^ 53) (hw : whole.IsNonneg) :
    0 ≤ share surplus whole track := by
  rw [share]
  split
  · rename_i hgrows
    exact floor_div_nonneg (isNonneg_mul_ofInt hs hlt (Track.isNonneg_weight hgrows)
      track.weight_isFinite) hw
  · exact Int.le_refl 0

/-- A share that is no infinity is too large by two `2 ^ 53`rd parts and half a quantum at most. -/
theorem share_le (hs : 0 ≤ surplus) (hlt : surplus < 2 ^ 53) (hw : whole.IsNonneg)
    (hwf : whole.isFinite = true) (h0 : whole.isZero = false) (hgrows : track.grows = true)
    (hinf : (ofInt surplus * track.weight / whole).isInfinite = false) :
    (share surplus whole track : ℚ) ≤
      surplus * track.weight.toRat / whole.toRat * (1 + 1 / 2 ^ 53) ^ 2 + halfQuantum := by
  have hweight := Track.isNonneg_weight hgrows
  have hprod := isNonneg_mul_ofInt hs hlt hweight track.weight_isFinite
  -- An infinite product would make the share infinite, too.
  have hprodf : (ofInt surplus * track.weight).isFinite = true := by
    rcases hprod.isFinite_or_isInfinite with hfin | hprodinf
    · exact hfin
    · rw [isInfinite_div hprod hprodinf hw hwf] at hinf
      cases hinf
  have hwhole : 0 < whole.toRat := toRat_pos h0
  rw [share, if_pos hgrows]
  calc ((ofInt surplus * track.weight / whole).floor : ℚ)
      ≤ (ofInt surplus * track.weight / whole).toRat :=
        floor_le (isNonneg_div hprod hprodf hw hwf h0)
    _ ≤ (ofInt surplus * track.weight).toRat / whole.toRat * (1 + 1 / 2 ^ 53) + halfQuantum :=
        toRat_div_le hprod hprodf hw hwf h0
    _ ≤ surplus * track.weight.toRat * (1 + 1 / 2 ^ 53) / whole.toRat * (1 + 1 / 2 ^ 53) +
          halfQuantum := by
        have hmul := toRat_mul_ofInt_le hs hlt hweight track.weight_isFinite
        gcongr
    _ = surplus * track.weight.toRat / whole.toRat * (1 + 1 / 2 ^ 53) ^ 2 + halfQuantum := by ring

theorem share_of_isInfinite (hs : 0 ≤ surplus) (hlt : surplus < 2 ^ 53) (hw : whole.IsNonneg)
    (hinf : whole.isInfinite = true) : share surplus whole track = 0 := by
  rw [share]
  split
  · rename_i hgrows
    exact floor_div_of_isInfinite (isNonneg_mul_ofInt hs hlt (Track.isNonneg_weight hgrows)
      track.weight_isFinite) hw hinf
  · rfl

end

/-! ## All shares -/

section

variable {surplus : Int} (hs : 0 < surplus) (hlt : surplus < 2 ^ 53)

include hs hlt

theorem shares_nonneg (tracks : List Track) :
    ∀ given ∈ tracks.map (share surplus (weightSum tracks)), 0 ≤ given := by
  intro given hgiven
  obtain ⟨track, -, rfl⟩ := List.mem_map.1 hgiven
  exact share_nonneg hs.le hlt (isNonneg_weightSum tracks)

theorem sum_share_le_exactWeights {whole : Binary64} (hw : whole.IsNonneg)
    (hwf : whole.isFinite = true) (h0 : whole.isZero = false)
    (hinf : ∀ track ∈ tracks, track.grows = true →
      (ofInt surplus * track.weight / whole).isInfinite = false) :
    ((tracks.map (share surplus whole)).sum : ℚ) ≤
      surplus * exactWeights tracks / whole.toRat * (1 + 1 / 2 ^ 53) ^ 2 +
        tracks.countP Track.grows * halfQuantum := by
  induction tracks with
  | nil => simp [exactWeights]
  | cons track tracks ih =>
    have hrest := ih fun other hother => hinf other (List.mem_cons_of_mem track hother)
    rw [List.map_cons, List.sum_cons, Int.cast_add]
    cases hgrows : track.grows with
    | false =>
      rw [share_of_not_grows hgrows]
      simpa [exactWeights, hgrows] using hrest
    | true =>
      have hfirst := share_le hs.le hlt hw hwf h0 hgrows (hinf track List.mem_cons_self hgrows)
      have hcount : (track :: tracks).countP Track.grows = tracks.countP Track.grows + 1 :=
        List.countP_cons_of_pos hgrows
      rw [hcount, exactWeights_cons hgrows, Nat.cast_add, Nat.cast_one]
      calc (share surplus whole track : ℚ) + (tracks.map (share surplus whole)).sum
          ≤ (surplus * track.weight.toRat / whole.toRat * (1 + 1 / 2 ^ 53) ^ 2 + halfQuantum) +
              (surplus * exactWeights tracks / whole.toRat * (1 + 1 / 2 ^ 53) ^ 2 +
                tracks.countP Track.grows * halfQuantum) := add_le_add hfirst hrest
        _ = _ := by ring

/-- All shares together exceed the surplus by `2 * count + 3` of its `2 ^ 53`rd parts at most. -/
theorem sum_share_le (hinf : ∀ track ∈ tracks, track.grows = true →
      (ofInt surplus * track.weight / weightSum tracks).isInfinite = false) :
    ((tracks.map (share surplus (weightSum tracks))).sum : ℚ) ≤
      surplus * (1 + (2 * tracks.countP Track.grows + 3) / 2 ^ 53) := by
  have hw := isNonneg_weightSum tracks
  have hs' : (1 : ℚ) ≤ surplus := by exact_mod_cast hs
  have hbound : (0 : ℚ) ≤ surplus * (1 + (2 * tracks.countP Track.grows + 3) / 2 ^ 53) := by
    positivity
  have hnone (h : ∀ track ∈ tracks, share surplus (weightSum tracks) track = 0) :
      (tracks.map (share surplus (weightSum tracks))).sum = 0 := by
    apply List.sum_eq_zero
    intro given hgiven
    obtain ⟨track, hmem, rfl⟩ := List.mem_map.1 hgiven
    exact h track hmem
  rcases hw.isFinite_or_isInfinite with hwf | hwinf
  · by_cases hgrows : ∃ track ∈ tracks, track.grows = true
    · have h0 := isZero_weightSum hgrows
      have hquot : exactWeights tracks / (weightSum tracks).toRat ≤
          1 + tracks.countP Track.grows / 2 ^ 53 := by
        rw [div_le_iff₀ (toRat_pos h0), mul_comm]
        exact exactWeights_le_weightSum hwf
      -- The surplus is a pixel at least, next to which half a quantum is nothing.
      have hhalf : halfQuantum ≤ surplus * (1 / 2 ^ 60) :=
        halfQuantum_le.trans (le_mul_of_one_le_left (by positivity) hs')
      have hsum := sum_share_le_exactWeights hs hlt hw hwf h0 hinf
      have hn : (0 : ℚ) ≤ tracks.countP Track.grows := Nat.cast_nonneg _
      rw [mul_div_assoc] at hsum
      generalize (tracks.countP Track.grows : ℚ) = n at *
      generalize exactWeights tracks / (weightSum tracks).toRat = quotient at *
      calc ((tracks.map (share surplus (weightSum tracks))).sum : ℚ)
          ≤ surplus * quotient * (1 + 1 / 2 ^ 53) ^ 2 + n * halfQuantum := hsum
        _ ≤ surplus * (1 + n / 2 ^ 53) * (1 + 1 / 2 ^ 53) ^ 2 + n * (surplus * (1 / 2 ^ 60)) := by
            gcongr
        _ = surplus * ((1 + n / 2 ^ 53) * (1 + 1 / 2 ^ 53) ^ 2 + n / 2 ^ 60) := by ring
        _ ≤ surplus * (1 + (2 * n + 3) / 2 ^ 53) :=
            mul_le_mul_of_nonneg_left (by linarith) (by linarith)
    · have hrigid : ∀ track ∈ tracks, track.grows = false := fun track hmem =>
        Bool.eq_false_iff.2 fun h => hgrows ⟨track, hmem, h⟩
      rw [hnone fun track hmem => share_of_not_grows (hrigid track hmem)]
      exact_mod_cast hbound
  · rw [hnone fun track _ => share_of_isInfinite hs.le hlt hw hwinf]
    exact_mod_cast hbound

end

end TrackGrid
