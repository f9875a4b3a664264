import Mathlib.Algebra.BigOperators.Intervals
import TrackGrid.Proofs.Layout.Fit
import TrackGrid.Proofs.Layout.Shares

/-! # Giving out spare space

What a track gets of a surplus is its share and its turns at the pixels that are left. All tracks
together get the whole surplus, unless the shares alone are more than that.
-/

namespace TrackGrid

open Pixels

/-! ## Turns -/

theorem turn_nonneg (rest count j : Nat) : 0 ≤ turn rest count j := by
  have hquotient : (0 : Int) ≤ rest / count := Int.ediv_nonneg (by omega) (by omega)
  simp only [turn]
  split <;> omega

theorem sum_turn (rest : Nat) {count : Nat} (h : 0 < count) :
    ∑ j ∈ Finset.range count, turn rest count j = rest := by
  have hmod : rest % count < count := Nat.mod_lt rest h
  have hfirst : (Finset.range count).filter (· < rest % count) = Finset.range (rest % count) := by
    ext j
    simp only [Finset.mem_filter, Finset.mem_range]
    omega
  have hextra : ∑ j ∈ Finset.range count, (if j < rest % count then (1 : Int) else 0) =
      (rest % count : Nat) := by
    rw [← Finset.sum_filter, hfirst]
    simp
  have hdiv : (count * (rest / count) + rest % count : Nat) = rest := Nat.div_add_mod rest count
  simp only [turn]
  rw [Finset.sum_add_distrib, hextra, Finset.sum_const, Finset.card_range, nsmul_eq_mul]
  exact_mod_cast hdiv

/-! ## Gifts -/

/-- What each track gets, the first that grows having position `j` among those that do. -/
def giftsFrom (whole : Binary64) (surplus : Int) (rest count : Nat) : Nat → List Track → List Int
  | _, [] => []
  | j, track :: tracks =>
    if track.grows then
      (share surplus whole track + turn rest count j) ::
        giftsFrom whole surplus rest count (j + 1) tracks
    else 0 :: giftsFrom whole surplus rest count j tracks

/-- The pixels of a surplus that are left when every track has its share. -/
def leftover (tracks : List Track) (surplus : Int) : Nat :=
  (surplus - total (tracks.map (share surplus (weightSum tracks)))).toNat

/-- What each track gets of a surplus: its share and its turns, and nothing if it does not grow. -/
def gifts (tracks : List Track) (surplus : Int) : List Int :=
  if 0 < surplus then
    giftsFrom (weightSum tracks) surplus (leftover tracks surplus) (tracks.countP Track.grows) 0
      tracks
  else tracks.map fun _ => 0

section

variable {whole : Binary64} {surplus : Int} {rest count : Nat}

@[simp] theorem length_giftsFrom (j : Nat) (tracks : List Track) :
    (giftsFrom whole surplus rest count j tracks).length = tracks.length := by
  induction tracks generalizing j with
  | nil => rfl
  | cons track tracks ih =>
    unfold giftsFrom
    split <;> simp [ih]

theorem giftsFrom_of_not_grows (j : Nat) {tracks : List Track} {i : Nat} {track : Track}
    (ht : tracks[i]? = some track) (h : track.grows = false) :
    (giftsFrom whole surplus rest count j tracks).getD i 0 = 0 := by
  induction tracks generalizing i j with
  | nil => cases ht
  | cons first tracks ih =>
    cases i with
    | zero =>
      cases ht
      simp [giftsFrom, h]
    | succ i =>
      unfold giftsFrom
      split <;> exact ih _ ht

theorem sum_giftsFrom (j : Nat) (tracks : List Track) :
    (giftsFrom whole surplus rest count j tracks).sum =
      (tracks.map (share surplus whole)).sum +
        ∑ k ∈ Finset.range (tracks.countP Track.grows), turn rest count (j + k) := by
  induction tracks generalizing j with
  | nil => simp [giftsFrom]
  | cons track tracks ih =>
    rw [List.map_cons, List.sum_cons, giftsFrom]
    cases hgrows : track.grows with
    | false =>
      rw [List.countP_cons_of_neg (by simp [hgrows]), share_of_not_grows hgrows]
      simp [ih]
    | true =>
      have hshift (k : Nat) : j + 1 + k = j + (k + 1) := by omega
      rw [List.countP_cons_of_pos hgrows, Finset.sum_range_succ']
      simp only [if_true, List.sum_cons, ih, hshift, Nat.add_zero]
      ring

variable (hs : 0 ≤ surplus) (hlt : surplus < 2 ^ 53) (hw : whole.IsNonneg)

include hs hlt hw

theorem giftsFrom_nonneg (j : Nat) (tracks : List Track) :
    ∀ gift ∈ giftsFrom whole surplus rest count j tracks, 0 ≤ gift := by
  induction tracks generalizing j with
  | nil => simp [giftsFrom]
  | cons track tracks ih =>
    have hshare : 0 ≤ share surplus whole track := share_nonneg hs hlt hw
    have hturn := turn_nonneg rest count j
    unfold giftsFrom
    split
    · exact List.forall_mem_cons.2 ⟨by omega, ih (j + 1)⟩
    · exact List.forall_mem_cons.2 ⟨Int.le_refl 0, ih j⟩

theorem grow_eq_zipWith (j : Nat) {tracks : List Track} {sizes : List Int}
    (hlen : sizes.length = tracks.length) (hr : ∀ size ∈ sizes, InRange size) :
    grow whole surplus rest count j tracks sizes =
      sizes.zipWith plus (giftsFrom whole surplus rest count j tracks) := by
  induction tracks generalizing j sizes with
  | nil =>
    rw [List.eq_nil_of_length_eq_zero hlen]
    rfl
  | cons track tracks ih =>
    -- The share and the turn are added one after the other, which is the same as their sum.
    obtain ⟨size, sizes, rfl⟩ := List.exists_cons_of_length_eq_add_one hlen
    obtain ⟨hsize, hrest⟩ := List.forall_mem_cons.1 hr
    have hlen' : sizes.length = tracks.length := Nat.succ.inj hlen
    have hshare : 0 ≤ share surplus whole track := share_nonneg hs hlt hw
    have hturn := turn_nonneg rest count j
    unfold grow giftsFrom
    split
    · rw [List.zipWith_cons_cons, ih (j + 1) hlen' hrest, plus_plus hsize.1 hshare hturn]
    · rw [List.zipWith_cons_cons, ih j hlen' hrest, plus_zero hsize]

end

section

variable {tracks : List Track} {surplus : Int}

@[simp] theorem length_gifts : (gifts tracks surplus).length = tracks.length := by
  unfold gifts
  split <;> simp

theorem gift_of_not_grows {i : Nat} {track : Track} (ht : tracks[i]? = some track)
    (h : track.grows = false) : (gifts tracks surplus).getD i 0 = 0 := by
  unfold gifts
  split
  · exact giftsFrom_of_not_grows 0 ht h
  · simp [List.getD_eq_getElem?_getD]

theorem gifts_of_not_pos (h : ¬ 0 < surplus) (i : Nat) : (gifts tracks surplus).getD i 0 = 0 := by
  rw [gifts, if_neg h, List.getD_eq_getElem?_getD, List.getElem?_map]
  cases tracks[i]? <;> rfl

theorem gifts_nonneg (hlt : surplus < 2 ^ 53) : ∀ gift ∈ gifts tracks surplus, 0 ≤ gift := by
  unfold gifts
  split
  · rename_i hs
    exact giftsFrom_nonneg hs.le hlt (isNonneg_weightSum tracks) 0 tracks
  · simp

theorem sum_gifts (hs : 0 < surplus) (hsurplus : InRange surplus)
    (hgrows : ∃ track ∈ tracks, track.grows = true) :
    (gifts tracks surplus).sum =
      max surplus (tracks.map (share surplus (weightSum tracks))).sum := by
  have hlt := Binary64.lt_of_inRange hsurplus
  have hcount : 0 < tracks.countP Track.grows := List.countP_pos_iff.2 hgrows
  have htotal := total_of_nonneg (shares_nonneg hs hlt tracks)
  have hmax := hsurplus.2
  rw [gifts, if_pos hs, sum_giftsFrom]
  simp only [Nat.zero_add]
  rw [sum_turn _ hcount, leftover, htotal]
  omega

theorem sum_gifts_of_not_grows (h : ∀ track ∈ tracks, track.grows = false) :
    (gifts tracks surplus).sum = 0 := by
  rw [sum_eq_sum_getD]
  apply Finset.sum_eq_zero
  intro i hi
  rw [Finset.mem_range, length_gifts] at hi
  exact gift_of_not_grows (List.getElem?_eq_getElem hi) (h _ (List.getElem_mem hi))

theorem sum_gifts_le (hs : 0 < surplus) (hsurplus : InRange surplus)
    (hinf : ∀ track ∈ tracks, track.grows = true →
      (.ofInt surplus * track.weight / weightSum tracks : Binary64).isInfinite = false) :
    (gifts tracks surplus).sum ≤
      surplus + surplus * (2 * tracks.countP Track.grows + 3) / 2 ^ 53 := by
  have hextra : 0 ≤ surplus * (2 * tracks.countP Track.grows + 3) / 2 ^ 53 := by positivity
  by_cases hgrows : ∃ track ∈ tracks, track.grows = true
  · have hshares := sum_share_le hs (Binary64.lt_of_inRange hsurplus) hinf
    have hscaled : ((tracks.map (share surplus (weightSum tracks))).sum - surplus : ℚ) * 2 ^ 53 ≤
        surplus * (2 * tracks.countP Track.grows + 3) := by linarith
    have hexact : ((tracks.map (share surplus (weightSum tracks))).sum - surplus) * 2 ^ 53 ≤
        surplus * (2 * tracks.countP Track.grows + 3) := by exact_mod_cast hscaled
    have hfloor := (Int.le_ediv_iff_mul_le (by decide)).2 hexact
    rw [sum_gifts hs hsurplus hgrows]
    omega
  · have hnone : ∀ track ∈ tracks, track.grows = false := by simpa using hgrows
    rw [sum_gifts_of_not_grows hnone]
    omega

end

/-! ## Final sizes -/

section

variable {tracks : List Track} {needs : Needs} (h : needs.OfLength tracks.length)
  (hr : needs.InRange) (groups : List (List Nat)) (available : Int)

include h hr

theorem finalSizes_eq :
    finalSizes tracks groups needs available =
      (fit tracks groups needs available).zipWith plus
        (gifts tracks (minus available (total (fit tracks groups needs available)))) := by
  have hlen := length_fit h groups available
  have hrange : ∀ size ∈ fit tracks groups needs available, InRange size :=
    forall_mem_of_getD (inRange_fit tracks hr groups available)
  simp only [finalSizes]
  generalize fit tracks groups needs available = sizes at *
  have hlt := Binary64.lt_of_inRange (minus_inRange available (total sizes))
  generalize minus available (total sizes) = surplus at *
  have hkeep (gifts : List Int) (hl : gifts.length = sizes.length) (h0 : ∀ i, gifts.getD i 0 = 0) :
      sizes = sizes.zipWith plus gifts := by
    apply ext_getD (by simp [hl])
    intro i
    rw [getD_zipWith_plus hl.symm, h0, plus_zero]
    exact getD_of_forall_mem inRange_zero hrange i
  split
  · rename_i hs
    simp only [giveOut]
    split
    · rw [gifts, if_pos hs, grow_eq_zipWith hs.le hlt (isNonneg_weightSum tracks) 0 hlen hrange]
      rfl
    · rename_i hpos
      -- Without a sum of weights no track grows, so nobody gets anything.
      have hnone : ∀ track ∈ tracks, track.grows = false := by
        intro track hmem
        rw [Bool.eq_false_iff]
        exact fun hgrows => hpos (isPositive_weightSum ⟨track, hmem, hgrows⟩)
      apply hkeep _ (by rw [length_gifts, hlen])
      intro i
      rcases Nat.lt_or_ge i tracks.length with hi | hi
      · exact gift_of_not_grows (List.getElem?_eq_getElem hi) (hnone _ (List.getElem_mem hi))
      · exact List.getD_eq_default _ _ (by rwa [length_gifts])
  · rename_i hs
    exact hkeep _ (by rw [length_gifts, hlen]) (gifts_of_not_pos hs)

theorem getD_finalSizes (i : Nat) :
    (finalSizes tracks groups needs available).getD i 0 =
      plus ((fit tracks groups needs available).getD i 0)
        ((gifts tracks (minus available
          (total (fit tracks groups needs available)))).getD i 0) := by
  rw [finalSizes_eq h hr, getD_zipWith_plus (by rw [length_gifts, length_fit h])]

end

end TrackGrid
