import TrackGrid.Proofs.Binary64.Parts
import TrackGrid.Proofs.Layout.Needs

/-! # Tracks before spare space is given out

Every track gets at least its minimum and at most what it prefers, and the tracks of a group get the
same. A track that gives way gives its part of the gap, up to the rounding to whole pixels.
-/

namespace TrackGrid

open Pixels

variable {tracks : List Track} {groups : List (List Nat)} {needs : Needs} {available : Int}
  {i : Nat}

/-- The needs of all tracks of a grid: those of a group are the same, and no minimum is above what a
track prefers. -/
structure Needs.Sound (needs : Needs) (tracks : List Track) (groups : List (List Nat)) : Prop where
  lengths : needs.OfLength tracks.length
  inRange : needs.InRange
  ordered : needs.Ordered
  grouped : needs.Grouped groups
  within : GroupsWithin groups tracks.length

/-! ## Slack -/

theorem isElasticAt_succ {track : Track} (h : tracks[i]? = some track) :
    isElasticAt tracks (i + 1) = track.isElastic := by
  rw [isElasticAt, Nat.add_sub_cancel, h]
  rfl

theorem getD_slacks (h : needs.OfLength tracks.length) (hi : i < tracks.length) :
    (slacks tracks needs).getD i 0 =
      if isElasticAt tracks (i + 1) then
        minus (needs.preferred.getD i 0) (needs.minimum.getD i 0)
      else 0 := by
  have ht := List.getElem?_eq_getElem hi
  have hm := List.getElem?_eq_getElem (l := needs.minimum) (i := i) (by rwa [h.minimum])
  have hp := List.getElem?_eq_getElem (l := needs.preferred) (i := i) (by rwa [h.preferred])
  simp only [isElasticAt_succ ht, slacks, List.getD_eq_getElem?_getD, List.getElem?_zipWith, ht, hm,
    hp, Option.getD_some]

theorem getD_slacks_of_ge (h : needs.OfLength tracks.length) (hi : tracks.length ≤ i) :
    (slacks tracks needs).getD i 0 = 0 :=
  List.getD_eq_default _ _ (by rwa [length_slacks h])

theorem inRange_slack (h : needs.OfLength tracks.length) (i : Nat) :
    InRange ((slacks tracks needs).getD i 0) := by
  rcases Nat.lt_or_ge i tracks.length with hi | hi
  · rw [getD_slacks h hi]
    split
    · exact minus_inRange ..
    · exact inRange_zero
  · rw [getD_slacks_of_ge h hi]
    exact inRange_zero

namespace Needs.Sound

theorem slack_nonneg (h : needs.Sound tracks groups) (i : Nat) :
    0 ≤ (slacks tracks needs).getD i 0 := by
  rcases Nat.lt_or_ge i tracks.length with hi | hi
  · have hle := h.ordered i
    rw [getD_slacks h.lengths hi]
    split
    · simp only [minus, clamp, lowest, highest]
      omega
    · exact Int.le_refl 0
  · exact (getD_slacks_of_ge h.lengths hi).ge

theorem slack_le (h : needs.Sound tracks groups) (i : Nat) :
    (slacks tracks needs).getD i 0 ≤ needs.preferred.getD i 0 - needs.minimum.getD i 0 := by
  have hle := h.ordered i
  rcases Nat.lt_or_ge i tracks.length with hi | hi
  · rw [getD_slacks h.lengths hi]
    split
    · exact clamp_le (by rw [lowest]; omega)
    · omega
  · rw [getD_slacks_of_ge h.lengths hi]
    omega

end Needs.Sound

/-! ## What each track gives -/

/-- By how much the tracks together are larger than the space there is. -/
def shortfall (needs : Needs) (available : Int) : Int := minus (total needs.preferred) available

/-- The part of its slack that every track would give if there were no rounding. -/
def exactPart (needs : Needs) (space available : Int) : ℚ :=
  min ((shortfall needs available : ℚ) / space) 1

theorem isPart_squeezeFactor {space : Int} (hpos : 0 < space) (hspace : InRange space)
    (h : available ≤ total needs.preferred) :
    (squeezeFactor needs space available).IsPart (exactPart needs space available) := by
  have hshort : 0 ≤ shortfall needs available := by
    simp only [shortfall, minus, clamp, lowest, highest]
    omega
  exact Binary64.isPart_min_div hshort (minus_inRange ..) hpos hspace

/-- How many pixels less than preferred the track at a position gets for itself. -/
def cut (tracks : List Track) (needs : Needs) (available : Int) (i : Nat) : Int :=
  let space := total (slacks tracks needs)
  if space ≤ 0 then 0
  else (.ofInt ((slacks tracks needs).getD i 0) * squeezeFactor needs space available :
    Binary64).round

namespace Needs.Sound

variable (h : needs.Sound tracks groups) (hshort : available ≤ total needs.preferred)

include h hshort

theorem cut_nonneg (i : Nat) : 0 ≤ cut tracks needs available i := by
  simp only [cut]
  split
  · exact Int.le_refl 0
  · rename_i hspace
    have hpart := isPart_squeezeFactor (not_le.1 hspace) (total_inRange _) hshort
    exact hpart.round_nonneg (h.slack_nonneg i) (inRange_slack h.lengths i)

theorem cut_le_slack (i : Nat) : cut tracks needs available i ≤ (slacks tracks needs).getD i 0 := by
  simp only [cut]
  split
  · exact h.slack_nonneg i
  · rename_i hspace
    have hpart := isPart_squeezeFactor (not_le.1 hspace) (total_inRange _) hshort
    exact hpart.round_le (h.slack_nonneg i) (inRange_slack h.lengths i)

/-- A track gives its part of the gap, up to half a pixel and a little for the doubles. -/
theorem le_cut (hspace : 0 < total (slacks tracks needs)) (i : Nat) :
    ((slacks tracks needs).getD i 0 : ℚ) *
        exactPart needs (total (slacks tracks needs)) available ≤
      cut tracks needs available i + 1 / 2 + (slacks tracks needs).getD i 0 / 2 ^ 51 := by
  have hpart := isPart_squeezeFactor hspace (total_inRange _) hshort
  simp only [cut, if_neg (not_le.2 hspace)]
  exact hpart.le_round (h.slack_nonneg i) (inRange_slack h.lengths i)

/-! ## Squeezed tracks -/

theorem getD_squeeze (i : Nat) :
    (squeeze tracks needs available).getD i 0 =
      needs.preferred.getD i 0 - cut tracks needs available i := by
  have hlow := h.cut_nonneg hshort i
  have hhigh := h.cut_le_slack hshort i
  have hslack := h.slack_le i
  have hmin := (h.inRange.minimum i).1
  have hmax := (h.inRange.preferred i).2
  -- The difference is between the minimum and the preferred size, so it is not cut off.
  rcases Nat.lt_or_ge i tracks.length with hi | hi
  · have hexact : minus (needs.preferred.getD i 0) (cut tracks needs available i) =
        needs.preferred.getD i 0 - cut tracks needs available i :=
      clamp_of_inRange ⟨by omega, by omega⟩
    rw [← hexact]
    simp only [squeeze, cut]
    split
    · rw [minus, Int.sub_zero]
      exact (clamp_of_inRange (h.inRange.preferred i)).symm
    · have hp := List.getElem?_eq_getElem (l := needs.preferred) (i := i)
        (by rwa [h.lengths.preferred])
      have hs := List.getElem?_eq_getElem (l := slacks tracks needs) (i := i)
        (by rwa [length_slacks h.lengths])
      simp only [List.getD_eq_getElem?_getD, List.getElem?_zipWith, hp, hs, Option.getD_some,
        squeezed]
  · have hzero := getD_slacks_of_ge h.lengths hi
    rw [List.getD_eq_default _ _ (by rwa [length_squeeze h.lengths]),
      List.getD_eq_default _ _ (by rwa [h.lengths.preferred])]
    omega

theorem minimum_le_squeeze (i : Nat) :
    needs.minimum.getD i 0 ≤ (squeeze tracks needs available).getD i 0 := by
  have hcut := h.cut_le_slack hshort i
  have hslack := h.slack_le i
  rw [h.getD_squeeze hshort]
  omega

theorem squeeze_le_preferred (i : Nat) :
    (squeeze tracks needs available).getD i 0 ≤ needs.preferred.getD i 0 := by
  have hcut := h.cut_nonneg hshort i
  rw [h.getD_squeeze hshort]
  omega

theorem equalize_squeeze_le_preferred (i : Nat) :
    (equalize groups (squeeze tracks needs available)).getD i 0 ≤ needs.preferred.getD i 0 := by
  have hlen : (squeeze tracks needs available).length = needs.preferred.length := by
    rw [length_squeeze h.lengths, h.lengths.preferred]
  have hwithin : GroupsWithin groups needs.preferred.length := by
    rw [h.lengths.preferred]
    exact h.within
  calc (equalize groups (squeeze tracks needs available)).getD i 0
      ≤ (equalize groups needs.preferred).getD i 0 :=
        getD_equalize_le hlen (h.squeeze_le_preferred hshort) groups i
    _ = needs.preferred.getD i 0 := hwithin.getD_equalize_of_uniform h.grouped.preferred i

theorem getD_equalize_squeeze (hmixed : inMixedGroup tracks groups i = false) :
    (equalize groups (squeeze tracks needs available)).getD i 0 =
      (squeeze tracks needs available).getD i 0 := by
  by_cases hmem : i + 1 ∈ groups.flatten
  · obtain ⟨group, hgroup, hi⟩ := List.mem_flatten.1 hmem
    have hwithin : GroupsWithin groups (squeeze tracks needs available).length := by
      rw [length_squeeze h.lengths]
      exact h.within
    -- Members of a group that is not mixed have the same slack, so they are squeezed to one size.
    apply hwithin.getD_equalize_of_common hgroup hi
    intro index hindex
    have hbounds := h.within.members index (List.mem_flatten.2 ⟨group, hgroup, hindex⟩)
    have hlast := h.within.members (i + 1) hmem
    have hnext : index - 1 + 1 = index := by omega
    have hpref := h.grouped.preferred group hgroup index hindex (i + 1) hi
    have hmin := h.grouped.minimum group hgroup index hindex (i + 1) hi
    rw [Nat.add_sub_cancel] at hpref hmin
    have hslack : (slacks tracks needs).getD (index - 1) 0 = (slacks tracks needs).getD i 0 := by
      rw [getD_slacks h.lengths (by omega), getD_slacks h.lengths (by omega), hpref, hmin, hnext,
        isElasticAt_eq_of_pure hmixed hgroup hi hindex]
    rw [h.getD_squeeze hshort, h.getD_squeeze hshort, hpref]
    simp only [cut, hslack]
  · exact getD_equalize_of_not_mem hmem

end Needs.Sound

/-! ## Fitted tracks -/

theorem Needs.Sound.minimum_le_fit (h : needs.Sound tracks groups) (available : Int) (i : Nat) :
    needs.minimum.getD i 0 ≤ (fit tracks groups needs available).getD i 0 := by
  unfold fit
  split
  · exact h.ordered i
  · rename_i hshort
    split
    · exact Int.le_refl _
    · exact (h.minimum_le_squeeze (not_le.1 hshort).le i).trans (getD_le_getD_equalize ..)

theorem Needs.Sound.fit_le_preferred (h : needs.Sound tracks groups) (available : Int) (i : Nat) :
    (fit tracks groups needs available).getD i 0 ≤ needs.preferred.getD i 0 := by
  unfold fit
  split
  · exact Int.le_refl _
  · rename_i hshort
    split
    · exact h.ordered i
    · exact h.equalize_squeeze_le_preferred (not_le.1 hshort).le i

theorem uniform_fit (h : needs.OfLength tracks.length) (hn : needs.Grouped groups)
    (hg : GroupsWithin groups tracks.length) (available : Int) :
    Uniform groups (fit tracks groups needs available) := by
  unfold fit
  split
  · exact hn.preferred
  · split
    · exact hn.minimum
    · rw [← length_squeeze h available] at hg
      exact hg.uniform_equalize

theorem inRange_fit (tracks : List Track) (hr : needs.InRange) (groups : List (List Nat))
    (available : Int) (i : Nat) : InRange ((fit tracks groups needs available).getD i 0) := by
  unfold fit
  split
  · exact hr.preferred i
  · split
    · exact hr.minimum i
    · apply getD_equalize_of_forall
      intro i
      simp only [squeeze]
      split
      · exact hr.preferred i
      · rw [List.getD_eq_getElem?_getD, List.getElem?_zipWith]
        split
        · exact minus_inRange ..
        · exact inRange_zero

end TrackGrid
