import Mathlib.Algebra.BigOperators.Field
import TrackGrid.Proofs.Layout.Sized

/-! # Tracks in a container that is large enough

A container that holds the minimum sizes is filled too far by rounding at most: half a pixel for
each track that gives way. Only groups in which some tracks give way and some do not can add to
that, by what their members could give.
-/

namespace TrackGrid

open Pixels

/-! ## Excess -/

/-- The positions of the tracks in mixed groups. -/
def mixedTracks (tracks : List Track) (groups : List (List Nat)) : Finset Nat :=
  (Finset.range tracks.length).filter fun i => inMixedGroup tracks groups i = true

def pureTracks (tracks : List Track) (groups : List (List Nat)) : Finset Nat :=
  (Finset.range tracks.length).filter fun i => ¬ inMixedGroup tracks groups i = true

/-- Those of the other tracks that give way. -/
def givers (tracks : List Track) (groups : List (List Nat)) (needs : Needs) : Finset Nat :=
  (pureTracks tracks groups).filter fun i => 0 < (slacks tracks needs).getD i 0

/-- By how much the tracks in mixed groups together prefer more than their minimum. -/
def mixedRoom (tracks : List Track) (groups : List (List Nat)) (needs : Needs) : Int :=
  ∑ i ∈ mixedTracks tracks groups, (needs.preferred.getD i 0 - needs.minimum.getD i 0)

/-- How far squeezed tracks can be above the space there is. -/
def squeezeExcess (tracks : List Track) (groups : List (List Nat)) (needs : Needs) : Int :=
  ((givers tracks groups needs).card / 2 : Nat) + mixedRoom tracks groups needs

/-- How far the shares of a surplus can be above it. -/
def shareExcess (tracks : List Track) (surplus : Int) : Int :=
  surplus * (2 * tracks.countP Track.grows + 3) / 2 ^ 53

/-- What tracks need when nothing that it comes from is negative. -/
structure Needs.Plain (needs : Needs) (tracks : List Track) (groups : List (List Nat)) : Prop
    extends Needs.Sound needs tracks groups where
  nonneg : ∀ i, 0 ≤ needs.minimum.getD i 0
  rigid : ∀ i ∈ pureTracks tracks groups, isElasticAt tracks (i + 1) = false →
    needs.preferred.getD i 0 = needs.minimum.getD i 0

/-! ## Squeezed tracks -/

theorem sum_pure_add_sum_mixed {tracks : List Track} (groups : List (List Nat)) {sizes : List Int}
    (h : sizes.length = tracks.length) :
    ∑ i ∈ pureTracks tracks groups, sizes.getD i 0 +
      ∑ i ∈ mixedTracks tracks groups, sizes.getD i 0 = sizes.sum := by
  rw [sum_eq_sum_getD, h, add_comm]
  exact Finset.sum_filter_add_sum_filter_not ..

theorem two_mul_min_le {gap space pure mixed cuts : Int} {count : Nat} (hspace : 0 < space)
    (hsplit : pure + mixed = space) (hmixed : 0 ≤ mixed) (hle : space ≤ highest)
    (hgive : pure * min ((gap : ℚ) / space) 1 ≤ cuts + count / 2 + pure / 2 ^ 51) :
    2 * min gap space ≤ 2 * cuts + 2 * mixed + count := by
  have hspace' : (0 : ℚ) < space := by exact_mod_cast hspace
  have hsplit' : (pure : ℚ) + mixed = space := by exact_mod_cast hsplit
  have hmixed' : (0 : ℚ) ≤ mixed := by exact_mod_cast hmixed
  have hpure : (pure : ℚ) < 2 ^ 50 := by
    have hlt : pure < 2 ^ 50 := by
      rw [highest] at hle
      omega
    exact_mod_cast hlt
  have hone : min ((gap : ℚ) / space) 1 ≤ 1 := min_le_right ..
  have hwhole : (space : ℚ) * min ((gap : ℚ) / space) 1 = min gap space := by
    rw [mul_min_of_nonneg _ _ hspace'.le, mul_div_cancel₀ _ hspace'.ne', mul_one, Int.cast_min]
  generalize min ((gap : ℚ) / space) 1 = part at *
  -- The mixed tracks may keep all that they could give.
  have hkept : mixed * part ≤ mixed := mul_le_of_le_one_right hmixed' hone
  have hlt : ((2 * min gap space : Int) : ℚ) < (2 * cuts + 2 * mixed + count + 1 : Int) := by
    push_cast at hwhole ⊢
    rw [← hwhole, ← hsplit', add_mul]
    linarith
  have hint : 2 * min gap space < 2 * cuts + 2 * mixed + count + 1 := by exact_mod_cast hlt
  omega

namespace Needs.Plain

variable {tracks : List Track} {groups : List (List Nat)} {needs : Needs} {available : Int}
  (h : needs.Plain tracks groups)

include h

theorem minimum_nonneg : ∀ size ∈ needs.minimum, 0 ≤ size := forall_mem_of_getD h.nonneg

theorem preferred_nonneg : ∀ size ∈ needs.preferred, 0 ≤ size :=
  forall_mem_of_getD fun i => (h.nonneg i).trans (h.ordered i)

theorem slacks_nonneg : ∀ slack ∈ slacks tracks needs, 0 ≤ slack :=
  forall_mem_of_getD h.slack_nonneg

theorem mixedRoom_nonneg : 0 ≤ mixedRoom tracks groups needs := by
  apply Finset.sum_nonneg
  intro i _
  have hle := h.ordered i
  omega

theorem sum_slack_le_mixedRoom :
    ∑ i ∈ mixedTracks tracks groups, (slacks tracks needs).getD i 0 ≤
      mixedRoom tracks groups needs :=
  Finset.sum_le_sum fun i _ => h.slack_le i

theorem sum_slacks_le : (slacks tracks needs).sum ≤ needs.preferred.sum - needs.minimum.sum := by
  rw [sum_eq_sum_getD, sum_eq_sum_getD needs.preferred, sum_eq_sum_getD needs.minimum,
    length_slacks h.lengths, h.lengths.preferred, h.lengths.minimum, ← Finset.sum_sub_distrib]
  exact Finset.sum_le_sum fun i _ => h.slack_le i

theorem sum_preferred_le :
    needs.preferred.sum + ∑ i ∈ mixedTracks tracks groups, (slacks tracks needs).getD i 0 ≤
      needs.minimum.sum + (slacks tracks needs).sum + mixedRoom tracks groups needs := by
  have hpure : ∑ i ∈ pureTracks tracks groups, needs.preferred.getD i 0 =
      ∑ i ∈ pureTracks tracks groups, needs.minimum.getD i 0 +
        ∑ i ∈ pureTracks tracks groups, (slacks tracks needs).getD i 0 := by
    rw [← Finset.sum_add_distrib]
    apply Finset.sum_congr rfl
    intro i hi
    have hlt : i < tracks.length := Finset.mem_range.1 (Finset.mem_filter.1 hi).1
    have hle := h.ordered i
    have hmin := h.nonneg i
    have hmax := (h.inRange.preferred i).2
    rw [getD_slacks h.lengths hlt]
    split
    · -- Nothing is negative, so the slack is the whole difference.
      have hexact : minus (needs.preferred.getD i 0) (needs.minimum.getD i 0) =
          needs.preferred.getD i 0 - needs.minimum.getD i 0 :=
        clamp_of_inRange ⟨by rw [lowest]; omega, by omega⟩
      omega
    · rename_i helastic
      rw [h.rigid i hi (by simpa using helastic), Int.add_zero]
  have hroom : mixedRoom tracks groups needs = ∑ i ∈ mixedTracks tracks groups,
      needs.preferred.getD i 0 - ∑ i ∈ mixedTracks tracks groups, needs.minimum.getD i 0 :=
    Finset.sum_sub_distrib ..
  have hp := sum_pure_add_sum_mixed groups h.lengths.preferred
  have hm := sum_pure_add_sum_mixed groups h.lengths.minimum
  have hs := sum_pure_add_sum_mixed groups (length_slacks h.lengths)
  omega

theorem sum_equalize_squeeze_le (hshort : available ≤ total needs.preferred) :
    (equalize groups (squeeze tracks needs available)).sum ≤
      needs.preferred.sum - ∑ i ∈ pureTracks tracks groups, cut tracks needs available i := by
  have hlen : (equalize groups (squeeze tracks needs available)).length = tracks.length := by
    rw [length_equalize, length_squeeze h.lengths]
  have hpure : ∑ i ∈ pureTracks tracks groups,
      (equalize groups (squeeze tracks needs available)).getD i 0 =
      ∑ i ∈ pureTracks tracks groups, needs.preferred.getD i 0 -
        ∑ i ∈ pureTracks tracks groups, cut tracks needs available i := by
    rw [← Finset.sum_sub_distrib]
    apply Finset.sum_congr rfl
    intro i hi
    have hmixed : inMixedGroup tracks groups i = false := by
      simpa using (Finset.mem_filter.1 hi).2
    rw [h.getD_equalize_squeeze hshort hmixed, h.getD_squeeze hshort]
  -- A mixed group can keep each of its members at what it prefers.
  have hmixed : ∑ i ∈ mixedTracks tracks groups,
      (equalize groups (squeeze tracks needs available)).getD i 0 ≤
      ∑ i ∈ mixedTracks tracks groups, needs.preferred.getD i 0 :=
    Finset.sum_le_sum fun i _ => h.equalize_squeeze_le_preferred hshort i
  rw [← sum_pure_add_sum_mixed groups hlen, ← sum_pure_add_sum_mixed groups h.lengths.preferred]
  omega

theorem sum_slack_mul_le (hshort : available ≤ total needs.preferred)
    (hspace : 0 < total (slacks tracks needs)) :
    (∑ i ∈ pureTracks tracks groups, (slacks tracks needs).getD i 0 : ℚ) *
        exactPart needs (total (slacks tracks needs)) available ≤
      ∑ i ∈ pureTracks tracks groups, (cut tracks needs available i : ℚ) +
        (givers tracks groups needs).card / 2 +
        (∑ i ∈ pureTracks tracks groups, (slacks tracks needs).getD i 0 : ℚ) / 2 ^ 51 := by
  have hgivers : ((givers tracks groups needs).card / 2 : ℚ) =
      ∑ i ∈ pureTracks tracks groups, if 0 < (slacks tracks needs).getD i 0 then 1 / 2 else 0 := by
    rw [← Finset.sum_filter, Finset.sum_const, nsmul_eq_mul, ← givers]
    ring
  rw [hgivers, Finset.sum_mul, Finset.sum_div, ← Finset.sum_add_distrib, ← Finset.sum_add_distrib]
  apply Finset.sum_le_sum
  intro i _
  have hcut := h.le_cut hshort hspace i
  split
  · exact hcut
  · -- A track without slack gives nothing, and nothing is rounded.
    rename_i hnone
    have hzero : (slacks tracks needs).getD i 0 = 0 :=
      le_antisymm (not_lt.1 hnone) (h.slack_nonneg i)
    have hnonneg : (0 : ℚ) ≤ cut tracks needs available i := by
      exact_mod_cast h.cut_nonneg hshort i
    rw [hzero]
    simpa using hnonneg

/-- The tracks give what is missing, or all of their slack, but for half a pixel each and for what
mixed groups keep. -/
theorem le_sum_cut (hpref : needs.preferred.sum ≤ highest) (hmin : needs.minimum.sum ≤ available)
    (hshort : available < needs.preferred.sum) :
    2 * min (needs.preferred.sum - available) (slacks tracks needs).sum ≤
      2 * ∑ i ∈ pureTracks tracks groups, cut tracks needs available i +
        2 * ∑ i ∈ mixedTracks tracks groups, (slacks tracks needs).getD i 0 +
        (givers tracks groups needs).card := by
  have hminimum : 0 ≤ needs.minimum.sum := List.sum_nonneg h.minimum_nonneg
  have hspaceLe := h.sum_slacks_le
  have htotal : total needs.preferred = needs.preferred.sum := by
    rw [total_of_nonneg h.preferred_nonneg, min_eq_right hpref]
  have hspaceEq : total (slacks tracks needs) = (slacks tracks needs).sum := by
    rw [total_of_nonneg h.slacks_nonneg, min_eq_right (by omega)]
  have hshortfall : shortfall needs available = needs.preferred.sum - available := by
    rw [shortfall, htotal]
    exact clamp_of_inRange ⟨by rw [lowest]; omega, by omega⟩
  have hle : available ≤ total needs.preferred := by omega
  have hcut : 0 ≤ ∑ i ∈ pureTracks tracks groups, cut tracks needs available i :=
    Finset.sum_nonneg fun i _ => h.cut_nonneg hle i
  have hmixed : 0 ≤ ∑ i ∈ mixedTracks tracks groups, (slacks tracks needs).getD i 0 :=
    Finset.sum_nonneg fun i _ => h.slack_nonneg i
  rcases Int.lt_or_le 0 (slacks tracks needs).sum with hspace | hspace
  · -- All of the slack is that of the pure tracks and that of the mixed ones.
    have hgive := h.sum_slack_mul_le hle (by omega)
    have hsplit := sum_pure_add_sum_mixed groups (length_slacks h.lengths)
    rw [hspaceEq, exactPart, hshortfall, ← Int.cast_sum, ← Int.cast_sum] at hgive
    exact two_mul_min_le hspace hsplit hmixed (by omega) hgive
  · omega

/-- Fitted tracks are not above the space there is by more than the excess, if their minimum sizes
are not above it. -/
theorem sum_fit_le (hpref : needs.preferred.sum ≤ highest) (hmin : needs.minimum.sum ≤ available) :
    (fit tracks groups needs available).sum ≤ available + squeezeExcess tracks groups needs := by
  have htotal : total needs.preferred = needs.preferred.sum := by
    rw [total_of_nonneg h.preferred_nonneg, min_eq_right hpref]
  have hroom := h.mixedRoom_nonneg
  rw [squeezeExcess]
  unfold fit
  split
  · -- There is room for what the tracks prefer.
    omega
  · split
    · -- The minimum sizes fill the space exactly.
      omega
    · have hle : available ≤ total needs.preferred := by omega
      have hsqueeze := h.sum_equalize_squeeze_le hle
      have hcut := h.le_sum_cut hpref hmin (by omega)
      have hgap := h.sum_preferred_le
      have hslack := h.sum_slack_le_mixedRoom
      omega

theorem sum_finalSizes_le (hpref : needs.preferred.sum ≤ highest)
    (hmin : needs.minimum.sum ≤ available) (hrange : available ≤ highest)
    (hinf : ∀ track ∈ tracks, track.grows = true →
      (.ofInt (minus available (total (fit tracks groups needs available))) * track.weight /
        weightSum tracks : Binary64).isInfinite = false) :
    (finalSizes tracks groups needs available).sum ≤
      available + max (squeezeExcess tracks groups needs)
        (shareExcess tracks (minus available (total (fit tracks groups needs available)))) := by
  have hfit := h.sum_fit_le hpref hmin
  have hfitRange := forall_mem_of_getD (inRange_fit tracks h.inRange groups available)
  have hfitNonneg : ∀ size ∈ fit tracks groups needs available, 0 ≤ size :=
    forall_mem_of_getD fun i => (h.nonneg i).trans (h.minimum_le_fit available i)
  have htotal := total_of_nonneg hfitNonneg
  have hsum : 0 ≤ (fit tracks groups needs available).sum := List.sum_nonneg hfitNonneg
  have hminimum : 0 ≤ needs.minimum.sum := List.sum_nonneg h.minimum_nonneg
  have hlen := length_fit h.lengths groups available
  rw [finalSizes_eq h.lengths h.inRange, shareExcess]
  generalize fit tracks groups needs available = fitted at *
  have hsurplus := minus_inRange available (total fitted)
  have hmax : total fitted ≤ 2147483647 := (total_inRange fitted).2
  have hexact : minus available (total fitted) = available - total fitted :=
    clamp_of_inRange ⟨by rw [lowest]; omega, by omega⟩
  generalize minus available (total fitted) = surplus at *
  have hplus := sum_zipWith_plus_le (hlen.trans length_gifts.symm) hfitRange
    (gifts_nonneg (Binary64.lt_of_inRange hsurplus))
  rcases Int.lt_or_le 0 surplus with hs | hs
  · have hgifts := sum_gifts_le hs hsurplus hinf
    omega
  · have hnone : (gifts tracks surplus).sum = 0 := by
      rw [gifts, if_neg (not_lt.2 hs)]
      simp
    omega

end Needs.Plain

/-! ## Grids -/

namespace Grid

variable {grid : Grid} {axis : Axis} {keys : List String} {measure : Measure} {options : Options}
  {components : List Component}

theorem plain_needs (h : grid.WellFormedAlong axis)
    (hregular : grid.RegularListed axis keys measure options)
    (hc : grid.components measure keys = .ok components) :
    (grid.needs axis options.metrics components).Plain (grid.tracks.along axis)
      (grid.groups.along axis) where
  toSound := sound_needs h hc (fun key hkey => (hregular.ordered key hkey).2) options.metrics
  nonneg := by
    apply getD_equalize_of_forall
    intro i
    change 0 ≤ (grid.ownSizes axis options.metrics components Extent.tight).getD i 0
    rw [getD_ownSizes]
    cases ht : (grid.tracks.along axis)[i]? with
    | none => exact Int.le_refl 0
    | some track =>
      apply Size.toPixels_nonneg (hregular.constants track (List.mem_of_getElem? ht))
      intro shown hshown basis
      obtain ⟨extent, hextent, rfl⟩ := List.mem_map.1 hshown
      obtain ⟨component, hmem, rfl⟩ := exists_of_mem_membersOf hextent
      have hnonneg := (hregular.nonnegAlong hc hmem).outerExtent_nonneg
      cases basis with
      | minimum => exact hnonneg .minimum
      | preferred => exact hnonneg .preferred
      | default => exact hnonneg .minimum
  rigid := by
    intro i hi hrigid
    have hpure := (Finset.mem_filter.1 hi).2
    exact preferred_eq_minimum h options.metrics components hrigid (by simpa using hpure)

theorem sum_minimum_le_available {minimum : Dimension} {container : Rect}
    (hregular : grid.RegularListed axis keys measure options)
    (hplain : (grid.needs axis options.metrics components).Plain (grid.tracks.along axis)
      (grid.groups.along axis))
    (hc : grid.components measure keys = .ok components)
    (hmin : grid.minimumSize keys measure options = .ok minimum)
    (hbig : minimum.along axis ≤ container.extent.along axis)
    (hsum : (grid.needs axis options.metrics components).minimum.sum + options.border.along axis ≤
      highest) :
    (grid.needs axis options.metrics components).minimum.sum ≤
      Grid.available container options axis := by
  have hborder := hregular.border
  have hnonneg : 0 ≤ (grid.needs axis options.metrics components).minimum.sum :=
    List.sum_nonneg hplain.minimum_nonneg
  have htotal := total_of_nonneg hplain.minimum_nonneg
  rw [minimumSize, formSize, hc, ok_bind] at hmin
  cases hmin
  rw [PerAxis.along_ofFn, formExtent] at hbig
  have hle : total (grid.needs axis options.metrics components).minimum ≤
      ((components.filter fun component => 1 < component.cell.span.along axis).map
        (stretchedTotal axis .minimum (grid.needs axis options.metrics components).minimum)).foldl
          max (total (grid.needs axis options.metrics components).minimum) :=
    le_foldl_max (.inl (Int.le_refl _))
  simp only [plus, clamp, lowest, highest] at *
  simp only [Grid.available, minus, clamp, lowest, highest]
  omega

theorem sum_sizesBetween_le {start : Int} {sizes : List Int} (hstart : InRange start)
    (h : ∀ size ∈ sizes, 0 ≤ size) : (sizesBetween (boundaries start sizes)).sum ≤ sizes.sum := by
  induction sizes generalizing start with
  | nil => exact Int.le_refl 0
  | cons size sizes ih =>
    obtain ⟨hsize, hrest⟩ := List.forall_mem_cons.1 h
    have htail := ih (plus_inRange start size) hrest
    have hfirst : minus (plus start size) start ≤ size := by
      simp only [InRange, minus, plus, clamp, lowest, highest] at *
      omega
    rw [sizesBetween_cons, List.sum_cons, List.sum_cons]
    omega

/-- In a container that holds the minimum size, the tracks go beyond the space there is by the
errors of rounding and by the room of mixed groups at most, while the shares are numbers. -/
theorem sum_sizes_le (h : grid.Reachable) (hregular : grid.RegularListed axis keys measure options)
    (hc : grid.components measure keys = .ok components) {minimum : Dimension}
    (hmin : grid.minimumSize keys measure options = .ok minimum) {container : Rect}
    (hbig : minimum.along axis ≤ container.extent.along axis) {layout : Layout}
    (hl : grid.layout container keys measure options = .ok layout)
    (hpref : (grid.needs axis options.metrics components).preferred.sum ≤ highest)
    (hsum : (grid.needs axis options.metrics components).minimum.sum + options.border.along axis ≤
      highest)
    (hinf : ∀ track ∈ grid.tracks.along axis, track.grows = true →
      (.ofInt (grid.spare axis options.metrics components (Grid.available container options axis)) *
        track.weight / weightSum (grid.tracks.along axis) : Binary64).isInfinite = false) :
    (layout.sizes axis).sum ≤ Grid.available container options axis +
      max (squeezeExcess (grid.tracks.along axis) (grid.groups.along axis)
          (grid.needs axis options.metrics components))
        (shareExcess (grid.tracks.along axis) (grid.spare axis options.metrics components
          (Grid.available container options axis))) := by
  have hplain := plain_needs (h.wellFormed axis) hregular hc
  have hroom := sum_minimum_le_available hregular hplain hc hmin hbig hsum
  have hrange : Grid.available container options axis ≤ highest := (minus_inRange ..).2
  have hnonneg : ∀ size ∈ grid.sized axis options.metrics components
      (Grid.available container options axis), 0 ≤ size :=
    forall_mem_of_getD fun i => (hplain.nonneg i).trans
      ((hplain.minimum_le_fit _ i).trans (getD_fitted_le_getD_sized i))
  rw [sizes_of_layout hc hl axis]
  exact (sum_sizesBetween_le (plus_inRange ..) hnonneg).trans
    (hplain.sum_finalSizes_le hpref hroom hrange hinf)

/-- Three columns of default size with a component in each. -/
def thirds : Grid :=
  [Edit.place "a" { start := ⟨1, 1⟩ }, .place "b" { start := ⟨2, 1⟩ },
    .place "c" { start := ⟨3, 1⟩ }].foldl after
    { tracks := ⟨List.replicate 3 (.sample (.component .default) .zero isWeight_zero),
        [.glue .vertical]⟩ }

theorem reachable_thirds : thirds.Reachable := reachable_foldl_after _ _ (by decide) (by decide)

def thirdsMeasure : Measure := fun _ => ⟨⟨0, 1, 1⟩, ⟨1, 1, 1⟩⟩

theorem regular_thirds : thirds.RegularListed .horizontal ["a", "b", "c"] thirdsMeasure {} where
  insets := by decide +kernel
  border := by decide
  measures := by decide
  constants := by decide
  ordered := by decide

theorem regular_labelled :
    labelled.RegularListed .horizontal ["label", "field"] labelledMeasure {} where
  insets := by decide +kernel
  border := by decide
  measures := by decide +kernel
  constants := by decide
  ordered := by decide +kernel

/-- In two pixels each of three columns would give a third of its pixel, which rounds to nothing.
The excess of one pixel is what three tracks that give way can make. -/
theorem sum_sizes_thirds :
    thirds.Reachable ∧ thirds.RegularListed .horizontal ["a", "b", "c"] thirdsMeasure {} ∧
      ∃ layout, thirds.layout ⟨⟨0, 0⟩, ⟨2, 1⟩⟩ ["a", "b", "c"] thirdsMeasure {} = .ok layout ∧
        (layout.sizes .horizontal).sum ≤ 2 + 1 := by
  have hc : thirds.components thirdsMeasure ["a", "b", "c"] = .ok _ := rfl
  have hmin : thirds.minimumSize ["a", "b", "c"] thirdsMeasure {} = .ok _ := rfl
  obtain ⟨layout, hl⟩ : ∃ layout, thirds.layout ⟨⟨0, 0⟩, ⟨2, 1⟩⟩ ["a", "b", "c"] thirdsMeasure {} =
      .ok layout := ⟨_, rfl⟩
  have hle := sum_sizes_le reachable_thirds regular_thirds hc hmin (by decide +kernel) hl
    (by decide +kernel) (by decide +kernel) (by decide +kernel)
  exact ⟨reachable_thirds, regular_thirds, layout, hl, hle.trans (by decide +kernel)⟩

/-- Containers that hold the minimum sizes, 0 and 10 pixels, and are filled beyond their 2 and 15
pixels: by rounding, and by a rigid column that keeps a column of default size from giving way. -/
theorem sum_sizes_above_available :
    (thirds.Reachable ∧ thirds.RegularListed .horizontal ["a", "b", "c"] thirdsMeasure {} ∧
      ∃ minimum layout, thirds.minimumSize ["a", "b", "c"] thirdsMeasure {} = .ok minimum ∧
        minimum.horizontal = 0 ∧
        thirds.layout ⟨⟨0, 0⟩, ⟨2, 1⟩⟩ ["a", "b", "c"] thirdsMeasure {} = .ok layout ∧
        layout.sizes .horizontal = [1, 1, 1]) ∧
    (labelled.Reachable ∧
      labelled.RegularListed .horizontal ["label", "field"] labelledMeasure {} ∧
      ∃ minimum layout, labelled.minimumSize ["label", "field"] labelledMeasure {} = .ok minimum ∧
        minimum.horizontal = 10 ∧
        labelled.layout ⟨⟨0, 0⟩, ⟨15, 1⟩⟩ ["label", "field"] labelledMeasure {} = .ok layout ∧
        layout.sizes .horizontal = [10, 10]) :=
  ⟨⟨reachable_thirds, regular_thirds, _, _, rfl, by decide +kernel, rfl, by decide +kernel⟩,
    reachable_labelled, regular_labelled, _, _, rfl, by decide +kernel, rfl, by decide +kernel⟩

end Grid

end TrackGrid
