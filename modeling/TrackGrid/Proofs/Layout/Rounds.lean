import Mathlib.Algebra.BigOperators.Group.List.Basic
import TrackGrid.Proofs.Layout.Sized

/-! # Spare space given out in rounds

A surplus can be given out pixel by pixel. Each track that grows first gets its share. Then these
tracks take turns, in their order, at one pixel each until nothing is left. The running program does
not go round: it computes how many turns each track has.

Main statement: `giveOut_in_rounds`.
-/

namespace TrackGrid

open Pixels

/-! ## The two loops -/

namespace Rounds

structure Gift where
  position : Nat
  pixels : Int

/-- Adds gifts to sizes one after the other. -/
def give (add : Int → Int → Int) (sizes : List Int) (gifts : List Gift) : List Int :=
  gifts.foldl (fun sizes gift => sizes.modify gift.position (add · gift.pixels)) sizes

/-- So many entries of a list that starts again at its end. -/
def cycled (list : List Nat) (count : Nat) : List Nat :=
  (List.range count).filterMap fun k => list[k % list.length]?

/-- The positions of the tracks that grow. -/
def positions (tracks : List Track) : List Nat := (Checked.growing 0 tracks).map (·.2)

def shares (tracks : List Track) (surplus : Int) : List Gift :=
  (Checked.growing 0 tracks).map fun (track, i) => ⟨i, share surplus (weightSum tracks) track⟩

/-- The pixels that the shares leave. -/
def rest (tracks : List Track) (surplus : Int) : Nat :=
  (surplus - total ((shares tracks surplus).map (·.pixels))).toNat

def turns (tracks : List Track) (surplus : Int) : List Gift :=
  (cycled (positions tracks) (rest tracks surplus)).map (⟨·, 1⟩)

/-- Gives out the shares and then the turns, with this addition. -/
def giveOut (add : Int → Int → Int) (tracks : List Track) (sizes : List Int) (surplus : Int) :
    List Int :=
  if (weightSum tracks).isPositive then
    give add (give add sizes (shares tracks surplus)) (turns tracks surplus)
  else sizes

/-! ## What one position gets -/

/-- The gifts to a position, in their order. -/
def giftsTo (i : Nat) (gifts : List Gift) : List Int :=
  (gifts.filter (·.position = i)).map (·.pixels)

theorem giftsTo_eq_nil {i : Nat} {gifts : List Gift} (h : ∀ gift ∈ gifts, gift.position ≠ i) :
    giftsTo i gifts = [] := by
  unfold giftsTo
  simpa using h

theorem getElem?_give (add : Int → Int → Int) (sizes : List Int) (gifts : List Gift) (i : Nat) :
    (give add sizes gifts)[i]? = (sizes[i]?).map ((giftsTo i gifts).foldl add) := by
  induction gifts generalizing sizes with
  | nil => simp [give, giftsTo]
  | cons gift gifts ih =>
    have hstep : give add sizes (gift :: gifts) =
        give add (sizes.modify gift.position (add · gift.pixels)) gifts := rfl
    rw [hstep, ih, List.getElem?_modify]
    by_cases hi : gift.position = i <;> cases sizes[i]? <;> simp [giftsTo, hi]

theorem getElem?_giveOut (add : Int → Int → Int) {tracks : List Track} (sizes : List Int)
    {surplus : Int} (hw : (weightSum tracks).isPositive = true) (i : Nat) :
    (giveOut add tracks sizes surplus)[i]? = (sizes[i]?).map
      ((giftsTo i (shares tracks surplus) ++ giftsTo i (turns tracks surplus)).foldl add) := by
  unfold giveOut
  rw [if_pos hw, getElem?_give, getElem?_give, Option.map_map]
  simp only [Function.comp_def, List.foldl_append]

/-! ## Turns -/

theorem cycled_succ (list : List Nat) (count : Nat) :
    cycled list (count + 1) = cycled list count ++ (list[count % list.length]?).toList := by
  unfold cycled
  rw [List.range_succ, List.filterMap_append]
  rfl

theorem mem_of_mem_cycled {list : List Nat} {count i : Nat} (h : i ∈ cycled list count) :
    i ∈ list := by
  obtain ⟨k, -, hk⟩ := List.mem_filterMap.1 h
  exact List.mem_of_getElem? hk

theorem turn_succ {count j : Nat} (hj : j < count) (rest : Nat) :
    turn (rest + 1) count j = turn rest count j + if rest % count = j then 1 else 0 := by
  have hcount : 0 < count := Nat.zero_lt_of_lt hj
  have hrest := Nat.div_add_mod rest count
  have hlt := Nat.mod_lt rest hcount
  unfold turn
  rw [← Int.natCast_ediv, ← Int.natCast_ediv]
  rcases Nat.lt_or_ge (rest % count + 1) count with hnext | hlast
  · obtain ⟨hdiv, hmod⟩ : (rest + 1) / count = rest / count ∧
        (rest + 1) % count = rest % count + 1 :=
      (Nat.div_mod_unique hcount).2 ⟨by omega, hnext⟩
    rw [hdiv, hmod]
    split <;> split <;> split <;> omega
  · -- The round is over, so the first one is next.
    obtain ⟨hdiv, hmod⟩ : (rest + 1) / count = rest / count + 1 ∧ (rest + 1) % count = 0 :=
      (Nat.div_mod_unique hcount).2 ⟨by rw [Nat.mul_succ]; omega, hcount⟩
    rw [hdiv, hmod]
    split <;> split <;> split <;> omega

theorem count_cycled {list : List Nat} (hnodup : list.Nodup) {j i : Nat} (hj : list[j]? = some i)
    (count : Nat) : ((cycled list count).count i : Int) = turn count list.length j := by
  obtain ⟨hlt, rfl⟩ := List.getElem?_eq_some_iff.1 hj
  induction count with
  | zero => simp [cycled, turn]
  | succ count ih =>
    have hmod := Nat.mod_lt count (Nat.zero_lt_of_lt hlt)
    rw [cycled_succ, List.count_append, turn_succ hlt, Nat.cast_add, ih,
      List.getElem?_eq_getElem hmod, Option.toList_some, List.count_singleton]
    simp [hnodup.getElem_inj_iff]

/-! ## The tracks that grow -/

variable {tracks : List Track} {surplus : Int} {track : Track} {i j : Nat}

theorem mem_growing_iff :
    (track, i) ∈ Checked.growing 0 tracks ↔ tracks[i]? = some track ∧ track.grows = true := by
  rw [Checked.growing, List.mem_filter, List.mk_mem_zipIdx_iff_getElem?]

theorem nodup_positions (tracks : List Track) : (positions tracks).Nodup := by
  have hsub : (positions tracks).Sublist ((tracks.zipIdx 0).map (·.2)) :=
    List.filter_sublist.map _
  rw [List.zipIdx_map_snd] at hsub
  exact hsub.nodup (List.nodup_range' ..)

theorem length_positions (tracks : List Track) :
    (positions tracks).length = (Checked.growing 0 tracks).length := List.length_map ..

theorem not_mem_positions (ht : tracks[i]? = some track) (h : track.grows = false) :
    i ∉ positions tracks := by
  intro hmem
  obtain ⟨⟨other, position⟩, hother, he⟩ := List.mem_map.1 hmem
  obtain ⟨hget, hgrows⟩ := mem_growing_iff.1 hother
  obtain rfl : position = i := he
  obtain rfl := Option.some.inj (ht.symm.trans hget)
  rw [h] at hgrows
  cases hgrows

theorem filter_eq_singleton {α : Type} {list : List α} {position : α → Nat}
    (hnodup : (list.map position).Nodup) {a : α} (ha : a ∈ list) :
    list.filter (position · = position a) = [a] := by
  induction list with
  | nil => cases ha
  | cons b list ih =>
    rw [List.map_cons, List.nodup_cons] at hnodup
    obtain ⟨hnot, hrest⟩ := hnodup
    rcases List.mem_cons.1 ha with rfl | ha
    · have hnone : list.filter (position · = position a) = [] := by
        simp only [List.filter_eq_nil_iff, decide_eq_true_eq]
        exact fun c hc he => hnot (he ▸ List.mem_map_of_mem hc)
      rw [List.filter_cons_of_pos (by simp), hnone]
    · have hne : position b ≠ position a := fun he => hnot (he ▸ List.mem_map_of_mem ha)
      rw [List.filter_cons_of_neg (by simpa using hne), ih hrest ha]

theorem giftsTo_shares (hj : (Checked.growing 0 tracks)[j]? = some (track, i)) :
    giftsTo i (shares tracks surplus) = [share surplus (weightSum tracks) track] := by
  have hone : (Checked.growing 0 tracks).filter (·.2 = i) = [(track, i)] :=
    filter_eq_singleton (nodup_positions tracks) (List.mem_of_getElem? hj)
  unfold giftsTo shares
  rw [List.filter_map, List.map_map]
  simp only [Function.comp_def, hone, List.map_cons, List.map_nil]

theorem giftsTo_turns (hj : (Checked.growing 0 tracks)[j]? = some (track, i)) :
    (giftsTo i (turns tracks surplus)).sum =
      turn (rest tracks surplus) (Checked.growing 0 tracks).length j := by
  have hposition : (positions tracks)[j]? = some i := by
    rw [positions, List.getElem?_map, hj, Option.map_some]
  have hcount := count_cycled (nodup_positions tracks) hposition (rest tracks surplus)
  rw [length_positions] at hcount
  unfold giftsTo turns
  rw [List.filter_map, List.map_map, ← hcount, List.count_eq_length_filter]
  simp [Function.comp_def, beq_eq_decide]

theorem giftsTo_of_not_mem (h : i ∉ positions tracks) :
    giftsTo i (shares tracks surplus) = [] ∧ giftsTo i (turns tracks surplus) = [] := by
  constructor
  · apply giftsTo_eq_nil
    intro gift hgift he
    obtain ⟨entry, hentry, rfl⟩ := List.mem_map.1 hgift
    exact h (he ▸ List.mem_map_of_mem hentry)
  · apply giftsTo_eq_nil
    intro gift hgift he
    obtain ⟨k, hk, rfl⟩ := List.mem_map.1 hgift
    exact h (he ▸ mem_of_mem_cycled hk)

/-! ## The closed form -/

theorem sum_map_growing {f : Track → Int} (h : ∀ track, track.grows = false → f track = 0)
    (first : Nat) (tracks : List Track) :
    ((Checked.growing first tracks).map (f ·.1)).sum = (tracks.map f).sum := by
  induction tracks generalizing first with
  | nil => rfl
  | cons track tracks ih =>
    rw [Checked.growing_cons, List.map_cons, List.sum_cons]
    split
    · rw [List.map_cons, List.sum_cons, ih]
    · rename_i hgrows
      rw [ih, h track (by simpa using hgrows), Int.zero_add]

/-- The track at position `k` among those that grow gets its share and the turns at `j + k`. -/
theorem getElem?_giftsFrom {whole : Binary64} {left count first k : Nat}
    (hk : (Checked.growing first tracks)[k]? = some (track, i)) (j : Nat) :
    first ≤ i ∧ (giftsFrom whole surplus left count j tracks)[i - first]? =
      some (share surplus whole track + turn left count (j + k)) := by
  induction tracks generalizing first j k with
  | nil => cases hk
  | cons head tracks ih =>
    rw [Checked.growing_cons] at hk
    unfold giftsFrom
    by_cases hgrows : head.grows = true
    · rw [if_pos hgrows] at hk ⊢
      cases k with
      | zero =>
        cases hk
        rw [Nat.sub_self]
        exact ⟨Nat.le_refl i, rfl⟩
      | succ k =>
        obtain ⟨hle, hget⟩ := ih hk (j + 1)
        have hi : i - first = i - (first + 1) + 1 := by omega
        rw [hi, List.getElem?_cons_succ, hget, Nat.add_right_comm]
        exact ⟨by omega, rfl⟩
    · rw [if_neg hgrows] at hk ⊢
      obtain ⟨hle, hget⟩ := ih hk j
      have hi : i - first = i - (first + 1) + 1 := by omega
      rw [hi, List.getElem?_cons_succ, hget]
      exact ⟨by omega, rfl⟩

theorem sum_shares : ((shares tracks surplus).map (·.pixels)).sum =
    (tracks.map (share surplus (weightSum tracks))).sum := by
  unfold shares
  rw [List.map_map]
  exact sum_map_growing (fun track => share_of_not_grows) 0 tracks

theorem foldl_add (pixels : List Int) (start : Int) :
    pixels.foldl (· + ·) start = start + pixels.sum := by
  induction pixels generalizing start with
  | nil => simp
  | cons first pixels ih => rw [List.foldl_cons, ih, List.sum_cons, Int.add_assoc]

theorem exists_size {sizes : List Int} (hlen : sizes.length = tracks.length)
    (ht : tracks[i]? = some track) : ∃ size, sizes[i]? = some size := by
  have hi := (List.getElem?_eq_some_iff.1 ht).1
  exact ⟨_, List.getElem?_eq_getElem (hlen ▸ hi)⟩

theorem getElem?_gifts_of_not_grows (ht : tracks[i]? = some track) (h : track.grows = false) :
    (gifts tracks surplus)[i]? = some 0 := by
  obtain ⟨gift, hgift⟩ := exists_size (@length_gifts tracks surplus) ht
  rw [hgift, ← getD_of_getElem? hgift, gift_of_not_grows ht h]

section

variable (hs : 0 < surplus) (hlt : surplus < 2 ^ 53)

include hs hlt

theorem pixels_nonneg : ∀ pixels ∈ (shares tracks surplus).map (·.pixels), 0 ≤ pixels := by
  unfold shares
  simp only [List.forall_mem_map]
  exact fun entry _ => share_nonneg hs.le hlt (isNonneg_weightSum tracks)

theorem rest_eq_leftover : rest tracks surplus = leftover tracks surplus := by
  unfold rest leftover
  rw [total_of_nonneg (pixels_nonneg hs hlt), total_of_nonneg (shares_nonneg hs hlt tracks),
    sum_shares]

theorem giftsTo_nonneg (i : Nat) :
    ∀ pixels ∈ giftsTo i (shares tracks surplus) ++ giftsTo i (turns tracks surplus),
      0 ≤ pixels := by
  intro pixels hpixels
  rcases List.mem_append.1 hpixels with hshare | hturn
  · apply pixels_nonneg hs hlt
    exact (List.filter_sublist.map _).subset hshare
  · obtain ⟨gift, hgift, rfl⟩ := List.mem_map.1 hturn
    obtain ⟨k, -, rfl⟩ := List.mem_map.1 (List.mem_filter.1 hgift).1
    exact zero_le_one

theorem getElem?_gifts_of_growing (hj : (Checked.growing 0 tracks)[j]? = some (track, i)) :
    (gifts tracks surplus)[i]? = some (share surplus (weightSum tracks) track +
      turn (rest tracks surplus) (Checked.growing 0 tracks).length j) := by
  rw [gifts, if_pos hs, rest_eq_leftover hs hlt, Checked.length_growing, ← Nat.zero_add j]
  exact (getElem?_giftsFrom hj 0).2

theorem sum_giftsTo (ht : tracks[i]? = some track) :
    (giftsTo i (shares tracks surplus) ++ giftsTo i (turns tracks surplus)).sum =
      (gifts tracks surplus).getD i 0 := by
  by_cases hgrows : track.grows = true
  · obtain ⟨j, hj⟩ := List.mem_iff_getElem?.1 (mem_growing_iff.2 ⟨ht, hgrows⟩)
    rw [giftsTo_shares hj, List.sum_append, giftsTo_turns hj, List.sum_singleton,
      getD_of_getElem? (getElem?_gifts_of_growing hs hlt hj)]
  · have hrigid : track.grows = false := by simpa using hgrows
    obtain ⟨hshares, hturns⟩ := @giftsTo_of_not_mem tracks surplus i (not_mem_positions ht hrigid)
    rw [hshares, hturns, gift_of_not_grows ht hrigid]
    rfl

variable {sizes : List Int} (hw : (weightSum tracks).isPositive = true)

include hw

/-- Stopping at the end of the range at every single pixel is stopping there once. -/
theorem giveOut_plus (hr : ∀ size ∈ sizes, InRange size) :
    giveOut plus tracks sizes surplus =
      (giveOut (· + ·) tracks sizes surplus).map clamp := by
  apply List.ext_getElem?
  intro i
  rw [getElem?_giveOut _ _ hw, List.getElem?_map, getElem?_giveOut _ _ hw]
  cases hi : sizes[i]? with
  | none => rfl
  | some size =>
    have hsize := hr size (List.mem_of_getElem? hi)
    have hfold := foldl_plus_clamp (@giftsTo_nonneg tracks surplus hs hlt i) hsize.1
    rw [clamp_of_inRange hsize] at hfold
    rw [Option.map_some, Option.map_some, Option.map_some, hfold, foldl_add]

variable (hlen : sizes.length = tracks.length)

include hlen

theorem giveOut_exact :
    giveOut (· + ·) tracks sizes surplus = sizes.zipWith (· + ·) (gifts tracks surplus) := by
  apply List.ext_getElem?
  intro i
  rw [getElem?_giveOut _ _ hw, List.getElem?_zipWith]
  cases ht : tracks[i]? with
  | none =>
    have hi : sizes[i]? = none := by
      rw [List.getElem?_eq_none_iff] at ht ⊢
      rwa [hlen]
    rw [hi]
    rfl
  | some track =>
    obtain ⟨size, hsize⟩ := exists_size hlen ht
    obtain ⟨gift, hgift⟩ := exists_size (@length_gifts tracks surplus) ht
    rw [hsize, hgift, Option.map_some, foldl_add, sum_giftsTo hs hlt ht, getD_of_getElem? hgift]

theorem giveOut_eq (hr : ∀ size ∈ sizes, InRange size) :
    TrackGrid.giveOut tracks sizes surplus =
      (giveOut (· + ·) tracks sizes surplus).map clamp := by
  rw [giveOut_exact hs hlt hw hlen, List.map_zipWith]
  simp only [TrackGrid.giveOut, if_pos hw, gifts, if_pos hs]
  exact grow_eq_zipWith hs.le hlt (isNonneg_weightSum tracks) 0 hlen hr

theorem giveOut_of_inRange (hr : ∀ size ∈ sizes, InRange size)
    (hfits : ∀ size ∈ giveOut (· + ·) tracks sizes surplus, InRange size) :
    TrackGrid.giveOut tracks sizes surplus =
      sizes.zipWith (· + ·) (gifts tracks surplus) := by
  have hkept := List.map_congr_left fun size hsize => clamp_of_inRange (hfits size hsize)
  rw [giveOut_eq hs hlt hw hlen hr, hkept, List.map_id', giveOut_exact hs hlt hw hlen]

end

end Rounds

/-! ## The running program -/

variable {tracks : List Track} {sizes : List Int} {surplus : Int}

/-- The running program gives what the two loops give. Some track grows, and the others keep their
sizes. If no addition leaves the range, the track at position `j` among those that grow gets its
share, a pixel for each full round, and one more if the last round reaches it. All sizes together
then grow by the surplus, unless the shares alone are more. -/
theorem giveOut_in_rounds (hlen : sizes.length = tracks.length) (hr : ∀ size ∈ sizes, InRange size)
    (hs : 0 < surplus) (hsurplus : InRange surplus) (hw : (weightSum tracks).isPositive = true) :
    let growing := Checked.growing 0 tracks
    let count := growing.length
    let rest := Rounds.rest tracks surplus
    giveOut tracks sizes surplus = Rounds.giveOut plus tracks sizes surplus ∧
      0 < count ∧
      (∀ (i : Nat) (track : Track), tracks[i]? = some track → track.grows = false →
        (giveOut tracks sizes surplus)[i]? = sizes[i]?) ∧
      ((∀ size ∈ Rounds.giveOut (· + ·) tracks sizes surplus, InRange size) →
        (∀ (j i : Nat) (track : Track), growing[j]? = some (track, i) →
          ∃ size, sizes[i]? = some size ∧ (giveOut tracks sizes surplus)[i]? =
            some (size + share surplus (weightSum tracks) track +
              (rest / count + if j < rest % count then 1 else 0))) ∧
        (((Rounds.shares tracks surplus).map (·.pixels)).sum ≤ surplus →
          (giveOut tracks sizes surplus).sum = sizes.sum + surplus)) := by
  intro growing count rest
  have hlt := Binary64.lt_of_inRange hsurplus
  have hgrows := exists_grows_of_isPositive hw
  have hgiven := Rounds.giveOut_eq hs hlt hw hlen hr
  refine ⟨hgiven.trans (Rounds.giveOut_plus hs hlt hw hr).symm, ?_, ?_, fun hfits => ?_⟩
  · change 0 < (Checked.growing 0 tracks).length
    rw [Checked.length_growing]
    exact List.countP_pos_iff.2 hgrows
  · intro i track ht hrigid
    obtain ⟨size, hsize⟩ := Rounds.exists_size hlen ht
    have hrange := clamp_of_inRange (hr size (List.mem_of_getElem? hsize))
    rw [hgiven, Rounds.giveOut_exact hs hlt hw hlen, List.getElem?_map, List.getElem?_zipWith,
      Rounds.getElem?_gifts_of_not_grows ht hrigid, hsize]
    simp [hrange]
  · rw [Rounds.giveOut_of_inRange hs hlt hw hlen hr hfits]
    constructor
    · intro j i track hj
      obtain ⟨ht, -⟩ := Rounds.mem_growing_iff.1 (List.mem_of_getElem? hj)
      obtain ⟨size, hsize⟩ := Rounds.exists_size hlen ht
      refine ⟨size, hsize, ?_⟩
      rw [List.getElem?_zipWith, hsize, Rounds.getElem?_gifts_of_growing hs hlt hj, Int.add_assoc]
      rfl
    · intro hshares
      rw [Rounds.sum_shares] at hshares
      rw [← List.sum_add_sum_eq_sum_zipWith_of_length_eq _ _ (by rw [hlen, length_gifts]),
        sum_gifts hs hsurplus hgrows, max_eq_left hshares]

theorem isWeight_heavy : (Binary64.ofDecimal 17 307).isWeight = true := by decide +kernel

def heavyTrack : Track := .sample (.constant ⟨.zero, .pixel⟩) (.ofDecimal 17 307) isWeight_heavy

/-- Two tracks of weight 1.7e308, and one between them that does not grow. -/
def enormous : List Track :=
  [heavyTrack, .sample (.constant ⟨.zero, .pixel⟩) .zero isWeight_zero, heavyTrack]

/-- The sum of these weights is an infinity, so nobody has a share. Seven pixels are three rounds
and a pixel for the first track. -/
theorem giveOut_to_enormous :
    (weightSum enormous).isPositive = true ∧
      giveOut enormous [10, 20, -5] 7 = Rounds.giveOut plus enormous [10, 20, -5] 7 ∧
      (giveOut enormous [10, 20, -5] 7)[0]? = some 14 ∧
      (giveOut enormous [10, 20, -5] 7)[1]? = some 20 ∧
      (giveOut enormous [10, 20, -5] 7)[2]? = some (-2) ∧
      (giveOut enormous [10, 20, -5] 7).sum = 25 + 7 := by
  have hw : (weightSum enormous).isPositive = true := by decide +kernel
  have hgrowing : Checked.growing 0 enormous = [(heavyTrack, 0), (heavyTrack, 2)] := by
    decide +kernel
  have hlen : ([10, 20, -5] : List Int).length = enormous.length := rfl
  have hr : ∀ size ∈ [10, 20, -5], InRange size := by decide
  obtain ⟨hloops, -, hkept, hfits⟩ :=
    giveOut_in_rounds hlen hr (by decide : (0 : Int) < 7) (by decide) hw
  obtain ⟨hgrown, hsum⟩ := hfits (by decide +kernel)
  refine ⟨hw, hloops, ?_, hkept 1 _ rfl (by decide), ?_, hsum (by decide +kernel)⟩
  · obtain ⟨size, hsize, hgiven⟩ := hgrown 0 0 heavyTrack (congrArg (·[0]?) hgrowing)
    obtain rfl := Option.some.inj hsize
    exact hgiven.trans (by decide +kernel)
  · obtain ⟨size, hsize, hgiven⟩ := hgrown 1 2 heavyTrack (congrArg (·[1]?) hgrowing)
    obtain rfl := Option.some.inj hsize
    exact hgiven.trans (by decide +kernel)

end TrackGrid
