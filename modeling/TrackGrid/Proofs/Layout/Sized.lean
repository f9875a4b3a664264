import TrackGrid.Proofs.Layout.Pass
import TrackGrid.Proofs.Layout.Surplus

/-! # Sizes of laid-out tracks

No track is smaller than its minimum, and only tracks that grow are larger than they prefer. Tracks
of a group are fitted to one size; the surplus is given to each of them for itself. Tracks that grow
fill the space there is, as long as their shares are numbers.
-/

namespace TrackGrid

open Pixels

/-! ## Boundaries -/

/-- No boundary is cut off at the ends of the range. -/
def Uncut (start : Int) (sizes : List Int) : Prop :=
  ∀ n ≤ sizes.length, InRange (start + (sizes.take n).sum)

instance (n : Int) : Decidable (InRange n) := inferInstanceAs (Decidable (_ ∧ _))

instance (start : Int) (sizes : List Int) : Decidable (Uncut start sizes) :=
  inferInstanceAs (Decidable (∀ n ≤ sizes.length, _))

theorem boundaries_eq_cons (start : Int) (sizes : List Int) :
    boundaries start sizes = start :: (boundaries start sizes).tail := by
  cases sizes <;> rfl

theorem sizesBetween_cons (start size : Int) (sizes : List Int) :
    sizesBetween (boundaries start (size :: sizes)) =
      minus (plus start size) start :: sizesBetween (boundaries (plus start size) sizes) := by
  rw [boundaries, sizesBetween, List.tail_cons, sizesBetween,
    boundaries_eq_cons (plus start size) sizes]
  rfl

theorem Uncut.cons {start size : Int} {sizes : List Int} (h : Uncut start (size :: sizes)) :
    plus start size = start + size ∧ Uncut (start + size) sizes := by
  constructor
  · have hone := h 1 (by simp)
    rw [List.take_succ_cons, List.take_zero, List.sum_singleton] at hone
    exact clamp_of_inRange hone
  · intro n hn
    have hsucc := h (n + 1) (by simpa using hn)
    rwa [List.take_succ_cons, List.sum_cons, ← Int.add_assoc] at hsucc

theorem getD_boundaries {start : Int} {sizes : List Int} (h : Uncut start sizes) {n : Nat}
    (hn : n ≤ sizes.length) : (boundaries start sizes).getD n 0 = start + (sizes.take n).sum := by
  induction sizes generalizing start n with
  | nil =>
    obtain rfl : n = 0 := by simpa using hn
    simp [boundaries]
  | cons size sizes ih =>
    obtain ⟨hnext, htail⟩ := h.cons
    cases n with
    | zero => simp [boundaries]
    | succ n =>
      rw [boundaries, hnext, List.getD_cons_succ, ih htail (Nat.le_of_succ_le_succ hn),
        List.take_succ_cons, List.sum_cons, Int.add_assoc]

theorem sizesBetween_boundaries {start : Int} {sizes : List Int} (h : Uncut start sizes)
    (hr : ∀ size ∈ sizes, InRange size) : sizesBetween (boundaries start sizes) = sizes := by
  induction sizes generalizing start with
  | nil => rfl
  | cons size sizes ih =>
    obtain ⟨hsize, hrest⟩ := List.forall_mem_cons.1 hr
    obtain ⟨hnext, htail⟩ := h.cons
    have hback : minus (start + size) start = size := by
      rw [minus, add_sub_cancel_left]
      exact clamp_of_inRange hsize
    rw [sizesBetween_cons, hnext, ih htail hrest, hback]

/-! ## Room -/

/-- Neither the sum of the sizes is cut off, nor what it leaves of the space, nor any of the sizes
with all of that added to it. -/
structure Roomy (sizes : List Int) (available : Int) : Prop where
  sum : total sizes = sizes.sum
  spare : available - sizes.sum ≤ highest
  size : ∀ size ∈ sizes, size + (available - sizes.sum) ≤ highest

theorem Roomy.of_nonneg {sizes : List Int} {available : Int} (h : ∀ size ∈ sizes, 0 ≤ size)
    (hfits : sizes.sum ≤ available) (hrange : available ≤ highest) : Roomy sizes available where
  sum := by rw [total_of_nonneg h, min_eq_right (hfits.trans hrange)]
  spare := by
    have hsum : 0 ≤ sizes.sum := List.sum_nonneg h
    omega
  size := by
    intro size hmem
    have hle : size ≤ sizes.sum := List.single_le_sum h size hmem
    omega

/-- A column for samples, with its contents to the left. -/
def Track.sample (size : Size) (weight : Binary64) (h : weight.isWeight = true) : Track where
  axis := .horizontal
  alignment := .left
  size
  weight
  weight_ok := h
  alignment_ok := by decide

namespace Grid

theorem reachable_foldl_after (tracks : PerAxis (List Track)) (edits : List Edit)
    (hcolumns : (edits.foldl after { tracks }).count .horizontal + 1 < Cell.coordinateLimit)
    (hrows : (edits.foldl after { tracks }).count .vertical + 1 < Cell.coordinateLimit) :
    (edits.foldl after { tracks }).Reachable :=
  ⟨⟨tracks, edits, rfl⟩, Axis.forall_iff.2 ⟨hcolumns, hrows⟩⟩

/-! ## The tracks of a grid -/

/-- The sizes of the tracks of an axis before spare space is given out. -/
def fitted (grid : Grid) (axis : Axis) (metrics : Metrics) (components : List Component)
    (available : Int) : List Int :=
  fit (grid.tracks.along axis) (grid.groups.along axis) (grid.needs axis metrics components)
    available

/-- The sizes of the tracks of an axis. -/
def sized (grid : Grid) (axis : Axis) (metrics : Metrics) (components : List Component)
    (available : Int) : List Int :=
  finalSizes (grid.tracks.along axis) (grid.groups.along axis) (grid.needs axis metrics components)
    available

/-- The pixels that the fitted tracks leave. -/
def spare (grid : Grid) (axis : Axis) (metrics : Metrics) (components : List Component)
    (available : Int) : Int :=
  minus available (total (grid.fitted axis metrics components available))

variable {grid : Grid} {axis : Axis} {metrics : Metrics} {components : List Component}
  {available : Int}

theorem inRange_fitted :
    ∀ size ∈ grid.fitted axis metrics components available, InRange size :=
  forall_mem_of_getD (inRange_fit _ (grid.inRange_needs axis metrics components) _ available)

theorem length_fitted : (grid.fitted axis metrics components available).length = grid.count axis :=
  length_fit (grid.ofLength_needs axis metrics components) _ available

theorem sized_eq : grid.sized axis metrics components available =
    (grid.fitted axis metrics components available).zipWith plus
      (gifts (grid.tracks.along axis) (grid.spare axis metrics components available)) :=
  finalSizes_eq (grid.ofLength_needs axis metrics components)
    (grid.inRange_needs axis metrics components) (grid.groups.along axis) available

theorem getD_sized (i : Nat) : (grid.sized axis metrics components available).getD i 0 =
    plus ((grid.fitted axis metrics components available).getD i 0)
      ((gifts (grid.tracks.along axis) (grid.spare axis metrics components available)).getD i 0) :=
  getD_finalSizes (grid.ofLength_needs axis metrics components)
    (grid.inRange_needs axis metrics components) (grid.groups.along axis) available i

theorem inRange_sized : ∀ size ∈ grid.sized axis metrics components available, InRange size := by
  apply forall_mem_of_getD
  intro i
  rw [getD_sized]
  exact plus_inRange ..

theorem getD_sized_of_not_grows {i : Nat} {track : Track}
    (ht : (grid.tracks.along axis)[i]? = some track) (h : track.grows = false) :
    (grid.sized axis metrics components available).getD i 0 =
      (grid.fitted axis metrics components available).getD i 0 := by
  rw [getD_sized, gift_of_not_grows ht h]
  exact plus_zero (getD_of_forall_mem inRange_zero inRange_fitted i)

theorem gifts_spare_nonneg :
    ∀ gift ∈ gifts (grid.tracks.along axis) (grid.spare axis metrics components available),
      0 ≤ gift :=
  gifts_nonneg (Binary64.lt_of_inRange (minus_inRange ..))

theorem getD_fitted_le_getD_sized (i : Nat) :
    (grid.fitted axis metrics components available).getD i 0 ≤
      (grid.sized axis metrics components available).getD i 0 := by
  rw [getD_sized]
  exact le_plus (getD_of_forall_mem inRange_zero inRange_fitted i)
    (getD_of_forall_mem (Int.le_refl 0) gifts_spare_nonneg i)

theorem sizes_of_layout {container : Rect} {keys : List String} {measure : Measure}
    {options : Options} {layout : Layout} (hc : grid.components measure keys = .ok components)
    (hl : grid.layout container keys measure options = .ok layout) (axis : Axis) :
    layout.sizes axis = sizesBetween (boundaries
      (plus (container.origin.along axis) (options.border.leading.along axis))
      (grid.sized axis options.metrics components (Grid.available container options axis))) := by
  rw [Grid.layout, hc, ok_bind] at hl
  cases hl
  rw [Layout.sizes, PerAxis.along_ofFn]
  rfl

/-! ## Limits -/

theorem sound_needs (h : grid.WellFormedAlong axis) {measure : Measure} {keys : List String}
    (hc : grid.components measure keys = .ok components)
    (hm : ∀ key ∈ keys, ((measure key).along axis).minimum ≤ ((measure key).along axis).default)
    (metrics : Metrics) :
    (grid.needs axis metrics components).Sound (grid.tracks.along axis)
      (grid.groups.along axis) where
  lengths := grid.ofLength_needs axis metrics components
  inRange := grid.inRange_needs axis metrics components
  ordered := by
    apply ordered_needs
    intro component hmem
    apply Component.minimum_le_default_outerExtent
    exact extents_of_max hc (P := fun extent => extent.minimum ≤ extent.default)
      (fun a b ha hb => max_le_max ha hb) hm hmem
  grouped := grouped_needs h metrics components
  within := h.groupsWithin

/-- Whatever space there is, no track is smaller than its minimum, and none that cannot grow is
larger than it prefers. -/
theorem sized_within_needs (h : grid.Reachable) {measure : Measure} {keys : List String}
    (hc : grid.components measure keys = .ok components) (axis : Axis)
    (hm : ∀ key ∈ keys, ((measure key).along axis).minimum ≤ ((measure key).along axis).default)
    (metrics : Metrics) (available : Int) {i : Nat} {track : Track}
    (ht : (grid.tracks.along axis)[i]? = some track) :
    (grid.needs axis metrics components).minimum.getD i 0 ≤
        (grid.sized axis metrics components available).getD i 0 ∧
      (track.grows = false →
        (grid.sized axis metrics components available).getD i 0 ≤
          (grid.needs axis metrics components).preferred.getD i 0) := by
  have hsound := sound_needs (h.wellFormed axis) hc hm metrics
  constructor
  · exact (hsound.minimum_le_fit available i).trans (getD_fitted_le_getD_sized i)
  · intro hrigid
    rw [getD_sized_of_not_grows ht hrigid]
    exact hsound.fit_le_preferred available i

/-- A label column of default size and a field column of preferred size, kept equally wide. -/
def labelled : Grid :=
  [Edit.place "label" { start := ⟨1, 1⟩ }, .place "field" { start := ⟨2, 1⟩ },
    .setGroups .horizontal [[1, 2]]].foldl after
    { tracks := ⟨[.sample (.component .default) .zero isWeight_zero,
        .sample (.component .preferred) .zero isWeight_zero], [.glue .vertical]⟩ }

theorem reachable_labelled : labelled.Reachable :=
  reachable_foldl_after _ _ (by decide) (by decide)

/-- Both can be empty; the label is 10 pixels wide if there is room, the field 5. -/
def labelledMeasure : Measure :=
  .ofTable ⟨[("label", ⟨⟨0, 10, 10⟩, ⟨1, 1, 1⟩⟩), ("field", ⟨⟨0, 5, 5⟩, ⟨1, 1, 1⟩⟩)]⟩

/-- The columns prefer 10 pixels each and need 5. In 12 pixels the field keeps what it prefers, and
the label keeps up with it. -/
theorem labelled_within_needs :
    ∃ components, labelled.components labelledMeasure ["label", "field"] = .ok components ∧
      labelled.needs .horizontal .standard components = ⟨[5, 5], [10, 10]⟩ ∧
      labelled.sized .horizontal .standard components 12 = [10, 10] ∧
      (labelled.needs .horizontal .standard components).minimum.getD 1 0 ≤
        (labelled.sized .horizontal .standard components 12).getD 1 0 ∧
      (labelled.sized .horizontal .standard components 12).getD 1 0 ≤
        (labelled.needs .horizontal .standard components).preferred.getD 1 0 := by
  have hc : labelled.components labelledMeasure ["label", "field"] = .ok _ := rfl
  have ht : (labelled.tracks.along .horizontal)[1]? = some _ := rfl
  have hwithin := sized_within_needs reachable_labelled hc .horizontal (by decide +kernel)
    .standard 12 ht
  exact ⟨_, hc, by decide +kernel, by decide +kernel, hwithin.1, hwithin.2 (by decide)⟩

/-! ## Groups -/

/-- The tracks of a group are fitted to one size, however scarce space is. The surplus is then given
to each of them for itself: a member that does not grow keeps the common size. -/
theorem sizes_of_group (h : grid.Reachable) {container : Rect} {keys : List String}
    {measure : Measure} {options : Options} {layout : Layout}
    (hc : grid.components measure keys = .ok components)
    (hl : grid.layout container keys measure options = .ok layout)
    (huncut : Uncut (plus (container.origin.along axis) (options.border.leading.along axis))
      (grid.sized axis options.metrics components (Grid.available container options axis)))
    {group : List Nat} (hgroup : group ∈ grid.groups.along axis) :
    ∃ common, ∀ index ∈ group,
      (grid.fitted axis options.metrics components (Grid.available container options axis)).getD
          (index - 1) 0 = common ∧
      (layout.sizes axis).getD (index - 1) 0 =
        plus common ((gifts (grid.tracks.along axis) (grid.spare axis options.metrics components
          (Grid.available container options axis))).getD (index - 1) 0) ∧
      (∀ track, (grid.tracks.along axis)[index - 1]? = some track →
        track.grows = false ∨ grid.spare axis options.metrics components
          (Grid.available container options axis) ≤ 0 →
        (layout.sizes axis).getD (index - 1) 0 = common) := by
  have hsizes := sizes_of_layout hc hl axis
  rw [sizesBetween_boundaries huncut inRange_sized] at hsizes
  rw [hsizes]
  generalize Grid.available container options axis = available
  cases group with
  | nil => exact ⟨0, by simp⟩
  | cons first rest =>
    refine ⟨(grid.fitted axis options.metrics components available).getD (first - 1) 0, ?_⟩
    intro index hindex
    have hcommon : (grid.fitted axis options.metrics components available).getD (index - 1) 0 =
        (grid.fitted axis options.metrics components available).getD (first - 1) 0 :=
      uniform_fit (grid.ofLength_needs axis options.metrics components)
        (grouped_needs (h.wellFormed axis) options.metrics components)
        (h.wellFormed axis).groupsWithin available (first :: rest) hgroup index hindex first
        List.mem_cons_self
    refine ⟨hcommon, by rw [getD_sized, hcommon], ?_⟩
    rintro track ht (hrigid | hspare)
    · rw [getD_sized_of_not_grows ht hrigid, hcommon]
    · rw [getD_sized, gifts_of_not_pos (not_lt.2 hspare), hcommon]
      exact plus_zero (getD_of_forall_mem inRange_zero inRange_fitted _)

/-- Two columns of 10 pixels that are kept equally wide, of which only the first one grows. -/
def lopsided : Grid :=
  [Edit.setGroups .horizontal [[1, 2]]].foldl after
    { tracks := ⟨[.sample (.constant ⟨.ofInt 10, .pixel⟩) .one isWeight_one,
        .sample (.constant ⟨.ofInt 10, .pixel⟩) .zero isWeight_zero], [.glue .vertical]⟩ }

theorem reachable_lopsided : lopsided.Reachable :=
  reachable_foldl_after _ _ (by decide) (by decide)

theorem lopsided_uncut :
    Uncut 0 (lopsided.sized .horizontal .standard [] 30) ∧
      lopsided.fitted .horizontal .standard [] 30 = [10, 10] := by
  decide +kernel

/-- The 10 pixels that are left go to the first column alone. -/
theorem lopsided_sizes_of_group :
    lopsided.Reachable ∧ [1, 2] ∈ lopsided.groups.along .horizontal ∧
      ∃ layout, lopsided.layout ⟨⟨0, 0⟩, ⟨30, 10⟩⟩ [] (.ofTable {}) {} = .ok layout ∧
        ∃ common, (layout.sizes .horizontal).getD 0 0 =
            plus common ((gifts (lopsided.tracks.along .horizontal) 10).getD 0 0) ∧
          (layout.sizes .horizontal).getD 1 0 = common := by
  have hc : lopsided.components (.ofTable {}) [] = .ok [] := rfl
  obtain ⟨layout, hl⟩ : ∃ layout,
      lopsided.layout ⟨⟨0, 0⟩, ⟨30, 10⟩⟩ [] (.ofTable {}) {} = .ok layout := ⟨_, rfl⟩
  have hgroup : [1, 2] ∈ lopsided.groups.along .horizontal := by decide
  have hspare : lopsided.spare .horizontal .standard [] 30 = 10 := by decide +kernel
  obtain ⟨common, hcommon⟩ := sizes_of_group reachable_lopsided hc hl lopsided_uncut.1 hgroup
  refine ⟨reachable_lopsided, hgroup, layout, hl, common, ?_, ?_⟩
  · rw [← hspare]
    exact (hcommon 1 (by decide)).2.1
  · exact (hcommon 2 (by decide)).2.2 _ rfl (.inl (by decide))

/-- Columns of one group that end up 20 and 10 pixels wide. -/
theorem lopsided_group_differs :
    lopsided.Reachable ∧ [1, 2] ∈ lopsided.groups.along .horizontal ∧
      Uncut 0 (lopsided.sized .horizontal .standard [] 30) ∧
      ∃ layout, lopsided.layout ⟨⟨0, 0⟩, ⟨30, 10⟩⟩ [] (.ofTable {}) {} = .ok layout ∧
        layout.sizes .horizontal = [20, 10] :=
  ⟨reachable_lopsided, by decide, lopsided_uncut.1, _, rfl, by decide +kernel⟩

/-! ## Filling the space -/

/-- Tracks that grow fill the space that the fitted tracks leave, to the pixel, while their shares
are numbers and the doubles are precise enough. The other tracks keep their fitted sizes. -/
theorem sum_sized_of_grows (hgrows : ∃ track ∈ grid.tracks.along axis, track.grows = true)
    (hfits : (grid.fitted axis metrics components available).sum ≤ available)
    (hroomy : Roomy (grid.fitted axis metrics components available) available)
    (hinf : ∀ track ∈ grid.tracks.along axis, track.grows = true →
      (.ofInt (available - (grid.fitted axis metrics components available).sum) * track.weight /
        weightSum (grid.tracks.along axis) : Binary64).isInfinite = false)
    (hprecise : (available - (grid.fitted axis metrics components available).sum) *
      (2 * (grid.tracks.along axis).countP Track.grows + 3) < 2 ^ 53) :
    (grid.sized axis metrics components available).sum = available ∧
      ∀ i track, (grid.tracks.along axis)[i]? = some track → track.grows = false →
        (grid.sized axis metrics components available).getD i 0 =
          (grid.fitted axis metrics components available).getD i 0 := by
  refine ⟨?_, fun i track ht hrigid => getD_sized_of_not_grows ht hrigid⟩
  obtain ⟨htotal, hmost, hroom⟩ := hroomy
  have hrange : ∀ size ∈ grid.fitted axis metrics components available, InRange size :=
    inRange_fitted
  have hlen : (grid.fitted axis metrics components available).length =
      (grid.tracks.along axis).length := length_fitted
  have hspare : grid.spare axis metrics components available =
      available - (grid.fitted axis metrics components available).sum := by
    rw [spare, htotal]
    exact clamp_of_inRange ⟨by rw [lowest]; omega, hmost⟩
  rw [sized_eq, hspare]
  generalize grid.fitted axis metrics components available = fitted at *
  generalize hsurplus : available - fitted.sum = surplus at *
  have hin : InRange surplus := ⟨by rw [lowest]; omega, hmost⟩
  have hgifts : (gifts (grid.tracks.along axis) surplus).sum = surplus := by
    rcases Int.lt_or_le 0 surplus with hs | hs
    · have hle := sum_gifts_le hs hin hinf
      have heq := sum_gifts hs hin hgrows
      have hsmall : surplus * (2 * (grid.tracks.along axis).countP Track.grows + 3) / 2 ^ 53 = 0 :=
        Int.ediv_eq_zero_of_lt (by positivity) hprecise
      omega
    · have hzero : surplus = 0 := by omega
      rw [hzero, gifts, if_neg (by decide)]
      simp
  have hplus := sum_zipWith_plus (hlen.trans length_gifts.symm) hrange
    (gifts_nonneg (Binary64.lt_of_inRange hin)) (by rwa [hgifts])
  omega

/-- Two columns that grow by weights 0.1 and 0.2, and one between them that does not. -/
def elastic : Grid where
  tracks := ⟨[.sample (.constant ⟨.ofInt 10, .pixel⟩) (.ofDecimal 1 (-1)) (by decide +kernel),
    .sample (.constant ⟨.ofInt 10, .pixel⟩) .zero isWeight_zero,
    .sample (.constant ⟨.ofInt 10, .pixel⟩) (.ofDecimal 2 (-1)) (by decide +kernel)], []⟩

theorem sum_sized_elastic :
    elastic.fitted .horizontal .standard [] 100 = [10, 10, 10] ∧
      (elastic.sized .horizontal .standard [] 100).sum = 100 ∧
      (elastic.sized .horizontal .standard [] 100).getD 1 0 = 10 := by
  have hfitted : elastic.fitted .horizontal .standard [] 100 = [10, 10, 10] := by decide +kernel
  have hroomy : Roomy (elastic.fitted .horizontal .standard [] 100) 100 :=
    .of_nonneg (by decide +kernel) (by decide +kernel) (by decide)
  have hsized := sum_sized_of_grows (by decide +kernel) (by decide +kernel) hroomy
    (by decide +kernel) (by decide +kernel)
  have hkept := hsized.2 1 _ rfl (by decide)
  rw [hfitted] at hkept
  exact ⟨hfitted, hsized.1, hkept⟩

/-- A column of weight 1.7e308. -/
def heavy : Grid where
  tracks := ⟨[.sample (.constant ⟨.zero, .pixel⟩) (.ofDecimal 17 307) (by decide +kernel)], []⟩

/-- Ten pixels times that weight are an infinity, and so is the share of the column. -/
theorem sized_heavy :
    heavy.Reachable ∧ (∃ track ∈ heavy.tracks.along .horizontal, track.grows = true) ∧
      heavy.fitted .horizontal .standard [] 10 = [0] ∧
      heavy.sized .horizontal .standard [] 10 = [2147483647] :=
  ⟨reachable_foldl_after _ [] (by decide) (by decide), by decide +kernel, by decide +kernel,
    by decide +kernel⟩

end Grid

end TrackGrid
