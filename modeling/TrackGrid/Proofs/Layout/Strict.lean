import TrackGrid.Proofs.Layout.Preferred

/-! # Layout passes without plain overflow

Most sums and differences of a pass stop at the ends of the pixel range, but two differences are
plain: what the shares leave of a surplus, and what a component leaves of its cell. Here is the pass
once more with these two able to fail. Main statement: tracks are sized without failure, whatever
is measured; components are placed without failure, and with no negative extent, if none is measured
below zero.
-/

namespace TrackGrid

open Pixels

/-! ## The pass -/

namespace Strict

/-- What could go wrong in a layout pass. -/
inductive PassError where
  | measure (error : MeasureError)
  /-- A difference is no number of pixels. -/
  | outOfRange (n : Int)

abbrev Pass := Except PassError

/-- Subtraction that does not stop at the ends of the range. -/
def difference (m n : Int) : Pass Int :=
  if lowest ≤ m - n ∧ m - n ≤ highest then .ok (m - n) else .error (.outOfRange (m - n))

def giveOut (tracks : List Track) (sizes : List Int) (surplus : Int) : Pass (List Int) := do
  let whole := weightSum tracks
  if whole.isPositive then
    let rest ← difference surplus (total (tracks.map (share surplus whole)))
    return grow whole surplus rest.toNat (tracks.countP Track.grows) 0 tracks sizes
  else return sizes

def finalSizes (tracks : List Track) (groups : List (List Nat)) (needs : Needs)
    (available : Int) : Pass (List Int) :=
  let sizes := fit tracks groups needs available
  let surplus := minus available (total sizes)
  if 0 < surplus then giveOut tracks sizes surplus else return sizes

def arrange (grid : Grid) (container : Rect) (components : List Component) (options : Options)
    (axis : Axis) : Pass (List Int) := do
  let sizes ← finalSizes (grid.tracks.along axis) (grid.groups.along axis)
    (grid.needs axis options.metrics components) (Grid.available container options axis)
  return boundaries (plus (container.origin.along axis) (options.border.leading.along axis)) sizes

/-- How much of the space that is left over comes before a component of this size. -/
def leadingSpace (alignment : Alignment) (room size : Int) : Pass Int :=
  match alignment with
  | .left | .top => return 0
  | .right | .bottom => difference room size
  | .center | .fill => return (← difference room size).tdiv 2

def placeIn (component : Component) (axis : Axis) (track : Track) (inner : Stretch) :
    Pass Stretch := do
  let alignment := (component.cell.alignment.along axis).orTrack track.alignment
  if alignment = .fill then return inner
  else
    let natural := (component.extents.along axis).natural track.size.basis? inner.extent
    let extent := min natural inner.extent
    return { origin := plus inner.origin (← leadingSpace alignment inner.extent extent), extent }

def place (component : Component) (axis : Axis) (tracks : List Track) (boundaries : List Int) :
    Pass Stretch :=
  placeIn component axis (tracks.getD (component.cell.start.along axis - 1) (.glue axis))
    (component.cell.inner axis boundaries)

def rectOf (grid : Grid) (boundaries : PerAxis (List Int)) (component : Component) : Pass Rect := do
  let x ← place component .horizontal grid.tracks.horizontal boundaries.horizontal
  let y ← place component .vertical grid.tracks.vertical boundaries.vertical
  return { origin := ⟨x.origin, y.origin⟩, extent := ⟨x.extent, y.extent⟩ }

def rects (grid : Grid) (boundaries : PerAxis (List Int)) (components : List Component) :
    Pass (Table Rect) := do
  let entries ← components.mapM fun component =>
    return (component.key, ← rectOf grid boundaries component)
  return entries.foldl (fun rects entry => rects.insert entry.1 entry.2) {}

def layout (grid : Grid) (container : Rect) (keys : List String) (measure : Measure)
    (options : Options) : Pass Layout := do
  let components ← (grid.components measure keys).mapError .measure
  let columns ← arrange grid container components options .horizontal
  let rows ← arrange grid container components options .vertical
  return { boundaries := ⟨columns, rows⟩, rects := ← rects grid ⟨columns, rows⟩ components }

end Strict

/-! ## Components in their cells -/

namespace Component

variable (component : Component) (axis : Axis) (track : Track) (room : Int)

/-- How the component stands in a cell that starts in this track. -/
def alignmentIn : Alignment := (component.cell.alignment.along axis).orTrack track.alignment

/-- The extent that the component is measured to have in a cell of `room` pixels. -/
def naturalIn : Int := (component.extents.along axis).natural track.size.basis? room

/-- Either the component fills the cell, or it is not measured below zero. -/
def NonnegIn : Prop :=
  component.alignmentIn axis track = .fill ∨ 0 ≤ component.naturalIn axis track room

/-- What the component leaves of the cell is not asked for, or it is a number of pixels. -/
def SpareFits : Prop :=
  component.alignmentIn axis track = .fill ∨ component.alignmentIn axis track = .left ∨
    component.alignmentIn axis track = .top ∨
    room - component.naturalIn axis track room ≤ highest

variable {component axis track room}

theorem naturalIn_nonneg (h : ∀ basis, 0 ≤ (component.extents.along axis).get basis) :
    0 ≤ component.naturalIn axis track room := by
  simp only [naturalIn, Extent.natural]
  split
  · exact h .minimum
  · split
    · exact h .minimum
    · exact h .preferred
  · exact h .preferred
  · exact h .preferred

theorem NonnegIn.spareFits (h : component.NonnegIn axis track room) (hroom : room ≤ highest) :
    component.SpareFits axis track room := by
  rcases h with hfill | hnatural
  · exact .inl hfill
  · exact .inr (.inr (.inr (by omega)))

theorem extent_placeIn_nonneg_iff {inner : Stretch} (h : 0 ≤ inner.extent) :
    0 ≤ (component.placeIn axis track inner).extent ↔
      component.NonnegIn axis track inner.extent := by
  simp only [placeIn]
  split
  · rename_i hfill
    exact ⟨fun _ => .inl hfill, fun _ => h⟩
  · rename_i hfill
    exact ⟨fun hmin => .inr (le_min_iff.1 hmin).1,
      fun hin => le_min (hin.resolve_left hfill) h⟩

end Component

theorem Cell.extent_inner_nonneg (cell : Cell) (axis : Axis) (boundaries : List Int) :
    0 ≤ (cell.inner axis boundaries).extent := Int.le_max_left ..

theorem Cell.extent_inner_le (cell : Cell) (axis : Axis) (boundaries : List Int) :
    (cell.inner axis boundaries).extent ≤ highest :=
  max_le (by decide) (minus_inRange ..).2

/-! ## Differences that do not fail -/

namespace Strict

theorem difference_eq_ok_iff {m n k : Int} :
    difference m n = .ok k ↔ InRange (m - n) ∧ k = m - n := by
  rw [difference, ite_eq_ok_iff, Except.ok.injEq, eq_comm]
  rfl

/-- Shares are not negative, so what they leave of a surplus is a number of pixels even if they are
more than it. -/
theorem giveOut_eq_ok (tracks : List Track) (sizes : List Int) {surplus : Int} (hs : 0 < surplus)
    (hrange : InRange surplus) :
    giveOut tracks sizes surplus = .ok (TrackGrid.giveOut tracks sizes surplus) := by
  have hshares := shares_nonneg hs (Binary64.lt_of_inRange hrange) tracks
  have htotal : 0 ≤ total (tracks.map (share surplus (weightSum tracks))) := by
    rw [total_of_nonneg hshares]
    exact le_min (by decide) (List.sum_nonneg hshares)
  have hrest : difference surplus (total (tracks.map (share surplus (weightSum tracks)))) =
      .ok (surplus - total (tracks.map (share surplus (weightSum tracks)))) := by
    have hle := (total_inRange (tracks.map (share surplus (weightSum tracks)))).2
    have hhigh := hrange.2
    refine difference_eq_ok_iff.2 ⟨⟨?_, by omega⟩, rfl⟩
    simp only [lowest, highest] at *
    omega
  simp only [giveOut, TrackGrid.giveOut, hrest]
  split <;> rfl

theorem finalSizes_eq_ok (tracks : List Track) (groups : List (List Nat)) (needs : Needs)
    (available : Int) : finalSizes tracks groups needs available =
      .ok (TrackGrid.finalSizes tracks groups needs available) := by
  simp only [finalSizes, TrackGrid.finalSizes]
  split
  · exact giveOut_eq_ok tracks _ ‹_› (minus_inRange ..)
  · rfl

theorem arrange_eq_ok (grid : Grid) (container : Rect) (components : List Component)
    (options : Options) (axis : Axis) : arrange grid container components options axis =
      .ok (grid.arrange container components options axis) := by
  rw [arrange, finalSizes_eq_ok]
  rfl

/-! ## Placing -/

theorem leadingSpace_eq_ok_iff {alignment : Alignment} {room size k : Int} (h : size ≤ room) :
    leadingSpace alignment room size = .ok k ↔
      (alignment = .left ∨ alignment = .top ∨ room - size ≤ highest) ∧
        k = alignment.leadingSpace (room - size) := by
  have hrange : InRange (room - size) ↔ room - size ≤ highest :=
    and_iff_right (by simp only [lowest]; omega)
  cases alignment with
  | left | top => simp [leadingSpace, Alignment.leadingSpace, @eq_comm _ k]
  | right | bottom => simp [leadingSpace, Alignment.leadingSpace, difference_eq_ok_iff, hrange]
  | center | fill =>
    simp [leadingSpace, Alignment.leadingSpace, bind_eq_ok_iff, difference_eq_ok_iff, hrange,
      and_assoc, @eq_comm _ k]

theorem placeIn_eq_ok_iff {component : Component} {axis : Axis} {track : Track}
    {inner stretch : Stretch} :
    placeIn component axis track inner = .ok stretch ↔
      component.SpareFits axis track inner.extent ∧
        stretch = component.placeIn axis track inner := by
  simp only [placeIn, Component.placeIn, Component.SpareFits, Component.alignmentIn,
    Component.naturalIn]
  generalize (component.cell.alignment.along axis).orTrack track.alignment = alignment
  generalize (component.extents.along axis).natural track.size.basis? inner.extent = natural
  have hspare : inner.extent - min natural inner.extent ≤ highest ↔
      inner.extent - natural ≤ highest := by
    have hzero : 0 ≤ highest := by decide
    omega
  split
  · rename_i hfill
    simp [hfill, @eq_comm _ stretch]
  · rename_i hfill
    rw [bind_eq_ok_iff_of_unique fun _ => leadingSpace_eq_ok_iff (min_le_right natural inner.extent),
      hspare, pure_eq_ok, Except.ok.injEq, or_iff_right hfill, @eq_comm _ stretch]

end Strict

namespace Grid

def firstTrack (grid : Grid) (axis : Axis) (component : Component) : Track :=
  (grid.tracks.along axis).getD (component.cell.start.along axis - 1) (.glue axis)

def NonnegIn (grid : Grid) (boundaries : PerAxis (List Int)) (component : Component) (axis : Axis) :
    Prop :=
  component.NonnegIn axis (grid.firstTrack axis component)
    (component.cell.inner axis (boundaries.along axis)).extent

def SpareFits (grid : Grid) (boundaries : PerAxis (List Int)) (component : Component) : Prop :=
  ∀ axis, component.SpareFits axis (grid.firstTrack axis component)
    (component.cell.inner axis (boundaries.along axis)).extent

theorem extent_rectOf_nonneg_iff (grid : Grid) (boundaries : PerAxis (List Int))
    (component : Component) (axis : Axis) :
    0 ≤ (grid.rectOf boundaries component).extent.along axis ↔
      grid.NonnegIn boundaries component axis := by
  rw [rectOf, PerAxis.along_ofFn]
  exact Component.extent_placeIn_nonneg_iff (component.cell.extent_inner_nonneg ..)

end Grid

namespace Strict

theorem rectOf_eq_ok_iff {grid : Grid} {boundaries : PerAxis (List Int)} {component : Component}
    {rect : Rect} : rectOf grid boundaries component = .ok rect ↔
      grid.SpareFits boundaries component ∧ rect = grid.rectOf boundaries component := by
  rw [rectOf, place, place, bind_eq_ok_iff_of_unique fun _ => placeIn_eq_ok_iff,
    bind_eq_ok_iff_of_unique fun _ => placeIn_eq_ok_iff, pure_eq_ok, Except.ok.injEq,
    @eq_comm _ _ rect, Grid.SpareFits, Axis.forall_iff, and_assoc]
  exact Iff.rfl

theorem rects_eq_ok_iff {grid : Grid} {boundaries : PerAxis (List Int)}
    {components : List Component} {table : Table Rect} :
    rects grid boundaries components = .ok table ↔
      (∀ component ∈ components, grid.SpareFits boundaries component) ∧
        table = grid.rects boundaries components := by
  have hentry (component : Component) (entry : String × Rect) :
      (do return (component.key, ← rectOf grid boundaries component)) = Except.ok entry ↔
        grid.SpareFits boundaries component ∧
          entry = (component.key, grid.rectOf boundaries component) := by
    rw [bind_eq_ok_iff_of_unique fun _ => rectOf_eq_ok_iff, pure_eq_ok, Except.ok.injEq,
      @eq_comm _ entry]
  rw [rects, bind_eq_ok_iff_of_unique fun _ => mapM_eq_ok_iff_map hentry, pure_eq_ok,
    Except.ok.injEq, @eq_comm _ _ table, List.foldl_map]
  rfl

theorem layout_eq_ok_iff {grid : Grid} {container : Rect} {keys : List String} {measure : Measure}
    {options : Options} {components : List Component}
    (hc : grid.components measure keys = .ok components) {layout : Layout} :
    Strict.layout grid container keys measure options = .ok layout ↔
      (∀ component ∈ components, grid.SpareFits
        (.ofFn (grid.arrange container components options)) component) ∧
        grid.layout container keys measure options = .ok layout := by
  rw [Strict.layout, Grid.layout, hc, mapError_ok, ok_bind, ok_bind, arrange_eq_ok, ok_bind,
    arrange_eq_ok, ok_bind, bind_eq_ok_iff_of_unique fun _ => rects_eq_ok_iff]
  simp only [pure_eq_ok, Except.ok.injEq]
  exact Iff.rfl

end Strict

namespace Grid

variable {grid : Grid} {keys : List String}

/-- Sizing tracks does not overflow, whatever is measured. Placing components overflows only for one
that is measured so far below zero that what it leaves of its cell is no number of pixels, and an
extent is negative only for one that is measured below zero and does not fill its cell. -/
theorem pass_stays_in_range (h : grid.Reachable)
    (hk : ∀ key ∈ keys, grid.cells.contains key = true) (container : Rect) (measure : Measure)
    (options : Options) :
    ∃ components layout, grid.components measure keys = .ok components ∧
      grid.layout container keys measure options = .ok layout ∧
      (∀ axis, Strict.arrange grid container components options axis =
        .ok (layout.boundaries.along axis)) ∧
      (Strict.layout grid container keys measure options = .ok layout ↔
        ∀ component ∈ components, grid.SpareFits layout.boundaries component) ∧
      (∀ component ∈ components, ∃ rect, layout.rects.get? component.key = some rect ∧
        ∀ axis, 0 ≤ rect.extent.along axis ↔ grid.NonnegIn layout.boundaries component axis) ∧
      ((∀ key ∈ keys, ∀ axis basis, 0 ≤ ((measure key).along axis).get basis) →
        Strict.layout grid container keys measure options = .ok layout ∧
        ∀ key ∈ keys, ∃ rect, layout.rects.get? key = some rect ∧
          ∀ axis, 0 ≤ rect.extent.along axis) := by
  obtain ⟨components, hc, hkeys, -⟩ := components_eq_ok h hk measure
  obtain ⟨layout, hlayout, -, -⟩ := layout_of_components hc hkeys container options
  obtain ⟨components', hc', hboundaries, hrects⟩ := exists_components_of_layout hlayout
  obtain rfl := Except.ok.inj (hc.symm.trans hc')
  have hstrict : Strict.layout grid container keys measure options = .ok layout ↔
      ∀ component ∈ components, grid.SpareFits layout.boundaries component := by
    rw [Strict.layout_eq_ok_iff hc, and_iff_left hlayout, hboundaries]
  have hextents : ∀ component ∈ components, ∃ rect,
      layout.rects.get? component.key = some rect ∧ ∀ axis, 0 ≤ rect.extent.along axis ↔
        grid.NonnegIn layout.boundaries component axis := by
    intro component hmem
    rw [hrects]
    exact ⟨_, get?_rects hc hmem _, grid.extent_rectOf_nonneg_iff _ component⟩
  refine ⟨components, layout, hc, hlayout, fun axis => ?_, hstrict, hextents, fun hmeasure => ?_⟩
  · rw [Strict.arrange_eq_ok, hboundaries, PerAxis.along_ofFn]
  · have hnonneg : ∀ component ∈ components, ∀ axis,
        grid.NonnegIn layout.boundaries component axis := by
      intro component hmem axis
      have hextents := extents_nonneg hc (fun key hkey => hmeasure key hkey axis) hmem
      exact .inr (Component.naturalIn_nonneg hextents)
    refine ⟨hstrict.2 fun component hmem axis => ?_, fun key hkey => ?_⟩
    · exact (hnonneg component hmem axis).spareFits (component.cell.extent_inner_le ..)
    · obtain ⟨component, hmem, rfl⟩ := exists_component_of_mem hc hkey
      obtain ⟨rect, hrect, hiff⟩ := hextents component hmem
      exact ⟨rect, hrect, fun axis => (hiff axis).2 (hnonneg component hmem axis)⟩

/-- A title at the left of a column of ten pixels and a note at its right. -/
def narrow : Grid :=
  [Edit.place "title" { start := ⟨1, 1⟩ },
    .place "note" { start := ⟨1, 1⟩, alignment := ⟨.own .right, .inherited⟩ }].foldl after
    { tracks := ⟨[.sample (.constant ⟨.ofInt 10, .pixel⟩) .zero isWeight_zero], [preferredRow]⟩ }

theorem reachable_narrow : narrow.Reachable :=
  reachable_foldl_after _ _ (by decide) (by decide +kernel)

/-- The title is wider than its column, and is cut off. -/
theorem narrow_stays_in_range :
    ∃ layout, Strict.layout narrow ⟨⟨0, 0⟩, ⟨10, 10⟩⟩ ["title"] titledMeasure {} = .ok layout ∧
      layout.rects.get? "title" = some ⟨⟨0, 0⟩, ⟨10, 5⟩⟩ ∧
      ∀ key ∈ ["title"], ∃ rect, layout.rects.get? key = some rect ∧
        ∀ axis, 0 ≤ rect.extent.along axis := by
  have hl : narrow.layout ⟨⟨0, 0⟩, ⟨10, 10⟩⟩ ["title"] titledMeasure {} = .ok _ := rfl
  have hmeasure : ∀ key ∈ ["title"], ∀ axis basis,
      0 ≤ ((titledMeasure key).along axis).get basis := by decide +kernel
  have hk : ∀ key ∈ ["title"], narrow.cells.contains key = true := by decide +kernel
  obtain ⟨components, layout, -, hok, -, -, -, hnonneg⟩ :=
    pass_stays_in_range reachable_narrow hk ⟨⟨0, 0⟩, ⟨10, 10⟩⟩ titledMeasure {}
  obtain rfl := Except.ok.inj (hl.symm.trans hok)
  obtain ⟨hstrict, hextents⟩ := hnonneg hmeasure
  exact ⟨_, hstrict, by decide +kernel, hextents⟩

/-- No component prefers less. -/
def belowZero : Measure :=
  .ofTable ⟨[("title", ⟨⟨0, -5, -5⟩, ⟨0, 5, 5⟩⟩), ("note", ⟨⟨0, lowest, lowest⟩, ⟨0, 5, 5⟩⟩)]⟩

/-- The title gets the negative width that it is measured to have, though its column leaves it ten
pixels. What the note leaves of them is no number of pixels. -/
theorem narrow_goes_below_zero :
    narrow.Reachable ∧
      (∃ layout, narrow.layout ⟨⟨0, 0⟩, ⟨10, 10⟩⟩ ["title"] belowZero {} = .ok layout ∧
        layout.rects.get? "title" = some ⟨⟨0, 0⟩, ⟨-5, 5⟩⟩) ∧
      (Strict.layout narrow ⟨⟨0, 0⟩, ⟨10, 10⟩⟩ ["note"] belowZero {}).toOption = none :=
  ⟨reachable_narrow, ⟨_, rfl, by decide +kernel⟩, by decide +kernel⟩

end Grid

end TrackGrid
