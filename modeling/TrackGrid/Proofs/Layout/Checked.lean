import TrackGrid.Layout

/-! # Layout passes that check every look-up

A layout pass looks up tracks, sizes and boundaries by number, and it asks for the pixels of sizes
that depend on components. Here is the pass once more, step by step, with every one of these able to
fail.
-/

namespace TrackGrid.Checked

open Pixels

/-- What could go wrong in a layout pass. -/
inductive PassError where
  | measure (error : MeasureError)
  | unmeasured (error : Unmeasured)
  /-- A list of so many entries has none with this number. -/
  | outside (index length : Nat)

abbrev Pass := Except PassError

/-! ## Look-ups -/

section

variable {α : Type}

/-- The entry with this number, counted from 1. -/
def entry (list : List α) (index : Nat) : Pass α :=
  if h : 1 ≤ index ∧ index ≤ list.length then .ok (list.get ⟨index - 1, by omega⟩)
  else .error (.outside index list.length)

def setEntry (list : List α) (index : Nat) (a : α) : Pass (List α) :=
  if 1 ≤ index ∧ index ≤ list.length then .ok (list.set (index - 1) a)
  else .error (.outside index list.length)

/-- So many entries from this one on. -/
def slice (list : List α) (start count : Nat) : Pass (List α) :=
  if 1 ≤ start ∧ start + count ≤ list.length + 1 then
    .ok ((list.drop (start - 1)).take count)
  else .error (.outside (start + count) list.length)

def onBoth (f : Axis → Pass α) : Pass (PerAxis α) :=
  return ⟨← f .horizontal, ← f .vertical⟩

end

/-! ## What tracks need -/

/-- Reads the sizes of all members, then writes the largest to each of them. -/
def equalizeGroup (sizes : List Int) (group : List Nat) : Pass (List Int) := do
  let largest := ((← group.mapM (entry sizes)).max?).getD 0
  group.foldlM (fun sizes index => setEntry sizes index largest) sizes

def equalize (groups : List (List Nat)) (sizes : List Int) : Pass (List Int) :=
  groups.foldlM equalizeGroup sizes

/-- The sizes of the tracks of an axis, as the components in each of them show `see`. -/
def sizes (axis : Axis) (metrics : Metrics) (components : List Component) (see : Extent → Extent)
    (tracks : List Track) : Pass (List Int) :=
  (tracks.zipIdx 1).mapM fun (track, index) =>
    let members := (membersOf axis index components).map see
    (SizeRequest.pixels ⟨axis, metrics, some members⟩ track.size).mapError .unmeasured

def needs (grid : Grid) (axis : Axis) (metrics : Metrics) (components : List Component) :
    Pass Needs := do
  let minimum ← sizes axis metrics components Extent.tight (grid.tracks.along axis)
  let preferred ← sizes axis metrics components id (grid.tracks.along axis)
  return {
    minimum := ← equalize (grid.groups.along axis) minimum
    preferred := ← equalize (grid.groups.along axis) preferred }

/-! ## Fitting -/

def slack (needs : Needs) (track : Track) (index : Nat) : Pass Int :=
  if track.isElastic then
    return minus (← entry needs.preferred index) (← entry needs.minimum index)
  else return 0

def squeeze (tracks : List Track) (needs : Needs) (available : Int) : Pass (List Int) := do
  let slacks ← (tracks.zipIdx 1).mapM fun (track, index) => slack needs track index
  let space := total slacks
  if space ≤ 0 then return needs.preferred
  let factor := squeezeFactor needs space available
  (slacks.zipIdx 1).mapM fun (slack, index) =>
    return squeezed factor (← entry needs.preferred index) slack

def fit (tracks : List Track) (groups : List (List Nat)) (needs : Needs) (available : Int) :
    Pass (List Int) := do
  if total needs.preferred ≤ available then return needs.preferred
  else if available ≤ total needs.minimum then return needs.minimum
  else equalize groups (← squeeze tracks needs available)

/-- The tracks that grow, with their numbers, counted from `first`. -/
def growing (first : Nat) (tracks : List Track) : List (Track × Nat) :=
  (tracks.zipIdx first).filter (·.1.grows)

/-- Adds its share and its turns to the size of each of these tracks, starting at position `j`. -/
def grow (whole : Binary64) (surplus : Int) (rest count : Nat) :
    (j : Nat) → List (Track × Nat) → List Int → Pass (List Int)
  | _, [], sizes => return sizes
  | j, (track, index) :: tracks, sizes => do
    let size ← entry sizes index
    let sizes ← setEntry sizes index
      (plus (plus size (share surplus whole track)) (turn rest count j))
    grow whole surplus rest count (j + 1) tracks sizes

def giveOut (tracks : List Track) (sizes : List Int) (surplus : Int) : Pass (List Int) :=
  let whole := weightSum tracks
  if whole.isPositive then
    let rest := (surplus - total (tracks.map (share surplus whole))).toNat
    let growing := growing 1 tracks
    grow whole surplus rest growing.length 0 growing sizes
  else return sizes

def finalSizes (tracks : List Track) (groups : List (List Nat)) (needs : Needs)
    (available : Int) : Pass (List Int) := do
  let sizes ← fit tracks groups needs available
  let surplus := minus available (total sizes)
  if 0 < surplus then giveOut tracks sizes surplus else return sizes

/-! ## Laying out -/

def arrange (grid : Grid) (container : Rect) (components : List Component) (options : Options)
    (axis : Axis) : Pass (List Int) := do
  let needs ← needs grid axis options.metrics components
  let sizes ← finalSizes (grid.tracks.along axis) (grid.groups.along axis) needs
    (Grid.available container options axis)
  return boundaries (plus (container.origin.along axis) (options.border.leading.along axis)) sizes

def place (component : Component) (axis : Axis) (tracks : List Track) (boundaries : List Int) :
    Pass Stretch := do
  let first ← entry boundaries (component.cell.start.along axis)
  let last ← entry boundaries (component.cell.stop axis)
  let track ← entry tracks (component.cell.start.along axis)
  return component.placeIn axis track (component.cell.innerBetween axis first last)

def rectOf (grid : Grid) (boundaries : PerAxis (List Int)) (component : Component) : Pass Rect := do
  let stretches ← onBoth fun axis =>
    place component axis (grid.tracks.along axis) (boundaries.along axis)
  return { origin := stretches.map (·.origin), extent := stretches.map (·.extent) }

def rects (grid : Grid) (boundaries : PerAxis (List Int)) (components : List Component) :
    Pass (Table Rect) :=
  components.foldlM (fun rects component => do
    let rect ← rectOf grid boundaries component
    return rects.insert component.key rect) {}

def layout (grid : Grid) (container : Rect) (keys : List String) (measure : Measure)
    (options : Options) : Pass Layout := do
  let components ← (grid.components measure keys).mapError .measure
  let boundaries ← onBoth (arrange grid container components options)
  return { boundaries, rects := ← rects grid boundaries components }

/-! ## The size of a form -/

def stretchedTotal (axis : Axis) (basis : Basis) (sizes : List Int) (component : Component) :
    Pass Int := do
  let covered ← slice sizes (component.cell.start.along axis) (component.cell.span.along axis)
  return plus (minus (total sizes) (total covered)) ((component.outerExtent axis).get basis)

def formExtent (axis : Axis) (basis : Basis) (sizes : List Int) (components : List Component)
    (options : Options) : Pass Int := do
  let spanning := components.filter fun component => 1 < component.cell.span.along axis
  let totals ← spanning.mapM (stretchedTotal axis basis sizes)
  return plus (totals.foldl max (total sizes)) (options.border.along axis)

def formSize (grid : Grid) (basis : Basis) (sizes : Needs → List Int) (keys : List String)
    (measure : Measure) (options : Options) : Pass Dimension := do
  let components ← (grid.components measure keys).mapError .measure
  onBoth fun axis => do
    let needs ← needs grid axis options.metrics components
    formExtent axis basis (sizes needs) components options

def minimumSize (grid : Grid) (keys : List String) (measure : Measure) (options : Options) :
    Pass Dimension :=
  formSize grid .minimum (·.minimum) keys measure options

def preferredSize (grid : Grid) (keys : List String) (measure : Measure) (options : Options) :
    Pass Dimension :=
  formSize grid .preferred (·.preferred) keys measure options

end TrackGrid.Checked
