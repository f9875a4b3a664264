import TrackGrid.Layout.Needs

/-! # Fitting tracks into the space there is

Tracks get their preferred sizes if there is room for them. If not, those of default size give way,
each in proportion to what it can give, but no track gets less than its minimum. What is left over
goes to the tracks that grow, by their weights.
-/

namespace TrackGrid

open Pixels

/-! ## Giving way -/

/-- Tracks of default size may be smaller than preferred. -/
def Track.isElastic (track : Track) : Bool := track.size.basis? = some .default

/-- By how much each track can be smaller than preferred. -/
def slacks (tracks : List Track) (needs : Needs) : List Int :=
  tracks.zipWith (fun track slack => if track.isElastic then slack else 0)
    (needs.preferred.zipWith minus needs.minimum)

/-- The part of its slack that every track gives, so that `space` pixels of slack fill the gap. -/
def squeezeFactor (needs : Needs) (space available : Int) : Binary64 :=
  Binary64.min (.ofInt (minus (total needs.preferred) available) / .ofInt space) .one

/-- The size of a track less its part of the slack, rounded to whole pixels. -/
def squeezed (factor : Binary64) (size slack : Int) : Int :=
  minus size (.ofInt slack * factor : Binary64).round

def squeeze (tracks : List Track) (needs : Needs) (available : Int) : List Int :=
  let slacks := slacks tracks needs
  let space := total slacks
  if space ≤ 0 then needs.preferred
  else needs.preferred.zipWith (squeezed (squeezeFactor needs space available)) slacks

/-- The sizes of the tracks before spare space is given out. -/
def fit (tracks : List Track) (groups : List (List Nat)) (needs : Needs) (available : Int) :
    List Int :=
  if total needs.preferred ≤ available then needs.preferred
  else if available ≤ total needs.minimum then needs.minimum
  else equalize groups (squeeze tracks needs available)

theorem length_slacks {tracks : List Track} {needs : Needs} (h : needs.OfLength tracks.length) :
    (slacks tracks needs).length = tracks.length := by
  simp [slacks, h.minimum, h.preferred]

theorem length_squeeze {tracks : List Track} {needs : Needs} (h : needs.OfLength tracks.length)
    (available : Int) : (squeeze tracks needs available).length = tracks.length := by
  simp only [squeeze]
  split
  · exact h.preferred
  · simp [length_slacks h, h.preferred]

theorem length_fit {tracks : List Track} {needs : Needs} (h : needs.OfLength tracks.length)
    (groups : List (List Nat)) (available : Int) :
    (fit tracks groups needs available).length = tracks.length := by
  unfold fit
  split
  · exact h.preferred
  · split
    · exact h.minimum
    · rw [length_equalize, length_squeeze h]

/-! ## Growing -/

def weightSum (tracks : List Track) : Binary64 :=
  tracks.foldl (fun sum track => sum + track.weight) .zero

/-- The whole pixels of a surplus that a track has by its weight. -/
def share (surplus : Int) (whole : Binary64) (track : Track) : Int :=
  if track.grows then (.ofInt surplus * track.weight / whole : Binary64).floor else 0

/-- What the track at position `j` among `count` growing ones gets when `rest` pixels are given out
one by one, in turn. -/
def turn (rest count j : Nat) : Int := rest / count + if j < rest % count then 1 else 0

/-- Gives every growing track its share and its turns, starting at position `j`. -/
def grow (whole : Binary64) (surplus : Int) (rest count : Nat) : (j : Nat) → List Track → List Int →
    List Int
  | j, track :: tracks, size :: sizes =>
    if track.grows then
      plus (plus size (share surplus whole track)) (turn rest count j) ::
        grow whole surplus rest count (j + 1) tracks sizes
    else size :: grow whole surplus rest count j tracks sizes
  | _, _, sizes => sizes

/-- Gives out a surplus by weight. The pixels that are left by rounding go to the growing tracks one
by one, in turn. -/
def giveOut (tracks : List Track) (sizes : List Int) (surplus : Int) : List Int :=
  let whole := weightSum tracks
  if whole.isPositive then
    let rest := (surplus - total (tracks.map (share surplus whole))).toNat
    grow whole surplus rest (tracks.countP Track.grows) 0 tracks sizes
  else sizes

@[simp] theorem length_grow (whole : Binary64) (surplus : Int) (rest count j : Nat)
    (tracks : List Track) (sizes : List Int) :
    (grow whole surplus rest count j tracks sizes).length = sizes.length := by
  induction tracks generalizing j sizes with
  | nil => simp [grow]
  | cons track tracks ih =>
    cases sizes with
    | nil => simp [grow]
    | cons size sizes =>
      unfold grow
      split <;> simp [ih]

@[simp] theorem length_giveOut (tracks : List Track) (sizes : List Int) (surplus : Int) :
    (giveOut tracks sizes surplus).length = sizes.length := by
  simp only [giveOut]
  split
  · exact length_grow ..
  · rfl

def finalSizes (tracks : List Track) (groups : List (List Nat)) (needs : Needs)
    (available : Int) : List Int :=
  let sizes := fit tracks groups needs available
  let surplus := minus available (total sizes)
  if 0 < surplus then giveOut tracks sizes surplus else sizes

theorem length_finalSizes {tracks : List Track} {needs : Needs} (h : needs.OfLength tracks.length)
    (groups : List (List Nat)) (available : Int) :
    (finalSizes tracks groups needs available).length = tracks.length := by
  simp only [finalSizes]
  split
  · rw [length_giveOut, length_fit h]
  · exact length_fit h groups available

end TrackGrid
