import TrackGrid.Reading.Track

/-! # Reading lists of tracks

The items of a list stand between commas. An item may be repeated, as in `3*pref`, and so may a list
in parentheses, as in `2*(pref, 4dlu)`.
-/

namespace TrackGrid.Reading

open Text

/-- No list grows longer than this by a repeat. -/
def repeatLimit : Nat := 10000

/-- The item has a multiplier, right or wrong. -/
def isRepeat (item : List Char) : Bool := item.head?.any Char.isDigit && item.contains '*'

/-- The multiplier in front of an item and what stands behind its star. Spaces and tabs may stand
before the star. -/
def splitMultiplier? (item : List Char) : Option (Nat × List Char) :=
  let (digits, rest) := splitDigits item
  match readNatural? digits, rest.dropWhile fun c => c = ' ' || c = '\t' with
  | some count, '*' :: body => if count = 0 then none else some (count, body)
  | _, _ => none

/-- The number, if 64 bits are enough for it. -/
def fits64? (n : Nat) : Option Nat := if n < 0x10000000000000000 then some n else none

/-- The length of a list with copies of another behind it. There is none if it is beyond the limit,
or if 64 bits are too few for it or for the copies alone. -/
def grown? (before count length : Nat) : Option Nat := do
  let copies ← fits64? (length * count)
  let total ← fits64? (copies + before)
  if total ≤ repeatLimit then some total else none

/-- The limit is so low that 64 bits do not matter. -/
theorem grown?_eq (before count length : Nat) :
    grown? before count length =
      if before + count * length ≤ repeatLimit then some (before + count * length) else none := by
  unfold grown? fits64?
  rw [Nat.mul_comm length, Nat.add_comm before]
  generalize count * length = copies
  by_cases h : copies + before ≤ repeatLimit
  · have hlimit : repeatLimit < 0x10000000000000000 := by decide
    have hcopies : copies < 0x10000000000000000 := by omega
    have htotal : copies + before < 0x10000000000000000 := by omega
    simp [h, hcopies, htotal]
  · simp [h]
    omega

theorem length_lt_of_splitMultiplier? {item body : List Char} {count : Nat}
    (h : splitMultiplier? item = some (count, body)) : body.length < item.length := by
  simp only [splitMultiplier?, splitDigits] at h
  split at h
  · rename_i hb
    split at h
    · cases h
    · cases h
      have h1 := (List.dropWhile_sublist (l := item) Char.isDigit).length_le
      have h2 := (List.dropWhile_sublist (l := item.dropWhile Char.isDigit)
        fun c => c = ' ' || c = '\t').length_le
      rw [hb, List.length_cons] at h2
      omega
  · cases h

mutual

/-- Reads the items of a list. -/
def readItems (axis : Axis) (vars : Variables) (list : List Char) :
    Except ReadError (List Track) :=
  match _h : splitOutside ',' list with
  | none => .error (.unbalanced (String.ofList list))
  | some items => readEach axis vars 0 items
termination_by 2 * list.length + 3
decreasing_by
  have := weight_splitOutside _h
  omega

/-- Reads items that follow on `before` tracks of the same list. -/
def readEach (axis : Axis) (vars : Variables) (before : Nat) (items : List (List Char)) :
    Except ReadError (List Track) :=
  match items with
  | [] => .ok []
  | item :: rest => do
    let tracks ← readItem axis vars before (trim item)
    let others ← readEach axis vars (before + tracks.length) rest
    return tracks ++ others
termination_by 2 * weight items
decreasing_by
  · have := length_trim_le item
    simp only [weight]
    omega
  · simp only [weight]
    omega

/-- Reads one item, which follows on `before` tracks of its list. -/
def readItem (axis : Axis) (vars : Variables) (before : Nat) (item : List Char) :
    Except ReadError (List Track) :=
  if item = [] then .error .empty
  else if isRepeat item then
    match _h : splitMultiplier? item with
    | none => .error (.invalidMultiplier (String.ofList item))
    | some (count, body) => do
      let tracks ← readBody axis vars item (trim body)
      match grown? before count tracks.length with
      | some _ => return (List.replicate count tracks).flatten
      | none => throw (.tooManyTracks (String.ofList item) repeatLimit)
  else do return [← readPlainTrack axis vars item]
termination_by 2 * item.length + 1
decreasing_by
  have := length_lt_of_splitMultiplier? _h
  have := length_trim_le body
  omega

/-- Reads what is repeated in an item: a list in parentheses, or one more item. -/
def readBody (axis : Axis) (vars : Variables) (item body : List Char) :
    Except ReadError (List Track) :=
  match body with
  | '(' :: group =>
    match _h : dropLast? ')' group with
    | none => .error (.unbalanced (String.ofList item))
    | some inner => readItems axis vars inner
  | single => readItem axis vars 0 single
termination_by 2 * body.length + 2
decreasing_by
  · have := length_dropLast? _h
    simp only [List.length_cons]
    omega
  · omega

end

/-! ## One step of each reader -/

variable (axis : Axis) (vars : Variables)

theorem readItems_eq (list : List Char) :
    readItems axis vars list =
      match splitOutside ',' list with
      | none => .error (.unbalanced (String.ofList list))
      | some items => readEach axis vars 0 items := by
  rw [readItems]
  split <;> simp_all

theorem readEach_cons (before : Nat) (item : List Char) (rest : List (List Char)) :
    readEach axis vars before (item :: rest) = (do
      let tracks ← readItem axis vars before (trim item)
      let others ← readEach axis vars (before + tracks.length) rest
      return tracks ++ others) := by
  rw [readEach]

theorem readItem_of_not_isRepeat {item : List Char} (before : Nat) (hne : item ≠ [])
    (h : isRepeat item = false) :
    readItem axis vars before item = (readPlainTrack axis vars item).map ([·]) := by
  rw [readItem]
  simp only [hne, h, if_false, Bool.false_eq_true]
  cases readPlainTrack axis vars item <;> rfl

theorem readItem_of_splitMultiplier? {item body : List Char} {count : Nat} (before : Nat)
    (hne : item ≠ []) (hr : isRepeat item = true)
    (h : splitMultiplier? item = some (count, body)) :
    readItem axis vars before item = (do
      let tracks ← readBody axis vars item (trim body)
      if before + count * tracks.length ≤ repeatLimit then
        return (List.replicate count tracks).flatten
      else throw (.tooManyTracks (String.ofList item) repeatLimit)) := by
  rw [readItem]
  simp only [hne, hr, if_false, if_true]
  split
  · simp_all
  · rename_i count' body' hparts
    cases h.symm.trans hparts
    congr
    funext tracks
    rw [grown?_eq]
    by_cases hroom : before + count * tracks.length ≤ repeatLimit <;> simp [hroom]

theorem readBody_group (item group : List Char) :
    readBody axis vars item ('(' :: group) =
      match dropLast? ')' group with
      | none => .error (.unbalanced (String.ofList item))
      | some inner => readItems axis vars inner := by
  rw [readBody]
  split <;> simp_all

end TrackGrid.Reading

namespace TrackGrid

/-- Reads a list of columns or of rows. A single comma may stand at the end. -/
def Track.readList (axis : Axis) (vars : Variables) (text : String) :
    Except ReadError (List Track) :=
  match Reading.normalize text with
  | [] => .error .empty
  | list => Reading.readItems axis vars ((Text.dropLast? ',' list).getD list)

end TrackGrid
