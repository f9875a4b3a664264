import TrackGrid.Proofs.Grid.Edit

/-! # Cells at the limits of their coordinates

Two sums decide whether a cell fits: where the cell stops, which is looked at before it is used, and
one more than the count, which is plain. Here is the check once more with the plain sum able to
fail. Main statement: for every count but the largest one the check is exact and nothing overflows.
-/

namespace TrackGrid

/-! ## The check -/

namespace Strict

open Cell (coordinateLimit)

/-- Why a cell is not found to fit. -/
inductive FitError where
  | range (error : RangeError)
  /-- A sum is no coordinate. -/
  | tooLarge (n : Nat)

/-- The sum, if it is a coordinate. -/
def sum? (m n : Nat) : Option Nat := if m + n < coordinateLimit then some (m + n) else none

/-- Addition that is expected to give a coordinate. -/
def sum (m n : Nat) : Except FitError Nat := (sum? m n).elim (.error (.tooLarge (m + n))) .ok

def checkAlong (cell : Cell) (axis : Axis) (count : Nat) : Except FitError Unit :=
  let start := cell.start.along axis
  let span := cell.span.along axis
  match sum? start span with
  | none => throw (.range (.cell axis start span count))
  | some stop => do
    if (← sum count 1) < stop then throw (.range (.cell axis start span count))

def checkFits (cell : Cell) (counts : PerAxis Nat) : Except FitError Unit := do
  checkAlong cell .horizontal counts.horizontal
  checkAlong cell .vertical counts.vertical

end Strict

/-! ## What it stands for -/

namespace Cell

variable (cell : Cell) (axis : Axis) (count : Nat) (counts : PerAxis Nat)

/-- The last track that the cell covers. -/
def last : Nat := cell.start.along axis + cell.span.along axis - 1

/-- The first axis on which the grid has fewer tracks than the cell needs. -/
def outside? : Option Axis :=
  [Axis.horizontal, .vertical].find? fun axis => counts.along axis < cell.last axis

/-- The cell's start and span on an axis, and the grid's count. -/
def outsideError : RangeError :=
  .cell axis (cell.start.along axis) (cell.span.along axis) (counts.along axis)

variable {cell axis count counts}

theorem last_le_iff : cell.last axis ≤ count ↔ cell.stop axis ≤ count + 1 := by
  unfold last stop
  omega

theorem outside?_eq_none_iff :
    cell.outside? counts = none ↔ ∀ axis, cell.last axis ≤ counts.along axis := by
  simp [outside?, Axis.forall_iff]

theorem checkAlong_eq (h : count + 1 < coordinateLimit) :
    cell.checkAlong axis count =
      if count < cell.last axis then
        .error (.cell axis (cell.start.along axis) (cell.span.along axis) count)
      else .ok () := by
  have hfits : cell.fitsAlong axis count = true ↔ ¬ count < cell.last axis := by
    rw [Nat.not_lt, last_le_iff, fitsAlong, Bool.and_eq_true, decide_eq_true_eq, decide_eq_true_eq]
    omega
  by_cases hlt : count < cell.last axis
  · rw [checkAlong, if_neg (by simp [hfits, hlt]), if_pos hlt]
  · rw [checkAlong, if_pos (hfits.2 hlt), if_neg hlt]

theorem checkFits_eq (h : ∀ axis, counts.along axis + 1 < coordinateLimit) :
    cell.checkFits counts =
      (cell.outside? counts).elim (.ok ()) fun axis => .error (cell.outsideError axis counts) := by
  have hx : cell.checkAlong .horizontal counts.horizontal = _ := checkAlong_eq (h .horizontal)
  have hy : cell.checkAlong .vertical counts.vertical = _ := checkAlong_eq (h .vertical)
  rw [checkFits, hx, hy]
  by_cases hhorizontal : counts.horizontal < cell.last .horizontal
  · simp [outside?, outsideError, PerAxis.along, hhorizontal]
  · by_cases hvertical : counts.vertical < cell.last .vertical <;>
      simp [outside?, outsideError, PerAxis.along, hhorizontal, hvertical]

end Cell

/-! ## Where it overflows -/

namespace Strict

open Cell (coordinateLimit)

variable {cell : Cell} {axis : Axis} {count : Nat} {counts : PerAxis Nat}

theorem sum_eq_ok (h : count + 1 < coordinateLimit) : sum count 1 = .ok (count + 1) := by
  simp [sum, sum?, h]

theorem sum_eq_error (h : count + 1 = coordinateLimit) :
    sum count 1 = .error (.tooLarge coordinateLimit) := by
  simp [sum, sum?, h]

theorem checkAlong_eq (h : count + 1 < coordinateLimit) :
    checkAlong cell axis count = (cell.checkAlong axis count).mapError .range := by
  simp only [checkAlong, sum_eq_ok h, ok_bind, sum?, Cell.checkAlong, Cell.fitsAlong, Cell.stop]
  by_cases hstop : cell.start.along axis + cell.span.along axis < coordinateLimit
  · by_cases hle : cell.start.along axis + cell.span.along axis ≤ count + 1 <;>
      simp [hstop, hle, Nat.not_lt.2, Nat.lt_of_not_le]
  · simp [hstop]

/-- At the largest count no cell is found to fit. If where it stops is no coordinate, it is said to
be outside, and if not, the plain sum overflows. -/
theorem checkAlong_of_largest (h : count + 1 = coordinateLimit) :
    checkAlong cell axis count =
      .error (if cell.stop axis < coordinateLimit then .tooLarge coordinateLimit
        else .range (.cell axis (cell.start.along axis) (cell.span.along axis) count)) := by
  simp only [checkAlong, sum_eq_error h, sum?, Cell.stop]
  by_cases hstop : cell.start.along axis + cell.span.along axis < coordinateLimit
  · simp [hstop]
  · simp [hstop]

theorem checkFits_eq (h : ∀ axis, counts.along axis + 1 < coordinateLimit) :
    checkFits cell counts = (cell.checkFits counts).mapError .range := by
  have hx : checkAlong cell .horizontal counts.horizontal = _ := checkAlong_eq (h .horizontal)
  have hy : checkAlong cell .vertical counts.vertical = _ := checkAlong_eq (h .vertical)
  rw [checkFits, hx, hy, Cell.checkFits]
  cases cell.checkAlong .horizontal counts.horizontal <;> rfl

end Strict

/-! ## Exactness -/

namespace Cell

/-- For counts but the largest one, nothing overflows where a cell is checked against a grid. The
cell fits exactly if its last track on each axis is one of the grid's, and if it does not, the first
axis on which it is not is named, with the cell's start and span and the grid's count. At the
largest count no cell is found to fit. -/
theorem checkFits_exact (cell : Cell) (counts : PerAxis Nat) :
    ((∀ axis, counts.along axis + 1 < coordinateLimit) →
      Strict.checkFits cell counts = (cell.checkFits counts).mapError .range ∧
      (cell.checkFits counts = .ok () ↔ ∀ axis, cell.last axis ≤ counts.along axis) ∧
      ∀ axis, cell.outside? counts = some axis →
        cell.checkFits counts = .error (cell.outsideError axis counts)) ∧
    ∀ axis, counts.along axis + 1 = coordinateLimit →
      Strict.checkAlong cell axis (counts.along axis) =
        .error (if cell.stop axis < coordinateLimit then .tooLarge coordinateLimit
          else .range (cell.outsideError axis counts)) := by
  refine ⟨fun h => ⟨Strict.checkFits_eq h, ?_, ?_⟩, fun axis => Strict.checkAlong_of_largest⟩
  · rw [checkFits_eq h, ← outside?_eq_none_iff]
    cases cell.outside? counts <;> simp
  · intro axis haxis
    rw [checkFits_eq h, haxis, Option.elim_some]

/-- The last cell of the largest grid whose count can have one more. -/
def lastCell : Cell := { start := ⟨coordinateLimit - 2, 1⟩ }

theorem checkFits_exact_lastCell :
    Strict.checkFits lastCell ⟨coordinateLimit - 2, 1⟩ = .ok () ∧
      { lastCell with span := ⟨coordinateLimit - 1, 2⟩ }.checkFits ⟨coordinateLimit - 2, 1⟩ =
        .error (.cell .horizontal (coordinateLimit - 2) (coordinateLimit - 1)
          (coordinateLimit - 2)) := by
  have h : ∀ axis, (⟨coordinateLimit - 2, 1⟩ : PerAxis Nat).along axis + 1 < coordinateLimit := by
    decide
  obtain ⟨hstrict, hfits, -⟩ := (checkFits_exact lastCell ⟨coordinateLimit - 2, 1⟩).1 h
  have hok := hfits.2 (by decide)
  rw [hok] at hstrict
  exact ⟨hstrict, ((checkFits_exact _ _).1 h).2.2 .horizontal (by decide)⟩

/-- The cell of the last track of the largest grid is refused, though it lies in it. For a cell of
the first track the check overflows. -/
theorem largest_not_exact :
    let cell : Cell := { start := ⟨coordinateLimit - 1, 1⟩ }
    let counts : PerAxis Nat := ⟨coordinateLimit - 1, 1⟩
    cell.check = .ok () ∧ (∀ axis, cell.last axis ≤ counts.along axis) ∧
      cell.checkFits counts =
        .error (.cell .horizontal (coordinateLimit - 1) 1 (coordinateLimit - 1)) ∧
      Strict.checkFits { start := ⟨1, 1⟩ } counts = .error (.tooLarge coordinateLimit) :=
  ⟨rfl, by decide, rfl, rfl⟩

end Cell

end TrackGrid
