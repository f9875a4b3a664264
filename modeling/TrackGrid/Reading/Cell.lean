import TrackGrid.Reading.Error
import TrackGrid.Reading.Track

/-! # Reading cells

A cell is written `x, y`, then its width and height, then its alignments; either pair or both may be
left out.
-/

namespace TrackGrid.Reading

open Text

def readCoordinate (token : List Char) : Except ReadError Nat :=
  match readNatural? token with
  | some n => .ok n
  | none => .error (.invalidNumber (String.ofList token))

def readCoordinates (x y : List Char) : Except ReadError (PerAxis Nat) :=
  return ⟨← readCoordinate x, ← readCoordinate y⟩

def readAlignment (axis : Axis) (token : List Char) : Except ReadError CellAlignment :=
  match CellAlignment.ofLetters? axis token with
  | some alignment => .ok alignment
  | none => .error (.invalidAlignment (String.ofList token) axis)

def readAlignments (h v : List Char) : Except ReadError (PerAxis CellAlignment) :=
  return ⟨← readAlignment .horizontal h, ← readAlignment .vertical v⟩

/-- Reads the values of a cell. With four of them, the last two are a span if the third starts with
a digit and alignments if not. -/
def readValues (text : String) : List (List Char) → Except ReadError Cell
  | [x, y] => return { start := ← readCoordinates x y }
  | [x, y, third, fourth] => do
    let start ← readCoordinates x y
    if third.head?.any Char.isDigit then return { start, span := ← readCoordinates third fourth }
    else return { start, alignment := ← readAlignments third fourth }
  | [x, y, w, h, hAlign, vAlign] =>
    return { start := ← readCoordinates x y, span := ← readCoordinates w h,
             alignment := ← readAlignments hAlign vAlign }
  | _ => throw (.wrongValueCount text)

end TrackGrid.Reading

namespace TrackGrid

open Text Reading

/-- Reads a cell and checks it. -/
def Cell.read (text : String) : Except ReadError Cell := do
  let cell ← readValues text ((split ',' (normalize text)).map trim)
  cell.check.mapError .cell
  return cell

end TrackGrid
