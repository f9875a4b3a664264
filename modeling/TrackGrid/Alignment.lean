import TrackGrid.Axis

/-! # Alignments of tracks and of cells -/

namespace TrackGrid

/-! ## In a track -/

/-- Where a component stands in a track that is larger than it. -/
inductive Alignment where
  | left
  | right
  | top
  | bottom
  | center
  | fill
  deriving DecidableEq

namespace Alignment

def all : List Alignment := [left, right, top, bottom, center, fill]

def letters : Alignment → List Char
  | left => ['l', 'e', 'f', 't']
  | right => ['r', 'i', 'g', 'h', 't']
  | top => ['t', 'o', 'p']
  | bottom => ['b', 'o', 't', 't', 'o', 'm']
  | center => ['c', 'e', 'n', 't', 'e', 'r']
  | fill => ['f', 'i', 'l', 'l']

def name (alignment : Alignment) : String := String.ofList alignment.letters

/-- The first letter of the name, which may stand for it. -/
def initial (alignment : Alignment) : List Char := alignment.letters.take 1

def legalOn : Alignment → Axis → Bool
  | left, axis | right, axis => axis = .horizontal
  | top, axis | bottom, axis => axis = .vertical
  | center, _ | fill, _ => true

def ofLetters? (axis : Axis) (word : List Char) : Option Alignment :=
  all.find? fun alignment =>
    (word = alignment.letters || word = alignment.initial) && alignment.legalOn axis

/-- The alignment of a track that names none. -/
def standard : Axis → Alignment
  | .horizontal => fill
  | .vertical => center

theorem standard_legalOn (axis : Axis) : (standard axis).legalOn axis := by cases axis <;> rfl

end Alignment

/-! ## In a cell -/

/-- A component either follows its track or has an alignment of its own. -/
inductive CellAlignment where
  | inherited
  | own (alignment : Alignment)
  deriving DecidableEq

namespace CellAlignment

def letters : CellAlignment → List Char
  | inherited => ['d', 'e', 'f', 'a', 'u', 'l', 't']
  | own alignment => alignment.letters

def name (alignment : CellAlignment) : String := String.ofList alignment.letters

def legalOn : CellAlignment → Axis → Bool
  | inherited, _ => true
  | own alignment, axis => alignment.legalOn axis

def ofLetters? (axis : Axis) (word : List Char) : Option CellAlignment :=
  if word = inherited.letters || word = ['d'] then some inherited
  else (Alignment.ofLetters? axis word).map own

/-- The alignment that takes effect in a track aligned as `track`. -/
def orTrack : CellAlignment → (track : Alignment) → Alignment
  | inherited, track => track
  | own alignment, _ => alignment

end CellAlignment

end TrackGrid
