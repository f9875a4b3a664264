import TrackGrid.Axis
import TrackGrid.Binary64.Shortest

/-! # Lengths with units -/

namespace TrackGrid

/-! ## Units -/

inductive LengthUnit where
  | pixel
  | point
  /-- A dialog unit along the axis of the track. -/
  | dialog
  /-- A horizontal dialog unit on either axis. -/
  | dialogX
  /-- A vertical dialog unit on either axis. -/
  | dialogY
  | inch
  | millimeter
  | centimeter
  deriving DecidableEq

namespace LengthUnit

def all : List LengthUnit :=
  [pixel, point, dialog, dialogX, dialogY, inch, millimeter, centimeter]

def letters : LengthUnit → List Char
  | pixel => ['p', 'x']
  | point => ['p', 't']
  | dialog => ['d', 'l', 'u']
  | dialogX => ['d', 'l', 'u', 'x']
  | dialogY => ['d', 'l', 'u', 'y']
  | inch => ['i', 'n']
  | millimeter => ['m', 'm']
  | centimeter => ['c', 'm']

def name (unit : LengthUnit) : String := String.ofList unit.letters

/-- A dialog unit that names its axis may be written on that axis only. -/
def legalOn : LengthUnit → Axis → Bool
  | dialogX, axis => axis = .horizontal
  | dialogY, axis => axis = .vertical
  | _, _ => true

def ofLetters? (axis : Axis) (suffix : List Char) : Option LengthUnit :=
  all.find? fun unit => unit.letters = suffix && unit.legalOn axis

end LengthUnit

/-! ## Metrics -/

/-- The size of a character of the dialog font in pixels, and the screen's dots per inch. -/
structure Metrics where
  character : PerAxis Binary64
  dpi : Binary64
  deriving DecidableEq

namespace Metrics

/-- An 11 pixel dialog font on a screen of 96 dots per inch. -/
def standard : Metrics := ⟨⟨.ofInt 6, .ofInt 13⟩, .ofInt 96⟩

/-- A dialog unit is a quarter of a character wide and an eighth of a character high. -/
def dialogUnit (metrics : Metrics) : Axis → Binary64
  | .horizontal => metrics.character.horizontal / .ofInt 4
  | .vertical => metrics.character.vertical / .ofInt 8

/-- How many pixels a unit has on an axis. -/
def pixelsPer (metrics : Metrics) (axis : Axis) : LengthUnit → Binary64
  | .pixel => .one
  | .point => metrics.dpi / .ofInt 72
  | .inch => metrics.dpi
  | .millimeter => metrics.dpi / .ofDecimal 254 (-1)
  | .centimeter => metrics.dpi / .ofDecimal 254 (-2)
  | .dialog => metrics.dialogUnit axis
  | .dialogX => metrics.dialogUnit .horizontal
  | .dialogY => metrics.dialogUnit .vertical

end Metrics

/-! ## Lengths -/

structure Length where
  value : Binary64
  unit : LengthUnit
  deriving DecidableEq

namespace Length

/-- In whole pixels, a half going up. -/
def toPixels (length : Length) (axis : Axis) (metrics : Metrics) : Int :=
  (length.value * metrics.pixelsPer axis length.unit + .half).floor

def letters (length : Length) : List Char := length.value.letters ++ length.unit.letters

end Length

end TrackGrid
