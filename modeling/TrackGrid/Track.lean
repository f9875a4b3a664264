import TrackGrid.Alignment
import TrackGrid.Size

/-! # Tracks: one column or one row -/

namespace TrackGrid

/-- A weight is a finite number that is not negative. Minus zero counts as zero. -/
def Binary64.isWeight (x : Binary64) : Bool := x.isFinite && decide (0 ≤ x.value)

theorem isWeight_zero : Binary64.zero.isWeight = true := by decide

theorem isWeight_one : Binary64.one.isWeight = true := by decide

theorem isWeight_half : Binary64.half.isWeight = true := by decide

/-- A column or a row: how components stand in it, how large it is, and its share of spare space. -/
structure Track where
  axis : Axis
  alignment : Alignment
  size : Size
  weight : Binary64
  weight_ok : weight.isWeight = true := by decide
  alignment_ok : alignment.legalOn axis = true := by exact Alignment.standard_legalOn _
  deriving DecidableEq

/-- Why there is no such track. -/
inductive TrackError where
  | weight (weight : Binary64)
  | alignment (alignment : Alignment) (axis : Axis)

def TrackError.message : TrackError → String
  | weight w =>
    s!"The resize weight must be a finite, non-negative number, got {String.ofList w.letters}."
  | alignment a axis => s!"The alignment '{a.name}' is not valid for a {axis.trackWord} spec."

namespace Track

/-- The track with these parts, if the weight is one and the alignment belongs to the axis. -/
def make (axis : Axis) (alignment : Alignment) (size : Size) (weight : Binary64) :
    Except TrackError Track :=
  if hw : weight.isWeight = true then
    if ha : alignment.legalOn axis = true then .ok ⟨axis, alignment, size, weight, hw, ha⟩
    else .error (.alignment alignment axis)
  else .error (.weight weight)

/-- A track of constant size that takes no spare space. -/
def gap (axis : Axis) (length : Length) : Track where
  axis
  alignment := .standard axis
  size := .constant length
  weight := .zero

def glue (axis : Axis) : Track where
  axis
  alignment := .standard axis
  size := .constant ⟨.zero, .pixel⟩
  weight := .one

def grows (track : Track) : Bool := !track.weight.isZero

/-! ## Texts -/

/-- The resize part of a text: `none` for no weight, `grow` for weight one, else with the weight. -/
def resizeLetters (none grow : List Char) (weight : Binary64) : List Char :=
  if weight.isZero then none
  else if weight = .one then grow
  else grow ++ '(' :: weight.letters ++ [')']

def lettersWith (alignment none grow : List Char) (track : Track) : List Char :=
  alignment ++ ':' :: track.size.letters ++ ':' :: resizeLetters none grow track.weight

/-- The text in full words, such as `left:pref:noGrow`. -/
def letters (track : Track) : List Char :=
  track.lettersWith track.alignment.letters ['n', 'o', 'G', 'r', 'o', 'w'] ['g', 'r', 'o', 'w']

/-- The text in single letters, such as `l:pref:n`. -/
def shortLetters (track : Track) : List Char :=
  track.lettersWith track.alignment.initial ['n'] ['g']

def text (track : Track) : String := String.ofList track.letters

def shortText (track : Track) : String := String.ofList track.shortLetters

end Track

end TrackGrid
