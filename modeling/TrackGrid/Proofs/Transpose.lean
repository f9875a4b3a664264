import TrackGrid.Layout

/-! # Forms with their columns and rows swapped

The transpose of a form has its columns as rows and its rows as columns: left and top trade places,
and so do right and bottom, and dialog units that name their axis.
-/

namespace TrackGrid

/-! ## Axes -/

def Axis.other : Axis → Axis
  | .horizontal => .vertical
  | .vertical => .horizontal

@[simp] theorem Axis.other_other (axis : Axis) : axis.other.other = axis := by
  cases axis <;> rfl

theorem Axis.forall_other {p : Axis → Prop} :
    (∀ axis : Axis, p axis.other) ↔ ∀ axis, p axis := by
  rw [Axis.forall_iff, Axis.forall_iff]
  exact and_comm

namespace PerAxis

variable {α : Type}

def swap (p : PerAxis α) : PerAxis α := ⟨p.vertical, p.horizontal⟩

@[simp] theorem along_swap (p : PerAxis α) (axis : Axis) :
    p.swap.along axis.other = p.along axis := by
  cases axis <;> rfl

theorem ofFn_eq_swap {f g : Axis → α} (h : ∀ axis, f axis.other = g axis) :
    ofFn f = (ofFn g).swap :=
  PerAxis.ext (h .vertical) (h .horizontal)

end PerAxis

/-! ## Alignments -/

namespace Alignment

def transpose : Alignment → Alignment
  | left => top
  | top => left
  | right => bottom
  | bottom => right
  | center => center
  | fill => fill

@[simp] theorem transpose_transpose (alignment : Alignment) :
    alignment.transpose.transpose = alignment := by
  cases alignment <;> rfl

theorem legalOn_transpose (alignment : Alignment) (axis : Axis) :
    alignment.transpose.legalOn axis.other = alignment.legalOn axis := by
  cases alignment <;> cases axis <;> rfl

end Alignment

namespace CellAlignment

def transpose : CellAlignment → CellAlignment
  | inherited => inherited
  | own alignment => own alignment.transpose

@[simp] theorem transpose_transpose (alignment : CellAlignment) :
    alignment.transpose.transpose = alignment := by
  cases alignment <;> simp [transpose]

theorem orTrack_transpose (alignment : CellAlignment) (track : Alignment) :
    alignment.transpose.orTrack track.transpose = (alignment.orTrack track).transpose := by
  cases alignment <;> rfl

end CellAlignment

/-! ## Tracks -/

def LengthUnit.transpose : LengthUnit → LengthUnit
  | dialogX => dialogY
  | dialogY => dialogX
  | unit => unit

@[simp] theorem LengthUnit.transpose_transpose (unit : LengthUnit) :
    unit.transpose.transpose = unit := by
  cases unit <;> rfl

def Length.transpose (length : Length) : Length := { length with unit := length.unit.transpose }

@[simp] theorem Length.transpose_transpose (length : Length) :
    length.transpose.transpose = length := by
  simp [transpose]

def Bounds.transpose : Bounds → Bounds
  | atLeast lower => atLeast lower.transpose
  | atMost upper => atMost upper.transpose
  | between lower upper => between lower.transpose upper.transpose

@[simp] theorem Bounds.transpose_transpose (bounds : Bounds) :
    bounds.transpose.transpose = bounds := by
  cases bounds <;> simp [transpose]

def Size.transpose : Size → Size
  | constant length => constant length.transpose
  | component basis => component basis
  | bounded basis bounds => bounded basis bounds.transpose

@[simp] theorem Size.transpose_transpose (size : Size) : size.transpose.transpose = size := by
  cases size <;> simp [transpose]

@[simp] theorem Size.basis?_transpose (size : Size) : size.transpose.basis? = size.basis? := by
  cases size <;> rfl

def Track.transpose (track : Track) : Track where
  axis := track.axis.other
  alignment := track.alignment.transpose
  size := track.size.transpose
  weight := track.weight
  weight_ok := track.weight_ok
  alignment_ok := (track.alignment.legalOn_transpose track.axis).trans track.alignment_ok

@[simp] theorem Track.transpose_transpose (track : Track) :
    track.transpose.transpose = track := by
  simp [transpose]

@[simp] theorem Track.grows_transpose (track : Track) : track.transpose.grows = track.grows := rfl

@[simp] theorem Track.isElastic_transpose (track : Track) :
    track.transpose.isElastic = track.isElastic := by
  simp only [isElastic, transpose, Size.basis?_transpose]

/-! ## Grids -/

def Insets.transpose (insets : Insets) : Insets := ⟨insets.leading.swap, insets.trailing.swap⟩

theorem Insets.leading_transpose (insets : Insets) (axis : Axis) :
    insets.transpose.leading.along axis.other = insets.leading.along axis := PerAxis.along_swap ..

theorem Insets.along_transpose (insets : Insets) (axis : Axis) :
    insets.transpose.along axis.other = insets.along axis := by
  simp only [along, transpose, PerAxis.along_swap]

def Cell.transpose (cell : Cell) : Cell where
  start := cell.start.swap
  span := cell.span.swap
  alignment := (cell.alignment.map .transpose).swap
  insets := cell.insets.transpose
  sizeGroup := cell.sizeGroup.swap

@[simp] theorem Cell.transpose_transpose (cell : Cell) : cell.transpose.transpose = cell := by
  simp [transpose, Insets.transpose, PerAxis.map, PerAxis.swap]

theorem Cell.liesOnlyIn_transpose (cell : Cell) (axis : Axis) (index : Nat) :
    cell.transpose.liesOnlyIn axis.other index = cell.liesOnlyIn axis index := by
  simp only [liesOnlyIn, transpose, PerAxis.along_swap]

theorem Cell.stop_transpose (cell : Cell) (axis : Axis) :
    cell.transpose.stop axis.other = cell.stop axis := by
  simp only [stop, transpose, PerAxis.along_swap]

def Grid.transpose (grid : Grid) : Grid where
  tracks := (grid.tracks.map (·.map .transpose)).swap
  groups := grid.groups.swap
  cells := grid.cells.map .transpose

/-- Swapped twice, the columns and rows of a form are what they were. -/
theorem Grid.transpose_transpose (grid : Grid) : grid.transpose.transpose = grid := by
  have hcells : (grid.cells.map .transpose).map .transpose = grid.cells :=
    Table.map_map_cancel grid.cells Cell.transpose_transpose
  simp [transpose, hcells, PerAxis.map, PerAxis.swap, Function.comp_def]

/-! ## Layouts -/

def Rect.transpose (rect : Rect) : Rect := ⟨rect.origin.swap, rect.extent.swap⟩

def Measure.transpose (measure : Measure) : Measure := fun key => (measure key).swap

/-- The metrics stay: a dialog unit is not made from characters in the same way on both axes. -/
def Options.transpose (options : Options) : Options :=
  { options with border := options.border.transpose }

def Component.transpose (component : Component) : Component :=
  ⟨component.key, component.cell.transpose, component.extents.swap⟩

def Layout.transpose (layout : Layout) : Layout :=
  ⟨layout.boundaries.swap, layout.rects.map .transpose⟩

end TrackGrid
