import TrackGrid.Length

/-! # Sizes of tracks

A track is as large as a constant says, or as its components need, or as they need within bounds.
-/

namespace TrackGrid

/-! ## What a component needs -/

/-- The three extents of a component along one axis. -/
structure Extent where
  minimum : Int
  preferred : Int
  default : Int
  deriving DecidableEq

/-- Which of its extents a component is given. -/
inductive Basis where
  | minimum
  | preferred
  /-- The default extent where there is room for it, and the minimum where there is not. -/
  | default
  deriving DecidableEq

namespace Basis

def all : List Basis := [minimum, preferred, default]

def letters : Basis → List Char
  | minimum => ['m', 'i', 'n']
  | preferred => ['p', 'r', 'e', 'f']
  | default => ['d', 'e', 'f', 'a', 'u', 'l', 't']

def name (basis : Basis) : String := String.ofList basis.letters

def ofLetters? (word : List Char) : Option Basis :=
  all.find? fun basis => word = basis.letters || word = basis.letters.take 1

theorem forall_iff {p : Basis → Prop} :
    (∀ basis, p basis) ↔ p minimum ∧ p preferred ∧ p default := by
  constructor
  · intro h
    exact ⟨h minimum, h preferred, h default⟩
  · rintro ⟨hmin, hpref, hdef⟩ basis
    cases basis with
    | minimum => exact hmin
    | preferred => exact hpref
    | default => exact hdef

instance {p : Basis → Prop} [DecidablePred p] : Decidable (∀ basis, p basis) :=
  decidable_of_iff _ forall_iff.symm

end Basis

namespace Extent

def zero : Extent := ⟨0, 0, 0⟩

def get (extent : Extent) : Basis → Int
  | .minimum => extent.minimum
  | .preferred => extent.preferred
  | .default => extent.default

def map (f : Int → Int) (extent : Extent) : Extent :=
  ⟨f extent.minimum, f extent.preferred, f extent.default⟩

/-- The larger of two extents, each of the three taken on its own. -/
def max (a b : Extent) : Extent :=
  ⟨Max.max a.minimum b.minimum, Max.max a.preferred b.preferred, Max.max a.default b.default⟩

end Extent

/-- The largest extent among components, zero if there are none. -/
def Basis.largest (basis : Basis) (members : List Extent) : Int :=
  (members.map (·.get basis)).max?.getD 0

/-! ## Sizes -/

/-- The bounds of a component size: there is at least one. -/
inductive Bounds where
  | atLeast (lower : Length)
  | atMost (upper : Length)
  | between (lower upper : Length)
  deriving DecidableEq

namespace Bounds

def lower? : Bounds → Option Length
  | atLeast lower | between lower _ => some lower
  | atMost _ => none

def upper? : Bounds → Option Length
  | atMost upper | between _ upper => some upper
  | atLeast _ => none

def lengths (bounds : Bounds) : List Length := bounds.lower?.toList ++ bounds.upper?.toList

/-- Raises to the lower bound, then cuts at the upper one, which wins if they contradict. -/
def apply (bounds : Bounds) (axis : Axis) (metrics : Metrics) (size : Int) : Int :=
  match bounds with
  | atLeast lower => max size (lower.toPixels axis metrics)
  | atMost upper => min size (upper.toPixels axis metrics)
  | between lower upper =>
    min (max size (lower.toPixels axis metrics)) (upper.toPixels axis metrics)

end Bounds

inductive Size where
  | constant (length : Length)
  | component (basis : Basis)
  | bounded (basis : Basis) (bounds : Bounds)
  deriving DecidableEq

namespace Size

def basis? : Size → Option Basis
  | constant _ => none
  | component basis | bounded basis _ => some basis

/-- The lengths that the size names. -/
def lengths : Size → List Length
  | constant length => [length]
  | component _ => []
  | bounded _ bounds => bounds.lengths

def toPixels (size : Size) (axis : Axis) (metrics : Metrics) (members : List Extent) : Int :=
  match size with
  | constant length => length.toPixels axis metrics
  | component basis => basis.largest members
  | bounded basis bounds => bounds.apply axis metrics (basis.largest members)

def letters : Size → List Char
  | constant length => length.letters
  | component basis => basis.letters
  | bounded basis bounds =>
    let inner := match bounds with
      | .atLeast lower => lower.letters ++ ';' :: basis.letters
      | .atMost upper => basis.letters ++ ';' :: upper.letters
      | .between lower upper => lower.letters ++ ';' :: basis.letters ++ ';' :: upper.letters
    '[' :: inner ++ [']']

def text (size : Size) : String := String.ofList size.letters

end Size

/-! ## Sizes outside a layout -/

/-- What the pixels of a size depend on: an axis, the metrics, and the components of the track if
they have been measured. -/
structure SizeRequest where
  axis : Axis
  metrics : Metrics
  members : Option (List Extent)

/-- A size that depends on components was asked for without any. -/
structure Unmeasured where
  size : Size

def Unmeasured.message (error : Unmeasured) : String :=
  s!"Cannot resolve component size '{error.size.text}' without a measurement context."

namespace SizeRequest

def pixels (request : SizeRequest) (size : Size) : Except Unmeasured Int :=
  match size.basis?, request.members with
  | some _, none => .error ⟨size⟩
  | _, members => .ok (size.toPixels request.axis request.metrics (members.getD []))

def describeExtent (extent : Extent) : String :=
  "ComponentExtent \x7b minimum: " ++ toString extent.minimum ++
    ", preferred: " ++ toString extent.preferred ++
    ", default: " ++ toString extent.default ++ " \x7d"

/-- The request in words, without the metrics. -/
def describe (request : SizeRequest) : String :=
  let axis := match request.axis with
    | .horizontal => "Horizontal"
    | .vertical => "Vertical"
  let members := match request.members with
    | none => "None"
    | some members => "Some([" ++ ", ".intercalate (members.map describeExtent) ++ "])"
  "SizeContext \x7b orientation: " ++ axis ++ ", members: " ++ members ++ ", .. \x7d"

end SizeRequest

end TrackGrid
