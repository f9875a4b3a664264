import TrackGrid.Reading.Size
import TrackGrid.Text.Alphanumeric
import TrackGrid.Variables

/-! # Reading one track

A track is written `[alignment:]size[:resize]`, or it is a variable, `$name` or `${name}`.
-/

namespace TrackGrid.Reading

open Text

/-! ## Variables -/

def isNameChar (c : Char) : Bool := isAlphanumeric c || c = '-' || c = '_'

/-- The name in a reference: what stands in the braces, if it starts with one. -/
def referencedName (reference : List Char) : Except ReadError (List Char) :=
  match reference with
  | '\x7b' :: rest =>
    match dropLast? '\x7d' rest with
    | some name =>
      if name ≠ [] ∧ name.all isNameChar then .ok name
      else .error (.unbalanced (String.ofList ('$' :: reference)))
    | none => .error (.unbalanced (String.ofList ('$' :: reference)))
  | _ => .ok reference

def readVariable (axis : Axis) (vars : Variables) (reference : List Char) :
    Except ReadError Track := do
  let name := String.ofList (← referencedName reference)
  match vars.get? name axis with
  | some track => return track
  | none => throw (.unmappedVariable name)

/-! ## Tracks -/

/-- The track with this alignment, from the texts of its size and of its weight. -/
def readParts (axis : Axis) (alignment : Alignment) (size : List Char)
    (resize : Option (List Char)) : Except ReadError Track := do
  let size ← readSize axis size
  let weight ← match resize with
    | some token => readWeight token
    | none => pure .zero
  (Track.make axis alignment size weight).mapError .track

/-- Reads a text that is in lower case, without blanks at its ends. -/
def readPlainTrack (axis : Axis) (vars : Variables) (text : List Char) :
    Except ReadError Track :=
  match text with
  | [] => .error .empty
  | '$' :: reference => readVariable axis vars reference
  | _ =>
    match (split ':' text).map trim with
    | [] => .error .empty
    | first :: others =>
      match Alignment.ofLetters? axis first, others with
      | some _, [] => .error (.missingSize (String.ofList text))
      | some alignment, size :: resize =>
        if size = [] then .error (.missingSize (String.ofList text))
        else if 1 < resize.length then .error (.tooManyTokens (String.ofList text))
        else readParts axis alignment size resize.head?
      | none, resize =>
        if 1 < resize.length then .error (.tooManyTokens (String.ofList text))
        else readParts axis (.standard axis) first resize.head?

/-- Case and blanks at the ends do not matter. -/
def normalize (text : String) : List Char := lower (trim text.toList)

end TrackGrid.Reading

namespace TrackGrid

/-- Reads one column or one row. -/
def Track.read (axis : Axis) (vars : Variables) (text : String) : Except ReadError Track :=
  Reading.readPlainTrack axis vars (Reading.normalize text)

end TrackGrid
