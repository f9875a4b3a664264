import TrackGrid.Cell
import TrackGrid.Track

/-! # Why a text cannot be read -/

namespace TrackGrid

/-- What is wrong with the text of a track, of a list of tracks or of a cell. -/
inductive ReadError where
  | empty
  | unmappedVariable (name : String)
  | missingSize (text : String)
  | tooManyTokens (text : String)
  | invalidSize (token : String)
  | invalidNumber (token : String)
  | invalidResize (token : String)
  | illegalBounds (token : String)
  | bothConstant (token : String)
  | bothComponent (token : String)
  | invalidAlignment (token : String) (axis : Axis)
  | invalidMultiplier (item : String)
  | tooManyTracks (item : String) (limit : Nat)
  | unbalanced (text : String)
  | wrongValueCount (text : String)
  | track (error : TrackError)
  | cell (error : CellError)

namespace ReadError

/-- The forms of bounds in brackets, for the message about other ones. -/
def boundsForms : String :=
  "\n".intercalate [
    "[<constant size>;<logical size>]                 // lower bound",
    "[<logical size>;<constant size>]                 // upper bound",
    "[<constant size>;<logical size>;<constant size>] // lower and upper bound",
    "Examples:",
    "[50dlu;pref]                                     // lower bound",
    "[pref;200dlu]                                    // upper bound",
    "[50dlu;pref;200dlu]                              // lower and upper bound"]

def message : ReadError → String
  | empty => "The encoded form spec must not be empty."
  | unmappedVariable name => s!"Unmapped layout variable: ${name}"
  | missingSize text => s!"The form spec '{text}' must provide a size."
  | tooManyTokens text => s!"The form spec '{text}' has more than three ':'-separated tokens."
  | invalidSize token =>
    s!"Invalid size '{token}'. Must be a constant like 50dlu or 10px, or one of: " ++
      "m, min, p, pref, d, default"
  | invalidNumber token => s!"Invalid number '{token}'"
  | invalidResize token =>
    s!"The resize argument '{token}' is invalid. Must be one of: " ++
      "grow, g, none, n, nogrow, grow(<double>), g(<double>)"
  | illegalBounds token => s!"Illegal bounded size '{token}'. Must be one of:\n{boundsForms}"
  | bothConstant token => s!"Bounded sizes must not be both constants: '{token}'"
  | bothComponent token => s!"Bounded sizes must not be both logical: '{token}'"
  | invalidAlignment token axis => s!"Invalid {axis.name} alignment '{token}'"
  | invalidMultiplier item =>
    s!"Invalid repeat multiplier in '{item}'. Must be a positive integer followed by '*'"
  | tooManyTracks item limit => s!"The repeat in '{item}' expands to more than {limit} tracks"
  | unbalanced text => s!"Unbalanced brackets or parentheses in '{text}'"
  | wrongValueCount text =>
    s!"Invalid cell constraints '{text}': expected 2, 4, or 6 comma-separated values"
  | track error => error.message
  | cell error => error.message

end ReadError

end TrackGrid
