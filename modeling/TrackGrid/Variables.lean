import TrackGrid.Table
import TrackGrid.Text.Lowercase
import TrackGrid.Track

/-! # Variables: named tracks

Columns and rows have names of their own, so one name can stand for a column and for a row. Names
are kept in lower case.
-/

namespace TrackGrid

structure Variables where
  tracks : PerAxis (Table Track)
  deriving DecidableEq

namespace Variables

def empty : Variables := ⟨.both {}⟩

/-- A name as it is kept. -/
def key (name : String) : String := String.ofList (Text.lower name.toList)

/-- Gives a track a name on an axis, whatever the axis of the track. -/
def insertOn (vars : Variables) (axis : Axis) (name : String) (track : Track) : Variables :=
  ⟨vars.tracks.modify axis (·.insert (key name) track)⟩

def insert (vars : Variables) (name : String) (track : Track) : Variables :=
  vars.insertOn track.axis name track

/-- The track of a name, which has to be in lower case. -/
def get? (vars : Variables) (name : String) (axis : Axis) : Option Track :=
  (vars.tracks.along axis).get? name

def contains (vars : Variables) (name : String) (axis : Axis) : Bool :=
  (vars.get? name axis).isSome

/-- Takes away a name, which has to be in lower case. -/
def erase (vars : Variables) (name : String) (axis : Axis) : Variables :=
  ⟨vars.tracks.modify axis (·.erase name)⟩

/-- The track that `insertOn` would replace. -/
def replaced (vars : Variables) (axis : Axis) (name : String) : Option Track :=
  vars.get? (key name) axis

def size (vars : Variables) : Nat :=
  vars.tracks.horizontal.size + vars.tracks.vertical.size

theorem get?_insertOn (vars : Variables) (axis axis' : Axis) (name name' : String) (track : Track) :
    (vars.insertOn axis name track).get? name' axis' =
      if axis = axis' ∧ key name = name' then some track else vars.get? name' axis' := by
  unfold get? insertOn
  by_cases haxis : axis' = axis
  · subst haxis
    rw [PerAxis.along_modify_self]
    by_cases hname : name' = key name
    · subst hname
      rw [if_pos ⟨rfl, rfl⟩, Table.get?_insert_self]
    · rw [if_neg fun h => hname h.2.symm, Table.get?_insert_of_ne _ _ hname]
  · rw [if_neg fun h => haxis h.1.symm, PerAxis.along_modify_of_ne _ _ haxis]

theorem get?_erase (vars : Variables) (axis axis' : Axis) (name name' : String) :
    (vars.erase name axis).get? name' axis' =
      if axis = axis' ∧ name = name' then none else vars.get? name' axis' := by
  unfold get? erase
  by_cases haxis : axis' = axis
  · subst haxis
    rw [PerAxis.along_modify_self]
    by_cases hname : name' = name
    · subst hname
      rw [if_pos ⟨rfl, rfl⟩, Table.get?_erase_self]
    · rw [if_neg fun h => hname h.2.symm, Table.get?_erase_of_ne _ hname]
  · rw [if_neg fun h => haxis h.1.symm, PerAxis.along_modify_of_ne _ _ haxis]

/-! ## Runs of edits -/

inductive Edit where
  | insert (name : String) (track : Track)
  | insertOn (axis : Axis) (name : String) (track : Track)
  | erase (name : String) (axis : Axis)
  deriving DecidableEq

def after (vars : Variables) : Edit → Variables
  | .insert name track => vars.insert name track
  | .insertOn axis name track => vars.insertOn axis name track
  | .erase name axis => vars.erase name axis

/-! ## The standard variables -/

/-- The gaps of an axis in dialog units, each with its names. -/
def standardGaps : Axis → List (List String × Nat)
  | .horizontal =>
    [(["lcg", "lcgap", "label-component-gap"], 3), (["rg", "rgap", "related-gap"], 4),
     (["ug", "ugap", "unrelated-gap"], 7)]
  | .vertical =>
    [(["lg", "lgap", "line-gap"], 3), (["nlg", "nlgap", "narrow-line-gap"], 2),
     (["pg", "pgap", "paragraph-gap"], 9), (["rg", "rgap", "related-gap"], 3),
     (["ug", "ugap", "unrelated-gap"], 7)]

def standardNames (axis : Axis) : List (String × Track) :=
  ((standardGaps axis).flatMap fun (names, units) =>
    names.map fun name => (name, Track.gap axis ⟨.ofInt units, .dialog⟩)) ++ [("glue", .glue axis)]

/-- The usual gaps between components and a glue, for columns and for rows. -/
def standard : Variables :=
  (standardNames .horizontal ++ standardNames .vertical).foldl
    (fun vars (name, track) => vars.insert name track) empty

end Variables

end TrackGrid
