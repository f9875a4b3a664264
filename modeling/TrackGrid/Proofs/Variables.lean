import Mathlib.Data.List.Forall2
import TrackGrid.Variables

/-! # What names stand for after a run of edits

Main statement: a name stands for what its latest edit gave it, where a name that comes in is put in
lower case and a name that is looked up or taken away is not.
-/

namespace TrackGrid.Variables

/-! ## What an edit touches -/

namespace Edit

/-- The axis whose names change. -/
def axis : Edit → Axis
  | insert _ track => track.axis
  | insertOn axis _ _ => axis
  | erase _ axis => axis

/-- The name that changes, as it is written. -/
def written : Edit → String
  | insert name _ => name
  | insertOn _ name _ => name
  | erase name _ => name

/-- The name that changes, as it is kept. -/
def kept : Edit → String
  | insert name _ => key name
  | insertOn _ name _ => key name
  | erase name _ => name

/-- What the name stands for from then on. -/
def track? : Edit → Option Track
  | insert _ track => some track
  | insertOn _ _ track => some track
  | erase _ _ => none

def Touches (edit : Edit) (axis : Axis) (name : String) : Prop :=
  edit.axis = axis ∧ edit.kept = name

instance (edit : Edit) (axis : Axis) (name : String) : Decidable (edit.Touches axis name) :=
  inferInstanceAs (Decidable (_ ∧ _))

/-- An edit that takes away a name takes it away in lower case. -/
def Lowered : Edit → Prop
  | insert _ _ => True
  | insertOn _ _ _ => True
  | erase name _ => key name = name

variable {axis : Axis} {name : String}

theorem touches_iff_of_lowered {edit : Edit} (h : edit.Lowered) (hname : key name = name) :
    edit.Touches axis name ↔ edit.axis = axis ∧ key edit.written = key name := by
  rw [hname]
  cases edit with
  | insert => rfl
  | insertOn => rfl
  | erase erased =>
    have hkey : key erased = erased := h
    rw [written, hkey]
    rfl

/-- The edits differ at most in the case of a name that comes in. -/
inductive SameButCase : Edit → Edit → Prop
  | insert {name other : String} (h : key name = key other) (track : Track) :
    SameButCase (.insert name track) (.insert other track)
  | insertOn (axis : Axis) {name other : String} (h : key name = key other) (track : Track) :
    SameButCase (.insertOn axis name track) (.insertOn axis other track)
  | erase (name : String) (axis : Axis) : SameButCase (.erase name axis) (.erase name axis)

end Edit

variable {vars : Variables} {edits : List Edit} {axis : Axis} {name : String} {track : Track}

/-! ## One edit -/

theorem get?_after (vars : Variables) (edit : Edit) (axis : Axis) (name : String) :
    (vars.after edit).get? name axis =
      if edit.Touches axis name then edit.track? else vars.get? name axis := by
  cases edit with
  | insert => exact get?_insertOn ..
  | insertOn => exact get?_insertOn ..
  | erase => exact get?_erase ..

theorem after_congr {edit other : Edit} (h : edit.SameButCase other) :
    vars.after edit = vars.after other := by
  cases h with
  | insert h => simp [after, insert, insertOn, h]
  | insertOn _ h => simp [after, insertOn, h]
  | erase => rfl

/-! ## Runs of edits -/

/-- The last of the edits that touch a name. -/
def latest? (edits : List Edit) (axis : Axis) (name : String) : Option Edit :=
  edits.reverse.find? fun edit => edit.Touches axis name

theorem latest?_eq_none_iff :
    latest? edits axis name = none ↔ ∀ edit ∈ edits, ¬ edit.Touches axis name := by
  simp [latest?]

theorem latest?_eq_some_iff {edit : Edit} :
    latest? edits axis name = some edit ↔ edit.Touches axis name ∧
      ∃ before later, edits = before ++ edit :: later ∧
        ∀ other ∈ later, ¬ other.Touches axis name := by
  rw [latest?, List.find?_eq_some_iff_append]
  simp only [decide_eq_true_eq, Bool.not_eq_true', decide_eq_false_iff_not]
  refine and_congr_right fun _ => ?_
  constructor
  · rintro ⟨later, before, hedits, hlater⟩
    refine ⟨before.reverse, later.reverse, ?_, fun other hother => ?_⟩
    · rw [← List.reverse_reverse edits, hedits]
      simp
    · exact hlater other (List.mem_reverse.1 hother)
  · rintro ⟨before, later, rfl, hlater⟩
    refine ⟨later.reverse, before.reverse, by simp, fun other hother => ?_⟩
    exact hlater other (List.mem_reverse.1 hother)

theorem get?_foldl_after :
    (edits.foldl after vars).get? name axis =
      (latest? edits axis name).elim (vars.get? name axis) Edit.track? := by
  induction edits generalizing vars with
  | nil => rfl
  | cons edit edits ih =>
    have hlatest : latest? (edit :: edits) axis name =
        (latest? edits axis name).or (if edit.Touches axis name then some edit else none) := by
      rw [latest?, List.reverse_cons, List.find?_append]
      by_cases h : edit.Touches axis name <;> simp [latest?, h]
    rw [List.foldl_cons, ih, hlatest, get?_after]
    cases latest? edits axis name with
    | some last => rfl
    | none => split <;> rfl

theorem get?_foldl_after_eq_some_iff :
    (edits.foldl after vars).get? name axis = some track ↔
      (∃ before edit later, edits = before ++ edit :: later ∧ edit.Touches axis name ∧
        edit.track? = some track ∧ ∀ other ∈ later, ¬ other.Touches axis name) ∨
      (vars.get? name axis = some track ∧ ∀ edit ∈ edits, ¬ edit.Touches axis name) := by
  rw [get?_foldl_after]
  constructor
  · intro h
    cases hlatest : latest? edits axis name with
    | none =>
      rw [hlatest] at h
      exact .inr ⟨h, latest?_eq_none_iff.1 hlatest⟩
    | some edit =>
      rw [hlatest] at h
      obtain ⟨htouches, before, later, heq, hlater⟩ := latest?_eq_some_iff.1 hlatest
      exact .inl ⟨before, edit, later, heq, htouches, h, hlater⟩
  · rintro (⟨before, edit, later, heq, htouches, htrack, hlater⟩ | ⟨h, hnone⟩)
    · rw [latest?_eq_some_iff.2 ⟨htouches, before, later, heq, hlater⟩]
      exact htrack
    · rw [latest?_eq_none_iff.2 hnone]
      exact h

theorem get?_foldl_after_filter :
    ((edits.filter (·.axis = axis)).foldl after vars).get? name axis =
      (edits.foldl after vars).get? name axis := by
  have hlatest : latest? (edits.filter (·.axis = axis)) axis name = latest? edits axis name := by
    rw [latest?, latest?, ← List.filter_reverse, List.find?_filter]
    congr 1
    funext edit
    by_cases h : edit.axis = axis <;> simp [Edit.Touches, h]
  rw [get?_foldl_after, get?_foldl_after, hlatest]

theorem foldl_after_congr {others : List Edit} (h : List.Forall₂ Edit.SameButCase edits others) :
    edits.foldl after vars = others.foldl after vars := by
  induction h generalizing vars with
  | nil => rfl
  | cons hedit _ ih => rw [List.foldl_cons, List.foldl_cons, after_congr hedit, ih]

/-- A name stands for the track of the latest edit that touches it, if that edit did not take it
away. A name may come in in any case, but it is looked up and taken away in lower case, and then
names that differ in their case alone are the same. The edits of the other axis change nothing. -/
theorem get?_of_edits (vars : Variables) (edits : List Edit) (axis : Axis) (name : String) :
    (∀ track, (edits.foldl after vars).get? name axis = some track ↔
      (∃ before edit later, edits = before ++ edit :: later ∧ edit.Touches axis name ∧
        edit.track? = some track ∧ ∀ other ∈ later, ¬ other.Touches axis name) ∨
      (vars.get? name axis = some track ∧ ∀ edit ∈ edits, ¬ edit.Touches axis name)) ∧
    ((edits.foldl after vars).contains name axis = true ↔
      ∃ track, (edits.foldl after vars).get? name axis = some track) ∧
    (key name = name → ∀ edit ∈ edits, edit.Lowered →
      (edit.Touches axis name ↔ edit.axis = axis ∧ key edit.written = key name)) ∧
    (∀ others, List.Forall₂ Edit.SameButCase edits others →
      edits.foldl after vars = others.foldl after vars) ∧
    ((edits.filter (·.axis = axis)).foldl after vars).get? name axis =
      (edits.foldl after vars).get? name axis :=
  ⟨fun _ => get?_foldl_after_eq_some_iff, Option.isSome_iff_exists,
    fun hname _ _ hedit => Edit.touches_iff_of_lowered hedit hname,
    fun _ => foldl_after_congr, get?_foldl_after_filter⟩

def sampleEdits : List Edit :=
  [.insert "Field" (.gap .horizontal ⟨.ofInt 4, .pixel⟩), .insertOn .vertical "field" (.glue .vertical),
   .insert "FIELD" (.glue .horizontal), .erase "field" .vertical]

theorem get?_of_sampleEdits :
    (sampleEdits.foldl after empty).get? "field" .horizontal = some (.glue .horizontal) ∧
      ((Edit.erase "field" .vertical).Touches .vertical "field" ↔
        Axis.vertical = .vertical ∧ key "field" = key "field") ∧
      sampleEdits.foldl after empty =
        [.insert "FIELD" (.gap .horizontal ⟨.ofInt 4, .pixel⟩),
          .insertOn .vertical "FIELD" (.glue .vertical), .insert "field" (.glue .horizontal),
          .erase "field" .vertical].foldl after empty := by
  have hcase : key "Field" = key "FIELD" ∧ key "field" = key "FIELD" := by decide
  have hlower : key "field" = "field" := by decide
  refine ⟨?_, ?_, ?_⟩
  · refine ((get?_of_edits empty sampleEdits .horizontal "field").1 _).2 (.inl ?_)
    exact ⟨sampleEdits.take 2, .insert "FIELD" (.glue .horizontal), [.erase "field" .vertical],
      rfl, by decide, rfl, by decide⟩
  · exact (get?_of_edits empty sampleEdits .vertical "field").2.2.1 hlower _ (by decide) hlower
  · refine (get?_of_edits empty sampleEdits .vertical "field").2.2.2.1 _ ?_
    exact .cons (.insert hcase.1 _) (.cons (.insertOn _ hcase.2 _)
      (.cons (.insert hcase.2.symm _) (.cons (.erase _ _) .nil)))

/-- A name that came in with a capital is found and taken away in lower case alone, though both
spellings are the same name. -/
theorem get?_capital :
    key "Field" = key "field" ∧
      (empty.insert "Field" (.glue .horizontal)).get? "field" .horizontal =
        some (.glue .horizontal) ∧
      (empty.insert "Field" (.glue .horizontal)).get? "Field" .horizontal = none ∧
      (empty.insert "Field" (.glue .horizontal)).contains "Field" .horizontal = false ∧
      ((empty.insert "Field" (.glue .horizontal)).erase "Field" .horizontal).get? "field"
        .horizontal = some (.glue .horizontal) := by
  decide

end TrackGrid.Variables
