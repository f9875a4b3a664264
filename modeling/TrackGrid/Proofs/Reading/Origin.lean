import TrackGrid.Proofs.Reading.TrackList
import TrackGrid.Proofs.Variables

/-! # Where the tracks of a text come from

Main statement: the tracks that are read for an axis are of that axis, unless an edit gave a name of
the axis to a track of the other one.
-/

namespace TrackGrid

/-! ## Tracks that names stand for -/

namespace Variables

variable {vars : Variables} {edits : List Edit} {axis : Axis} {name : String} {track : Track}

theorem Edit.axis_eq_or_eq_insertOn {edit : Edit} (h : edit.Touches axis name)
    (htrack : edit.track? = some track) :
    track.axis = axis ∨ ∃ name, edit = .insertOn axis name track := by
  cases edit with
  | insert =>
    cases htrack
    exact .inl h.1
  | insertOn _ written =>
    cases htrack
    cases h.1
    exact .inr ⟨written, rfl⟩
  | erase => cases htrack

/-- No name of an axis stands for a track of the other one. -/
def Unmixed (vars : Variables) : Prop :=
  ∀ axis name track, vars.get? name axis = some track → track.axis = axis

theorem Unmixed.axis_eq_or_exists_insertOn (h : vars.Unmixed)
    (htrack : (edits.foldl after vars).get? name axis = some track) :
    track.axis = axis ∨ ∃ name, .insertOn axis name track ∈ edits := by
  rcases get?_foldl_after_eq_some_iff.1 htrack with
    ⟨before, edit, later, rfl, htouches, hedit, -⟩ | ⟨hget, -⟩
  · refine (Edit.axis_eq_or_eq_insertOn htouches hedit).imp_right ?_
    rintro ⟨name, rfl⟩
    exact ⟨name, List.mem_append_right _ List.mem_cons_self⟩
  · exact .inl (h axis name track hget)

theorem unmixed_empty : empty.Unmixed := by
  intro axis name track h
  cases axis <;> cases h

theorem standard_eq_foldl_after :
    standard = ((standardNames .horizontal ++ standardNames .vertical).map fun entry =>
      Edit.insert entry.1 entry.2).foldl after empty := by
  rw [List.foldl_map]
  rfl

theorem unmixed_standard : standard.Unmixed := by
  intro axis name track h
  rw [standard_eq_foldl_after] at h
  rcases unmixed_empty.axis_eq_or_exists_insertOn h with haxis | ⟨written, hmem⟩
  · exact haxis
  · obtain ⟨entry, -, hentry⟩ := List.mem_map.1 hmem
    cases hentry

end Variables

/-! ## Tracks that are read -/

open Reading

variable {axis : Axis} {vars : Variables} {track : Track} {tracks : List Track}

namespace Reading

theorem VariableText.exists_get? {text : List Char} (h : VariableText axis vars text track) :
    ∃ name, vars.get? name axis = some track := by
  cases h with
  | plain _ h => exact ⟨_, h⟩
  | braced _ _ h => exact ⟨_, h⟩

/-- A track that is read for an axis is one of the axis, or a name of the axis stands for it. -/
def Supplied (axis : Axis) (vars : Variables) (track : Track) : Prop :=
  track.axis = axis ∨ ∃ name, vars.get? name axis = some track

theorem supplied_of_readPlainTrack {text : List Char}
    (h : readPlainTrack axis vars text = .ok track) : Supplied axis vars track := by
  by_cases hhead : text.head? = some '$'
  · obtain ⟨reference, rfl⟩ := List.head?_eq_some_iff.1 hhead
    exact .inr (readVariable_eq_ok_iff.1 h).exists_get?
  · have hne : text ≠ [] := by
      rintro rfl
      cases h
    obtain ⟨first, others, hp⟩ := List.exists_cons_of_ne_nil
      (mt List.map_eq_nil_iff.1 (Text.split_ne_nil ':' text))
    rcases (readPlainTrack_of_pieces hne hhead hp).1 h with
      ⟨_, _, _, -, -, -, -, hparts⟩ | ⟨-, -, hparts⟩
    · exact .inl (readParts_eq_ok_iff.1 hparts).2.2.1
    · exact .inl (readParts_eq_ok_iff.1 hparts).2.2.1

theorem supplied_of_readItems {list : List Char} (h : readItems axis vars list = .ok tracks) :
    ∀ track ∈ tracks, Supplied axis vars track := by
  apply readItems_induction (M := fun tracks => ∀ track ∈ tracks, Supplied axis vars track) _ _ h
  · intro tracks others htracks hothers
    exact List.forall_mem_append.2 ⟨htracks, hothers⟩
  · intro text track hread
    exact List.forall_mem_singleton.2 (supplied_of_readPlainTrack hread)

end Reading

namespace Track

/-- The tracks that are read for an axis, alone or in a list, from variables that edits made of none
or of the standard ones. They are of that axis, unless an edit gave a name of the axis to a track of
the other one; their alignments belong to their own axes, and their weights are finite and not
negative. -/
theorem axis_of_read {vars : Variables} (hvars : vars = .empty ∨ vars = .standard)
    (edits : List Variables.Edit) (axis : Axis) (text : String) (track : Track)
    (h : read axis (edits.foldl .after vars) text = .ok track ∨
      ∃ tracks, readList axis (edits.foldl .after vars) text = .ok tracks ∧ track ∈ tracks) :
    (track.axis = axis ∨ ∃ name, .insertOn axis name track ∈ edits) ∧
      track.alignment.legalOn track.axis = true ∧ track.weight.isFinite = true ∧
      0 ≤ track.weight.value := by
  have hsupplied : Supplied axis (edits.foldl .after vars) track := by
    rcases h with hread | ⟨tracks, hread, hmem⟩
    · exact supplied_of_readPlainTrack hread
    · exact supplied_of_readItems (readList_eq_ok_iff.1 hread).2 track hmem
  have hunmixed : vars.Unmixed := by
    rcases hvars with rfl | rfl
    · exact Variables.unmixed_empty
    · exact Variables.unmixed_standard
  have hweight := track.weight_ok
  rw [Binary64.isWeight, Bool.and_eq_true, decide_eq_true_eq] at hweight
  refine ⟨?_, track.alignment_ok, hweight⟩
  rcases hsupplied with haxis | ⟨name, hname⟩
  · exact .inl haxis
  · exact hunmixed.axis_eq_or_exists_insertOn hname

/-- The name of a column that stands for a row. -/
def misplaced : List Variables.Edit :=
  [.insert "a" (.gap .horizontal ⟨.ofInt 4, .pixel⟩), .erase "a" .horizontal,
   .insertOn .horizontal "A" (.glue .vertical)]

theorem axis_of_read_misplaced :
    read .horizontal (misplaced.foldl .after .empty) "$a" = .ok (.glue .vertical) ∧
      ((glue .vertical).axis = .horizontal ∨
        ∃ name, .insertOn .horizontal name (.glue .vertical) ∈ misplaced) := by
  have hread : read .horizontal (misplaced.foldl .after .empty) "$a" = .ok (.glue .vertical) :=
    toOption_eq_some_iff.1 (by decide +kernel)
  exact ⟨hread, (axis_of_read (.inl rfl) misplaced .horizontal "$a" _ (.inl hread)).1⟩

/-- A row is read where a column is expected. -/
theorem read_misplaced :
    ¬ ∀ track, read .horizontal (misplaced.foldl .after .empty) "$a" = .ok track →
      track.axis = .horizontal := by
  intro h
  have haxis := h (.glue .vertical) (toOption_eq_some_iff.1 (by decide +kernel))
  cases haxis

end Track

end TrackGrid
