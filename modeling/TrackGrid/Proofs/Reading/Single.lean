import TrackGrid.Proofs.Reading.Printed

/-! # Lists of a single track

Main statement: a track that is not a variable is read in the same way alone and as a list, and so
is a text without commas and stars.
-/

namespace TrackGrid

open Reading Text

variable {axis : Axis} {vars : Variables} {text : String} {track : Track} {tracks : List Track}

/-! ## Signs that are left once a text is normal -/

theorem Reading.head?_normalize_ne {sign : Char} (hsign : keptSigns.covers sign = true)
    (h : (trim text.toList).head? ≠ some sign) : (normalize text).head? ≠ some sign :=
  mt (head?_lower_eq_some_iff hsign).1 h

theorem Reading.not_mem_normalize {sign : Char} (hsign : keptSigns.covers sign = true)
    (h : sign ∉ text.toList) : sign ∉ normalize text :=
  mt (mem_lower_iff hsign).1 (mt mem_of_mem_trim h)

/-! ## Alone and in a list -/

namespace Track

theorem readList_of_read (hhead : (trim text.toList).head? ≠ some '$')
    (h : read axis vars text = .ok track) : readList axis vars text = .ok [track] := by
  rcases (readPlainTrack_eq_ok_iff (trimmed_normalize text)).1 h with hvar | ⟨htext, haxis⟩
  · exact absurd hvar.head?_eq (head?_normalize_ne (by decide) hhead)
  · refine readList_of_normalize (.cons ⟨htext, haxis⟩ .nil) (List.cons_ne_nil _ _) ?_
    rw [commaSeparated, List.intercalate_singleton]

theorem exists_read_of_readList (hcomma : ',' ∉ text.toList) (hstar : '*' ∉ text.toList)
    (h : readList axis vars text = .ok tracks) :
    ∃ track, read axis vars text = .ok track ∧ tracks = [track] := by
  have hnocomma := not_mem_normalize (by decide) hcomma
  have hnostar := not_mem_normalize (by decide) hstar
  obtain ⟨-, hitems⟩ := readList_eq_ok_iff.1 h
  rw [getD_dropLast?_of_ne (mt List.mem_of_getLast? hnocomma)] at hitems
  obtain ⟨items, hs, heach⟩ := readItems_eq_ok_iff.1 hitems
  obtain rfl := splitOutside_of_not_mem hnocomma hs
  obtain ⟨first, others, hitem, hnil, rfl⟩ := readEach_cons_eq_ok_iff.1 heach
  rw [readEach_nil] at hnil
  cases hnil
  rw [(trimmed_normalize text).trim_eq] at hitem
  obtain ⟨-, ⟨-, track, hread, rfl⟩ | ⟨hrepeat, -⟩⟩ := readItem_eq_ok_iff.1 hitem
  · exact ⟨track, hread, List.append_nil _⟩
  · simp [isRepeat, hnostar] at hrepeat

/-- What is read as a track, not from a variable, is read as the list of that track; and a list of
one track that is read from a text without commas and stars is read as that track. -/
theorem readList_agrees_read (axis : Axis) (vars : Variables) (text : String) (track : Track) :
    ((trim text.toList).head? ≠ some '$' → read axis vars text = .ok track →
      readList axis vars text = .ok [track]) ∧
    (',' ∉ text.toList → '*' ∉ text.toList → readList axis vars text = .ok [track] →
      read axis vars text = .ok track) := by
  refine ⟨readList_of_read, fun hcomma hstar h => ?_⟩
  obtain ⟨_, hread, ⟨⟩⟩ := exists_read_of_readList hcomma hstar h
  exact hread

/-- The column of the text `right:[4px;pref]:grow(0.5)`. -/
def sampleBounded : Track where
  axis := .horizontal
  alignment := .right
  size := .bounded .preferred (.atLeast ⟨.ofInt 4, .pixel⟩)
  weight := .half
  alignment_ok := by decide
  weight_ok := isWeight_half

/-- The column under the name `gap`. -/
def sampleVariables : Variables := Variables.empty.insert "gap" sampleGap

theorem readList_variable_sample :
    readList .horizontal sampleVariables " $Gap" = .ok [sampleGap] := by
  have hbody : (dropLast? ',' (normalize " $Gap")).getD (normalize " $Gap") = "$gap".toList := by
    decide +kernel
  refine readList_eq_ok_iff.2 ⟨by decide +kernel, ?_⟩
  rw [hbody]
  refine readItems_eq_ok_iff.2 ⟨["$gap".toList], by decide, ?_⟩
  refine readEach_cons_eq_ok_iff.2 ⟨[sampleGap], [], ?_, readEach_nil, rfl⟩
  exact readItem_eq_ok_iff.2
    ⟨by decide, .inl ⟨by decide, _, toOption_eq_some_iff.1 (by decide +kernel), rfl⟩⟩

theorem readList_agrees_read_sample :
    readList .horizontal .empty " R:[4px; PREF]:g(.5)" = .ok [sampleBounded] ∧
      read .horizontal sampleVariables " $Gap" = .ok sampleGap :=
  ⟨(readList_agrees_read _ _ _ _).1 (by decide) (toOption_eq_some_iff.1 (by decide +kernel)),
    (readList_agrees_read _ _ _ _).2 (by decide) (by decide) readList_variable_sample⟩

end Track

end TrackGrid
