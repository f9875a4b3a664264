import TrackGrid.Proofs.Reading.Size
import TrackGrid.Proofs.Text.Lowercase
import TrackGrid.Reading.Track

/-! # How tracks are written

Main statement: the texts that are read as a track are the written forms of tracks, in any case and
with blanks around them.
-/

namespace TrackGrid

theorem Alignment.ofLetters?_eq_some_iff {axis : Axis} {word : List Char} {alignment : Alignment} :
    ofLetters? axis word = some alignment ↔
      (word = alignment.letters ∨ word = alignment.initial) ∧ alignment.legalOn axis = true := by
  constructor
  · intro h
    simpa using List.find?_some h
  · rintro ⟨hword, hlegal⟩
    revert hlegal
    rcases hword with rfl | rfl <;> cases alignment <;> cases axis <;> decide

theorem Track.make_eq_ok_iff {axis : Axis} {alignment : Alignment} {size : Size} {weight : Binary64}
    {track : Track} :
    make axis alignment size weight = .ok track ↔
      track.axis = axis ∧ track.alignment = alignment ∧ track.size = size ∧
        track.weight = weight := by
  unfold make
  constructor
  · intro h
    split at h
    · split at h
      · cases h
        exact ⟨rfl, rfl, rfl, rfl⟩
      · cases h
    · cases h
  · rintro ⟨rfl, rfl, rfl, rfl⟩
    rw [dif_pos track.weight_ok, dif_pos track.alignment_ok]

end TrackGrid

namespace TrackGrid.Reading

open Text

variable {axis : Axis} {vars : Variables} {text : List Char} {track : Track}

/-! ## Variables -/

inductive VariableText (axis : Axis) (vars : Variables) : List Char → Track → Prop
  | plain {name : List Char} {track : Track} (hn : name.head? ≠ some '\x7b')
    (h : vars.get? (String.ofList name) axis = some track) :
    VariableText axis vars ('$' :: name) track
  | braced {name : List Char} {track : Track} (hne : name ≠ [])
    (hn : ∀ c ∈ name, isNameChar c = true)
    (h : vars.get? (String.ofList name) axis = some track) :
    VariableText axis vars ('$' :: '\x7b' :: (name ++ ['\x7d'])) track

theorem VariableText.head?_eq (h : VariableText axis vars text track) : text.head? = some '$' := by
  cases h <;> rfl

theorem referencedName_eq_ok_iff {name : List Char} :
    referencedName text = .ok name ↔
      (text.head? ≠ some '\x7b' ∧ name = text) ∨
        (text = '\x7b' :: (name ++ ['\x7d']) ∧ name ≠ [] ∧ ∀ c ∈ name, isNameChar c = true) := by
  unfold referencedName
  split
  · rename_i rest
    simp only [List.head?_cons, ne_eq, not_true_eq_false, false_and, false_or, List.cons.injEq,
      true_and]
    split
    · rename_i inner hlast
      obtain rfl := dropLast?_eq_some_iff.1 hlast
      rw [ite_eq_ok_iff, List.all_eq_true]
      constructor
      · rintro ⟨h, ⟨⟩⟩
        exact ⟨rfl, h⟩
      · rintro ⟨h, hname⟩
        obtain rfl := List.append_cancel_right h
        exact ⟨hname, rfl⟩
    · rename_i hnone
      simp only [reduceCtorEq, false_iff]
      rintro ⟨rfl, -⟩
      rw [dropLast?_eq_some_iff.2 rfl] at hnone
      cases hnone
  · rename_i hnot
    have hhead : text.head? ≠ some '\x7b' := by
      intro hhead
      obtain ⟨rest, rfl⟩ := List.head?_eq_some_iff.1 hhead
      exact hnot rest rfl
    rw [Except.ok.injEq]
    constructor
    · rintro rfl
      exact .inl ⟨hhead, rfl⟩
    · rintro (⟨-, rfl⟩ | ⟨rfl, -⟩)
      · rfl
      · exact absurd rfl hhead

theorem readVariable_eq_ok_iff :
    readVariable axis vars text = .ok track ↔ VariableText axis vars ('$' :: text) track := by
  have hread : readVariable axis vars text = .ok track ↔
      ∃ name, referencedName text = .ok name ∧
        vars.get? (String.ofList name) axis = some track := by
    rw [readVariable, bind_eq_ok_iff]
    refine exists_congr fun name => and_congr_right fun _ => ?_
    dsimp only
    cases vars.get? (String.ofList name) axis <;> simp
  rw [hread]
  simp only [referencedName_eq_ok_iff]
  constructor
  · rintro ⟨name, ⟨hn, rfl⟩ | ⟨rfl, hne, hn⟩, h⟩
    · exact .plain hn h
    · exact .braced hne hn h
  · intro h
    cases h with
    | plain hn h => exact ⟨text, .inl ⟨hn, rfl⟩, h⟩
    | braced hne hn h => exact ⟨_, .inr ⟨rfl, hne, hn⟩, h⟩

/-! ## Tracks -/

def AlignmentText (axis : Axis) (text : List Char) (alignment : Alignment) : Prop :=
  (text = alignment.letters ∨ text = alignment.initial) ∧ alignment.legalOn axis = true

/-- A size, with a weight behind a colon if there is one. -/
inductive SizedText (axis : Axis) : List Char → Size → Binary64 → Prop
  | plain {text : List Char} {size : Size} (hs : SizeText axis text size) :
    SizedText axis text size .zero
  | weighted {text gap resize : List Char} {size : Size} {weight : Binary64}
    (hs : SizeText axis text size) (hg : Spaced ':' gap) (hw : WeightText resize weight) :
    SizedText axis (text ++ (gap ++ resize)) size weight

/-- The parts of a track; the alignment in front may be left out. -/
inductive TrackText (axis : Axis) : List Char → Alignment → Size → Binary64 → Prop
  | standard {text : List Char} {size : Size} {weight : Binary64}
    (h : SizedText axis text size weight) : TrackText axis text (.standard axis) size weight
  | aligned {word gap text : List Char} {alignment : Alignment} {size : Size} {weight : Binary64}
    (ha : AlignmentText axis word alignment) (hg : Spaced ':' gap)
    (h : SizedText axis text size weight) :
    TrackText axis (word ++ (gap ++ text)) alignment size weight

theorem TrackText.legalOn {alignment : Alignment} {size : Size} {weight : Binary64}
    (h : TrackText axis text alignment size weight) : alignment.legalOn axis = true := by
  cases h with
  | standard => exact Alignment.standard_legalOn axis
  | aligned ha => exact ha.2

/-- The weight behind a size; there is none if it is left out. -/
inductive ResizeText : Option (List Char) → Binary64 → Prop
  | none : ResizeText none .zero
  | some {text : List Char} {weight : Binary64} (h : WeightText text weight) :
    ResizeText (some text) weight

theorem elim_readWeight_eq_ok_iff {resize : Option (List Char)} {weight : Binary64} :
    resize.elim (.ok .zero) readWeight = .ok weight ↔ ResizeText resize weight := by
  cases resize with
  | none =>
    constructor
    · rintro ⟨⟩
      exact .none
    · rintro ⟨⟩
      rfl
  | some token =>
    rw [Option.elim_some, readWeight_eq_ok_iff]
    constructor
    · exact .some
    · rintro (_ | h)
      exact h

theorem readParts_eq_ok_iff {alignment : Alignment} {resize : Option (List Char)} :
    readParts axis alignment text resize = .ok track ↔
      SizeText axis text track.size ∧ ResizeText resize track.weight ∧ track.axis = axis ∧
        track.alignment = alignment := by
  have hparts : readParts axis alignment text resize = (do
      let size ← readSize axis text
      let weight ← resize.elim (.ok .zero) readWeight
      (Track.make axis alignment size weight).mapError .track) := by
    cases resize <;> rfl
  rw [hparts]
  simp only [bind_eq_ok_iff, readSize_eq_ok_iff, elim_readWeight_eq_ok_iff, mapError_eq_ok_iff,
    Track.make_eq_ok_iff]
  constructor
  · rintro ⟨_, hsize, _, hresize, haxis, halignment, rfl, rfl⟩
    exact ⟨hsize, hresize, haxis, halignment⟩
  · rintro ⟨hsize, hresize, haxis, halignment⟩
    exact ⟨_, hsize, _, hresize, haxis, halignment, rfl, rfl⟩

/-! ## Pieces of a track -/

theorem isBlank_colon : isBlank ':' = false := by decide

theorem SizedText.pieces {size : Size} {weight : Binary64} (h : SizedText axis text size weight) :
    ∃ first resize, (split ':' text).map trim = first :: resize ∧ resize.length ≤ 1 ∧
      SizeText axis first size ∧ ResizeText resize.head? weight := by
  cases h with
  | plain hs =>
    refine ⟨text, [], ?_, by simp, hs, .none⟩
    rw [split_of_not_mem hs.colon_not_mem, List.map_singleton, hs.trimmed.trim_eq]
  | @weighted first gap resize _ _ hs hg hw =>
    refine ⟨first, [resize], ?_, by simp, hs, .some hw⟩
    rw [map_trim_split_spaced isBlank_colon hs.trimmed hs.colon_not_mem hg,
      split_of_not_mem hw.colon_not_mem, List.map_singleton, hw.trimmed.trim_eq]

theorem sizedText_of_pieces {first : List Char} {resize : List (List Char)} {size : Size}
    {weight : Binary64} (h : Trimmed text) (hp : (split ':' text).map trim = first :: resize)
    (hlength : resize.length ≤ 1) (hs : SizeText axis first size)
    (hresize : ResizeText resize.head? weight) : SizedText axis text size weight := by
  rcases exists_spaced isBlank_colon h hp with ⟨rfl, rfl⟩ | ⟨gap, rest, hg, rfl, hrest, hp'⟩
  · cases hresize
    exact .plain hs
  · -- Behind the colon there is one more piece, and it is the rest of the text.
    match resize, hlength with
    | [], _ => exact absurd (List.map_eq_nil_iff.1 hp') (split_ne_nil _ _)
    | [token], _ =>
      rcases exists_spaced isBlank_colon hrest hp' with ⟨-, rfl⟩ | ⟨_, _, _, _, _, hnil⟩
      · cases hresize with
        | some hw => exact .weighted hs hg hw
      · exact absurd (List.map_eq_nil_iff.1 hnil) (split_ne_nil _ _)

theorem SizedText.head {size : Size} {weight : Binary64} (h : SizedText axis text size weight) :
    ∃ c rest, text = c :: rest ∧ (c.isDigit = true ∨ c ∈ ['[', 'm', 'p', 'd']) := by
  cases h with
  | plain hs => exact hs.head
  | weighted hs =>
    obtain ⟨c, rest, rfl, hc⟩ := hs.head
    exact ⟨c, _, rfl, hc⟩

theorem AlignmentText.head {alignment : Alignment} (h : AlignmentText axis text alignment) :
    ∃ c rest, text = c :: rest ∧ c ∈ ['l', 'r', 't', 'b', 'c', 'f'] := by
  rcases h.1 with rfl | rfl <;> cases alignment <;> exact ⟨_, _, rfl, by decide⟩

theorem AlignmentText.covers {alignment : Alignment} (h : AlignmentText axis text alignment) :
    ∀ c ∈ text, plainRanges.covers c = true := by
  rcases h.1 with rfl | rfl <;> cases alignment <;> decide

/-! ## Characters of a track -/

theorem not_mem_of_spaced_colon {c : Char} (h : Spaced ':' text) (hblank : isBlank c = false)
    (hne : c ≠ ':') : c ∉ text := by
  obtain ⟨before, after, hb, ha, rfl⟩ := h
  simp [not_mem_of_blanks hblank hb, not_mem_of_blanks hblank ha, hne]

theorem SizedText.not_mem {size : Size} {weight : Binary64} {c : Char}
    (h : SizedText axis text size weight) (hc : plainRanges.covers c = false)
    (hblank : isBlank c = false) (hsign : c ∉ ['(', ')', ';', '[', ']', ':']) : c ∉ text := by
  simp only [List.mem_cons, List.not_mem_nil, or_false, not_or] at hsign
  cases h with
  | plain hs => exact hs.not_mem hc hblank (by simp [hsign])
  | weighted hs hg hw =>
    have hsize := hs.not_mem hc hblank (by simp [hsign])
    have hweight := hw.not_mem hc hblank (by simp [hsign])
    simp [hsize, hweight, not_mem_of_spaced_colon hg hblank hsign.2.2.2.2.2]

theorem TrackText.not_mem {alignment : Alignment} {size : Size} {weight : Binary64} {c : Char}
    (h : TrackText axis text alignment size weight) (hc : plainRanges.covers c = false)
    (hblank : isBlank c = false) (hsign : c ∉ ['(', ')', ';', '[', ']', ':']) : c ∉ text := by
  cases h with
  | standard h => exact h.not_mem hc hblank hsign
  | aligned ha hg h =>
    have hword := not_mem_of_covers ha.covers hc
    have hne : c ≠ ':' := by
      rintro rfl
      exact hsign (by decide)
    simp [hword, h.not_mem hc hblank hsign, not_mem_of_spaced_colon hg hblank hne]

theorem SizedText.ne_nil {size : Size} {weight : Binary64} (h : SizedText axis text size weight) :
    text ≠ [] := by
  obtain ⟨c, rest, rfl, -⟩ := h.head
  exact List.cons_ne_nil c rest

theorem TrackText.ne_nil {alignment : Alignment} {size : Size} {weight : Binary64}
    (h : TrackText axis text alignment size weight) : text ≠ [] := by
  cases h with
  | standard h => exact h.ne_nil
  | aligned _ _ h => simp [h.ne_nil]

theorem SizedText.trimmed {size : Size} {weight : Binary64} (h : SizedText axis text size weight) :
    Trimmed text := by
  cases h with
  | plain hs => exact hs.trimmed
  | weighted hs hg hw =>
    have hsized := SizedText.plain hs
    exact hs.trimmed.append hw.trimmed hsized.ne_nil hw.ne_nil _

theorem TrackText.trimmed {alignment : Alignment} {size : Size} {weight : Binary64}
    (h : TrackText axis text alignment size weight) : Trimmed text := by
  cases h with
  | standard h => exact h.trimmed
  | aligned ha _ h =>
    obtain ⟨c, rest, hc, -⟩ := ha.head
    exact (trimmed_of_covers ha.covers).append h.trimmed (by simp [hc]) h.ne_nil _

theorem TrackText.head?_ne {alignment : Alignment} {size : Size} {weight : Binary64}
    (h : TrackText axis text alignment size weight) : text.head? ≠ some '$' := fun hhead =>
  h.not_mem (by decide) (by decide) (by decide) (List.mem_of_head? hhead)

/-! ## Reading one track -/

theorem SizeText.ofLetters?_eq_none {size : Size} (h : SizeText axis text size) :
    Alignment.ofLetters? axis text = none := by
  rw [Option.eq_none_iff_forall_ne_some]
  intro alignment halignment
  obtain ⟨c, rest, rfl, hc⟩ := h.head
  have hword : AlignmentText axis (c :: rest) alignment :=
    Alignment.ofLetters?_eq_some_iff.1 halignment
  obtain ⟨d, rest, ⟨⟩, hd⟩ := hword.head
  have hnot : ∀ c ∈ ['l', 'r', 't', 'b', 'c', 'f'],
      ¬ (c.isDigit = true ∨ c ∈ ['[', 'm', 'p', 'd']) := by
    decide
  exact hnot c hd hc

theorem readPlainTrack_of_pieces {first : List Char} {others : List (List Char)} (hne : text ≠ [])
    (hhead : text.head? ≠ some '$') (hp : (split ':' text).map trim = first :: others) :
    readPlainTrack axis vars text = .ok track ↔
      (∃ alignment size resize, Alignment.ofLetters? axis first = some alignment ∧
        others = size :: resize ∧ size ≠ [] ∧ resize.length ≤ 1 ∧
        readParts axis alignment size resize.head? = .ok track) ∨
      (Alignment.ofLetters? axis first = none ∧ others.length ≤ 1 ∧
        readParts axis (.standard axis) first others.head? = .ok track) := by
  unfold readPlainTrack
  split
  · exact absurd rfl hne
  · exact absurd List.head?_cons hhead
  · rw [hp]
    dsimp only
    cases Alignment.ofLetters? axis first with
    | none => simp [ite_error_eq_ok_iff]
    | some alignment =>
      cases others with
      | nil => simp
      | cons size resize =>
        simp only [ite_error_eq_ok_iff, Nat.not_lt, reduceCtorEq, false_and, or_false]
        constructor
        · rintro ⟨hsize, hlength, h⟩
          exact ⟨alignment, size, resize, rfl, rfl, hsize, hlength, h⟩
        · rintro ⟨_, _, _, ⟨⟩, ⟨⟩, hsize, hlength, h⟩
          exact ⟨hsize, hlength, h⟩

theorem readPlainTrack_of_trackText {alignment : Alignment}
    (h : TrackText axis text alignment track.size track.weight) (haxis : track.axis = axis)
    (halignment : track.alignment = alignment) : readPlainTrack axis vars text = .ok track := by
  have hne := h.ne_nil
  have hhead := h.head?_ne
  cases h with
  | standard hsized =>
    obtain ⟨first, resize, hp, hlength, hs, hresize⟩ := hsized.pieces
    rw [readPlainTrack_of_pieces hne hhead hp]
    exact .inr ⟨hs.ofLetters?_eq_none, hlength,
      readParts_eq_ok_iff.2 ⟨hs, hresize, haxis, halignment⟩⟩
  | @aligned word gap sized _ _ _ ha hg hsized =>
    obtain ⟨first, resize, hp, hlength, hs, hresize⟩ := hsized.pieces
    have hpieces : (split ':' (word ++ (gap ++ sized))).map trim =
        word :: (split ':' sized).map trim :=
      map_trim_split_spaced isBlank_colon (trimmed_of_covers ha.covers)
        (not_mem_of_covers ha.covers (by decide)) hg
    rw [hp] at hpieces
    have hsize : first ≠ [] := by
      obtain ⟨c, rest, rfl, -⟩ := hs.head
      exact List.cons_ne_nil c rest
    rw [readPlainTrack_of_pieces hne hhead hpieces]
    exact .inl ⟨alignment, first, resize, Alignment.ofLetters?_eq_some_iff.2 ha, rfl, hsize, hlength,
      readParts_eq_ok_iff.2 ⟨hs, hresize, haxis, halignment⟩⟩

theorem trackText_of_readPlainTrack (h : Trimmed text) (hne : text ≠ [])
    (hhead : text.head? ≠ some '$') (hread : readPlainTrack axis vars text = .ok track) :
    TrackText axis text track.alignment track.size track.weight ∧ track.axis = axis := by
  obtain ⟨first, others, hp⟩ : ∃ first others, (split ':' text).map trim = first :: others :=
    List.exists_cons_of_ne_nil fun hnil =>
      split_ne_nil ':' text (List.map_eq_nil_iff.1 hnil)
  rcases (readPlainTrack_of_pieces hne hhead hp).1 hread with
    ⟨alignment, size, resize, ha, rfl, -, hlength, hparts⟩ | ⟨-, hlength, hparts⟩
  · obtain ⟨hs, hresize, haxis, rfl⟩ := readParts_eq_ok_iff.1 hparts
    rcases exists_spaced isBlank_colon h hp with ⟨hnil, -⟩ | ⟨gap, rest, hg, rfl, hrest, hp'⟩
    · cases hnil
    · exact ⟨.aligned (Alignment.ofLetters?_eq_some_iff.1 ha) hg
        (sizedText_of_pieces hrest hp' hlength hs hresize), haxis⟩
  · obtain ⟨hs, hresize, haxis, halignment⟩ := readParts_eq_ok_iff.1 hparts
    rw [halignment]
    exact ⟨.standard (sizedText_of_pieces h hp hlength hs hresize), haxis⟩

theorem readPlainTrack_eq_ok_iff (h : Trimmed text) :
    readPlainTrack axis vars text = .ok track ↔
      VariableText axis vars text track ∨
        (TrackText axis text track.alignment track.size track.weight ∧ track.axis = axis) := by
  constructor
  · intro hread
    match text with
    | [] => cases hread
    | c :: rest =>
      by_cases hc : c = '$'
      · subst hc
        exact .inl (readVariable_eq_ok_iff.1 hread)
      · exact .inr
          (trackText_of_readPlainTrack h (List.cons_ne_nil c rest) (by simpa using hc) hread)
  · rintro (hvar | ⟨htext, haxis⟩)
    · obtain ⟨reference, rfl⟩ : ∃ reference, text = '$' :: reference := by
        cases hvar <;> exact ⟨_, rfl⟩
      exact readVariable_eq_ok_iff.2 hvar
    · exact readPlainTrack_of_trackText htext haxis rfl

end TrackGrid.Reading

namespace TrackGrid

open Reading Text

variable {axis : Axis} {vars : Variables} {text : String}

theorem Reading.trimmed_normalize (text : String) : Trimmed (normalize text) :=
  (trimmed_trim text.toList).lower

/-- A text is read as a track exactly if, but for its case and the blanks around it, it is a
variable that stands for one, or an alignment, a size and a weight in order, where the weight is a
finite number that is not negative. -/
theorem Track.exists_read_iff (axis : Axis) (vars : Variables) (text : String) :
    (∃ track, Track.read axis vars text = .ok track) ↔
      (∃ track, VariableText axis vars (normalize text) track) ∨
        ∃ alignment size weight, TrackText axis (normalize text) alignment size weight ∧
          weight.isWeight = true := by
  simp only [Track.read, readPlainTrack_eq_ok_iff (trimmed_normalize text)]
  constructor
  · rintro ⟨track, hvar | ⟨htext, -⟩⟩
    · exact .inl ⟨track, hvar⟩
    · exact .inr ⟨_, _, _, htext, track.weight_ok⟩
  · rintro (⟨track, hvar⟩ | ⟨alignment, size, weight, htext, hweight⟩)
    · exact ⟨track, .inl hvar⟩
    · exact ⟨⟨axis, alignment, size, weight, hweight, htext.legalOn⟩, .inr ⟨htext, rfl⟩⟩

/-- A finite weight alone is not enough. -/
theorem Track.not_read_of_negative_weight :
    ¬ ((∃ track, Track.read .horizontal .empty "p:g(-1)" = .ok track) ↔
      (∃ track, VariableText .horizontal .empty (normalize "p:g(-1)") track) ∨
        ∃ alignment size weight, TrackText .horizontal (normalize "p:g(-1)") alignment size weight ∧
          weight.isFinite = true) := by
  have hread : (Track.read .horizontal .empty "p:g(-1)").isOk = false := by decide +kernel
  have hdecimal : Decimal ['-', '1'] Binary64.one.neg :=
    readDecimal?_eq_some_iff.1 (by decide +kernel)
  have hweight : WeightText (['g'] ++ '(' :: (['-', '1'] ++ [')'])) Binary64.one.neg :=
    .decimal (by decide) (.of_kind hdecimal)
  have hsized : SizedText .horizontal (['p'] ++ ([':'] ++ ['g', '(', '-', '1', ')']))
      (.component .preferred) Binary64.one.neg :=
    .weighted (.component (.inr rfl)) (spaced_singleton ':') hweight
  have htext : TrackText .horizontal (normalize "p:g(-1)") .fill (.component .preferred)
      Binary64.one.neg := .standard hsized
  intro h
  obtain ⟨track, hok⟩ := h.2 (.inr ⟨_, _, _, htext, by decide⟩)
  rw [hok] at hread
  cases hread

end TrackGrid
