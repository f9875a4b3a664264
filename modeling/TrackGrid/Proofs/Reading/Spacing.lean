import TrackGrid.Proofs.Reading.Reference
import TrackGrid.Proofs.Reading.Single
import TrackGrid.Proofs.Text.Respaced

/-! # Blanks next to separators do not matter

Main statement: two lists that differ in nothing but blanks next to commas, colons and semicolons,
or at the ends, are read as the same tracks, if either can be read.
-/

namespace TrackGrid.Reading

open Text

variable {axis : Axis} {text text' : List Char}

/-! ## Kinds of texts -/

/-- What is taken for a text of the kind is so however it is respaced. -/
def Respaceable (kind : List Char → Prop) : Prop :=
  ∀ text text', Respaced text text' → kind text → kind text'

/-- Blanks next to separators and around a text of the kind do not matter. -/
abbrev Insensitive (kind : List Char → Prop) : Prop := Respaceable (Padded kind)

section

variable {kind other : List Char → Prop}

/-- Blanks do not matter in a text if they do not matter in the form that it has. -/
theorem insensitive_of_forms
    (h : ∀ text, kind text → ∃ form, Insensitive form ∧ form text ∧ ∀ text, form text → kind text) :
    Insensitive kind := by
  rintro text text' hspace ⟨before, inner, after, hb, ha, hinner, rfl⟩
  obtain ⟨form, hform, hin, himp⟩ := h inner hinner
  obtain ⟨before', inner', after', hb', ha', hin', rfl⟩ :=
    hform _ _ hspace ⟨before, inner, after, hb, ha, hin, rfl⟩
  exact ⟨before', inner', after', hb', ha', himp inner' hin', rfl⟩

theorem insensitive_of_not_mem (htrimmed : ∀ text, kind text → Trimmed text)
    (hnot : ∀ text, kind text → ∀ c ∈ separators, c ∉ text) : Insensitive kind := by
  intro text text' h hkind
  have htext : ∀ c ∈ separators, c ∉ text := fun c hc =>
    hkind.not_mem (by revert c; decide) fun inner hinner => hnot inner hinner c hc
  rw [padded_iff htrimmed] at hkind ⊢
  rwa [h.trim_eq htext]

/-- Two texts with a separator and blanks in between. -/
def Joined (c : Char) (kind other : List Char → Prop) (text : List Char) : Prop :=
  ∃ first gap second, kind first ∧ Spaced c gap ∧ other second ∧ text = first ++ (gap ++ second)

theorem padded_joined_iff {c : Char} :
    Padded (Joined c kind other) text ↔
      ∃ front rest, text = front ++ c :: rest ∧ Padded kind front ∧ Padded other rest := by
  constructor
  · rintro ⟨before, _, after, hb, ha, ⟨first, _, second, hf, ⟨b, a, hb', ha', rfl⟩, hs, rfl⟩, rfl⟩
    exact ⟨before ++ (first ++ b), a ++ (second ++ after), by simp,
      ⟨before, first, b, hb, hb', hf, rfl⟩, ⟨a, second, after, ha', ha, hs, rfl⟩⟩
  · rintro ⟨_, _, rfl, ⟨before, first, b, hb, hb', hf, rfl⟩, ⟨a, second, after, ha', ha, hs, rfl⟩⟩
    exact ⟨before, _, after, hb, ha,
      ⟨first, b ++ c :: a, second, hf, ⟨b, a, hb', ha', rfl⟩, hs, rfl⟩, by simp⟩

theorem Insensitive.joined {c : Char} (hc : isBlank c = false) (h : Insensitive kind)
    (h' : Insensitive other) : Insensitive (Joined c kind other) := by
  intro text text' hspace hjoined
  obtain ⟨front, rest, rfl, hfront, hrest⟩ := padded_joined_iff.1 hjoined
  obtain ⟨front', rest', rfl, hf, hr⟩ := Respaced.cut hc hspace
  exact padded_joined_iff.2 ⟨front', rest', rfl, h _ _ hf hfront, h' _ _ hr hrest⟩

/-- A text between a word and a character at its end, where blanks are part of the text. -/
def Enclosed (word : List Char) (closing : Char) (kind : List Char → Prop) (text : List Char) :
    Prop :=
  ∃ inner, kind inner ∧ text = word ++ (inner ++ [closing])

theorem exists_enclosed {front word inner back : List Char} {closing : Char} (hf : Blanks front)
    (hb : Blanks back) (hw : Trimmed word) (hne : word ≠ []) (hnot : ∀ c ∈ separators, c ∉ word)
    (hc : isBlank closing = false)
    (h : Respaced (front ++ ((word ++ (inner ++ [closing])) ++ back)) text') :
    ∃ front' inner' back', Blanks front' ∧ Blanks back' ∧ Respaced inner inner' ∧
      text' = front' ++ ((word ++ (inner' ++ [closing])) ++ back') := by
  have heq : front ++ ((word ++ (inner ++ [closing])) ++ back) =
      front ++ (word ++ (inner ++ closing :: back)) := by simp
  rw [heq] at h
  obtain ⟨front', rest', rfl, hf', hrest⟩ := Respaced.cut_word hf hw hne hnot h
  obtain ⟨inner', back', rfl, hinner, hback⟩ := Respaced.cut hc hrest
  exact ⟨front', inner', back', hf', hback.isBlanks hb, hinner, by simp⟩

theorem Respaceable.enclosed {word : List Char} {closing : Char} (h : Respaceable kind)
    (hw : Trimmed word) (hne : word ≠ []) (hnot : ∀ c ∈ separators, c ∉ word)
    (hc : isBlank closing = false) : Insensitive (Enclosed word closing kind) := by
  rintro text text' hspace ⟨front, _, back, hf, hb, ⟨inner, hinner, rfl⟩, rfl⟩
  obtain ⟨front', inner', back', hf', hb', hrespaced, rfl⟩ :=
    exists_enclosed hf hb hw hne hnot hc hspace
  exact ⟨front', _, back', hf', hb', ⟨inner', h _ _ hrespaced hinner, rfl⟩, rfl⟩

end

/-! ## Sizes and weights -/

theorem not_covers_of_mem_separators : ∀ c ∈ separators, plainRanges.covers c = false := by decide

theorem insensitive_of_covers {kind : List Char → Prop}
    (h : ∀ text, kind text → ∀ c ∈ text, plainRanges.covers c = true) : Insensitive kind :=
  insensitive_of_not_mem (fun text ht => trimmed_of_covers (h text ht)) fun text ht c hc =>
    not_mem_of_covers (h text ht) (not_covers_of_mem_separators c hc)

theorem respaceable_partText (axis : Axis) (term : Term) :
    Respaceable (PartText axis · term) :=
  insensitive_of_covers fun _ => TermText.covers

theorem respaceable_termsText (axis : Axis) (terms : List Term) :
    Respaceable (TermsText axis · terms) := by
  intro text text' hspace h
  induction h generalizing text' with
  | last h => exact .last (respaceable_partText _ _ _ _ hspace h)
  | cons h _ ih =>
    obtain ⟨front', rest', rfl, hfront, hrest⟩ := Respaced.cut (by decide) hspace
    exact .cons (respaceable_partText _ _ _ _ hfront h) (ih _ hrest)

theorem respaceable_boundsText (axis : Axis) (basis : Basis) (bounds : Bounds) :
    Respaceable (BoundsText axis · basis bounds) := by
  intro text text' hspace h
  have hterms : ∀ {terms : List Term}, TermsText axis text terms → TermsText axis text' terms :=
    respaceable_termsText axis _ text text' hspace
  cases h with
  | atLeast h => exact .atLeast (hterms h)
  | atMost h => exact .atMost (hterms h)
  | between h => exact .between (hterms h)

theorem respaceable_pairText (axis : Axis) (length : Length) (basis : Basis) :
    Respaceable (PairText axis · length basis) := by
  intro text text' hspace h
  have hterms : ∀ {terms : List Term}, TermsText axis text terms → TermsText axis text' terms :=
    respaceable_termsText axis _ text text' hspace
  cases h with
  | constantFirst h => exact .constantFirst (hterms h)
  | basisFirst h => exact .basisFirst (hterms h)

theorem insensitive_sizeText (axis : Axis) (size : Size) : Insensitive (SizeText axis · size) := by
  refine insensitive_of_forms fun text h => ?_
  cases h with
  | constant h =>
    exact ⟨_, insensitive_of_covers fun _ => LengthText.covers, h, fun _ => .constant⟩
  | component h =>
    exact ⟨_, insensitive_of_covers fun _ => BasisText.covers, h, fun _ => .component⟩
  | @bounded inner basis bounds h =>
    refine ⟨Enclosed ['['] ']' (BoundsText axis · basis bounds), ?_, ⟨inner, h, rfl⟩, ?_⟩
    · exact (respaceable_boundsText axis basis bounds).enclosed (.of_forall (by decide))
        (by decide) (by decide) (by decide)
    · rintro _ ⟨inner, h, rfl⟩
      exact .bounded h
  | @choice inner choice length basis h =>
    refine ⟨Enclosed (choice.word ++ ['(']) ')' (PairText axis · length basis), ?_,
      ⟨inner, h, by simp⟩, ?_⟩
    · apply (respaceable_pairText axis length basis).enclosed
      · cases choice <;> exact .of_forall (by decide)
      · simp
      · cases choice <;> decide
      · decide
    · rintro _ ⟨inner, h, rfl⟩
      simpa using SizeText.choice h

theorem insensitive_weightText (weight : Binary64) : Insensitive (WeightText · weight) := by
  refine insensitive_of_not_mem (fun _ => WeightText.trimmed) fun text h c hc => ?_
  exact h.not_mem (not_covers_of_mem_separators c hc) (isBlank_of_mem_separators c hc)
    (by revert c; decide)

/-! ## Tracks -/

theorem insensitive_sizedText (axis : Axis) (size : Size) (weight : Binary64) :
    Insensitive (SizedText axis · size weight) := by
  have hsize := insensitive_sizeText axis size
  refine insensitive_of_forms fun text h => ?_
  cases h with
  | plain hs => exact ⟨_, hsize, hs, fun _ => .plain⟩
  | weighted hs hg hw =>
    refine ⟨_, hsize.joined isBlank_colon (insensitive_weightText weight),
      ⟨_, _, _, hs, hg, hw, rfl⟩, ?_⟩
    rintro _ ⟨_, _, _, hs, hg, hw, rfl⟩
    exact .weighted hs hg hw

theorem insensitive_trackText (axis : Axis) (alignment : Alignment) (size : Size)
    (weight : Binary64) : Insensitive (TrackText axis · alignment size weight) := by
  have hsized := insensitive_sizedText axis size weight
  refine insensitive_of_forms fun text h => ?_
  cases h with
  | standard h => exact ⟨_, hsized, h, fun _ => .standard⟩
  | aligned hword hg h =>
    have hwords : Insensitive (AlignmentText axis · alignment) :=
      insensitive_of_covers fun _ => AlignmentText.covers
    refine ⟨_, hwords.joined isBlank_colon hsized, ⟨_, _, _, hword, hg, h, rfl⟩, ?_⟩
    rintro _ ⟨_, _, _, hword, hg, h, rfl⟩
    exact .aligned hword hg h

/-! ## Single items -/

/-- No name on the axis has a separator in it. -/
def NamesPlain (axis : Axis) (vars : Variables) : Prop :=
  ∀ name track, vars.get? name axis = some track → ∀ c ∈ separators, c ∉ name.toList

theorem VariableText.not_mem {vars : Variables} {track : Track} (hnames : NamesPlain axis vars)
    (h : VariableText axis vars text track) : ∀ c ∈ separators, c ∉ text := by
  have hsigns : ∀ c ∈ separators, c ≠ '$' ∧ c ≠ '\x7b' ∧ c ≠ '\x7d' := by decide
  intro c hc
  have hne := hsigns c hc
  cases h with
  | plain _ h =>
    have hname := hnames _ _ h c hc
    rw [String.toList_ofList] at hname
    simp [hname, hne]
  | braced _ _ h =>
    have hname := hnames _ _ h c hc
    rw [String.toList_ofList] at hname
    simp [hname, hne]

section

variable {vars : Variables} {track : Track}

theorem readsAs_lower_iff :
    ReadsAs axis vars (lower text) track ↔
      VariableText axis vars (lower (trim text)) track ∨
        (TrackText axis (lower (trim text)) track.alignment track.size track.weight ∧
          track.axis = axis) := by
  rw [ReadsAs, trim_lower, readPlainTrack_eq_ok_iff (trimmed_trim text).lower]

theorem respaceable_readsAs_lower (hnames : NamesPlain axis vars) (track : Track) :
    Respaceable fun text => ReadsAs axis vars (lower text) track := by
  intro text text' h hread
  rw [readsAs_lower_iff] at hread ⊢
  rcases hread with hvar | ⟨htrack, haxis⟩
  · -- No name has a separator in it, so the reference is respaced at its ends alone.
    have hnot : ∀ c ∈ separators, c ∉ text := by
      intro c hc hmem
      refine hvar.not_mem hnames c hc ?_
      have hsigma : ∀ c ∈ separators, c ≠ 'Σ' := by decide
      exact mem_lower_of_lowerChar (lowerChar_of_mem_separators hc) (hsigma c hc)
        ((mem_trim_iff (isBlank_of_mem_separators c hc)).2 hmem)
    rw [h.trim_eq hnot]
    exact .inl hvar
  · -- A sigma stands in no track, so each character is put in lower case on its own.
    have hsigma : 'Σ' ∉ text := by
      intro hmem
      rcases mem_lower_of_sigma ((mem_trim_iff (by decide)).2 hmem) with hsmall | hsmall
      · exact htrack.not_mem (by decide) (by decide) (by decide) hsmall
      · exact htrack.not_mem (by decide) (by decide) (by decide) hsmall
    rw [← trim_lower] at htrack ⊢
    refine .inr ⟨(padded_iff fun _ => TrackText.trimmed).1 ?_, haxis⟩
    exact insensitive_trackText _ _ _ _ _ _ (h.lower hsigma)
      ((padded_iff fun _ => TrackText.trimmed).2 htrack)

end

/-! ## Lists -/

theorem isRepeat_trim_of_respaced (h : Respaced text text') :
    isRepeat (trim text') = isRepeat (trim text) := by
  rw [Bool.eq_iff_iff, isRepeat_eq_true_iff, isRepeat_eq_true_iff, h.head?_trim,
    mem_trim_iff (by decide), mem_trim_iff (by decide), h.mem_iff (by decide)]

theorem splitOutside_of_respaced (h : Respaced text text')
    (hone : splitOutside ',' text = some [text]) : splitOutside ',' text' = some [text'] := by
  rw [splitOutside_eq_singleton_iff, splitOutside] at hone ⊢
  rw [← map_length_splitOutsideAt_filter covers_of_mem_cutSigns, h.filter_eq,
    map_length_splitOutsideAt_filter covers_of_mem_cutSigns, hone]
  exact fun c hc => CharRanges.not_covers_of_disjoint (r := blankRanges) (by decide) hc

theorem BodyText.respaced {list body body' : List Char} (h : BodyText list body)
    (hspace : Respaced body body') : ∃ list', BodyText list' body' ∧ Respaced list list' := by
  cases h with
  | alone hone hhead =>
    refine ⟨body', .alone (splitOutside_of_respaced hspace hone) ?_, hspace⟩
    rwa [hspace.head?_trim]
  | @group front back hf hb =>
    have hgroup : Respaced (front ++ ((['('] ++ (list ++ [')'])) ++ back)) body' := hspace
    obtain ⟨front', list', back', hf', hb', hlist, rfl⟩ :=
      exists_enclosed hf hb (.of_forall (by decide)) (by decide) (by decide) (by decide) hgroup
    exact ⟨list', .group hf' hb', hlist⟩

theorem MultiplierText.not_mem {count : Nat} (h : MultiplierText count text) :
    ∀ c ∈ separators, c ∉ text := by
  obtain ⟨hd, -, -, -, hg⟩ := h
  have hsigns : ∀ c ∈ separators, c.isDigit = false ∧ c ≠ ' ' ∧ c ≠ '\t' ∧ c ≠ '*' := by decide
  intro c hc hmem
  obtain ⟨hdigit, hspace, htab, hstar⟩ := hsigns c hc
  simp only [List.mem_append, List.mem_singleton] at hmem
  rcases hmem with hmem | hmem | hmem
  · rw [hd.all c hmem] at hdigit
    cases hdigit
  · exact (hg c hmem).elim hspace htab
  · exact hstar hmem

theorem ListText.respaced {α : Type} {item : List Char → α → Prop}
    {list list' : List Char} {outline : Outline α}
    (hitem : ∀ a, Respaceable (item · a))
    (h : ListText item list outline) (hspace : Respaced list list') :
    ListText item list' outline := by
  induction h generalizing list' with
  | single hone hplain ha =>
    refine .single (splitOutside_of_respaced hspace hone) ?_ (hitem _ _ _ hspace ha)
    rwa [isRepeat_trim_of_respaced hspace]
  | repeated hf hm hbody _ ih =>
    obtain ⟨front', body', rfl, hf', hrest⟩ :=
      Respaced.cut_word hf hm.trimmed hm.ne_nil hm.not_mem hspace
    obtain ⟨inner, hinner, hlist⟩ := hbody.respaced hrest
    exact .repeated hf' hm hinner (ih hlist)
  | append _ _ ih ih' =>
    obtain ⟨front', rest', rfl, hfront, hrest⟩ := Respaced.cut (by decide) hspace
    exact .append (ih hfront) (ih' hrest)

/-! ## The text of a list -/

theorem ListText.respacings {α : Type} {item : List Char → α → Prop} {list list' : List Char}
    {outline : Outline α}
    (hitem : ∀ a, Respaceable (item · a))
    (h : ListText item list outline) (hspace : Respacings list list') :
    ListText item list' outline := by
  induction hspace with
  | refl => exact h
  | tail _ hstep ih => exact ih.respaced hitem hstep

theorem bare_of_comma {whole : String} {list back : List Char} (hb : Blanks back)
    (h : whole.toList = list ++ ',' :: back) : bare whole = trimStart list := by
  obtain ⟨front, hf, hlist⟩ := exists_trimStart list
  have htrimmed : Trimmed (trimStart list ++ [',']) := by
    have hcomma : isBlank ',' = false := by decide
    refine ⟨fun c hc => ?_, by simpa using hcomma⟩
    rw [List.head?_append, Option.mem_def, Option.or_eq_some_iff] at hc
    rcases hc with hc | ⟨-, ⟨⟩⟩
    · exact isBlank_head_trimStart list c hc
    · exact hcomma
  have htrim : trim whole.toList = trimStart list ++ [','] := by
    have hwhole : whole.toList = front ++ ((trimStart list ++ [',']) ++ back) := by
      rw [h]
      conv_lhs => rw [hlist]
      simp
    rw [hwhole, htrimmed.trim_pad hf hb]
  unfold bare
  rw [htrim, dropLast?_eq_some_iff.2 rfl]
  rfl

theorem exists_comma {text : List Char} (h : (trim text).getLast? = some ',') :
    ∃ list back, Blanks back ∧ text = list ++ ',' :: back := by
  obtain ⟨front, back, hf, hb, htext⟩ := exists_trim text
  obtain ⟨list, hlist⟩ := List.getLast?_eq_some_iff.1 h
  exact ⟨front ++ list, back, hb, by rw [htext, hlist]; simp⟩

theorem respacings_bare {whole whole' : String} (h : Respaced whole.toList whole'.toList) :
    Respacings (bare whole) (bare whole') := by
  by_cases hlast : (trim whole.toList).getLast? = some ','
  · obtain ⟨list, back, hb, htext⟩ := exists_comma hlast
    rw [htext] at h
    obtain ⟨list', back', htext', hlist, hback⟩ := Respaced.cut (by decide) h
    rw [bare_of_comma hb htext, bare_of_comma (hback.isBlanks hb) htext']
    exact (respacings_symm (respacings_trimStart list)).trans
      (.head hlist (respacings_trimStart list'))
  · have hlast' : (trim whole'.toList).getLast? ≠ some ',' := by rwa [h.getLast?_trim]
    unfold bare
    rw [getD_dropLast?_of_ne hlast, getD_dropLast?_of_ne hlast']
    exact (respacings_symm (respacings_trim _)).trans (.head h (respacings_trim _))

section

variable {vars : Variables} {tracks : List Track}

theorem readList_eq_ok_iff_listText {whole : String} :
    Track.readList axis vars whole = .ok tracks ↔
      ∃ outline, ListText (fun text => ReadsAs axis vars (lower text)) (bare whole) outline ∧
        ¬ outline.Exceeds 0 ∧ tracks = outline.expand := by
  rw [readList_eq]
  constructor
  · intro h
    obtain ⟨outline, houtline, hroom, htracks⟩ := exists_outline h
    exact ⟨outline, houtline.of_lower, hroom, htracks⟩
  · rintro ⟨outline, houtline, hroom, rfl⟩
    obtain ⟨pieces, hs⟩ := houtline.lower.exists_pieces
    rw [readItems_of_splitOutside hs, houtline.lower.readEach_eq_ok ?_ hs hroom, List.map_id]
    rintro _ track ⟨written, rfl, hitem⟩
    exact hitem

theorem readList_of_respaced {whole whole' : String} (hnames : NamesPlain axis vars)
    (h : Respaced whole.toList whole'.toList)
    (hread : Track.readList axis vars whole = .ok tracks) :
    Track.readList axis vars whole' = .ok tracks := by
  rw [readList_eq_ok_iff_listText] at hread ⊢
  obtain ⟨outline, houtline, hroom, htracks⟩ := hread
  refine ⟨outline, ?_, hroom, htracks⟩
  exact houtline.respacings (respaceable_readsAs_lower hnames) (respacings_bare h)

end

end TrackGrid.Reading

namespace TrackGrid

open Reading Text

/-- Blanks next to commas, colons and semicolons, and at the ends of a list, do not matter, as long
as no variable has such a character in its name. -/
theorem Track.readList_respaced (axis : Axis) (vars : Variables) (hnames : NamesPlain axis vars)
    {text text' : String} (h : Respacings text.toList text'.toList) (tracks : List Track) :
    readList axis vars text = .ok tracks ↔ readList axis vars text' = .ok tracks := by
  generalize htext : text'.toList = chars at h
  induction h generalizing text' with
  | refl => rw [String.toList_inj.1 htext]
  | @tail middle _ _ hstep ih =>
    subst htext
    have hmiddle : (String.ofList middle).toList = middle := String.toList_ofList
    rw [ih hmiddle]
    rw [← hmiddle] at hstep
    exact ⟨readList_of_respaced hnames hstep, readList_of_respaced hnames hstep.symm⟩

namespace Track

theorem readList_unspaced :
    readList .horizontal sampleVariables "right:[4px;pref]:grow(0.5),$Gap," =
      .ok [sampleBounded, sampleGap] := by
  have hbounded : ListText (fun text => ReadsAs .horizontal sampleVariables (lower text))
      "right:[4px;pref]:grow(0.5)".toList (.single sampleBounded .nil) :=
    .single (by decide) (by decide) (toOption_eq_some_iff.1 (by decide +kernel))
  have hgap : ListText (fun text => ReadsAs .horizontal sampleVariables (lower text))
      "$Gap".toList (.single sampleGap .nil) :=
    .single (by decide) (by decide) (toOption_eq_some_iff.1 (by decide +kernel))
  have hbare : bare "right:[4px;pref]:grow(0.5),$Gap," =
      "right:[4px;pref]:grow(0.5),$Gap".toList := by decide +kernel
  have hlist : ListText (fun text => ReadsAs .horizontal sampleVariables (lower text))
      (bare "right:[4px;pref]:grow(0.5),$Gap,")
      (.single sampleBounded (.single sampleGap .nil)) := by
    rw [hbare]
    exact hbounded.append hgap
  exact readList_eq_ok_iff_listText.2 ⟨_, hlist, by decide, rfl⟩

/-- Blanks in front of a colon, behind a semicolon, and behind the comma at the end. -/
theorem readList_respaced_sample :
    NamesPlain .horizontal sampleVariables ∧
      readList .horizontal sampleVariables "right :[4px;\tpref]:grow(0.5),$Gap, " =
        .ok [sampleBounded, sampleGap] := by
  have hnames : NamesPlain .horizontal sampleVariables := by
    intro name track hget
    rw [sampleVariables, Variables.insert, Variables.get?_insertOn] at hget
    split at hget
    · rename_i hname
      rw [← hname.2]
      decide
    · cases hget
  have hspace : Blanks [' '] := List.forall_mem_singleton.2 (by decide)
  have htab : Blanks ['\t'] := List.forall_mem_singleton.2 (by decide)
  have hseparators : ':' ∈ separators ∧ ';' ∈ separators := by decide
  have hcolon : Respaced ("right".toList ++ ':' :: "[4px;pref]:grow(0.5),$Gap,".toList)
      ("right".toList ++ ([' '] ++ ':' :: "[4px;pref]:grow(0.5),$Gap,".toList)) :=
    respaced_before hseparators.1 hspace
  have hsemicolon : Respaced ("right :[4px".toList ++ ';' :: "pref]:grow(0.5),$Gap,".toList)
      ("right :[4px".toList ++ ';' :: (['\t'] ++ "pref]:grow(0.5),$Gap,".toList)) :=
    respaced_behind hseparators.2 htab
  have hend : Respaced "right :[4px;\tpref]:grow(0.5),$Gap,".toList
      ("right :[4px;\tpref]:grow(0.5),$Gap,".toList ++ [' ']) := respaced_append_blanks hspace
  have hspaced : Respacings "right:[4px;pref]:grow(0.5),$Gap,".toList
      "right :[4px;\tpref]:grow(0.5),$Gap, ".toList :=
    .head hcolon (.head hsemicolon (.single hend))
  exact ⟨hnames, (readList_respaced _ _ hnames hspaced _).1 readList_unspaced⟩

end Track

end TrackGrid
