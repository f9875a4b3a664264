import Mathlib.Data.List.Forall2
import TrackGrid.Proofs.Binary64.Shortest
import TrackGrid.Proofs.Reading.TrackList

/-! # Printed tracks are read back

The texts of tracks are written forms of them. Main statement: the texts of tracks, with commas in
between, are read as the same tracks, however many there are.
-/

namespace TrackGrid.Reading

open Text

variable {axis : Axis} {vars : Variables} {text : List Char}

/-! ## Written forms have no commas outside brackets -/

theorem unbroken_of_plain (h : ∀ c ∈ text, plainRanges.covers c = true) : Unbroken ',' text :=
  unbroken_of_covers h (by decide)

theorem TermsText.unbroken {terms : List Term} (h : TermsText axis text terms) :
    Unbroken ',' text := by
  have hnot : ∀ c ∈ cutSigns ',', plainRanges.covers c = false ∧ isBlank c = false ∧ c ≠ ';' := by
    decide
  exact unbroken_of_not_mem fun c hc => h.not_mem (hnot c hc).1 (hnot c hc).2.1 (hnot c hc).2.2

theorem SizeText.unbroken {size : Size} (h : SizeText axis text size) : Unbroken ',' text := by
  cases h with
  | constant h => exact unbroken_of_plain h.covers
  | component h => exact unbroken_of_plain h.covers
  | bounded h =>
    cases h with
    | atLeast h | atMost h | between h =>
      exact unbroken_bracketed (by decide) (by decide) (by decide) h.unbroken.splitOutside_eq
  | @choice inner choice _ _ h =>
    have hword : Unbroken ',' choice.word := by
      apply unbroken_of_plain
      cases choice <;> decide
    cases h with
    | constantFirst h | basisFirst h =>
      exact hword.append
        (unbroken_bracketed (by decide) (by decide) (by decide) h.unbroken.splitOutside_eq)

theorem WeightText.unbroken {weight : Binary64} (h : WeightText text weight) :
    Unbroken ',' text := by
  cases h with
  | grow h => exact unbroken_of_plain (covers_of_mem_weightWords (List.mem_append_left _ h))
  | none h => exact unbroken_of_plain (covers_of_mem_weightWords (List.mem_append_right _ h))
  | @decimal word argument _ hw ha =>
    have hword := unbroken_of_plain (covers_of_mem_weightWords (List.mem_append_left _ hw))
    have hnot : ∀ c ∈ cutSigns ',', plainRanges.covers c = false ∧ isBlank c = false := by decide
    have hargument : Unbroken ',' argument := by
      refine unbroken_of_not_mem fun c hc => ?_
      exact Padded.not_mem (hnot c hc).2 (fun _ h => not_mem_of_covers h.covers (hnot c hc).1) ha
    exact hword.append
      (unbroken_bracketed (by decide) (by decide) (by decide) hargument.splitOutside_eq)

theorem unbroken_of_spaced_colon (h : Spaced ':' text) : Unbroken ',' text := by
  obtain ⟨before, after, hb, ha, rfl⟩ := h
  have hcolon : Unbroken ',' [':'] := unbroken_of_not_mem (by decide)
  exact (unbroken_of_blanks (by decide) hb).append
    (hcolon.append (unbroken_of_blanks (by decide) ha))

theorem SizedText.unbroken {size : Size} {weight : Binary64} (h : SizedText axis text size weight) :
    Unbroken ',' text := by
  cases h with
  | plain hs => exact hs.unbroken
  | weighted hs hg hw => exact hs.unbroken.append ((unbroken_of_spaced_colon hg).append hw.unbroken)

theorem TrackText.unbroken {alignment : Alignment} {size : Size} {weight : Binary64}
    (h : TrackText axis text alignment size weight) : Unbroken ',' text := by
  cases h with
  | standard h => exact h.unbroken
  | aligned ha hg h =>
    exact (unbroken_of_plain ha.covers).append ((unbroken_of_spaced_colon hg).append h.unbroken)

/-! ## Written forms in a list -/

/-- The text is a written form of the track. -/
structure Writes (axis : Axis) (text : List Char) (track : Track) : Prop where
  text_ok : TrackText axis text track.alignment track.size track.weight
  axis_eq : track.axis = axis

theorem Writes.isRepeat_eq_false {track : Track} (h : Writes axis text track) :
    isRepeat text = false := by
  have hstar := h.text_ok.not_mem (c := '*') (by decide) (by decide) (by decide)
  simp [isRepeat, hstar]

theorem Writes.readItem_eq {track : Track} (h : Writes axis text track) (before : Nat) :
    readItem axis vars before text = .ok [track] :=
  readItem_eq_ok_iff.2 ⟨h.text_ok.ne_nil, .inl ⟨h.isRepeat_eq_false, track,
    readPlainTrack_of_trackText h.text_ok h.axis_eq rfl, rfl⟩⟩

variable {items : List (List Char)} {tracks : List Track}

theorem readEach_of_writes (h : List.Forall₂ (Writes axis) items tracks) (before : Nat) :
    readEach axis vars before items = .ok tracks := by
  induction h generalizing before with
  | nil => exact readEach_nil
  | @cons item track items tracks hitem _ ih =>
    refine readEach_cons_eq_ok_iff.2 ⟨[track], tracks, ?_, ih _, rfl⟩
    rw [hitem.text_ok.trimmed.trim_eq]
    exact hitem.readItem_eq before

/-- The items with commas and spaces between them. -/
def commaSeparated (items : List (List Char)) : List Char := [',', ' '].intercalate items

theorem commaSeparated_cons (item : List Char) (hne : items ≠ []) :
    commaSeparated (item :: items) = item ++ ',' :: ' ' :: commaSeparated items := by
  rw [commaSeparated, List.intercalate_cons_of_ne_nil hne]
  simp [commaSeparated]

theorem splitOutside_commaSeparated (h : ∀ item ∈ items, Unbroken ',' item) (hne : items ≠ []) :
    ∃ pieces, splitOutside ',' (commaSeparated items) = some pieces ∧
      pieces.map trim = items.map trim := by
  induction items with
  | nil => exact absurd rfl hne
  | cons item items ih =>
    have hitem := (h item List.mem_cons_self).splitOutside_eq
    by_cases hnil : items = []
    · subst hnil
      exact ⟨[item], by rwa [commaSeparated, List.intercalate_singleton], rfl⟩
    · obtain ⟨pieces, hp, htrim⟩ := ih (fun item hi => h item (List.mem_cons_of_mem _ hi)) hnil
      have hspace : Blanks [' '] := by
        intro c hc
        cases List.mem_singleton.1 hc
        decide
      obtain ⟨padded, hpadded, hpad⟩ := splitOutside_pad (by decide) hspace blanks_nil hp
      rw [List.append_nil] at hpadded
      refine ⟨[item] ++ padded, ?_, ?_⟩
      · rw [commaSeparated_cons item hnil]
        exact splitOutside_append (by decide) (by decide) hitem hpadded
      · rw [List.singleton_append, List.map_cons, hpad, htrim, List.map_cons]

theorem Writes.mem {item : List Char} (h : List.Forall₂ (Writes axis) items tracks)
    (hitem : item ∈ items) : ∃ track ∈ tracks, Writes axis item track := by
  induction h with
  | nil => cases hitem
  | @cons first track items tracks hfirst _ ih =>
    rcases List.mem_cons.1 hitem with rfl | hitem
    · exact ⟨track, List.mem_cons_self, hfirst⟩
    · obtain ⟨track, htrack, hwrites⟩ := ih hitem
      exact ⟨track, List.mem_cons_of_mem _ htrack, hwrites⟩

theorem readItems_commaSeparated (h : List.Forall₂ (Writes axis) items tracks)
    (hne : items ≠ []) : readItems axis vars (commaSeparated items) = .ok tracks := by
  have hunbroken : ∀ item ∈ items, Unbroken ',' item := by
    intro item hitem
    obtain ⟨track, -, hwrites⟩ := Writes.mem h hitem
    exact hwrites.text_ok.unbroken
  obtain ⟨pieces, hp, htrim⟩ := splitOutside_commaSeparated hunbroken hne
  rw [readItems_of_splitOutside hp, readEach_congr htrim, readEach_of_writes h]

theorem commaSeparated_ends (h : List.Forall₂ (Writes axis) items tracks) (hne : items ≠ []) :
    commaSeparated items ≠ [] ∧ Trimmed (commaSeparated items) ∧
      (commaSeparated items).getLast? ≠ some ',' := by
  induction h with
  | nil => exact absurd rfl hne
  | @cons item track items tracks hitem _ ih =>
    have htext := hitem.text_ok
    by_cases hnil : items = []
    · subst hnil
      rw [commaSeparated, List.intercalate_singleton]
      refine ⟨htext.ne_nil, htext.trimmed, fun hlast => ?_⟩
      exact htext.not_mem (by decide) (by decide) (by decide) (List.mem_of_getLast? hlast)
    · obtain ⟨hrest, htrimmed, hlast⟩ := ih hnil
      rw [commaSeparated_cons item hnil]
      refine ⟨by simp, htext.trimmed.append htrimmed htext.ne_nil hrest [',', ' '], ?_⟩
      rw [List.getLast?_append, List.getLast?_cons_cons, List.getLast?_cons_of_ne_nil hrest,
        List.getLast?_eq_some_getLast hrest, Option.some_or, ← List.getLast?_eq_some_getLast hrest]
      exact hlast

/-! ## The text of a list -/

theorem readList_of_normalize {text : String} (h : List.Forall₂ (Writes axis) items tracks)
    (hne : items ≠ []) (htext : normalize text = commaSeparated items) :
    Track.readList axis vars text = .ok tracks := by
  obtain ⟨hnil, -, hlast⟩ := commaSeparated_ends h hne
  rw [readList_eq_ok_iff, htext, getD_dropLast?_of_ne hlast]
  exact ⟨hnil, readItems_commaSeparated h hne⟩

theorem readList_of_lower {text : String} (h : List.Forall₂ (Writes axis) items tracks)
    (hne : items ≠ []) (htext : lower text.toList = commaSeparated items) :
    Track.readList axis vars text = .ok tracks := by
  obtain ⟨-, htrimmed, -⟩ := commaSeparated_ends h hne
  obtain ⟨front, back, hf, hb, hlower⟩ := exists_lower_toList text
  apply readList_of_normalize h hne
  rw [← (trimmed_normalize text).trim_pad hf hb, ← hlower, htext, htrimmed.trim_eq]

theorem lower_commaSeparated (items : List (List Char)) :
    lower (commaSeparated items) = commaSeparated (items.map lower) := by
  induction items with
  | nil => rfl
  | cons item items ih =>
    by_cases hnil : items = []
    · subst hnil
      simp [commaSeparated]
    · rw [commaSeparated_cons item hnil, lower_append_cons separates_comma,
        lower_cons (separates_of_isBlank (by decide)), ih, List.map_cons,
        commaSeparated_cons _ (by simpa using hnil)]

end TrackGrid.Reading

namespace TrackGrid

open Reading Text

variable {axis : Axis} {vars : Variables}

/-! ## Texts in lower case -/

/-- ASCII without capitals. -/
def Lowered (text : List Char) : Prop := ∀ c ∈ text, c.toNat < 128 ∧ c.toLower = c

theorem lowered_of_covers {text : List Char} (h : ∀ c ∈ text, plainRanges.covers c = true) :
    Lowered text := by
  intro c hc
  have hcovers := h c hc
  simp only [plainRanges, CharRanges.covers, List.any_cons, List.any_nil, Bool.or_false,
    Bool.or_eq_true, Bool.and_eq_true, decide_eq_true_eq] at hcovers
  have hcapital : ¬ IsCapital c := fun hcapital => by
    have hle := hcapital.toNat
    omega
  exact ⟨by omega, toLower_of_not_isCapital hcapital⟩

theorem Lowered.append {a b : List Char} (ha : Lowered a) (hb : Lowered b) : Lowered (a ++ b) :=
  List.forall_mem_append.2 ⟨ha, hb⟩

theorem Lowered.cons {c : Char} {text : List Char} (hc : c.toNat < 128 ∧ c.toLower = c)
    (h : Lowered text) : Lowered (c :: text) :=
  List.forall_mem_cons.2 ⟨hc, h⟩

theorem Lowered.map_toLower {text : List Char} (h : Lowered text) :
    text.map Char.toLower = text :=
  (List.map_congr_left fun c hc => (h c hc).2).trans (List.map_id text)

/-! ## Printed sizes and weights -/

/-- A length that its text says in full: a number without a sign, with a unit for the axis. -/
structure Length.Readable (axis : Axis) (length : Length) : Prop where
  finite : length.value.isFinite = true
  not_negative : length.value.isNegative = false
  legal : length.unit.legalOn axis = true

theorem Length.lengthText {length : Length} (h : length.Readable axis) :
    LengthText axis length.letters length :=
  .intro (Binary64.plainNumber_letters h.finite h.not_negative) h.legal

def Size.Readable (axis : Axis) (size : Size) : Prop :=
  ∀ length ∈ size.lengths, length.Readable axis

theorem Size.sizeText {size : Size} (h : size.Readable axis) :
    SizeText axis size.letters size := by
  have hpart : ∀ {text : List Char} {term : Term}, TermText axis text term →
      PartText axis text term := fun hterm => Padded.of_kind hterm
  cases size with
  | constant length => exact .constant (Length.lengthText (h length (by simp [lengths])))
  | component basis => exact .component (.inl rfl)
  | bounded basis bounds =>
    have hbasis : PartText axis basis.letters (.component basis) := hpart (.component (.inl rfl))
    cases bounds with
    | atLeast lower =>
      have hlower := h lower (by simp [lengths, Bounds.lengths, Bounds.lower?])
      exact .bounded
        (.atLeast (.cons (hpart (.constant (Length.lengthText hlower))) (.last hbasis)))
    | atMost upper =>
      have hupper := h upper (by simp [lengths, Bounds.lengths, Bounds.upper?])
      exact .bounded
        (.atMost (.cons hbasis (.last (hpart (.constant (Length.lengthText hupper))))))
    | between lower upper =>
      have hlower := h lower (by simp [lengths, Bounds.lengths, Bounds.lower?])
      have hupper := h upper (by simp [lengths, Bounds.lengths, Bounds.upper?])
      have hterms := TermsText.cons (hpart (.constant (Length.lengthText hlower)))
        (.cons hbasis (.last (hpart (.constant (Length.lengthText hupper)))))
      rw [letters]
      have htext := SizeText.bounded (.between hterms)
      simpa using htext

theorem Size.lowered_letters {size : Size} (h : size.Readable axis) : Lowered size.letters := by
  have hlength : ∀ length ∈ size.lengths, Lowered length.letters := fun length hmem =>
    lowered_of_covers (Length.lengthText (h length hmem)).covers
  have hbasis : ∀ basis : Basis, Lowered basis.letters := fun basis =>
    lowered_of_covers (BasisText.covers (.inl rfl))
  cases size with
  | constant length => exact hlength length (by simp [lengths])
  | component basis => exact hbasis basis
  | bounded basis bounds =>
    have hbrackets : ∀ {inner : List Char}, Lowered inner → Lowered ('[' :: (inner ++ [']'])) :=
      fun hinner => .cons (by decide) (hinner.append (.cons (by decide) (by simp [Lowered])))
    cases bounds with
    | atLeast lower =>
      have hlower := hlength lower (by simp [lengths, Bounds.lengths, Bounds.lower?])
      exact hbrackets (hlower.append (.cons (by decide) (hbasis basis)))
    | atMost upper =>
      have hupper := hlength upper (by simp [lengths, Bounds.lengths, Bounds.lower?, Bounds.upper?])
      exact hbrackets ((hbasis basis).append (.cons (by decide) hupper))
    | between lower upper =>
      have hlower := hlength lower (by simp [lengths, Bounds.lengths, Bounds.lower?])
      have hupper := hlength upper (by simp [lengths, Bounds.lengths, Bounds.upper?])
      exact hbrackets ((hlower.append (.cons (by decide) (hbasis basis))).append
        (.cons (by decide) hupper))

/-! ## Printed weights -/

/-- The number, with a plain zero for minus zero. -/
def Binary64.plainZero (x : Binary64) : Binary64 := if x.isZero then .zero else x

theorem Binary64.isWeight_plainZero {x : Binary64} (h : x.isWeight = true) :
    x.plainZero.isWeight = true := by
  unfold plainZero
  split
  · decide
  · exact h

theorem Binary64.value_plainZero (x : Binary64) : x.plainZero.value = x.value := by
  unfold plainZero
  split
  · rename_i h
    have hmagnitude := magnitude_eq_zero_iff.2 h
    have hzero : zero.value = 0 := by decide
    rw [hzero, value, hmagnitude]
    split <;> rfl
  · rfl

theorem Binary64.isNegative_of_isWeight {x : Binary64} (h : x.isWeight = true)
    (hzero : x.isZero = false) : x.isNegative = false := by
  rw [isWeight, Bool.and_eq_true, decide_eq_true_eq] at h
  have hpos := magnitude_pos hzero
  rw [Bool.eq_false_iff]
  intro hnegative
  rw [value, if_pos hnegative] at h
  omega

theorem Binary64.plainNumber_weight {x : Binary64} (h : x.isWeight = true)
    (hzero : x.isZero = false) : PlainNumber x.letters x := by
  have hparts := h
  rw [isWeight, Bool.and_eq_true] at hparts
  exact plainNumber_letters hparts.1 (isNegative_of_isWeight h hzero)

theorem Reading.PlainNumber.decimal {text : List Char} {x : Binary64} (h : PlainNumber text x) :
    Decimal text x := by
  cases h with
  | whole hw =>
    have hdecimal := Decimal.intro .none (.whole hw) .none
    rwa [List.append_nil, List.nil_append, if_neg (by decide)] at hdecimal
  | fraction hw hf =>
    have hdecimal := Decimal.intro .none (.point hw hf.all) .none
    rwa [List.append_nil, List.nil_append, if_neg (by decide)] at hdecimal

namespace Track

variable {track : Track} {word none grow : List Char}

theorem weightText_resizeLetters {x : Binary64} (hx : x.isWeight = true)
    (hn : none ∈ noGrowWords) (hg : grow ∈ growWords) :
    WeightText (resizeLetters none grow x) x.plainZero := by
  rw [resizeLetters, Binary64.plainZero]
  split
  · exact .none hn
  · rename_i hzero
    rw [Bool.not_eq_true] at hzero
    split
    · rename_i hone
      rw [hone]
      exact .grow hg
    · have hdecimal := (Binary64.plainNumber_weight hx hzero).decimal
      have htext := WeightText.decimal hg (.of_kind hdecimal)
      simpa using htext

theorem map_toLower_resizeLetters {x : Binary64} (hx : x.isWeight = true) :
    (resizeLetters none grow x).map Char.toLower =
      resizeLetters (none.map Char.toLower) (grow.map Char.toLower) x := by
  unfold resizeLetters
  split
  · rfl
  · rename_i hzero
    rw [Bool.not_eq_true] at hzero
    split
    · rfl
    · have hletters := lowered_of_covers (Binary64.plainNumber_weight hx hzero).covers
      have hopen : Char.toLower '(' = '(' := by decide
      have hclose : Char.toLower ')' = ')' := by decide
      simp [hletters.map_toLower, hopen, hclose]

theorem ascii_resizeLetters {x : Binary64} (hx : x.isWeight = true)
    (hn : ∀ c ∈ none, c.toNat < 128) (hg : ∀ c ∈ grow, c.toNat < 128) :
    ∀ c ∈ resizeLetters none grow x, c.toNat < 128 := by
  unfold resizeLetters
  split
  · exact hn
  · rename_i hzero
    rw [Bool.not_eq_true] at hzero
    split
    · exact hg
    · have hletters := lowered_of_covers (Binary64.plainNumber_weight hx hzero).covers
      simp only [List.forall_mem_append, List.forall_mem_cons]
      exact ⟨⟨hg, by decide, fun c hc => (hletters c hc).1⟩, by decide, by simp⟩

/-! ## Printed tracks -/

/-- The track, with no sign at a weight of zero. -/
def unsigned (track : Track) : Track :=
  { track with
    weight := track.weight.plainZero
    weight_ok := Binary64.isWeight_plainZero track.weight_ok }

theorem lower_lettersWith (hsize : track.size.Readable axis) (hw : Lowered word)
    (hn : ∀ c ∈ none, c.toNat < 128) (hg : ∀ c ∈ grow, c.toNat < 128) :
    lower (track.lettersWith word none grow) =
      track.lettersWith word (none.map Char.toLower) (grow.map Char.toLower) := by
  have hletters := Size.lowered_letters hsize
  have hcolon : Char.toLower ':' = ':' := by decide
  have hascii : ∀ c ∈ track.lettersWith word none grow, c.toNat < 128 := by
    simp only [lettersWith, List.forall_mem_append, List.forall_mem_cons]
    exact ⟨⟨fun c hc => (hw c hc).1, by decide, fun c hc => (hletters c hc).1⟩, by decide,
      ascii_resizeLetters track.weight_ok hn hg⟩
  rw [lower_of_ascii hascii, lettersWith, lettersWith]
  simp [hw.map_toLower, hletters.map_toLower, map_toLower_resizeLetters track.weight_ok, hcolon]

theorem writes_lettersWith (haxis : track.axis = axis) (hsize : track.size.Readable axis)
    (hw : word = track.alignment.letters ∨ word = track.alignment.initial)
    (hn : none ∈ noGrowWords) (hg : grow ∈ growWords) :
    Writes axis (track.lettersWith word none grow) track.unsigned := by
  have hsized := SizedText.weighted (Size.sizeText hsize) (spaced_singleton ':')
    (weightText_resizeLetters track.weight_ok hn hg)
  have htext := TrackText.aligned ⟨hw, haxis ▸ track.alignment_ok⟩ (spaced_singleton ':') hsized
  have heq : track.lettersWith word none grow = word ++ ([':'] ++
      (track.size.letters ++ ([':'] ++ resizeLetters none grow track.weight))) := by
    simp [lettersWith]
  rw [heq]
  exact ⟨htext, haxis⟩

/-- The same parts, where the weights are the same number: minus zero is zero. -/
structure Equal (a b : Track) : Prop where
  axis_eq : a.axis = b.axis
  alignment_eq : a.alignment = b.alignment
  size_eq : a.size = b.size
  weight_eq : a.weight.value = b.weight.value

theorem equal_unsigned (track : Track) : track.Equal track.unsigned :=
  ⟨rfl, rfl, rfl, (Binary64.value_plainZero track.weight).symm⟩

theorem exists_readList_of_writes {tracks : List Track} {print : Track → List Char}
    (hne : tracks ≠ [])
    (hprint : ∀ track ∈ tracks, Writes axis (lower (print track)) track.unsigned) :
    ∃ read, readList axis vars
        (", ".intercalate (tracks.map fun track => String.ofList (print track))) = .ok read ∧
      List.Forall₂ Equal tracks read := by
  refine ⟨tracks.map unsigned, ?_, ?_⟩
  · have hwrites : List.Forall₂ (Writes axis) (tracks.map fun track => lower (print track))
        (tracks.map unsigned) := by
      rw [List.forall₂_map_left_iff, List.forall₂_map_right_iff, List.forall₂_same]
      exact hprint
    apply readList_of_lower hwrites (by simpa using hne)
    have htext : (", ".intercalate (tracks.map fun track => String.ofList (print track))).toList =
        commaSeparated (tracks.map print) := by
      rw [String.toList_intercalate, List.map_map]
      simp [commaSeparated, Function.comp_def]
    rw [htext, lower_commaSeparated, List.map_map]
    rfl
  · rw [List.forall₂_map_right_iff, List.forall₂_same]
    exact fun track _ => track.equal_unsigned

/-- The texts of tracks with commas in between, in full words or in single letters, are read as the
same tracks, if their constants are finite and have no sign and the tracks and units belong to the
axis. -/
theorem exists_readList_texts {tracks : List Track} (vars : Variables) (hne : tracks ≠ [])
    (haxis : ∀ track ∈ tracks, track.axis = axis)
    (hsize : ∀ track ∈ tracks, track.size.Readable axis) :
    (∃ read, readList axis vars (", ".intercalate (tracks.map text)) = .ok read ∧
      List.Forall₂ Equal tracks read) ∧
    ∃ read, readList axis vars (", ".intercalate (tracks.map shortText)) = .ok read ∧
      List.Forall₂ Equal tracks read := by
  have hlowered : ∀ track : Track,
      Lowered track.alignment.letters ∧ Lowered track.alignment.initial := fun track =>
    ⟨lowered_of_covers (AlignmentText.covers ⟨.inl rfl, track.alignment_ok⟩),
      lowered_of_covers (AlignmentText.covers ⟨.inr rfl, track.alignment_ok⟩)⟩
  constructor
  · apply exists_readList_of_writes hne
    intro track htrack
    rw [letters, lower_lettersWith (hsize track htrack) (hlowered track).1 (by decide) (by decide)]
    exact writes_lettersWith (haxis track htrack) (hsize track htrack) (.inl rfl) (by decide)
      (by decide)
  · apply exists_readList_of_writes hne
    intro track htrack
    rw [shortLetters,
      lower_lettersWith (hsize track htrack) (hlowered track).2 (by decide) (by decide)]
    exact writes_lettersWith (haxis track htrack) (hsize track htrack) (.inr rfl) (by decide)
      (by decide)

/-- The columns `fill:[4px;default;20dlux]:grow(0.3)` and `fill:0.5in:noGrow`, the second with a
weight of minus zero. -/
def sampleColumns : List Track :=
  [{ axis := .horizontal
     alignment := .standard .horizontal
     size := .bounded .default (.between ⟨.ofInt 4, .pixel⟩ ⟨.ofInt 20, .dialogX⟩)
     weight := .ofDecimal 3 (-1)
     weight_ok := by decide +kernel },
   { axis := .horizontal
     alignment := .standard .horizontal
     size := .constant ⟨.half, .inch⟩
     weight := .neg .zero }]

theorem exists_readList_texts_sample :
    (∃ read, readList .horizontal .empty (", ".intercalate (sampleColumns.map text)) = .ok read ∧
      List.Forall₂ Equal sampleColumns read) ∧
    ∃ read,
      readList .horizontal .empty (", ".intercalate (sampleColumns.map shortText)) = .ok read ∧
      List.Forall₂ Equal sampleColumns read := by
  have hlengths : ∀ track ∈ sampleColumns, ∀ length ∈ track.size.lengths,
      length.value.isFinite = true ∧ length.value.isNegative = false ∧
        length.unit.legalOn .horizontal = true := by
    decide +kernel
  refine exists_readList_texts .empty (by decide) (by decide) fun track htrack length hlength => ?_
  obtain ⟨hfinite, hnot, hlegal⟩ := hlengths track htrack length hlength
  exact ⟨hfinite, hnot, hlegal⟩

end Track

end TrackGrid
