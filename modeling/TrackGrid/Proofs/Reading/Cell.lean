import TrackGrid.Proofs.Grid.Edit
import TrackGrid.Proofs.Reading.Printed
import TrackGrid.Reading.Cell

/-! # How cells are written

A cell is written as two, four or six values. Main statement: a cell is read back from each of its
written forms, and what is read has the written forms of a cell.
-/

namespace TrackGrid

open Text Reading

/-! ## Words for alignments -/

namespace CellAlignment

variable {alignment other : CellAlignment} {text : List Char}

/-- The first letter of the name, which may stand for it. -/
def initial (alignment : CellAlignment) : List Char := alignment.letters.take 1

def Word (alignment : CellAlignment) (text : List Char) : Prop :=
  text = alignment.letters ∨ text = alignment.initial

theorem ofLetters?_eq_some_iff {axis : Axis} :
    ofLetters? axis text = some alignment ↔
      alignment.Word text ∧ alignment.legalOn axis = true := by
  constructor
  · intro h
    unfold ofLetters? at h
    split at h
    · rename_i hword
      cases h
      have hnamed : text = inherited.letters ∨ text = ['d'] := by simpa using hword
      exact ⟨hnamed, rfl⟩
    · obtain ⟨own, hown, rfl⟩ := Option.map_eq_some_iff.1 h
      exact Alignment.ofLetters?_eq_some_iff.1 hown
  · rintro ⟨hword, hlegal⟩
    cases alignment with
    | inherited => rcases hword with rfl | rfl <;> rfl
    | own alignment =>
      have hown : Alignment.ofLetters? axis text = some alignment :=
        Alignment.ofLetters?_eq_some_iff.2 ⟨hword, hlegal⟩
      rw [ofLetters?, if_neg, hown, Option.map_some]
      rcases hword with rfl | rfl <;> cases alignment <;> decide

/-- The small letters. -/
def letterRanges : CharRanges := [(0x61, 0x7A)]

theorem covers_of_mem_letters : ∀ c ∈ alignment.letters, letterRanges.covers c = true := by
  cases alignment with
  | inherited => decide
  | own alignment => cases alignment <;> decide

theorem letters_ne_nil : alignment.letters ≠ [] := by
  cases alignment with
  | inherited => decide
  | own alignment => cases alignment <;> decide

theorem Word.covers (h : alignment.Word text) : ∀ c ∈ text, letterRanges.covers c = true := by
  intro c hc
  rcases h with rfl | rfl
  · exact covers_of_mem_letters c hc
  · exact covers_of_mem_letters c (List.mem_of_mem_take hc)

theorem Word.head? (h : alignment.Word text) : text.head? = alignment.letters.head? := by
  rcases h with rfl | rfl
  · rfl
  · rw [initial, List.head?_take, if_neg (by decide)]

theorem Word.exists_cons (h : alignment.Word text) :
    ∃ c rest, text = c :: rest ∧ c.isDigit = false := by
  have hne : text ≠ [] := by
    rintro rfl
    exact letters_ne_nil (List.head?_eq_none_iff.1 h.head?.symm)
  obtain ⟨c, rest, rfl⟩ := List.exists_cons_of_ne_nil hne
  refine ⟨c, rest, rfl, ?_⟩
  rw [Bool.eq_false_iff]
  intro hdigit
  have hcovers : CharRanges.covers [(0x30, 0x39)] c = true :=
    covers_of_isDigit List.mem_cons_self hdigit
  have hletter := CharRanges.not_covers_of_disjoint (s := letterRanges) (by decide) hcovers
  rw [h.covers c List.mem_cons_self] at hletter
  cases hletter

theorem Word.not_digits (h : alignment.Word text) : ¬ Digits text := by
  intro hd
  obtain ⟨c, rest, rfl, hc⟩ := h.exists_cons
  rw [hd.all c List.mem_cons_self] at hc
  cases hc

theorem eq_of_head?_letters (h : alignment.letters.head? = other.letters.head?) :
    alignment = other := by
  rcases alignment with _ | alignment <;> rcases other with _ | other
  · rfl
  · cases other <;> exact absurd h (by decide)
  · cases alignment <;> exact absurd h (by decide)
  · cases alignment <;> cases other <;> first | rfl | exact absurd h (by decide)

theorem Word.unique (h : alignment.Word text) (hother : other.Word text) : alignment = other :=
  eq_of_head?_letters (h.head?.symm.trans hother.head?)

end CellAlignment

namespace Reading

/-! ## Values -/

/-- Digits for a number of 64 bits. -/
structure CoordinateText (text : List Char) (n : Nat) : Prop where
  digits : Digits text
  value_eq : Nat.ofDigitChars 10 text 0 = n
  lt : n < Cell.coordinateLimit

structure AlignmentWord (axis : Axis) (text : List Char) (alignment : CellAlignment) : Prop where
  word : alignment.Word text
  legal : alignment.legalOn axis = true

structure CoordinatesText (x y : List Char) (coordinates : PerAxis Nat) : Prop where
  horizontal : CoordinateText x coordinates.horizontal
  vertical : CoordinateText y coordinates.vertical

structure AlignmentsText (h v : List Char) (alignments : PerAxis CellAlignment) : Prop where
  horizontal : AlignmentWord .horizontal h alignments.horizontal
  vertical : AlignmentWord .vertical v alignments.vertical

/-- The values of a cell. Behind the first two, either pair or both may be left out. -/
inductive ValuesText : List (List Char) → Cell → Prop
  | start {x y : List Char} {start : PerAxis Nat} (hs : CoordinatesText x y start) :
    ValuesText [x, y] { start }
  | span {x y w h : List Char} {start span : PerAxis Nat} (hs : CoordinatesText x y start)
    (hw : CoordinatesText w h span) : ValuesText [x, y, w, h] { start, span }
  | alignment {x y h v : List Char} {start : PerAxis Nat} {alignment : PerAxis CellAlignment}
    (hs : CoordinatesText x y start) (ha : AlignmentsText h v alignment) :
    ValuesText [x, y, h, v] { start, alignment }
  | full {x y w h hAlign vAlign : List Char} {start span : PerAxis Nat}
    {alignment : PerAxis CellAlignment} (hs : CoordinatesText x y start)
    (hw : CoordinatesText w h span) (ha : AlignmentsText hAlign vAlign alignment) :
    ValuesText [x, y, w, h, hAlign, vAlign] { start, span, alignment }

variable {axis : Axis} {text : List Char} {n : Nat} {values : List (List Char)} {cell : Cell}

theorem readCoordinate_eq_ok_iff : readCoordinate text = .ok n ↔ CoordinateText text n := by
  have hread : readCoordinate text = .ok n ↔ readNatural? text = some n := by
    unfold readCoordinate
    cases readNatural? text <;> simp
  rw [hread, readNatural?_eq_some_iff]
  exact ⟨fun ⟨hd, hn, hlt⟩ => ⟨hd, hn, hlt⟩, fun ⟨hd, hn, hlt⟩ => ⟨hd, hn, hlt⟩⟩

theorem readCoordinates_eq_ok_iff {x y : List Char} {coordinates : PerAxis Nat} :
    readCoordinates x y = .ok coordinates ↔ CoordinatesText x y coordinates := by
  simp only [readCoordinates, bind_eq_ok_iff, readCoordinate_eq_ok_iff, pure_eq_ok,
    Except.ok.injEq]
  constructor
  · rintro ⟨_, hx, _, hy, rfl⟩
    exact ⟨hx, hy⟩
  · rintro ⟨hx, hy⟩
    exact ⟨_, hx, _, hy, rfl⟩

theorem readAlignment_eq_ok_iff {alignment : CellAlignment} :
    readAlignment axis text = .ok alignment ↔ AlignmentWord axis text alignment := by
  have hread : readAlignment axis text = .ok alignment ↔
      CellAlignment.ofLetters? axis text = some alignment := by
    unfold readAlignment
    cases CellAlignment.ofLetters? axis text <;> simp
  rw [hread, CellAlignment.ofLetters?_eq_some_iff]
  exact ⟨fun ⟨hword, hlegal⟩ => ⟨hword, hlegal⟩, fun ⟨hword, hlegal⟩ => ⟨hword, hlegal⟩⟩

theorem readAlignments_eq_ok_iff {h v : List Char} {alignments : PerAxis CellAlignment} :
    readAlignments h v = .ok alignments ↔ AlignmentsText h v alignments := by
  simp only [readAlignments, bind_eq_ok_iff, readAlignment_eq_ok_iff, pure_eq_ok, Except.ok.injEq]
  constructor
  · rintro ⟨_, hh, _, hv, rfl⟩
    exact ⟨hh, hv⟩
  · rintro ⟨hh, hv⟩
    exact ⟨_, hh, _, hv, rfl⟩

/-! ## Reading values -/

theorem CoordinateText.head_isDigit (h : CoordinateText text n) :
    text.head?.any Char.isDigit = true := by
  obtain ⟨c, rest, rfl⟩ := List.exists_cons_of_ne_nil h.digits.ne_nil
  simpa using h.digits.all c List.mem_cons_self

theorem ValuesText.ne_nil (h : ValuesText values cell) : values ≠ [] := by
  cases h <;> exact List.cons_ne_nil _ _

theorem AlignmentWord.head_not_isDigit {alignment : CellAlignment}
    (h : AlignmentWord axis text alignment) : text.head?.any Char.isDigit = false := by
  obtain ⟨c, rest, rfl, hc⟩ := h.word.exists_cons
  simpa using hc

theorem readValues_of_valuesText (source : String) (h : ValuesText values cell) :
    readValues source values = .ok cell := by
  cases h with
  | start hs => simp [readValues, readCoordinates_eq_ok_iff.2 hs]
  | span hs hw =>
    simp [readValues, readCoordinates_eq_ok_iff.2 hs, readCoordinates_eq_ok_iff.2 hw,
      hw.horizontal.head_isDigit]
  | alignment hs ha =>
    simp [readValues, readCoordinates_eq_ok_iff.2 hs, readAlignments_eq_ok_iff.2 ha,
      ha.horizontal.head_not_isDigit]
  | full hs hw ha =>
    simp [readValues, readCoordinates_eq_ok_iff.2 hs, readCoordinates_eq_ok_iff.2 hw,
      readAlignments_eq_ok_iff.2 ha]

theorem valuesText_of_readValues {source : String} (h : readValues source values = .ok cell) :
    ValuesText values cell := by
  unfold readValues at h
  split at h
  · simp only [bind_eq_ok_iff, readCoordinates_eq_ok_iff, pure_eq_ok, Except.ok.injEq] at h
    obtain ⟨start, hs, rfl⟩ := h
    exact .start hs
  · obtain ⟨start, hs, h⟩ := bind_eq_ok_iff.1 h
    rw [readCoordinates_eq_ok_iff] at hs
    split at h
    · simp only [bind_eq_ok_iff, readCoordinates_eq_ok_iff, pure_eq_ok, Except.ok.injEq] at h
      obtain ⟨span, hw, rfl⟩ := h
      exact .span hs hw
    · simp only [bind_eq_ok_iff, readAlignments_eq_ok_iff, pure_eq_ok, Except.ok.injEq] at h
      obtain ⟨alignment, ha, rfl⟩ := h
      exact .alignment hs ha
  · simp only [bind_eq_ok_iff, readCoordinates_eq_ok_iff, readAlignments_eq_ok_iff, pure_eq_ok,
      Except.ok.injEq] at h
    obtain ⟨start, hs, span, hw, alignment, ha, rfl⟩ := h
    exact .full hs hw ha
  · cases h

theorem readValues_eq_ok_iff {source : String} :
    readValues source values = .ok cell ↔ ValuesText values cell :=
  ⟨valuesText_of_readValues, readValues_of_valuesText source⟩

/-- The values of a text, which stand between commas. -/
def valuesOf (text : String) : List (List Char) := (split ',' (normalize text)).map trim

/-! ## What can be a value -/

/-- A coordinate, which is not zero, or a word for an alignment. -/
inductive ValueText (text : List Char) : Prop
  | coordinate {n : Nat} (h : CoordinateText text n) (hpos : 1 ≤ n)
  | alignment {alignment : CellAlignment} (h : alignment.Word text)

theorem CoordinatesText.valueText {x y : List Char} {coordinates : PerAxis Nat}
    (h : CoordinatesText x y coordinates) (hpos : ∀ axis, 1 ≤ coordinates.along axis) :
    ∀ value ∈ [x, y], ValueText value := by
  simp only [List.forall_mem_cons]
  exact ⟨.coordinate h.horizontal (hpos .horizontal), .coordinate h.vertical (hpos .vertical),
    by simp⟩

theorem AlignmentsText.valueText {h v : List Char} {alignments : PerAxis CellAlignment}
    (ha : AlignmentsText h v alignments) : ∀ value ∈ [h, v], ValueText value := by
  simp only [List.forall_mem_cons]
  exact ⟨.alignment ha.horizontal.word, .alignment ha.vertical.word, by simp⟩

theorem ValuesText.valueText (h : ValuesText values cell) (hc : cell.check = .ok ()) :
    ∀ value ∈ values, ValueText value := by
  have hpos := Cell.check_eq_ok_iff.1 hc
  have happend {a b : List (List Char)} (ha : ∀ value ∈ a, ValueText value)
      (hb : ∀ value ∈ b, ValueText value) : ∀ value ∈ a ++ b, ValueText value :=
    List.forall_mem_append.2 ⟨ha, hb⟩
  cases h with
  | start hs => exact hs.valueText fun axis => (hpos axis).1
  | span hs hw =>
    exact happend (hs.valueText fun axis => (hpos axis).1) (hw.valueText fun axis => (hpos axis).2.1)
  | alignment hs ha => exact happend (hs.valueText fun axis => (hpos axis).1) ha.valueText
  | full hs hw ha =>
    exact happend (hs.valueText fun axis => (hpos axis).1)
      (happend (hw.valueText fun axis => (hpos axis).2.1) ha.valueText)

theorem covers_of_letterRanges {c : Char} (h : CellAlignment.letterRanges.covers c = true) :
    plainRanges.covers c = true := by
  obtain ⟨range, hmem, hrange⟩ := List.any_eq_true.1 h
  cases List.mem_singleton.1 hmem
  have hplain : (0x61, 0x7A) ∈ plainRanges := by decide
  exact List.any_eq_true.2 ⟨_, hplain, hrange⟩

theorem ValueText.covers (h : ValueText text) : ∀ c ∈ text, plainRanges.covers c = true := by
  cases h with
  | coordinate h => exact covers_of_digits h.digits.all
  | alignment h => exact fun c hc => covers_of_letterRanges (h.covers c hc)

/-- Digits for zero or for a number of more than 64 bits, or a text with a sign. -/
inductive BadCoordinate (text : List Char) : Prop
  | zero (hd : Digits text) (h : Nat.ofDigitChars 10 text 0 = 0)
  | large (hd : Digits text) (h : Cell.coordinateLimit ≤ Nat.ofDigitChars 10 text 0)
  | signed {sign : Char} (hs : sign ∈ ['+', '-']) (h : sign ∈ text)

theorem ValueText.not_badCoordinate (h : ValueText text) : ¬ BadCoordinate text := by
  intro hbad
  cases hbad with
  | zero hd hzero =>
    cases h with
    | coordinate h hpos =>
      rw [h.value_eq] at hzero
      omega
    | alignment h => exact h.not_digits hd
  | large hd hlarge =>
    cases h with
    | coordinate h =>
      rw [h.value_eq] at hlarge
      exact absurd h.lt (Nat.not_lt.2 hlarge)
    | alignment h => exact h.not_digits hd
  | @signed sign hs hsign =>
    have hplain : sign.isDigit = false ∧ CellAlignment.letterRanges.covers sign = false := by
      rcases List.mem_pair.1 hs with rfl | rfl <;> decide
    cases h with
    | coordinate h => simpa [hplain.1] using h.digits.all sign hsign
    | alignment h => simpa [hplain.2] using h.covers sign hsign

/-! ## Where the alignments stand -/

/-- The value for the alignment on an axis: the last but one and the last. -/
def alignmentValue? (values : List (List Char)) : Axis → Option (List Char)
  | .horizontal => values.reverse[1]?
  | .vertical => values.reverse[0]?

/-- Where alignments are looked for stand words for alignments of the axis, or coordinates. -/
theorem ValuesText.exists_alignmentValue? (h : ValuesText values cell) (axis : Axis) :
    ∃ value, alignmentValue? values axis = some value ∧
      (Digits value ∨ ∃ alignment, AlignmentWord axis value alignment) := by
  revert axis
  rw [Axis.forall_iff]
  cases h with
  | start hs => exact ⟨⟨_, rfl, .inl hs.horizontal.digits⟩, _, rfl, .inl hs.vertical.digits⟩
  | span _ hw => exact ⟨⟨_, rfl, .inl hw.horizontal.digits⟩, _, rfl, .inl hw.vertical.digits⟩
  | alignment _ ha => exact ⟨⟨_, rfl, .inr ⟨_, ha.horizontal⟩⟩, _, rfl, .inr ⟨_, ha.vertical⟩⟩
  | full _ _ ha => exact ⟨⟨_, rfl, .inr ⟨_, ha.horizontal⟩⟩, _, rfl, .inr ⟨_, ha.vertical⟩⟩

theorem ValuesText.legalOn (h : ValuesText values cell) {alignment : CellAlignment}
    (hvalue : alignmentValue? values axis = some text) (hword : alignment.Word text) :
    alignment.legalOn axis = true := by
  obtain ⟨value, hsome, hkind⟩ := h.exists_alignmentValue? axis
  cases hvalue.symm.trans hsome
  rcases hkind with hd | ⟨own, hown⟩
  · exact absurd hd hword.not_digits
  · cases hown.word.unique hword
    exact hown.legal

end Reading

/-! ## Written forms -/

namespace Cell

theorem read_eq_ok_iff {text : String} {cell : Cell} :
    read text = .ok cell ↔ ValuesText (valuesOf text) cell ∧ cell.check = .ok () := by
  simp only [read, bind_eq_ok_iff, readValues_eq_ok_iff, mapError_eq_ok_iff, pure_eq_ok,
    Except.ok.injEq, valuesOf]
  constructor
  · rintro ⟨_, hv, _, hc, rfl⟩
    exact ⟨hv, hc⟩
  · rintro ⟨hv, hc⟩
    exact ⟨_, hv, (), hc, rfl⟩

/-- What can be said of a cell in a text. Insets and size groups cannot. -/
structure Readable (cell : Cell) : Prop where
  checked : cell.check = .ok ()
  lt : ∀ axis, cell.start.along axis < coordinateLimit ∧ cell.span.along axis < coordinateLimit
  insets : cell.insets = .zero
  sizeGroup : cell.sizeGroup = .both none

def decimals (coordinates : PerAxis Nat) : List (List Char) :=
  [Nat.toDigits 10 coordinates.horizontal, Nat.toDigits 10 coordinates.vertical]

/-- Words for both alignments, in any case. -/
structure Names (alignments : PerAxis CellAlignment) (h v : List Char) : Prop where
  horizontal : alignments.horizontal.Word (lower h)
  vertical : alignments.vertical.Word (lower v)

/-- The values that a cell can be written with. A pair that it has anyway may be left out. -/
inductive Written (cell : Cell) : List (List Char) → Prop
  | start (hspan : cell.span = .both 1) (halign : cell.alignment = .both .inherited) :
    Written cell (decimals cell.start)
  | span (halign : cell.alignment = .both .inherited) :
    Written cell (decimals cell.start ++ decimals cell.span)
  | alignment {h v : List Char} (hspan : cell.span = .both 1) (hn : Names cell.alignment h v) :
    Written cell (decimals cell.start ++ [h, v])
  | full {h v : List Char} (hn : Names cell.alignment h v) :
    Written cell (decimals cell.start ++ (decimals cell.span ++ [h, v]))

/-- The values with commas in between. -/
def textOf (values : List (List Char)) : String := String.ofList (commaSeparated values)

/-- All six values, with the alignments in full. -/
def text (cell : Cell) : String :=
  textOf (decimals cell.start ++ (decimals cell.span ++
    [cell.alignment.horizontal.letters, cell.alignment.vertical.letters]))

variable {cell : Cell} {values : List (List Char)}

theorem coordinatesText_decimals {coordinates : PerAxis Nat}
    (h : ∀ axis, coordinates.along axis < coordinateLimit) :
    CoordinatesText (lower (Nat.toDigits 10 coordinates.horizontal))
      (lower (Nat.toDigits 10 coordinates.vertical)) coordinates := by
  have hdigits : ∀ n < coordinateLimit, CoordinateText (lower (Nat.toDigits 10 n)) n := by
    intro n hn
    have hd := digits_toDigits n
    rw [lower_of_separates fun c hc =>
      separates_of_listSigns (covers_of_isDigit (by decide) (hd.all c hc))]
    exact ⟨hd, Nat.ofDigitChars_ten_toDigits, hn⟩
  exact ⟨hdigits _ (h .horizontal), hdigits _ (h .vertical)⟩

theorem Written.valuesText (h : cell.Written values) (hr : cell.Readable) :
    ValuesText (values.map lower) cell := by
  obtain ⟨hc, hlt, hinsets, hgroups⟩ := hr
  have hlegal := check_eq_ok_iff.1 hc
  obtain ⟨start, span, alignment, insets, sizeGroup⟩ := cell
  cases hinsets
  cases hgroups
  have hstart : CoordinatesText _ _ start := coordinatesText_decimals fun axis => (hlt axis).1
  have hspan : CoordinatesText _ _ span := coordinatesText_decimals fun axis => (hlt axis).2
  have hwords : ∀ {h v : List Char}, Names alignment h v →
      AlignmentsText (lower h) (lower v) alignment := fun hn =>
    ⟨⟨hn.horizontal, (hlegal .horizontal).2.2⟩, ⟨hn.vertical, (hlegal .vertical).2.2⟩⟩
  cases h with
  | start hone hinherited =>
    cases hone
    cases hinherited
    exact .start hstart
  | span hinherited =>
    cases hinherited
    exact .span hstart hspan
  | alignment hone hn =>
    cases hone
    exact .alignment hstart (hwords hn)
  | full hn => exact .full hstart hspan (hwords hn)

theorem map_trim_split_commaSeparated (h : ∀ value ∈ values, ',' ∉ value) (hne : values ≠ []) :
    (split ',' (commaSeparated values)).map trim = values.map trim := by
  induction values with
  | nil => exact absurd rfl hne
  | cons value values ih =>
    obtain ⟨hvalue, hvalues⟩ := List.forall_mem_cons.1 h
    by_cases hnil : values = []
    · subst hnil
      rw [commaSeparated, List.intercalate_singleton, split_of_not_mem hvalue]
    · have hspace : Blanks [' '] := by
        intro c hc
        cases List.mem_singleton.1 hc
        decide
      rw [commaSeparated_cons value hnil, split_append hvalue, List.map_cons, List.map_cons,
        ← ih hvalues hnil]
      exact congrArg _ (map_trim_split_append (by decide) hspace)

theorem valuesOf_eq (text : String) :
    valuesOf text = (split ',' (lower text.toList)).map trim := by
  obtain ⟨front, back, hf, hb, hlower⟩ := exists_lower_toList text
  rw [hlower, map_trim_split_pad (by decide) hf hb, valuesOf]

theorem Written.read_textOf (h : cell.Written values) (hr : cell.Readable) :
    read (textOf values) = .ok cell := by
  have hvalues := h.valuesText hr
  have hcovers : ∀ value ∈ values.map lower, ∀ c ∈ value, plainRanges.covers c = true :=
    fun value hvalue => (hvalues.valueText hr.checked value hvalue).covers
  have htrim : (values.map lower).map trim = values.map lower :=
    (List.map_congr_left fun value hvalue =>
      (trimmed_of_covers (hcovers value hvalue)).trim_eq).trans (List.map_id _)
  rw [read_eq_ok_iff, valuesOf_eq, textOf, String.toList_ofList, lower_commaSeparated,
    map_trim_split_commaSeparated
      (fun value hvalue => not_mem_of_covers (hcovers value hvalue) (by decide)) hvalues.ne_nil, htrim]
  exact ⟨hvalues, hr.checked⟩

theorem readable_of_read {text : String} (h : read text = .ok cell) : cell.Readable := by
  obtain ⟨hvalues, hc⟩ := read_eq_ok_iff.1 h
  have hone : ∀ axis, (PerAxis.both 1).along axis < coordinateLimit := by decide
  have hlt : ∀ {x y : List Char} {coordinates : PerAxis Nat}, CoordinatesText x y coordinates →
      ∀ axis, coordinates.along axis < coordinateLimit := fun hs =>
    Axis.forall_iff.2 ⟨hs.horizontal.lt, hs.vertical.lt⟩
  generalize valuesOf text = values at hvalues
  cases hvalues with
  | start hs => exact ⟨hc, fun axis => ⟨hlt hs axis, hone axis⟩, rfl, rfl⟩
  | span hs hw => exact ⟨hc, fun axis => ⟨hlt hs axis, hlt hw axis⟩, rfl, rfl⟩
  | alignment hs => exact ⟨hc, fun axis => ⟨hlt hs axis, hone axis⟩, rfl, rfl⟩
  | full hs hw => exact ⟨hc, fun axis => ⟨hlt hs axis, hlt hw axis⟩, rfl, rfl⟩

theorem written_full (cell : Cell) : cell.Written (decimals cell.start ++ (decimals cell.span ++
    [cell.alignment.horizontal.letters, cell.alignment.vertical.letters])) := by
  have hlower : ∀ alignment : CellAlignment, lower alignment.letters = alignment.letters := by
    rintro (_ | alignment)
    · decide
    · cases alignment <;> decide
  exact .full ⟨.inl (hlower _), .inl (hlower _)⟩

/-- A cell is read back from each of its written forms. What is read from a text can be said of a
cell in a text, and is read back from all six values. A text is not read if one of its values is
zero, has more than 64 bits or a sign, or if the word for an alignment belongs to the other axis. -/
theorem read_written :
    (∀ cell values, Readable cell → cell.Written values → read (textOf values) = .ok cell) ∧
    (∀ text cell, read text = .ok cell → cell.Readable ∧ read cell.text = .ok cell) ∧
    (∀ text, (∃ value ∈ valuesOf text, BadCoordinate value) → ∀ cell, read text ≠ .ok cell) ∧
    ∀ text axis word alignment, alignmentValue? (valuesOf text) axis = some word →
      CellAlignment.Word alignment word → alignment.legalOn axis = false →
        ∀ cell, read text ≠ .ok cell := by
  refine ⟨fun cell values hr h => h.read_textOf hr, ?_, ?_, ?_⟩
  · intro text cell h
    have hr := readable_of_read h
    exact ⟨hr, (written_full cell).read_textOf hr⟩
  · rintro text ⟨value, hvalue, hbad⟩ cell h
    obtain ⟨hvalues, hc⟩ := read_eq_ok_iff.1 h
    exact (hvalues.valueText hc value hvalue).not_badCoordinate hbad
  · intro text axis word alignment hvalue hword hlegal cell h
    rw [(read_eq_ok_iff.1 h).1.legalOn hvalue hword] at hlegal
    cases hlegal

/-- The last cell of the largest grid. -/
def corner : Cell :=
  { start := ⟨coordinateLimit - 1, 7⟩, alignment := ⟨.own .right, .inherited⟩ }

theorem read_written_corner :
    read "18446744073709551615, 7, R, Default" = .ok corner ∧
      corner.Readable ∧ read corner.text = .ok corner ∧
      (∀ cell, read "+1, 2" ≠ .ok cell) ∧ ∀ cell, read "1, 2, Top, left" ≠ .ok cell := by
  have hreadable : corner.Readable := ⟨rfl, by decide, rfl, rfl⟩
  have hwritten : corner.Written (decimals corner.start ++
      [['R'], ['D', 'e', 'f', 'a', 'u', 'l', 't']]) :=
    .alignment rfl ⟨.inr (by decide), .inl (by decide)⟩
  obtain ⟨hwrite, hread, hbad, hwrong⟩ := read_written
  have htext : read "18446744073709551615, 7, R, Default" = .ok corner := by
    have hcorner := hwrite corner _ hreadable hwritten
    have hvalues : textOf (decimals corner.start ++ [['R'], ['D', 'e', 'f', 'a', 'u', 'l', 't']]) =
        "18446744073709551615, 7, R, Default" := by decide +kernel
    rwa [hvalues] at hcorner
  have hvalue : ['+', '1'] ∈ valuesOf "+1, 2" := by decide +kernel
  have hword : alignmentValue? (valuesOf "1, 2, Top, left") .horizontal =
      some ['t', 'o', 'p'] := by decide +kernel
  have hsign : '+' ∈ ['+', '1'] := List.mem_cons_self
  exact ⟨htext, hreadable, (hread _ _ htext).2, hbad _ ⟨_, hvalue, .signed (by decide) hsign⟩,
    hwrong _ _ _ (.own .top) hword (.inl rfl) rfl⟩

end Cell

end TrackGrid
