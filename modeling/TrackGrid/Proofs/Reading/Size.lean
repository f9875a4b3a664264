import TrackGrid.Proofs.Except
import TrackGrid.Proofs.Reading.Number
import TrackGrid.Proofs.Text.Pieces
import TrackGrid.Reading.Size

/-! # How sizes and weights are written

The written forms are relations between a text and its value, as for numbers. The texts are in lower
case, without blanks at their ends.
-/

namespace TrackGrid

/-! ## Words -/

theorem LengthUnit.ofLetters?_eq_some_iff {axis : Axis} {suffix : List Char} {unit : LengthUnit} :
    ofLetters? axis suffix = some unit ↔ suffix = unit.letters ∧ unit.legalOn axis = true := by
  constructor
  · intro h
    have hfound := List.find?_some h
    simp only [Bool.and_eq_true, decide_eq_true_eq] at hfound
    exact ⟨hfound.1.symm, hfound.2⟩
  · rintro ⟨rfl, h⟩
    revert h
    cases unit <;> cases axis <;> decide

theorem LengthUnit.head_letters (unit : LengthUnit) :
    ∀ c ∈ unit.letters.head?, c.isDigit = false ∧ c ≠ '.' := by
  cases unit <;> (rintro _ ⟨⟩; decide)

theorem Basis.ofLetters?_eq_some_iff {word : List Char} {basis : Basis} :
    ofLetters? word = some basis ↔ word = basis.letters ∨ word = basis.letters.take 1 := by
  constructor
  · intro h
    simpa using List.find?_some h
  · rintro (rfl | rfl) <;> cases basis <;> decide

end TrackGrid

namespace TrackGrid.Reading

open Text

variable {axis : Axis} {text : List Char}

/-! ## Terms -/

/-- A number with a unit right behind it. -/
inductive LengthText (axis : Axis) : List Char → Length → Prop
  | intro {number : List Char} {length : Length} (hn : PlainNumber number length.value)
    (hu : length.unit.legalOn axis = true) :
    LengthText axis (number ++ length.unit.letters) length

theorem LengthText.of_number {number : List Char} {value : Binary64} {unit : LengthUnit}
    (hn : PlainNumber number value) (hu : unit.legalOn axis = true) :
    LengthText axis (number ++ unit.letters) ⟨value, unit⟩ :=
  @LengthText.intro axis number ⟨value, unit⟩ hn hu

/-- The name of a basis or its first letter. -/
def BasisText (text : List Char) (basis : Basis) : Prop :=
  text = basis.letters ∨ text = basis.letters.take 1

inductive TermText (axis : Axis) : List Char → Term → Prop
  | constant {text : List Char} {length : Length} (h : LengthText axis text length) :
    TermText axis text (.constant length)
  | component {text : List Char} {basis : Basis} (h : BasisText text basis) :
    TermText axis text (.component basis)

section

variable {token whole fraction suffix : List Char}

theorem readLength?_of_whole (hw : splitDigits token = (whole, suffix)) (hne : whole ≠ [])
    (hs : suffix.head? ≠ some '.') :
    readLength? axis token =
      (LengthUnit.ofLetters? axis suffix).map fun unit => ⟨ofDigits whole [] 0, unit⟩ := by
  rw [readLength?, hw]
  split
  · rename_i h
    cases h
    exact absurd rfl hne
  · rename_i h
    cases h
    exact absurd rfl hs
  · rename_i h
    cases h
    rfl

theorem readLength?_of_fraction {rest : List Char} (hw : splitDigits token = (whole, '.' :: rest))
    (hne : whole ≠ []) (hf : splitDigits rest = (fraction, suffix)) (hfne : fraction ≠ []) :
    readLength? axis token =
      (LengthUnit.ofLetters? axis suffix).map fun unit => ⟨ofDigits whole fraction 0, unit⟩ := by
  obtain ⟨c, whole, rfl⟩ := List.exists_cons_of_ne_nil hne
  obtain ⟨d, fraction, rfl⟩ := List.exists_cons_of_ne_nil hfne
  simp only [readLength?, hw, hf]

end

theorem readLength?_eq_some_iff {token : List Char} {length : Length} :
    readLength? axis token = some length ↔ LengthText axis token length := by
  constructor
  · intro h
    obtain ⟨⟨whole, rest⟩, hw⟩ : ∃ parts, splitDigits token = parts := ⟨_, rfl⟩
    obtain ⟨rfl, hdigits, -⟩ := splitDigits_eq_iff.1 hw
    rw [readLength?, hw] at h
    split at h
    · cases h
    · rename_i hne heq
      cases heq
      split at h
      · cases h
      · rename_i hfne hf
        obtain ⟨rfl, hfdigits, -⟩ := splitDigits_eq_iff.1 hf
        obtain ⟨unit, hunit, rfl⟩ := Option.map_eq_some_iff.1 h
        obtain ⟨rfl, hlegal⟩ := LengthUnit.ofLetters?_eq_some_iff.1 hunit
        have hplain := PlainNumber.fraction ⟨hne, hdigits⟩ ⟨hfne, hfdigits⟩
        have htext := LengthText.of_number hplain hlegal
        rwa [List.append_assoc, List.cons_append] at htext
    · rename_i hne _ heq
      cases heq
      obtain ⟨unit, hunit, rfl⟩ := Option.map_eq_some_iff.1 h
      obtain ⟨rfl, hlegal⟩ := LengthUnit.ofLetters?_eq_some_iff.1 hunit
      exact .of_number (.whole ⟨hne, hdigits⟩) hlegal
  · rintro ⟨hn, hu⟩
    obtain ⟨value, unit⟩ := length
    have hhead := LengthUnit.head_letters unit
    have hunit : LengthUnit.ofLetters? axis unit.letters = some unit :=
      LengthUnit.ofLetters?_eq_some_iff.2 ⟨rfl, hu⟩
    cases hn with
    | whole hw =>
      rw [readLength?_of_whole (splitDigits_eq_iff.2 ⟨rfl, hw.all, fun c hc => (hhead c hc).1⟩)
        hw.ne_nil fun hc => (hhead _ hc).2 rfl, hunit]
      rfl
    | @fraction whole fraction hw hf =>
      have hsplit : splitDigits (whole ++ '.' :: fraction ++ unit.letters) =
          (whole, '.' :: (fraction ++ unit.letters)) := by
        rw [splitDigits_eq_iff]
        refine ⟨by simp, hw.all, ?_⟩
        rintro _ ⟨⟩
        decide
      rw [readLength?_of_fraction hsplit hw.ne_nil
        (splitDigits_eq_iff.2 ⟨rfl, hf.all, fun c hc => (hhead c hc).1⟩) hf.ne_nil, hunit]
      rfl

/-! ## Characters of numbers and terms -/

/-- The signs, the point, the digits and the small letters. Words, numbers and lengths are made of
these. -/
def plainRanges : CharRanges := [(0x2B, 0x2B), (0x2D, 0x2E), (0x30, 0x39), (0x61, 0x7A)]

theorem covers_of_digits (h : ∀ c ∈ text, c.isDigit = true) :
    ∀ c ∈ text, plainRanges.covers c = true :=
  fun c hc => covers_of_isDigit (by decide) (h c hc)

theorem PlainNumber.covers {x : Binary64} (h : PlainNumber text x) :
    ∀ c ∈ text, plainRanges.covers c = true := by
  cases h with
  | whole hw => exact covers_of_digits hw.all
  | fraction hw hf =>
    rw [List.forall_mem_append, List.forall_mem_cons]
    exact ⟨covers_of_digits hw.all, by decide, covers_of_digits hf.all⟩

theorem Sign.covers {negative : Bool} (h : Sign text negative) :
    ∀ c ∈ text, plainRanges.covers c = true := by
  cases h <;> decide

theorem Mantissa.covers {whole fraction : List Char} (h : Mantissa text whole fraction) :
    ∀ c ∈ text, plainRanges.covers c = true := by
  cases h with
  | whole hw => exact covers_of_digits hw.all
  | point hw hf =>
    rw [List.forall_mem_append, List.forall_mem_cons]
    exact ⟨covers_of_digits hw.all, by decide, covers_of_digits hf⟩
  | fraction hf => exact List.forall_mem_cons.2 ⟨by decide, covers_of_digits hf.all⟩

theorem Power.covers {exponent : Int} (h : Power text exponent) :
    ∀ c ∈ text, plainRanges.covers c = true := by
  cases h with
  | none => simp
  | exponent hs hd =>
    rw [List.forall_mem_cons, List.forall_mem_append]
    exact ⟨by decide, hs.covers, covers_of_digits hd.all⟩

theorem Decimal.covers {x : Binary64} (h : Decimal text x) :
    ∀ c ∈ text, plainRanges.covers c = true := by
  cases h with
  | intro hs hm hp =>
    rw [List.forall_mem_append, List.forall_mem_append]
    exact ⟨hs.covers, hm.covers, hp.covers⟩

theorem LengthText.covers {length : Length} (h : LengthText axis text length) :
    ∀ c ∈ text, plainRanges.covers c = true := by
  have hunit : ∀ unit : LengthUnit, ∀ c ∈ unit.letters, plainRanges.covers c = true := by
    intro unit
    cases unit <;> decide
  obtain ⟨hn, -⟩ := h
  exact List.forall_mem_append.2 ⟨hn.covers, hunit length.unit⟩

theorem PlainNumber.head_isDigit {x : Binary64} (h : PlainNumber text x) :
    ∃ c rest, text = c :: rest ∧ c.isDigit = true := by
  cases h with
  | whole hw =>
    obtain ⟨c, rest, rfl⟩ := List.exists_cons_of_ne_nil hw.ne_nil
    exact ⟨c, rest, rfl, hw.all c List.mem_cons_self⟩
  | fraction hw =>
    obtain ⟨c, rest, rfl⟩ := List.exists_cons_of_ne_nil hw.ne_nil
    exact ⟨c, _, rfl, hw.all c List.mem_cons_self⟩

theorem LengthText.head_isDigit {length : Length} (h : LengthText axis text length) :
    ∃ c rest, text = c :: rest ∧ c.isDigit = true := by
  obtain ⟨hn, -⟩ := h
  obtain ⟨c, rest, rfl, hc⟩ := hn.head_isDigit
  exact ⟨c, _, rfl, hc⟩

theorem BasisText.covers {basis : Basis} (h : BasisText text basis) :
    ∀ c ∈ text, plainRanges.covers c = true := by
  rcases h with rfl | rfl <;> cases basis <;> decide

theorem TermText.covers {term : Term} (h : TermText axis text term) :
    ∀ c ∈ text, plainRanges.covers c = true := by
  cases h with
  | constant h => exact h.covers
  | component h => exact h.covers

theorem trimmed_of_covers (h : ∀ c ∈ text, plainRanges.covers c = true) : Trimmed text :=
  .of_forall fun c hc =>
    CharRanges.not_covers_of_disjoint (r := plainRanges) (s := blankRanges) (by decide) (h c hc)

theorem TermText.trimmed {term : Term} (h : TermText axis text term) : Trimmed text :=
  trimmed_of_covers h.covers

theorem readTerm_eq_ok_iff {term : Term} :
    readTerm axis text = .ok term ↔ TermText axis text term := by
  constructor
  · intro h
    unfold readTerm at h
    split at h
    · rename_i basis hbasis
      cases h
      exact .component (Basis.ofLetters?_eq_some_iff.1 hbasis)
    · split at h
      · rename_i length hlength
        cases h
        exact .constant (readLength?_eq_some_iff.1 hlength)
      · cases h
  · intro h
    cases h with
    | component h =>
      have hbasis := Basis.ofLetters?_eq_some_iff.2 h
      rw [readTerm, hbasis]
    | constant h =>
      -- A length starts with a digit, so it is no word.
      have hword : Basis.ofLetters? text = none := by
        obtain ⟨c, rest, rfl, hc⟩ := h.head_isDigit
        rw [Option.eq_none_iff_forall_ne_some]
        intro basis hbasis
        rcases Basis.ofLetters?_eq_some_iff.1 hbasis with hword | hword <;>
          cases basis <;> cases hword <;> revert hc <;> decide
      rw [readTerm, hword, readLength?_eq_some_iff.2 h]

/-- A term with blanks around it. -/
def PartText (axis : Axis) (text : List Char) (term : Term) : Prop :=
  Padded (TermText axis · term) text

theorem readTerm_trim_eq_ok_iff {term : Term} :
    readTerm axis (trim text) = .ok term ↔ PartText axis text term := by
  rw [readTerm_eq_ok_iff, PartText, padded_iff fun _ => TermText.trimmed]

theorem PartText.not_mem {term : Term} {c : Char} (h : PartText axis text term)
    (hc : plainRanges.covers c = false) (hblank : isBlank c = false) : c ∉ text :=
  Padded.not_mem hblank (fun _ ht => not_mem_of_covers ht.covers hc) h

/-- Terms between semicolons. -/
inductive TermsText (axis : Axis) : List Char → List Term → Prop
  | last {text : List Char} {term : Term} (h : PartText axis text term) : TermsText axis text [term]
  | cons {text rest : List Char} {term : Term} {terms : List Term} (h : PartText axis text term)
    (hrest : TermsText axis rest terms) : TermsText axis (text ++ ';' :: rest) (term :: terms)

theorem mapM_readTerm_eq_ok_iff {terms : List Term} :
    (split ';' text).mapM (fun part => readTerm axis (trim part)) = .ok terms ↔
      TermsText axis text terms := by
  constructor
  · intro h
    induction terms generalizing text with
    | nil => exact absurd (mapM_eq_ok_nil_iff.1 h) (split_ne_nil ';' text)
    | cons term terms ih =>
      obtain ⟨part, parts, hs, hpart, hparts⟩ := mapM_eq_ok_cons_iff.1 h
      rw [split_eq] at hs
      split at hs
      · cases hs
        cases hparts
        exact .last (readTerm_trim_eq_ok_iff.1 hpart)
      · rename_i before after hfirst
        obtain ⟨rfl, -⟩ := splitFirst_eq_some_iff.1 hfirst
        cases hs
        exact .cons (readTerm_trim_eq_ok_iff.1 hpart) (ih hparts)
  · intro h
    have hnot : plainRanges.covers ';' = false := by decide
    induction h with
    | last h =>
      rw [split_of_not_mem (h.not_mem hnot (by decide)), mapM_eq_ok_cons_iff]
      exact ⟨_, [], rfl, readTerm_trim_eq_ok_iff.2 h, rfl⟩
    | cons h _ ih =>
      rw [split_append (h.not_mem hnot (by decide)), mapM_eq_ok_cons_iff]
      exact ⟨_, _, rfl, readTerm_trim_eq_ok_iff.2 h, ih⟩

theorem TermsText.not_mem {terms : List Term} {c : Char} (h : TermsText axis text terms)
    (hc : plainRanges.covers c = false) (hblank : isBlank c = false) (hne : c ≠ ';') :
    c ∉ text := by
  induction h with
  | last h => exact h.not_mem hc hblank
  | cons h _ ih => simp [h.not_mem hc hblank, ih, hne]

/-! ## Sizes with bounds -/

/-- What stands between brackets: a basis with a constant on one side or on both. -/
inductive BoundsText (axis : Axis) (text : List Char) : Basis → Bounds → Prop
  | atLeast {lower : Length} {basis : Basis}
    (h : TermsText axis text [.constant lower, .component basis]) :
    BoundsText axis text basis (.atLeast lower)
  | atMost {upper : Length} {basis : Basis}
    (h : TermsText axis text [.component basis, .constant upper]) :
    BoundsText axis text basis (.atMost upper)
  | between {lower upper : Length} {basis : Basis}
    (h : TermsText axis text [.constant lower, .component basis, .constant upper]) :
    BoundsText axis text basis (.between lower upper)

theorem readBracketed_eq_ok_iff {token : List Char} {size : Size} :
    readBracketed axis token text = .ok size ↔
      ∃ basis bounds, size = .bounded basis bounds ∧ BoundsText axis text basis bounds := by
  constructor
  · intro h
    rw [readBracketed] at h
    obtain ⟨terms, hterms, h⟩ := bind_eq_ok_iff.1 h
    have htext := mapM_readTerm_eq_ok_iff.1 hterms
    split at h
    · cases h
      exact ⟨_, _, rfl, .atLeast htext⟩
    · cases h
      exact ⟨_, _, rfl, .atMost htext⟩
    · cases h
      exact ⟨_, _, rfl, .between htext⟩
    · cases h
  · rintro ⟨basis, bounds, rfl, h⟩
    rw [readBracketed]
    cases h with
    | atLeast h | atMost h | between h =>
      rw [mapM_readTerm_eq_ok_iff.2 h]
      rfl

/-- What stands in parentheses: a constant and a basis in either order. -/
inductive PairText (axis : Axis) (text : List Char) (length : Length) (basis : Basis) : Prop
  | constantFirst (h : TermsText axis text [.constant length, .component basis])
  | basisFirst (h : TermsText axis text [.component basis, .constant length])

theorem termsText_pair_iff {s t : Term} :
    TermsText axis text [s, t] ↔
      ∃ a b, text = a ++ ';' :: b ∧ PartText axis a s ∧ PartText axis b t := by
  constructor
  · rintro (_ | ⟨ha, hrest⟩)
    cases hrest with
    | last hb => exact ⟨_, _, rfl, ha, hb⟩
    | cons _ hnone => cases hnone
  · rintro ⟨a, b, rfl, ha, hb⟩
    exact .cons ha (.last hb)

theorem readChoice_eq_ok_iff {token : List Char} {choice : Choice} {size : Size} :
    readChoice axis token choice text = .ok size ↔
      ∃ length basis, size = .bounded basis (choice.bounds length) ∧
        PairText axis text length basis := by
  constructor
  · intro h
    unfold readChoice at h
    split at h
    · cases h
    · rename_i a b hfirst
      obtain ⟨rfl, -⟩ := splitFirst_eq_some_iff.1 hfirst
      obtain ⟨s, hs, h⟩ := bind_eq_ok_iff.1 h
      obtain ⟨t, ht, h⟩ := bind_eq_ok_iff.1 h
      have hpair := termsText_pair_iff.2
        ⟨a, b, rfl, readTerm_trim_eq_ok_iff.1 hs, readTerm_trim_eq_ok_iff.1 ht⟩
      split at h
      · cases h
        exact ⟨_, _, rfl, .constantFirst hpair⟩
      · cases h
        exact ⟨_, _, rfl, .basisFirst hpair⟩
      · cases h
      · cases h
  · rintro ⟨length, basis, rfl, h⟩
    cases h with
    | constantFirst h | basisFirst h =>
      obtain ⟨a, b, rfl, ha, hb⟩ := termsText_pair_iff.1 h
      have hfirst : splitFirst ';' (a ++ ';' :: b) = some (a, b) :=
        splitFirst_eq_some_iff.2 ⟨rfl, ha.not_mem (by decide) (by decide)⟩
      rw [readChoice, hfirst]
      simp only [readTerm_trim_eq_ok_iff.2 ha, readTerm_trim_eq_ok_iff.2 hb, ok_bind]
      rfl

/-! ## Sizes -/

def Choice.word : Choice → List Char
  | larger => ['m', 'a', 'x']
  | smaller => ['m', 'i', 'n']

inductive SizeText (axis : Axis) : List Char → Size → Prop
  | constant {text : List Char} {length : Length} (h : LengthText axis text length) :
    SizeText axis text (.constant length)
  | component {text : List Char} {basis : Basis} (h : BasisText text basis) :
    SizeText axis text (.component basis)
  | bounded {inner : List Char} {basis : Basis} {bounds : Bounds}
    (h : BoundsText axis inner basis bounds) :
    SizeText axis ('[' :: (inner ++ [']'])) (.bounded basis bounds)
  | choice {inner : List Char} {choice : Choice} {length : Length} {basis : Basis}
    (h : PairText axis inner length basis) :
    SizeText axis (choice.word ++ '(' :: (inner ++ [')'])) (.bounded basis (choice.bounds length))

theorem splitChoice?_eq_some_iff {choice : Choice} {inner : List Char} :
    splitChoice? text = some (choice, inner) ↔ text = choice.word ++ '(' :: (inner ++ [')']) := by
  unfold splitChoice?
  split
  · cases choice <;> simp [Choice.word, dropLast?_eq_some_iff]
  · cases choice <;> simp [Choice.word, dropLast?_eq_some_iff]
  · rename_i hlarger hsmaller
    simp only [reduceCtorEq, false_iff]
    rintro rfl
    cases choice with
    | larger => exact hlarger _ rfl
    | smaller => exact hsmaller _ rfl

theorem readSize_of_head (h : text.head? ≠ some '[') :
    readSize axis text =
      match splitChoice? text with
      | some (choice, inner) => readChoice axis text choice inner
      | none => do
        match ← readTerm axis text with
        | .constant length => return .constant length
        | .component basis => return .component basis := by
  unfold readSize
  split
  · exact absurd List.head?_cons h
  · rfl

theorem readSize_of_bracket {rest : List Char} :
    readSize axis ('[' :: rest) =
      match dropLast? ']' rest with
      | some inner => readBracketed axis ('[' :: rest) inner
      | none => .error (.unbalanced (String.ofList ('[' :: rest))) := rfl

theorem readSize_of_term {term : Term} (h : TermText axis text term) :
    readSize axis text = match term with
      | .constant length => .ok (.constant length)
      | .component basis => .ok (.component basis) := by
  have hhead : text.head? ≠ some '[' := by
    intro hhead
    exact not_mem_of_covers h.covers (c := '[') (by decide) (List.mem_of_head? hhead)
  have hchoice : splitChoice? text = none := by
    rw [Option.eq_none_iff_forall_ne_some]
    rintro ⟨choice, inner⟩ hchoice
    apply not_mem_of_covers h.covers (c := '(') (by decide)
    rw [splitChoice?_eq_some_iff.1 hchoice]
    simp
  rw [readSize_of_head hhead, hchoice]
  simp only [readTerm_eq_ok_iff.2 h, ok_bind]
  cases term <;> rfl

theorem readSize_eq_ok_iff {size : Size} :
    readSize axis text = .ok size ↔ SizeText axis text size := by
  constructor
  · intro h
    unfold readSize at h
    split at h
    · rename_i rest
      split at h
      · rename_i inner hlast
        obtain rfl := dropLast?_eq_some_iff.1 hlast
        obtain ⟨basis, bounds, rfl, hbounds⟩ := readBracketed_eq_ok_iff.1 h
        exact .bounded hbounds
      · cases h
    · split at h
      · rename_i choice inner hchoice
        obtain rfl := splitChoice?_eq_some_iff.1 hchoice
        obtain ⟨length, basis, rfl, hpair⟩ := readChoice_eq_ok_iff.1 h
        exact .choice hpair
      · obtain ⟨term, hterm, h⟩ := bind_eq_ok_iff.1 h
        cases readTerm_eq_ok_iff.1 hterm with
        | constant hlength =>
          cases h
          exact .constant hlength
        | component hbasis =>
          cases h
          exact .component hbasis
  · intro h
    cases h with
    | constant h => rw [readSize_of_term (.constant h)]
    | component h => rw [readSize_of_term (.component h)]
    | bounded h =>
      rw [readSize_of_bracket, dropLast?_eq_some_iff.2 rfl]
      exact readBracketed_eq_ok_iff.2 ⟨_, _, rfl, h⟩
    | @choice inner choice length basis h =>
      have hhead : (choice.word ++ '(' :: (inner ++ [')'])).head? ≠ some '[' := by
        cases choice <;> simp [Choice.word]
      rw [readSize_of_head hhead, splitChoice?_eq_some_iff.2 rfl]
      exact readChoice_eq_ok_iff.2 ⟨_, _, rfl, h⟩

theorem SizeText.head {size : Size} (h : SizeText axis text size) :
    ∃ c rest, text = c :: rest ∧ (c.isDigit = true ∨ c ∈ ['[', 'm', 'p', 'd']) := by
  cases h with
  | constant h =>
    obtain ⟨c, rest, rfl, hc⟩ := h.head_isDigit
    exact ⟨c, rest, rfl, .inl hc⟩
  | @component text basis h =>
    rcases h with rfl | rfl <;> cases basis <;> exact ⟨_, _, rfl, .inr (by decide)⟩
  | bounded => exact ⟨_, _, rfl, .inr (by decide)⟩
  | @choice inner choice => cases choice <;> exact ⟨_, _, rfl, .inr (by decide)⟩

theorem SizeText.trimmed {size : Size} (h : SizeText axis text size) : Trimmed text := by
  cases h with
  | constant h => exact trimmed_of_covers h.covers
  | component h => exact trimmed_of_covers h.covers
  | bounded => exact .of_ends (by decide) (by decide) _
  | @choice inner choice =>
    cases choice with
    | larger => exact .of_ends (by decide) (by decide) (['a', 'x', '('] ++ inner)
    | smaller => exact .of_ends (by decide) (by decide) (['i', 'n', '('] ++ inner)

theorem SizeText.not_mem {size : Size} {c : Char} (h : SizeText axis text size)
    (hc : plainRanges.covers c = false) (hblank : isBlank c = false)
    (hsign : c ∉ ['(', ')', ';', '[', ']']) : c ∉ text := by
  simp only [List.mem_cons, List.not_mem_nil, or_false, not_or] at hsign
  have hterms : ∀ {inner : List Char} {terms : List Term}, TermsText axis inner terms →
      c ∉ inner := fun h => h.not_mem hc hblank hsign.2.2.1
  cases h with
  | constant h => exact not_mem_of_covers h.covers hc
  | component h => exact not_mem_of_covers h.covers hc
  | bounded h => cases h with | atLeast h | atMost h | between h => simp [hterms h, hsign]
  | @choice inner choice _ _ h =>
    have hword : c ∉ choice.word := by
      apply not_mem_of_covers _ hc
      cases choice <;> decide
    cases h with | constantFirst h | basisFirst h => simp [hterms h, hword, hsign]

theorem SizeText.colon_not_mem {size : Size} (h : SizeText axis text size) : ':' ∉ text :=
  h.not_mem (by decide) (by decide) (by decide)

/-! ## Weights -/

inductive WeightText : List Char → Binary64 → Prop
  | grow {text : List Char} (h : text ∈ growWords) : WeightText text .one
  | none {text : List Char} (h : text ∈ noGrowWords) : WeightText text .zero
  | decimal {word argument : List Char} {weight : Binary64} (hw : word ∈ growWords)
    (ha : Padded (Decimal · weight) argument) :
    WeightText (word ++ '(' :: (argument ++ [')'])) weight

theorem splitWeight?_eq_some_iff {argument : List Char} :
    splitWeight? text = some argument ↔
      ∃ word ∈ growWords, text = word ++ '(' :: (argument ++ [')']) ∧ ')' ∉ argument := by
  simp only [growWords, List.mem_cons, List.not_mem_nil, or_false, exists_eq_or_imp, exists_eq_left]
  unfold splitWeight?
  constructor
  · intro h
    split at h
    · simp only [Option.bind_some] at h
      split at h
      · rename_i hfirst
        cases h
        obtain ⟨rfl, hclose⟩ := splitFirst_eq_some_iff.1 hfirst
        exact .inl ⟨rfl, hclose⟩
      · cases h
    · simp only [Option.bind_some] at h
      split at h
      · rename_i hfirst
        cases h
        obtain ⟨rfl, hclose⟩ := splitFirst_eq_some_iff.1 hfirst
        exact .inr ⟨rfl, hclose⟩
      · cases h
    · cases h
  · rintro (⟨rfl, hclose⟩ | ⟨rfl, hclose⟩) <;>
      simp [splitFirst_eq_some_iff.2 ⟨rfl, hclose⟩]

theorem readWeight_eq_ok_iff {weight : Binary64} :
    readWeight text = .ok weight ↔ WeightText text weight := by
  have hread : ∀ {argument : List Char},
      readDecimal? (trim argument) = some weight ↔ Padded (Decimal · weight) argument := by
    intro argument
    rw [readDecimal?_eq_some_iff, padded_iff fun _ h => trimmed_of_covers h.covers]
  constructor
  · intro h
    unfold readWeight at h
    split at h
    · rename_i hgrow
      cases h
      exact .grow hgrow
    · split at h
      · rename_i hnone
        cases h
        exact .none hnone
      · split at h
        · cases h
        · rename_i argument hsplit
          obtain ⟨word, hword, rfl, -⟩ := splitWeight?_eq_some_iff.1 hsplit
          split at h
          · rename_i hdecimal
            cases h
            exact .decimal hword (hread.1 hdecimal)
          · cases h
  · intro h
    cases h with
    | grow h => rw [readWeight, if_pos h]
    | none h =>
      have hnot : ∀ word ∈ noGrowWords, word ∉ growWords := by decide
      rw [readWeight, if_neg (hnot _ h), if_pos h]
    | @decimal word argument _ hw ha =>
      have hwords : ∀ word ∈ growWords ++ noGrowWords, '(' ∉ word := by decide
      have hnot : word ++ '(' :: (argument ++ [')']) ∉ growWords ++ noGrowWords := by
        intro hmem
        exact hwords _ hmem (by simp)
      rw [List.mem_append, not_or] at hnot
      have hclose : ')' ∉ argument :=
        Padded.not_mem (by decide) (fun _ h => not_mem_of_covers h.covers (by decide)) ha
      rw [readWeight, if_neg hnot.1, if_neg hnot.2,
        splitWeight?_eq_some_iff.2 ⟨word, hw, rfl, hclose⟩]
      simp only [hread.2 ha]

theorem covers_of_mem_weightWords {word : List Char} (h : word ∈ growWords ++ noGrowWords) :
    ∀ c ∈ word, plainRanges.covers c = true := by
  have hwords : ∀ word ∈ growWords ++ noGrowWords, ∀ c ∈ word, plainRanges.covers c = true := by
    decide
  exact hwords word h

theorem WeightText.trimmed {weight : Binary64} (h : WeightText text weight) : Trimmed text := by
  cases h with
  | grow h => exact trimmed_of_covers (covers_of_mem_weightWords (List.mem_append_left _ h))
  | none h => exact trimmed_of_covers (covers_of_mem_weightWords (List.mem_append_right _ h))
  | @decimal word argument _ hw =>
    have hword := trimmed_of_covers (covers_of_mem_weightWords (List.mem_append_left _ hw))
    have hne : word ≠ [] := by
      rintro rfl
      exact absurd hw (by decide)
    exact hword.append (b := [')']) (.of_forall (by decide)) hne (by simp) ('(' :: argument)

theorem WeightText.ne_nil {weight : Binary64} (h : WeightText text weight) : text ≠ [] := by
  have hwords : [] ∉ growWords ++ noGrowWords := by decide
  rintro rfl
  generalize htext : ([] : List Char) = text at h
  cases h with
  | grow h => exact hwords (htext ▸ List.mem_append_left _ h)
  | none h => exact hwords (htext ▸ List.mem_append_right _ h)
  | decimal => simp at htext

theorem WeightText.not_mem {weight : Binary64} {c : Char} (h : WeightText text weight)
    (hc : plainRanges.covers c = false) (hblank : isBlank c = false) (hsign : c ∉ ['(', ')']) :
    c ∉ text := by
  simp only [List.mem_cons, List.not_mem_nil, or_false, not_or] at hsign
  cases h with
  | grow h => exact not_mem_of_covers (covers_of_mem_weightWords (List.mem_append_left _ h)) hc
  | none h => exact not_mem_of_covers (covers_of_mem_weightWords (List.mem_append_right _ h)) hc
  | decimal hw ha =>
    have hword := not_mem_of_covers (covers_of_mem_weightWords (List.mem_append_left _ hw)) hc
    have hargument := Padded.not_mem hblank (fun _ h => not_mem_of_covers h.covers hc) ha
    simp [hword, hargument, hsign]

theorem WeightText.colon_not_mem {weight : Binary64} (h : WeightText text weight) : ':' ∉ text :=
  h.not_mem (by decide) (by decide) (by decide)

end TrackGrid.Reading
