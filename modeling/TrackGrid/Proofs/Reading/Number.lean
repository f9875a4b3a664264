import TrackGrid.Reading.Number

/-! # How numbers are written

The written forms of numbers are relations between a text and its value. A reader accepts exactly
the written forms.
-/

namespace TrackGrid.Reading

/-! ## Digits -/

/-- Digits and nothing else, at least one. -/
structure Digits (text : List Char) : Prop where
  ne_nil : text ≠ []
  all : ∀ c ∈ text, c.isDigit = true

theorem Digits.append {a b : List Char} (ha : Digits a) (hb : ∀ c ∈ b, c.isDigit = true) :
    Digits (a ++ b) where
  ne_nil := by simp [ha.ne_nil]
  all := by
    intro c hc
    rcases List.mem_append.1 hc with hc | hc
    · exact ha.all c hc
    · exact hb c hc

theorem digits_toDigits (n : Nat) : Digits (Nat.toDigits 10 n) where
  ne_nil := Nat.toDigits_ne_nil
  all := fun _ => Nat.isDigit_of_mem_toDigits (by decide) (by decide)

theorem readDigits?_eq_some_iff {text : List Char} {n : Nat} :
    readDigits? text = some n ↔ Digits text ∧ n = Nat.ofDigitChars 10 text 0 := by
  unfold readDigits?
  split
  · rename_i h
    rw [Option.some.injEq, eq_comm]
    exact ⟨fun hn => ⟨⟨h.1, List.all_eq_true.1 h.2⟩, hn⟩, fun hn => hn.2⟩
  · rename_i h
    simp only [reduceCtorEq, false_iff]
    rintro ⟨hd, -⟩
    exact h ⟨hd.ne_nil, List.all_eq_true.2 hd.all⟩

theorem readNatural?_eq_some_iff {text : List Char} {n : Nat} :
    readNatural? text = some n ↔
      Digits text ∧ Nat.ofDigitChars 10 text 0 = n ∧ n < 0x10000000000000000 := by
  rw [readNatural?, Option.filter_eq_some_iff, readDigits?_eq_some_iff, decide_eq_true_eq,
    and_assoc, eq_comm (a := n)]

theorem splitDigits_eq_iff {text digits rest : List Char} :
    splitDigits text = (digits, rest) ↔
      text = digits ++ rest ∧ (∀ c ∈ digits, c.isDigit = true) ∧
        ∀ c ∈ rest.head?, c.isDigit = false := by
  rw [splitDigits, Prod.mk.injEq]
  constructor
  · rintro ⟨rfl, rfl⟩
    refine ⟨List.takeWhile_append_dropWhile.symm, List.all_eq_true.1 List.all_takeWhile, ?_⟩
    intro c hc
    have hhead := List.head?_dropWhile_not Char.isDigit text
    rwa [hc] at hhead
  · rintro ⟨rfl, hdigits, hrest⟩
    rw [List.takeWhile_append_of_pos hdigits, List.dropWhile_append_of_pos hdigits]
    cases rest with
    | nil => simp
    | cons c rest => simp [hrest c rfl]

/-! ## Numbers without a sign -/

/-- Digits, and digits behind a point if there is one. -/
inductive PlainNumber : List Char → Binary64 → Prop
  | whole {whole : List Char} (hw : Digits whole) : PlainNumber whole (ofDigits whole [] 0)
  | fraction {whole fraction : List Char} (hw : Digits whole) (hf : Digits fraction) :
    PlainNumber (whole ++ '.' :: fraction) (ofDigits whole fraction 0)

/-! ## Decimal numbers -/

/-- A sign and whether it makes a number negative. -/
inductive Sign : List Char → Bool → Prop
  | none : Sign [] false
  | plus : Sign ['+'] false
  | minus : Sign ['-'] true

/-- The digits before and after the point. There are digits on one side of it at least, and without
a point all of them stand before it. -/
inductive Mantissa : List Char → (whole fraction : List Char) → Prop
  | whole {whole : List Char} (hw : Digits whole) : Mantissa whole whole []
  | point {whole fraction : List Char} (hw : Digits whole)
    (hf : ∀ c ∈ fraction, c.isDigit = true) : Mantissa (whole ++ '.' :: fraction) whole fraction
  | fraction {fraction : List Char} (hf : Digits fraction) :
    Mantissa ('.' :: fraction) [] fraction

/-- A power of ten, which may be left out. -/
inductive Power : List Char → Int → Prop
  | none : Power [] 0
  | exponent {sign digits : List Char} {negative : Bool} (hs : Sign sign negative)
    (hd : Digits digits) :
    Power ('e' :: (sign ++ digits))
      (if negative then -(Nat.ofDigitChars 10 digits 0 : Int) else Nat.ofDigitChars 10 digits 0)

/-- A decimal number: a sign, digits with or without a point, and a power of ten. -/
inductive Decimal : List Char → Binary64 → Prop
  | intro {sign mantissa power whole fraction : List Char} {negative : Bool} {exponent : Int}
    (hs : Sign sign negative) (hm : Mantissa mantissa whole fraction)
    (hp : Power power exponent) :
    Decimal (sign ++ (mantissa ++ power))
      (if negative then (ofDigits whole fraction exponent).neg
        else ofDigits whole fraction exponent)

theorem splitSign_append {sign rest : List Char} {negative : Bool} (hs : Sign sign negative)
    (hrest : ∀ c ∈ rest.head?, c ≠ '-' ∧ c ≠ '+') :
    splitSign (sign ++ rest) = (negative, rest) := by
  cases hs with
  | plus => rfl
  | minus => rfl
  | none =>
    cases rest with
    | nil => rfl
    | cons c rest =>
      obtain ⟨hminus, hplus⟩ := hrest c rfl
      simp [splitSign, hminus, hplus]

theorem exists_sign {text rest : List Char} {negative : Bool}
    (h : splitSign text = (negative, rest)) : ∃ sign, text = sign ++ rest ∧ Sign sign negative := by
  unfold splitSign at h
  split at h <;> cases h
  · exact ⟨['-'], rfl, .minus⟩
  · exact ⟨['+'], rfl, .plus⟩
  · exact ⟨[], rfl, .none⟩

theorem not_sign_of_isDigit {c : Char} (h : c.isDigit = true) : c ≠ '-' ∧ c ≠ '+' := by
  constructor <;> (rintro rfl; revert h; decide)

theorem Digits.head_isDigit {digits : List Char} (h : Digits digits) (rest : List Char) :
    ∀ c ∈ (digits ++ rest).head?, c.isDigit = true := by
  cases digits with
  | nil => exact absurd rfl h.ne_nil
  | cons d digits =>
    rintro c hc
    cases hc
    exact h.all d List.mem_cons_self

theorem readExponent?_of_splitSign {text digits : List Char} {negative : Bool}
    (h : splitSign text = (negative, digits)) :
    readExponent? ('e' :: text) =
      (readDigits? digits).map fun n : Nat => if negative then -(n : Int) else n := by
  simp only [readExponent?, h]
  cases readDigits? digits <;> rfl

theorem readExponent?_eq_some_iff {text : List Char} {exponent : Int} :
    readExponent? text = some exponent ↔ Power text exponent := by
  constructor
  · intro h
    match text, h with
    | [], h =>
      cases h
      exact .none
    | c :: text, h =>
      by_cases hc : c = 'e'
      · subst hc
        obtain ⟨⟨negative, digits⟩, hsplit⟩ : ∃ parts, splitSign text = parts := ⟨_, rfl⟩
        rw [readExponent?_of_splitSign hsplit, Option.map_eq_some_iff] at h
        obtain ⟨n, hn, rfl⟩ := h
        obtain ⟨hd, rfl⟩ := readDigits?_eq_some_iff.1 hn
        obtain ⟨sign, rfl, hs⟩ := exists_sign hsplit
        exact .exponent hs hd
      · simp [readExponent?, hc] at h
  · intro h
    cases h with
    | none => rfl
    | @exponent sign digits negative hs hd =>
      have hsplit : splitSign (sign ++ digits) = (negative, digits) := by
        apply splitSign_append hs
        intro c hc
        exact not_sign_of_isDigit (hd.head_isDigit [] c (by rwa [List.append_nil]))
      rw [readExponent?_of_splitSign hsplit, readDigits?_eq_some_iff.2 ⟨hd, rfl⟩]
      rfl

theorem splitFraction_eq_iff {text fraction rest : List Char} :
    splitFraction text = (fraction, rest) ↔
      (∃ text', text = '.' :: text' ∧ splitDigits text' = (fraction, rest)) ∨
        (text.head? ≠ some '.' ∧ fraction = [] ∧ text = rest) := by
  unfold splitFraction
  split
  · simp
  · rename_i h
    cases text with
    | nil => simp [eq_comm]
    | cons c text =>
      have hc : c ≠ '.' := fun hc => h text (by rw [hc])
      simp [hc, eq_comm]

theorem Power.head {text : List Char} {exponent : Int} (h : Power text exponent) :
    ∀ c ∈ text.head?, c.isDigit = false ∧ c ≠ '.' := by
  intro c hc
  cases h with
  | none => cases hc
  | exponent =>
    cases hc
    decide

theorem readDecimal?_of_parts {text unsigned whole rest fraction power : List Char}
    {negative : Bool} (hs : splitSign text = (negative, unsigned))
    (hw : splitDigits unsigned = (whole, rest)) (hf : splitFraction rest = (fraction, power)) :
    readDecimal? text =
      if whole ++ fraction = [] then none
      else (readExponent? power).map fun exponent =>
        if negative then (ofDigits whole fraction exponent).neg
        else ofDigits whole fraction exponent := by
  simp only [readDecimal?, hs, hw, hf]

theorem Mantissa.split {mantissa whole fraction power : List Char}
    (h : Mantissa mantissa whole fraction)
    (hp : ∀ c ∈ power.head?, c.isDigit = false ∧ c ≠ '.') :
    ∃ rest, splitDigits (mantissa ++ power) = (whole, rest) ∧
      splitFraction rest = (fraction, power) := by
  have hdigit : ∀ c ∈ power.head?, c.isDigit = false := fun c hc => (hp c hc).1
  have hpoint : ∀ rest, ∀ c ∈ ('.' :: rest : List Char).head?, c.isDigit = false := by
    rintro rest c ⟨⟩
    decide
  cases h with
  | whole hw =>
    refine ⟨power, splitDigits_eq_iff.2 ⟨rfl, hw.all, hdigit⟩, splitFraction_eq_iff.2 (.inr ?_)⟩
    exact ⟨fun hc => (hp '.' hc).2 rfl, rfl, rfl⟩
  | @point _ _ hw hf =>
    refine ⟨'.' :: (fraction ++ power), splitDigits_eq_iff.2 ⟨by simp, hw.all, hpoint _⟩, ?_⟩
    exact splitFraction_eq_iff.2 (.inl ⟨_, rfl, splitDigits_eq_iff.2 ⟨rfl, hf, hdigit⟩⟩)
  | fraction hf =>
    refine ⟨'.' :: (fraction ++ power), splitDigits_eq_iff.2 ⟨rfl, by simp, hpoint _⟩, ?_⟩
    exact splitFraction_eq_iff.2 (.inl ⟨_, rfl, splitDigits_eq_iff.2 ⟨rfl, hf.all, hdigit⟩⟩)

theorem Mantissa.ne_nil {mantissa whole fraction : List Char}
    (h : Mantissa mantissa whole fraction) : whole ++ fraction ≠ [] := by
  cases h with
  | whole hw => simpa using hw.ne_nil
  | point hw => simp [hw.ne_nil]
  | fraction hf => simpa using hf.ne_nil

theorem exists_mantissa {text whole rest fraction power : List Char}
    (hw : splitDigits text = (whole, rest)) (hf : splitFraction rest = (fraction, power))
    (hne : whole ++ fraction ≠ []) :
    ∃ mantissa, text = mantissa ++ power ∧ Mantissa mantissa whole fraction := by
  obtain ⟨rfl, hwhole, -⟩ := splitDigits_eq_iff.1 hw
  rcases splitFraction_eq_iff.1 hf with ⟨text, rfl, hf⟩ | ⟨-, rfl, rfl⟩
  · obtain ⟨rfl, hfraction, -⟩ := splitDigits_eq_iff.1 hf
    by_cases hnil : whole = []
    · subst hnil
      exact ⟨'.' :: fraction, rfl, .fraction ⟨hne, hfraction⟩⟩
    · exact ⟨whole ++ '.' :: fraction, by simp, .point ⟨hnil, hwhole⟩ hfraction⟩
  · rw [List.append_nil] at hne
    exact ⟨whole, rfl, .whole ⟨hne, hwhole⟩⟩

theorem Mantissa.head_not_sign {mantissa whole fraction : List Char}
    (h : Mantissa mantissa whole fraction) (power : List Char) :
    ∀ c ∈ (mantissa ++ power).head?, c ≠ '-' ∧ c ≠ '+' := by
  intro c hc
  cases h with
  | whole hw => exact not_sign_of_isDigit (hw.head_isDigit power c hc)
  | point hw =>
    rw [List.append_assoc] at hc
    exact not_sign_of_isDigit (hw.head_isDigit _ c hc)
  | fraction =>
    cases hc
    decide

theorem readDecimal?_eq_some_iff {text : List Char} {x : Binary64} :
    readDecimal? text = some x ↔ Decimal text x := by
  constructor
  · intro h
    obtain ⟨⟨negative, unsigned⟩, hs⟩ : ∃ parts, splitSign text = parts := ⟨_, rfl⟩
    obtain ⟨⟨whole, rest⟩, hw⟩ : ∃ parts, splitDigits unsigned = parts := ⟨_, rfl⟩
    obtain ⟨⟨fraction, power⟩, hf⟩ : ∃ parts, splitFraction rest = parts := ⟨_, rfl⟩
    rw [readDecimal?_of_parts hs hw hf] at h
    by_cases hne : whole ++ fraction = []
    · simp [hne] at h
    · rw [if_neg hne] at h
      obtain ⟨exponent, hp, rfl⟩ := Option.map_eq_some_iff.1 h
      obtain ⟨sign, rfl, hsign⟩ := exists_sign hs
      obtain ⟨mantissa, rfl, hm⟩ := exists_mantissa hw hf hne
      exact .intro hsign hm (readExponent?_eq_some_iff.1 hp)
  · intro h
    cases h with
    | @intro sign mantissa power whole fraction negative exponent hs hm hp =>
      obtain ⟨rest, hw, hf⟩ := hm.split hp.head
      rw [readDecimal?_of_parts (splitSign_append hs (hm.head_not_sign power)) hw hf,
        if_neg hm.ne_nil, readExponent?_eq_some_iff.2 hp]
      rfl

end TrackGrid.Reading
