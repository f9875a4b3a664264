import TrackGrid.Proofs.Text.Blank
import TrackGrid.Text.Lowercase

/-! # Lower case, piece by piece

Lower case looks at what stands around a capital sigma, so the lower case of a text is not that of
its parts in general. It is where a character between them can stand in no word.
-/

namespace TrackGrid.Text

variable {c : Char} {text before after rest : List Char}

/-! ## Blanks in lower case -/

/-- A capital of ASCII, as `Char.toLower` tests for it. -/
def IsCapital (c : Char) : Prop := 'A'.val ≤ c.val ∧ c.val ≤ 'Z'.val

theorem IsCapital.toNat (h : IsCapital c) : 0x41 ≤ c.toNat ∧ c.toNat ≤ 0x5A := h

theorem toLower_of_not_isCapital (h : ¬ IsCapital c) : c.toLower = c := dif_neg h

theorem toNat_toLower_of_isCapital (h : IsCapital c) : c.toLower.toNat = c.toNat + 32 := by
  have hle := h.toNat
  have hlower : c.toLower = ⟨c.val + ('a'.val - 'A'.val), _⟩ := dif_pos h
  have hdiff : ('a'.val - 'A'.val).toNat = 32 := by decide
  have hval : c.val.toNat = c.toNat := rfl
  change c.toLower.val.toNat = c.toNat + 32
  rw [hlower, UInt32.toNat_add, hdiff, hval]
  omega

theorem not_isCapital_of_isBlank (h : isBlank c = true) : ¬ IsCapital c := by
  intro hc
  have hdisjoint : blankRanges.disjoint [(0x41, 0x5A)] = true := by decide
  have hnot := List.any_eq_false.1 (CharRanges.not_covers_of_disjoint hdisjoint h) _
    List.mem_cons_self
  rw [Bool.and_eq_true, decide_eq_true_eq, decide_eq_true_eq] at hnot
  exact hnot hc.toNat

theorem lowerChar_of_isBlank (h : isBlank c = true) : lowerChar c = [c] := by
  rw [lowerChar]
  split
  · rw [toLower_of_not_isCapital (not_isCapital_of_isBlank h)]
  · split
    · rename_i hc
      subst hc
      exact absurd h (by decide)
    · have hdisjoint :
          blankRanges.disjoint (caseRuns.map fun run => (run.first, run.last)) = true := by
        decide +kernel
      have hruns := CharRanges.not_covers_of_disjoint hdisjoint h
      have hnone : caseRuns.find? (·.covers c) = none := by
        rw [List.find?_eq_none]
        intro run hrun hcover
        have := List.any_eq_false.1 hruns _ (List.mem_map_of_mem hrun)
        simp only [CaseRun.covers, Bool.and_eq_true, decide_eq_true_eq] at *
        omega
      rw [hnone]

/-! ## Characters that separate words -/

/-- The character belongs to no word, does not stand inside one, and has no case. -/
structure Separates (c : Char) : Prop where
  not_cased : isCased c = false
  not_ignorable : isCaseIgnorable c = false
  lower_eq : lowerChar c = [c]

theorem separates_of_isBlank (h : isBlank c = true) : Separates c where
  not_cased := CharRanges.not_covers_of_disjoint (r := blankRanges) (by decide +kernel) h
  not_ignorable := CharRanges.not_covers_of_disjoint (r := blankRanges) (by decide +kernel) h
  lower_eq := lowerChar_of_isBlank h

/-- Dollars, parentheses, stars, commas, digits, brackets and braces. -/
def listSigns : CharRanges :=
  [(0x24, 0x24), (0x28, 0x2A), (0x2C, 0x2C), (0x30, 0x39), (0x5B, 0x5B), (0x5D, 0x5D),
   (0x7B, 0x7B), (0x7D, 0x7D)]

theorem separates_of_listSigns (h : listSigns.covers c = true) : Separates c where
  not_cased := CharRanges.not_covers_of_disjoint (r := listSigns) (by decide +kernel) h
  not_ignorable := CharRanges.not_covers_of_disjoint (r := listSigns) (by decide +kernel) h
  lower_eq := by
    simp only [listSigns, CharRanges.covers, List.any_cons, List.any_nil, Bool.or_false,
      Bool.or_eq_true, Bool.and_eq_true, decide_eq_true_eq] at h
    have hcapital : ¬ IsCapital c := fun hc => by
      have := hc.toNat
      omega
    rw [lowerChar, if_pos (by omega), toLower_of_not_isCapital hcapital]

theorem separates_comma : Separates ',' := separates_of_listSigns (by decide)

theorem touchesWord_append (h : Separates c) :
    touchesWord (text ++ c :: rest) = touchesWord text := by
  rw [touchesWord, touchesWord, List.dropWhile_append]
  split
  · rename_i hnil
    rw [List.isEmpty_iff.1 hnil, List.dropWhile_cons_of_neg (by simp [h.not_ignorable])]
    simp [h.not_cased]
  · rename_i hne
    rw [List.isEmpty_iff] at hne
    obtain ⟨d, tail, hd⟩ := List.exists_cons_of_ne_nil hne
    rw [hd]
    rfl

theorem lowerAfter_append (h : Separates c) :
    lowerAfter (before ++ c :: rest) text = lowerAfter before text := by
  induction text generalizing before with
  | nil => rfl
  | cons d text ih =>
    rw [lowerAfter, lowerAfter, endsWord, endsWord, touchesWord_append h, ← List.cons_append, ih]

theorem lowerAfter_append_cons (h : Separates c) :
    lowerAfter before (text ++ c :: rest) =
      lowerAfter before text ++ lowerAfter (text.reverse ++ before) (c :: rest) := by
  induction text generalizing before with
  | nil => rfl
  | cons d text ih =>
    rw [List.cons_append, lowerAfter, lowerAfter, endsWord, endsWord, touchesWord_append h, ih,
      List.append_assoc, List.reverse_cons, List.append_assoc, List.singleton_append]

theorem lower_append_cons (h : Separates c) :
    lower (text ++ c :: rest) = lower text ++ c :: lower rest := by
  have hc : c ≠ 'Σ' := by
    rintro rfl
    exact absurd h.not_cased (by decide)
  have hrest : lowerAfter ([] ++ c :: text.reverse) rest = lowerAfter [] rest :=
    lowerAfter_append h
  rw [List.nil_append] at hrest
  rw [lower, lowerAfter_append_cons h, lowerAfter, if_neg hc, List.append_nil, hrest, h.lower_eq]
  rfl

theorem lower_cons (h : Separates c) : lower (c :: text) = c :: lower text := by
  have hnil : lower ([] ++ c :: text) = lower [] ++ c :: lower text := lower_append_cons h
  exact hnil

theorem mem_lower_of_separates (h : Separates c) (hmem : c ∈ text) : c ∈ lower text := by
  obtain ⟨before, after, rfl⟩ := List.append_of_mem hmem
  rw [lower_append_cons h]
  exact List.mem_append_right _ List.mem_cons_self

theorem lower_of_separates (h : ∀ c ∈ text, Separates c) : lower text = text := by
  induction text with
  | nil => rfl
  | cons c text ih =>
    rw [lower_cons (h c List.mem_cons_self), ih fun d hd => h d (List.mem_cons_of_mem c hd)]

theorem lower_append_of_separates (h : ∀ c ∈ before, Separates c) :
    lower (before ++ text) = before ++ lower text := by
  induction before with
  | nil => rfl
  | cons c before ih =>
    rw [List.cons_append, lower_cons (h c List.mem_cons_self),
      ih fun d hd => h d (List.mem_cons_of_mem c hd)]
    rfl

theorem lower_blanks_append (h : Blanks before) : lower (before ++ text) = before ++ lower text :=
  lower_append_of_separates fun c hc => separates_of_isBlank (h c hc)

theorem lower_append_blanks (h : Blanks after) : lower (text ++ after) = lower text ++ after := by
  cases after with
  | nil => rw [List.append_nil, List.append_nil]
  | cons c after =>
    obtain ⟨hc, hafter⟩ := List.forall_mem_cons.1 h
    rw [lower_append_cons (separates_of_isBlank hc),
      lower_of_separates fun d hd => separates_of_isBlank (hafter d hd)]

/-! ## Lower case in ASCII -/

theorem lower_of_ascii (h : ∀ c ∈ text, c.toNat < 128) : lower text = text.map Char.toLower := by
  suffices ∀ before, lowerAfter before text = text.map Char.toLower from this []
  induction text with
  | nil => exact fun _ => rfl
  | cons c text ih =>
    intro before
    have hc := h c List.mem_cons_self
    have hsigma : c ≠ 'Σ' := by
      rintro rfl
      exact absurd hc (by decide)
    rw [lowerAfter, if_neg hsigma, lowerChar, if_pos hc,
      ih (fun d hd => h d (List.mem_cons_of_mem c hd)), List.map_cons, List.singleton_append]

/-! ## Characters that lower case does not make -/

theorem lowerChar_ne_nil (c : Char) : lowerChar c ≠ [] := by
  rw [lowerChar]
  split
  · simp
  · split
    · simp
    · split <;> simp

theorem lowerAfter_ne_nil (h : text ≠ []) : lowerAfter before text ≠ [] := by
  obtain ⟨c, text, rfl⟩ := List.exists_cons_of_ne_nil h
  rw [lowerAfter]
  split
  · simp
  · simp [lowerChar_ne_nil]

/-- No character outside the ranges has a lower case in them. -/
structure Unmade (ranges : CharRanges) : Prop where
  pos : ∀ r ∈ ranges, 0 < r.1
  not_letter : ∀ r ∈ ranges, 0x7A < r.1 ∨ r.2 < 0x61
  not_special : ∀ c ∈ ['i', '\u0307', 'ς', 'σ'], ranges.covers c = false
  not_run : ∀ run ∈ caseRuns, ∀ r ∈ ranges,
    run.last + run.offset < (r.1 : Int) ∨ (r.2 : Int) < run.first + run.offset

theorem covers_eq_false_of_toNat {ranges : CharRanges}
    (h : ∀ r ∈ ranges, c.toNat < r.1 ∨ r.2 < c.toNat) : ranges.covers c = false := by
  rw [CharRanges.covers, List.any_eq_false]
  intro r hr
  have := h r hr
  rw [Bool.and_eq_true, decide_eq_true_eq, decide_eq_true_eq]
  omega

section

variable {ranges : CharRanges} (hu : Unmade ranges)

include hu

theorem Unmade.caseRun {run : CaseRun} (hrun : run ∈ caseRuns) (h : run.covers c = true) :
    ranges.covers (Char.ofNat (c.toNat + run.offset).toNat) = false := by
  apply covers_eq_false_of_toNat
  intro r hr
  have hmiss := hu.not_run run hrun r hr
  have hpos := hu.pos r hr
  simp only [CaseRun.covers, Bool.and_eq_true, decide_eq_true_eq] at h
  by_cases hvalid : (c.toNat + run.offset).toNat.isValidChar
  · have hmade : Char.ofNat (c.toNat + run.offset).toNat = Char.ofNatAux _ hvalid := dif_pos hvalid
    rw [hmade]
    change (c.toNat + run.offset).toNat < _ ∨ _ < (c.toNat + run.offset).toNat
    omega
  · have hmade : Char.ofNat (c.toNat + run.offset).toNat = '\x00' := dif_neg hvalid
    rw [hmade]
    exact .inl hpos

theorem Unmade.toLower (h : ranges.covers c = false) : ranges.covers c.toLower = false := by
  by_cases hc : IsCapital c
  · have hle := hc.toNat
    apply covers_eq_false_of_toNat
    intro r hr
    have := hu.not_letter r hr
    rw [toNat_toLower_of_isCapital hc]
    omega
  · rwa [toLower_of_not_isCapital hc]

theorem Unmade.lowerChar (h : ranges.covers c = false) :
    ∀ d ∈ lowerChar c, ranges.covers d = false := by
  rw [Text.lowerChar]
  split
  · simpa using hu.toLower h
  · split
    · intro d hd
      exact hu.not_special d (List.mem_of_mem_take (i := 2) hd)
    · split
      · rename_i run hfind
        have hcover : run.covers c = true := by simpa using List.find?_some hfind
        simpa using hu.caseRun (List.mem_of_find?_eq_some hfind) hcover
      · simpa using h

theorem Unmade.exists_lowerAfter_cons (h : ranges.covers c = false) (before rest : List Char) :
    ∃ letters, letters ≠ [] ∧ (∀ d ∈ letters, ranges.covers d = false) ∧
      lowerAfter before (c :: rest) = letters ++ lowerAfter (c :: before) rest := by
  refine ⟨_, ?_, ?_, rfl⟩
  · split
    · simp
    · exact lowerChar_ne_nil c
  · split
    · have hsigma := hu.not_special
      split <;> simp_all
    · exact hu.lowerChar h

end

theorem filter_lower {ranges : CharRanges} (hu : Unmade ranges)
    (hkept : ∀ c, ranges.covers c = true → Separates c) (text : List Char) :
    (lower text).filter ranges.covers = text.filter ranges.covers := by
  suffices ∀ before, (lowerAfter before text).filter ranges.covers = text.filter ranges.covers from
    this []
  induction text with
  | nil => exact fun _ => rfl
  | cons c text ih =>
    intro before
    cases hc : ranges.covers c with
    | true =>
      have hsigma : c ≠ 'Σ' := by
        rintro rfl
        exact absurd (hkept 'Σ' hc).not_cased (by decide)
      rw [lowerAfter, if_neg hsigma, (hkept c hc).lower_eq, List.singleton_append,
        List.filter_cons_of_pos hc, List.filter_cons_of_pos hc, ih]
    | false =>
      obtain ⟨letters, -, hletters, heq⟩ := hu.exists_lowerAfter_cons hc before text
      have hnone : letters.filter ranges.covers = [] :=
        List.filter_eq_nil_iff.2 fun d hd => by simp [hletters d hd]
      rw [heq, List.filter_append, hnone, List.nil_append, ih,
        List.filter_cons_of_neg (by simp [hc])]

theorem ne_nil_of_lower_ne_nil (h : lower text ≠ []) : text ≠ [] := by
  rintro rfl
  exact h rfl

/-! ## Signs that lower case keeps -/

/-- Blanks, and the signs with which lists are written. -/
def keptSigns : CharRanges := listSigns ++ blankRanges

theorem unmade_keptSigns : Unmade keptSigns :=
  ⟨by decide, by decide, by decide, by decide +kernel⟩

theorem separates_of_keptSigns (h : keptSigns.covers c = true) : Separates c := by
  rw [keptSigns, CharRanges.covers, List.any_append, Bool.or_eq_true] at h
  rcases h with h | h
  · exact separates_of_listSigns h
  · exact separates_of_isBlank h

theorem keptSigns_of_isBlank (h : isBlank c = true) : keptSigns.covers c = true := by
  rw [keptSigns, CharRanges.covers, List.any_append, Bool.or_eq_true]
  exact .inr h

theorem eq_nil_of_lower_eq_nil (h : lower text = []) : text = [] :=
  Decidable.byContradiction fun hne => lowerAfter_ne_nil hne h

section

variable (hc : keptSigns.covers c = true)

include hc

theorem mem_lower_iff : c ∈ lower text ↔ c ∈ text := by
  have hfilter : c ∈ (lower text).filter keptSigns.covers ↔ c ∈ text.filter keptSigns.covers := by
    rw [filter_lower unmade_keptSigns fun _ => separates_of_keptSigns]
  simpa [hc] using hfilter

theorem exists_of_lower_eq_append_cons (h : lower text = before ++ c :: after) :
    ∃ front back, text = front ++ c :: back ∧ lower front = before ∧ lower back = after := by
  have hsep := separates_of_keptSigns hc
  induction hn : text.length using Nat.strongRecOn generalizing text before with
  | _ n ih =>
    obtain ⟨first, rest, rfl, hfirst⟩ : ∃ first rest, text = first ++ c :: rest ∧ c ∉ first :=
      List.eq_append_cons_of_mem ((mem_lower_iff hc).1 (by simp [h]))
    rw [← mem_lower_iff hc] at hfirst
    rw [lower_append_cons hsep] at h
    rcases List.append_eq_append_iff.1 h with ⟨middle, rfl, hmiddle⟩ | ⟨middle, hmiddle, htail⟩
    · cases middle with
      | nil =>
        cases hmiddle
        exact ⟨first, rest, rfl, by simp, rfl⟩
      | cons d middle =>
        obtain ⟨rfl, hrest⟩ := List.cons.inj hmiddle
        -- The text has the sign more than once, and this is not the first one.
        obtain ⟨front, back, rfl, rfl, rfl⟩ := ih rest.length (by simp at hn; omega) hrest rfl
        exact ⟨first ++ c :: front, back, by simp, lower_append_cons hsep, rfl⟩
    · cases middle with
      | nil =>
        cases htail
        exact ⟨first, rest, rfl, by simpa using hmiddle, rfl⟩
      | cons d middle =>
        obtain ⟨rfl, -⟩ := List.cons.inj htail
        exact absurd (by simp [hmiddle]) hfirst

theorem head?_lower_eq_some_iff : (lower text).head? = some c ↔ text.head? = some c := by
  simp only [List.head?_eq_some_iff]
  constructor
  · rintro ⟨rest, h⟩
    have happend : lower text = [] ++ c :: rest := h
    obtain ⟨front, back, rfl, hfront, -⟩ := exists_of_lower_eq_append_cons hc happend
    obtain rfl := eq_nil_of_lower_eq_nil hfront
    exact ⟨back, rfl⟩
  · rintro ⟨rest, rfl⟩
    exact ⟨lower rest, lower_cons (separates_of_keptSigns hc)⟩

theorem getLast?_lower_eq_some_iff : (lower text).getLast? = some c ↔ text.getLast? = some c := by
  simp only [List.getLast?_eq_some_iff]
  constructor
  · rintro ⟨front, h⟩
    obtain ⟨front, back, rfl, -, hback⟩ := exists_of_lower_eq_append_cons hc h
    obtain rfl := eq_nil_of_lower_eq_nil hback
    exact ⟨front, rfl⟩
  · rintro ⟨front, rfl⟩
    exact ⟨lower front, lower_append_cons (separates_of_keptSigns hc)⟩

end

theorem Trimmed.lower (h : Trimmed text) : Trimmed (lower text) where
  head := by
    intro c hc
    cases hblank : isBlank c with
    | false => rfl
    | true =>
      have hhead := (head?_lower_eq_some_iff (keptSigns_of_isBlank hblank)).1 hc
      exact hblank.symm.trans (h.head c hhead)
  last := by
    intro c hc
    cases hblank : isBlank c with
    | false => rfl
    | true =>
      have hlast := (getLast?_lower_eq_some_iff (keptSigns_of_isBlank hblank)).1 hc
      exact hblank.symm.trans (h.last c hlast)

theorem exists_of_lower_eq_append (hb : ∀ c ∈ before, keptSigns.covers c = true)
    (h : lower text = before ++ after) : ∃ back, text = before ++ back ∧ lower back = after := by
  induction before generalizing text with
  | nil => exact ⟨text, rfl, h⟩
  | cons c before ih =>
    obtain ⟨hc, hbefore⟩ := List.forall_mem_cons.1 hb
    obtain ⟨rest, rfl⟩ : ∃ rest, text = c :: rest :=
      List.head?_eq_some_iff.1 ((head?_lower_eq_some_iff hc).1 (by rw [h]; rfl))
    rw [lower_cons (separates_of_keptSigns hc), List.cons_append, List.cons.injEq] at h
    obtain ⟨back, rfl, hback⟩ := ih hbefore h.2
    exact ⟨back, rfl, hback⟩

theorem eq_of_lower_eq (ha : ∀ c ∈ after, keptSigns.covers c = true) (h : lower text = after) :
    text = after := by
  have happend : lower text = after ++ [] := by rw [h, List.append_nil]
  obtain ⟨back, rfl, hback⟩ := exists_of_lower_eq_append ha happend
  obtain rfl := eq_nil_of_lower_eq_nil hback
  exact List.append_nil _

end TrackGrid.Text
