import TrackGrid.Text.Blank

/-! # Texts without blanks at their ends -/

namespace TrackGrid.Text

variable {c : Char} {text before after : List Char}

/-- What holds of all characters of a text is checked on the text, not on all characters. -/
instance (priority := high) decidableForallMem {p : Char → Prop} [DecidablePred p]
    (text : List Char) : Decidable (∀ c ∈ text, p c) :=
  List.decidableBAll p text

/-! ## Classes of characters -/

theorem not_mem_of_covers {ranges : CharRanges} (h : ∀ c ∈ text, ranges.covers c = true)
    (hc : ranges.covers c = false) : c ∉ text := by
  intro hmem
  have hcovers := h c hmem
  rw [hc] at hcovers
  cases hcovers

theorem covers_of_isDigit {ranges : CharRanges} (hr : (0x30, 0x39) ∈ ranges)
    (h : c.isDigit = true) : ranges.covers c = true := by
  simp only [Char.isDigit, Bool.and_eq_true, decide_eq_true_eq] at h
  refine List.any_eq_true.2 ⟨_, hr, ?_⟩
  rw [Bool.and_eq_true, decide_eq_true_eq, decide_eq_true_eq]
  exact h

/-- No range of one list meets a range of the other. -/
def CharRanges.disjoint (r s : CharRanges) : Bool :=
  r.all fun a => s.all fun b => a.2 < b.1 || b.2 < a.1

theorem CharRanges.not_covers_of_disjoint {r s : CharRanges} (h : r.disjoint s = true)
    (hr : r.covers c = true) : s.covers c = false := by
  rw [CharRanges.covers, List.any_eq_true] at hr
  obtain ⟨a, ha, hac⟩ := hr
  rw [CharRanges.covers, List.any_eq_false]
  intro b hb
  have hab := List.all_eq_true.1 (List.all_eq_true.1 h a ha) b hb
  simp only [Bool.or_eq_true, Bool.and_eq_true, decide_eq_true_eq] at *
  omega

/-! ## Blanks -/

/-- Blanks and nothing else; there may be none. -/
def Blanks (text : List Char) : Prop := ∀ c ∈ text, isBlank c = true

/-- No blank stands at an end. -/
structure Trimmed (text : List Char) : Prop where
  head : ∀ c ∈ text.head?, isBlank c = false
  last : ∀ c ∈ text.getLast?, isBlank c = false

theorem blanks_nil : Blanks [] := by simp [Blanks]

theorem Trimmed.of_forall (h : ∀ c ∈ text, isBlank c = false) : Trimmed text where
  head := fun c hc => h c (List.mem_of_head? hc)
  last := fun c hc => h c (List.mem_of_getLast? hc)

theorem Trimmed.append {a b : List Char} (ha : Trimmed a) (hb : Trimmed b) (hane : a ≠ [])
    (hbne : b ≠ []) (middle : List Char) : Trimmed (a ++ (middle ++ b)) where
  head := by
    cases a with
    | nil => exact absurd rfl hane
    | cons c a => exact ha.head
  last := by
    have hlast := hb.last
    rw [List.getLast?_eq_some_getLast hbne] at hlast
    rwa [List.getLast?_append, List.getLast?_append, List.getLast?_eq_some_getLast hbne]

theorem Trimmed.of_ends {first last : Char} (hf : isBlank first = false)
    (hl : isBlank last = false) (middle : List Char) : Trimmed (first :: (middle ++ [last])) where
  head := by
    rintro _ ⟨⟩
    exact hf
  last := by
    rw [← List.cons_append, List.getLast?_concat]
    rintro _ ⟨⟩
    exact hl

theorem Trimmed.eq_nil_of_blanks_append (h : Trimmed (before ++ text)) (hb : Blanks before) :
    before = [] := by
  cases before with
  | nil => rfl
  | cons c before =>
    have hblank := hb c List.mem_cons_self
    rw [h.head c rfl] at hblank
    cases hblank

theorem not_mem_of_blanks (hc : isBlank c = false) (h : Blanks text) : c ∉ text :=
  not_mem_of_covers h hc

theorem filter_blanks {p : Char → Bool} (hp : ∀ c, isBlank c = true → p c = false)
    (h : Blanks text) : text.filter p = [] :=
  List.filter_eq_nil_iff.2 fun c hc => by simp [hp c (h c hc)]

/-! ## Trimming -/

theorem trimStart_append_of_blanks (h : Blanks before) :
    trimStart (before ++ text) = trimStart text :=
  List.dropWhile_append_of_pos h

theorem trimEnd_append_of_blanks (h : Blanks after) : trimEnd (text ++ after) = trimEnd text := by
  rw [trimEnd, List.reverse_append, List.dropWhile_append_of_pos, trimEnd]
  intro c hc
  exact h c (List.mem_reverse.1 hc)

theorem trimStart_of_head (h : ∀ c ∈ text.head?, isBlank c = false) : trimStart text = text := by
  cases text with
  | nil => rfl
  | cons c text => rw [trimStart, List.dropWhile_cons_of_neg (by simp [h c rfl])]

theorem trimEnd_of_last (h : ∀ c ∈ text.getLast?, isBlank c = false) : trimEnd text = text := by
  have hrev : trimStart text.reverse = text.reverse :=
    trimStart_of_head (by rwa [List.head?_reverse])
  rw [trimStart] at hrev
  rw [trimEnd, hrev, List.reverse_reverse]

theorem trim_of_blanks (h : Blanks text) : trim text = [] := by
  have hstart : trimStart (text ++ []) = trimStart [] := trimStart_append_of_blanks h
  rw [List.append_nil] at hstart
  rw [trim, hstart]
  rfl

theorem Trimmed.trim_eq (h : Trimmed text) : trim text = text := by
  rw [trim, trimStart_of_head h.head, trimEnd_of_last h.last]

theorem trim_pad (hb : Blanks before) (ha : Blanks after) :
    trim (before ++ (text ++ after)) = trim text := by
  rw [trim, trimStart_append_of_blanks hb, trim, trimStart, List.dropWhile_append, ← trimStart,
    ← trimStart]
  split
  · rename_i hnil
    rw [List.isEmpty_iff.1 hnil]
    exact trim_of_blanks ha
  · exact trimEnd_append_of_blanks ha

theorem trim_blanks_append (h : Blanks before) : trim (before ++ text) = trim text := by
  have hpad : trim (before ++ (text ++ [])) = trim text := trim_pad h blanks_nil
  rwa [List.append_nil] at hpad

theorem trim_append_blanks (h : Blanks after) : trim (text ++ after) = trim text :=
  trim_pad blanks_nil h

theorem Trimmed.trim_pad (h : Trimmed text) (hb : Blanks before) (ha : Blanks after) :
    trim (before ++ (text ++ after)) = text :=
  (Text.trim_pad hb ha).trans h.trim_eq

theorem exists_trimStart (text : List Char) :
    ∃ before, Blanks before ∧ text = before ++ trimStart text :=
  ⟨text.takeWhile isBlank, List.all_eq_true.1 List.all_takeWhile,
    List.takeWhile_append_dropWhile.symm⟩

theorem exists_trimEnd (text : List Char) :
    ∃ after, Blanks after ∧ text = trimEnd text ++ after := by
  obtain ⟨before, hb, htext⟩ := exists_trimStart text.reverse
  refine ⟨before.reverse, fun c hc => hb c (List.mem_reverse.1 hc), ?_⟩
  rw [trimEnd, ← trimStart, ← List.reverse_append, ← htext, List.reverse_reverse]

theorem exists_trim (text : List Char) :
    ∃ before after, Blanks before ∧ Blanks after ∧ text = before ++ (trim text ++ after) := by
  obtain ⟨before, hb, hstart⟩ := exists_trimStart text
  obtain ⟨after, ha, hend⟩ := exists_trimEnd (trimStart text)
  exact ⟨before, after, hb, ha, by rw [trim, ← hend, ← hstart]⟩

theorem mem_of_mem_trim (h : c ∈ trim text) : c ∈ text := by
  obtain ⟨before, after, -, -, htext⟩ := exists_trim text
  rw [htext]
  exact List.mem_append_right _ (List.mem_append_left _ h)

theorem filter_trim {p : Char → Bool} (hp : ∀ c, isBlank c = true → p c = false)
    (text : List Char) : (trim text).filter p = text.filter p := by
  obtain ⟨before, after, hb, ha, htext⟩ := exists_trim text
  have hfilter : (before ++ (trim text ++ after)).filter p = (trim text).filter p := by
    simp [List.filter_append, filter_blanks hp hb, filter_blanks hp ha]
  rw [← hfilter, ← htext]

theorem mem_trim_iff (hc : isBlank c = false) : c ∈ trim text ↔ c ∈ text := by
  have hfilter : c ∈ (trim text).filter (!isBlank ·) ↔ c ∈ text.filter (!isBlank ·) := by
    rw [filter_trim fun c hc => by simp [hc]]
  simpa [hc] using hfilter

theorem isBlank_head_trimStart (text : List Char) :
    ∀ c ∈ (trimStart text).head?, isBlank c = false := by
  intro c hc
  have hnot := List.head?_dropWhile_not isBlank text
  rw [trimStart] at hc
  rwa [hc] at hnot

theorem isBlank_getLast_trimEnd (text : List Char) :
    ∀ c ∈ (trimEnd text).getLast?, isBlank c = false := by
  intro c hc
  rw [trimEnd, List.getLast?_reverse] at hc
  have := List.head?_dropWhile_not isBlank text.reverse
  rwa [hc] at this

theorem trimmed_trim (text : List Char) : Trimmed (trim text) := by
  refine ⟨fun c hc => ?_, isBlank_getLast_trimEnd _⟩
  -- What is left at the end still starts as before.
  obtain ⟨after, -, htext⟩ := exists_trimEnd (trimStart text)
  have hhead : c ∈ (trimStart text).head? := by
    rw [htext, List.head?_append]
    exact Option.or_eq_some_iff.2 (.inl hc)
  exact isBlank_head_trimStart text c hhead

theorem head?_trim (text : List Char) :
    (trim text).head? = (text.filter (!isBlank ·)).head? := by
  rw [← filter_trim (by simp)]
  have htrimmed := trimmed_trim text
  cases htrim : trim text with
  | nil => rfl
  | cons c rest =>
    rw [htrim] at htrimmed
    simp [htrimmed.head c rfl]

theorem getLast?_trim (text : List Char) :
    (trim text).getLast? = (text.filter (!isBlank ·)).getLast? := by
  rw [← filter_trim (by simp)]
  have htrimmed := trimmed_trim text
  rcases List.eq_nil_or_concat (trim text) with htrim | ⟨rest, c, htrim⟩
  · rw [htrim]
    rfl
  · rw [htrim] at htrimmed ⊢
    simp [htrimmed.last c (by simp), List.filter_append]

theorem trim_trimEnd (text : List Char) : trim (trimEnd text) = trim text := by
  obtain ⟨after, ha, htext⟩ := exists_trimEnd text
  have happend : trim (trimEnd text ++ after) = trim (trimEnd text) := trim_append_blanks ha
  rw [← htext] at happend
  exact happend.symm

theorem Trimmed.trim_append (h : Trimmed text) (hne : text ≠ []) (rest : List Char) :
    trim (text ++ rest) = text ++ trimEnd rest := by
  obtain ⟨after, ha, hrest⟩ := exists_trimEnd rest
  have htrimmed : Trimmed (text ++ trimEnd rest) := by
    by_cases hnil : trimEnd rest = []
    · rwa [hnil, List.append_nil]
    · obtain ⟨c, tail, rfl⟩ := List.exists_cons_of_ne_nil hne
      refine ⟨h.head, ?_⟩
      rw [List.getLast?_append, List.getLast?_eq_some_getLast hnil, Option.some_or,
        ← List.getLast?_eq_some_getLast hnil]
      exact isBlank_getLast_trimEnd rest
  calc trim (text ++ rest)
      = trim ((text ++ trimEnd rest) ++ after) := by rw [List.append_assoc, ← hrest]
    _ = text ++ trimEnd rest := by rw [trim_append_blanks ha, htrimmed.trim_eq]

theorem Trimmed.trimStart (h : Trimmed (before ++ text)) : Trimmed (trimStart text) where
  head := isBlank_head_trimStart text
  last := by
    intro c hc
    obtain ⟨blanks, -, htext⟩ := exists_trimStart text
    apply h.last c
    rw [htext, List.getLast?_append, List.getLast?_append, hc]
    rfl

/-! ## Texts with blanks around them -/

/-- A text of one kind with blanks around it. -/
def Padded (kind : List Char → Prop) (text : List Char) : Prop :=
  ∃ before inner after, Blanks before ∧ Blanks after ∧ kind inner ∧
    text = before ++ (inner ++ after)

variable {kind : List Char → Prop}

theorem Padded.of_kind (h : kind text) : Padded kind text :=
  ⟨[], text, [], blanks_nil, blanks_nil, h, by simp⟩

theorem padded_iff (htrimmed : ∀ text, kind text → Trimmed text) :
    Padded kind text ↔ kind (trim text) := by
  constructor
  · rintro ⟨before, inner, after, hb, ha, h, rfl⟩
    rwa [(htrimmed inner h).trim_pad hb ha]
  · intro h
    obtain ⟨before, after, hb, ha, htext⟩ := exists_trim text
    exact ⟨before, trim text, after, hb, ha, h, htext⟩

theorem Padded.not_mem (hc : isBlank c = false) (hkind : ∀ text, kind text → c ∉ text)
    (h : Padded kind text) : c ∉ text := by
  obtain ⟨before, inner, after, hb, ha, hinner, rfl⟩ := h
  simp [not_mem_of_blanks hc hb, not_mem_of_blanks hc ha, hkind inner hinner]

end TrackGrid.Text
