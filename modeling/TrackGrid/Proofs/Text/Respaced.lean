import Mathlib.Logic.Relation
import TrackGrid.Proofs.Text.Lowercase
import TrackGrid.Proofs.Text.Pieces

/-! # Blanks next to separators

Texts that differ in nothing but blanks next to separators or at their ends. Main statement: cut at
a character that is no blank, such texts have parts that differ in the same way.
-/

namespace TrackGrid.Text

variable {c : Char} {left right : Option Char} {text text' before after : List Char}

/-- Commas, colons and semicolons. -/
def separators : List Char := [',', ':', ';']

/-- Blanks do not matter next to this: a separator, or the end of a text. -/
def Edge (c? : Option Char) : Prop := ∀ c ∈ c?, c ∈ separators

/-- Texts between two characters, if there are any, that differ in the blanks at one place, which is
next to a separator or at an end. -/
inductive RespacedIn (left right : Option Char) : List Char → List Char → Prop
  | refl (text : List Char) : RespacedIn left right text text
  | blanks {before blanks blanks' after : List Char} (hb : Blanks blanks) (hb' : Blanks blanks')
    (hedge : Edge (before.getLast?.or left) ∨ Edge (after.head?.or right)) :
    RespacedIn left right (before ++ (blanks ++ after)) (before ++ (blanks' ++ after))

/-- Whole texts that differ in such blanks at one place. -/
abbrev Respaced : List Char → List Char → Prop := RespacedIn none none

/-! ## Edges -/

theorem isBlank_of_mem_separators : ∀ c ∈ separators, isBlank c = false := by decide

theorem edge_none : Edge none := by simp [Edge]

theorem not_edge_some (h : c ∉ separators) : ¬ Edge (some c) := fun hedge => h (hedge c rfl)

/-! ## Respaced texts -/

theorem RespacedIn.symm (h : RespacedIn left right text text') :
    RespacedIn left right text' text := by
  cases h with
  | refl => exact .refl text
  | blanks hb hb' hedge => exact .blanks hb' hb hedge

theorem RespacedIn.respaced (h : RespacedIn left right text text') : Respaced text text' := by
  have hedge : ∀ {c? side : Option Char}, Edge (c?.or side) → Edge (c?.or none) := by
    rintro (_ | c) side h
    · exact edge_none
    · exact h
  cases h with
  | refl => exact .refl text
  | blanks hb hb' h => exact .blanks hb hb' (h.imp hedge hedge)

theorem respaced_blanks_append (h : Blanks before) : Respaced text (before ++ text) := by
  have hrespaced : Respaced ([] ++ ([] ++ text)) ([] ++ (before ++ text)) :=
    .blanks blanks_nil h (.inl edge_none)
  simpa using hrespaced

theorem respaced_append_blanks (h : Blanks after) : Respaced text (text ++ after) := by
  have hrespaced : Respaced (text ++ ([] ++ [])) (text ++ (after ++ [])) :=
    .blanks blanks_nil h (.inr edge_none)
  simpa using hrespaced

theorem respaced_before (hc : c ∈ separators) {blanks : List Char} (h : Blanks blanks) :
    Respaced (before ++ c :: after) (before ++ (blanks ++ c :: after)) := by
  have hedge : Edge ((c :: after).head?.or none) := fun _ hd => by
    cases hd
    exact hc
  have hrespaced : Respaced (before ++ ([] ++ c :: after)) (before ++ (blanks ++ c :: after)) :=
    .blanks blanks_nil h (.inr hedge)
  simpa using hrespaced

theorem respaced_behind (hc : c ∈ separators) {blanks : List Char} (h : Blanks blanks) :
    Respaced (before ++ c :: after) (before ++ c :: (blanks ++ after)) := by
  have hedge : Edge ((before ++ [c]).getLast?.or none) := by
    rw [List.getLast?_concat]
    rintro _ ⟨⟩
    exact hc
  have hrespaced : Respaced ((before ++ [c]) ++ ([] ++ after))
      ((before ++ [c]) ++ (blanks ++ after)) := .blanks blanks_nil h (.inl hedge)
  simpa using hrespaced

theorem RespacedIn.filter_eq {p : Char → Bool} (hp : ∀ c, isBlank c = true → p c = false)
    (h : RespacedIn left right text text') : text'.filter p = text.filter p := by
  cases h with
  | refl => rfl
  | blanks hb hb' => simp only [List.filter_append, filter_blanks hp hb, filter_blanks hp hb']

theorem RespacedIn.mem_iff (hc : isBlank c = false) (h : RespacedIn left right text text') :
    c ∈ text' ↔ c ∈ text := by
  have hfilter : c ∈ text'.filter (!isBlank ·) ↔ c ∈ text.filter (!isBlank ·) := by
    rw [h.filter_eq (by simp)]
  simpa [hc] using hfilter

theorem RespacedIn.head?_trim (h : RespacedIn left right text text') :
    (trim text').head? = (trim text).head? := by
  rw [Text.head?_trim, Text.head?_trim, h.filter_eq (by simp)]

theorem RespacedIn.getLast?_trim (h : RespacedIn left right text text') :
    (trim text').getLast? = (trim text).getLast? := by
  rw [Text.getLast?_trim, Text.getLast?_trim, h.filter_eq (by simp)]

theorem RespacedIn.isBlanks (h : RespacedIn left right text text') (hblanks : Blanks text) :
    Blanks text' := by
  intro c hc
  cases hblank : isBlank c with
  | true => rfl
  | false => exact absurd ((h.mem_iff hblank).1 hc) (not_mem_of_blanks hblank hblanks)

theorem RespacedIn.trim_eq (h : Respaced text text') (hnot : ∀ c ∈ separators, c ∉ text) :
    trim text' = trim text := by
  cases h with
  | refl => rfl
  | @blanks before blanks blanks' after hb hb' hedge =>
    rw [Option.or_none, Option.or_none] at hedge
    rcases hedge with hedge | hedge
    · have hnil : before = [] := by
        rw [← List.getLast?_eq_none_iff, Option.eq_none_iff_forall_ne_some]
        intro c hc
        exact hnot c (hedge c hc) (List.mem_append_left _ (List.mem_of_getLast? hc))
      rw [hnil, List.nil_append, List.nil_append, trim_blanks_append hb, trim_blanks_append hb']
    · have hnil : after = [] := by
        rw [← List.head?_eq_none_iff, Option.eq_none_iff_forall_ne_some]
        intro c hc
        exact hnot c (hedge c hc) (by simp [List.mem_of_head? hc])
      rw [hnil, List.append_nil, List.append_nil, trim_append_blanks hb, trim_append_blanks hb']

theorem RespacedIn.eq_of_not_edge (h : RespacedIn left right text text') (hl : ¬ Edge left)
    (hr : ¬ Edge right) (hnot : ∀ c ∈ separators, c ∉ text) : text' = text := by
  cases h with
  | refl => rfl
  | @blanks before blanks blanks' after _ _ hedge =>
    have hside : ∀ {c? side : Option Char}, ¬ Edge side →
        (∀ c ∈ c?, c ∈ before ++ (blanks ++ after)) → ¬ Edge (c?.or side) := by
      rintro (_ | c) side hside hmem hedge
      · exact hside hedge
      · exact hnot c (hedge c rfl) (hmem c rfl)
    rcases hedge with hedge | hedge
    · exact absurd hedge (hside hl fun c hc =>
        List.mem_append_left _ (List.mem_of_getLast? hc))
    · exact absurd hedge (hside hr fun c hc => by simp [List.mem_of_head? hc])

/-! ## Cutting respaced texts -/

section

variable {front rest : List Char}

theorem cut_cases {part : List Char} (hc : c ∉ part)
    (h : front ++ c :: rest = before ++ (part ++ after)) :
    (∃ middle, before = front ++ c :: middle ∧ rest = middle ++ (part ++ after)) ∨
      ∃ middle, front = before ++ (part ++ middle) ∧ after = middle ++ c :: rest := by
  rcases List.append_eq_append_iff.1 h with ⟨middle, rfl, hrest⟩ | ⟨middle, rfl, hrest⟩
  · rcases List.cons_eq_append_iff.1 hrest with ⟨rfl, hpart⟩ | ⟨middle, rfl, rfl⟩
    · rcases List.append_eq_cons_iff.1 hpart with ⟨rfl, rfl⟩ | ⟨part, rfl, -⟩
      · exact .inr ⟨[], by simp, rfl⟩
      · exact absurd List.mem_cons_self hc
    · exact .inl ⟨middle, rfl, rfl⟩
  · rcases List.append_eq_append_iff.1 hrest with ⟨middle, rfl, rfl⟩ | ⟨middle', rfl, hafter⟩
    · exact .inr ⟨middle, rfl, rfl⟩
    · rcases List.cons_eq_append_iff.1 hafter with ⟨rfl, rfl⟩ | ⟨middle', rfl, -⟩
      · exact .inr ⟨[], by simp, rfl⟩
      · exact absurd (by simp) hc

/-- The parts of a respaced text in front of and behind a character that is no blank. -/
theorem RespacedIn.cut (hc : isBlank c = false)
    (h : RespacedIn left right (front ++ c :: rest) text') :
    ∃ front' rest', text' = front' ++ c :: rest' ∧ RespacedIn left (some c) front front' ∧
      RespacedIn (some c) right rest rest' := by
  generalize hwhole : front ++ c :: rest = whole at h
  cases h with
  | refl => exact ⟨front, rest, hwhole.symm, .refl _, .refl _⟩
  | @blanks before blanks blanks' after hb hb' hedge =>
    rcases cut_cases (not_mem_of_blanks hc hb) hwhole with
      ⟨middle, rfl, rfl⟩ | ⟨middle, rfl, rfl⟩
    · refine ⟨front, middle ++ (blanks' ++ after), by simp, .refl _, .blanks hb hb' ?_⟩
      refine hedge.imp_left fun hedge => ?_
      rw [List.getLast?_append, List.getLast?_cons] at hedge
      cases hlast : middle.getLast? <;> simpa [hlast] using hedge
    · refine ⟨before ++ (blanks' ++ middle), rest, by simp, .blanks hb hb' ?_, .refl _⟩
      refine hedge.imp_right fun hedge => ?_
      rw [List.head?_append] at hedge
      cases hhead : middle.head? <;> simpa [hhead] using hedge

theorem Respaced.cut (hc : isBlank c = false) (h : Respaced (front ++ c :: rest) text') :
    ∃ front' rest', text' = front' ++ c :: rest' ∧ Respaced front front' ∧ Respaced rest rest' := by
  obtain ⟨front', rest', heq, hfront, hrest⟩ := RespacedIn.cut hc h
  exact ⟨front', rest', heq, hfront.respaced, hrest.respaced⟩

theorem Respaced.cut_word {word : List Char} (hf : Blanks front) (hw : Trimmed word)
    (hne : word ≠ []) (hnot : ∀ c ∈ separators, c ∉ word)
    (h : Respaced (front ++ (word ++ rest)) text') :
    ∃ front' rest', text' = front' ++ (word ++ rest') ∧ Blanks front' ∧ Respaced rest rest' := by
  have hedge : ∀ c ∈ word, ¬ Edge (some c) := fun c hc => not_edge_some fun hsep => hnot c hsep hc
  obtain ⟨word, last, rfl⟩ : ∃ init last, word = init ++ [last] :=
    ⟨_, _, (List.dropLast_concat_getLast hne).symm⟩
  have hlast : isBlank last = false := hw.last last (by simp)
  have hwhole : front ++ ((word ++ [last]) ++ rest) = (front ++ word) ++ last :: rest := by simp
  rw [hwhole] at h
  obtain ⟨whole, rest', rfl, hwhole, hrest⟩ := RespacedIn.cut hlast h
  cases word with
  | nil =>
    rw [List.append_nil] at hwhole
    exact ⟨whole, rest', by simp, hwhole.isBlanks hf, hrest.respaced⟩
  | cons first word =>
    obtain ⟨front', word', rfl, hfront, hword⟩ := hwhole.cut (hw.head first rfl)
    obtain rfl := hword.eq_of_not_edge (hedge first (by simp)) (hedge last (by simp))
      fun c hc hmem => hnot c hc (by simp [hmem])
    exact ⟨front', rest', by simp, hfront.isBlanks hf, hrest.respaced⟩

end

/-! ## At several places -/

/-- Texts that are respaced at any number of places, one after the other. -/
abbrev Respacings : List Char → List Char → Prop := Relation.ReflTransGen Respaced

theorem respacings_trim (text : List Char) : Respacings text (trim text) := by
  obtain ⟨front, back, hf, hb, htext⟩ := exists_trim text
  have hfront : Respaced (front ++ (trim text ++ back)) (trim text ++ back) :=
    (respaced_blanks_append hf).symm
  rw [← htext] at hfront
  exact .head hfront (.single (respaced_append_blanks hb).symm)

theorem respacings_trimStart (text : List Char) : Respacings text (trimStart text) := by
  obtain ⟨front, hf, htext⟩ := exists_trimStart text
  have hfront : Respaced (front ++ trimStart text) (trimStart text) :=
    (respaced_blanks_append hf).symm
  rw [← htext] at hfront
  exact .single hfront

theorem respacings_symm (h : Respacings text text') : Respacings text' text := by
  induction h with
  | refl => exact .refl
  | tail _ hstep ih => exact .head hstep.symm ih

/-! ## Lower case -/

theorem lower_of_not_mem_sigma (h : 'Σ' ∉ text) : lower text = text.flatMap lowerChar := by
  suffices ∀ before, lowerAfter before text = text.flatMap lowerChar from this []
  induction text with
  | nil => exact fun _ => rfl
  | cons c text ih =>
    rw [List.mem_cons, not_or] at h
    intro before
    rw [lowerAfter, if_neg (Ne.symm h.1), ih h.2, List.flatMap_cons]

theorem mem_lower_of_lowerChar (h : lowerChar c = [c]) (hne : c ≠ 'Σ') (hmem : c ∈ text) :
    c ∈ lower text := by
  suffices ∀ before, c ∈ lowerAfter before text from this []
  induction text with
  | nil => cases hmem
  | cons d text ih =>
    intro before
    rw [lowerAfter, List.mem_append]
    rcases List.mem_cons.1 hmem with rfl | hmem
    · left
      rw [if_neg hne, h]
      exact List.mem_cons_self
    · exact .inr (ih hmem (d :: before))

theorem mem_lower_of_sigma (h : 'Σ' ∈ text) : 'σ' ∈ lower text ∨ 'ς' ∈ lower text := by
  suffices ∀ before, 'σ' ∈ lowerAfter before text ∨ 'ς' ∈ lowerAfter before text from this []
  induction text with
  | nil => cases h
  | cons d text ih =>
    intro before
    rw [lowerAfter, List.mem_append, List.mem_append]
    rcases List.mem_cons.1 h with rfl | h
    · rw [if_pos rfl]
      cases endsWord before text with
      | false => exact .inl (.inl List.mem_cons_self)
      | true => exact .inr (.inl List.mem_cons_self)
    · exact (ih h (d :: before)).imp .inr .inr

theorem lowerChar_of_mem_separators (h : c ∈ separators) : lowerChar c = [c] := by
  revert c
  decide

theorem Edge.getLast?_flatMap (h : Edge text.getLast?) :
    Edge (text.flatMap lowerChar).getLast? := by
  rcases List.eq_nil_or_concat text with rfl | ⟨text, c, rfl⟩
  · exact h
  · have hc : c ∈ separators := h c (by simp)
    simpa [lowerChar_of_mem_separators hc, Edge] using hc

theorem Edge.head?_flatMap (h : Edge text.head?) : Edge (text.flatMap lowerChar).head? := by
  cases text with
  | nil => exact h
  | cons c text =>
    have hc : c ∈ separators := h c (by simp)
    simpa [lowerChar_of_mem_separators hc, Edge] using hc

theorem Respaced.lower (hsigma : 'Σ' ∉ text) (h : Respaced text text') :
    Respaced (lower text) (lower text') := by
  cases h with
  | refl => exact .refl _
  | @blanks before blanks blanks' after hb hb' hedge =>
    have hlower : ∀ {blanks : List Char}, Blanks blanks →
        Text.lower (before ++ (blanks ++ after)) =
          before.flatMap lowerChar ++ (blanks ++ after.flatMap lowerChar) := by
      intro blanks hb
      have hnot : 'Σ' ∉ before ++ (blanks ++ after) := by
        have hblanks : 'Σ' ∉ blanks := not_mem_of_blanks (by decide) hb
        simp only [List.mem_append, not_or] at hsigma ⊢
        exact ⟨hsigma.1, hblanks, hsigma.2.2⟩
      have hkept : blanks.flatMap lowerChar = blanks := by
        rw [← lower_of_not_mem_sigma (not_mem_of_blanks (by decide) hb),
          lower_of_separates fun c hc => separates_of_isBlank (hb c hc)]
      rw [lower_of_not_mem_sigma hnot, List.flatMap_append, List.flatMap_append, hkept]
    rw [hlower hb, hlower hb']
    rw [Option.or_none, Option.or_none] at hedge
    refine .blanks hb hb' ?_
    rw [Option.or_none, Option.or_none]
    exact hedge.imp Edge.getLast?_flatMap Edge.head?_flatMap

end TrackGrid.Text
