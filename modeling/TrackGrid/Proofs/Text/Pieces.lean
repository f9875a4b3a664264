import TrackGrid.Proofs.Text.Blank
import TrackGrid.Text.Pieces

/-! # Texts and their pieces -/

namespace TrackGrid.Text

variable {separator : Char} {text before after : List Char}

/-! ## At a separator -/

theorem splitFirst_eq_none_iff : splitFirst separator text = none ↔ separator ∉ text := by
  induction text with
  | nil => simp [splitFirst]
  | cons c text ih =>
    rw [splitFirst]
    split
    · rename_i hc
      simp [hc]
    · rename_i hc
      simp [ih, Ne.symm hc]

theorem splitFirst_eq_some_iff :
    splitFirst separator text = some (before, after) ↔
      text = before ++ separator :: after ∧ separator ∉ before := by
  induction text generalizing before with
  | nil => simp [splitFirst]
  | cons c text ih =>
    rw [splitFirst]
    split
    · rename_i hc
      subst hc
      cases before with
      | nil => simp [eq_comm]
      | cons d before =>
        simp only [Option.some.injEq, Prod.mk.injEq, List.cons_append, List.cons.injEq,
          List.mem_cons, not_or]
        constructor
        · rintro ⟨h, -⟩
          cases h
        · rintro ⟨⟨rfl, -⟩, hne, -⟩
          exact absurd rfl hne
    · rename_i hc
      simp only [Option.map_eq_some_iff, Prod.exists, Prod.mk.injEq]
      constructor
      · rintro ⟨b, a, h, rfl, rfl⟩
        obtain ⟨rfl, hb⟩ := ih.1 h
        exact ⟨rfl, by simp [hb, Ne.symm hc]⟩
      · rintro ⟨htext, hb⟩
        cases before with
        | nil =>
          cases htext
          exact absurd rfl hc
        | cons d before =>
          cases htext
          exact ⟨before, after, ih.2 ⟨rfl, fun h => hb (List.mem_cons_of_mem _ h)⟩, rfl, rfl⟩

theorem split_eq (separator : Char) (text : List Char) :
    split separator text =
      match splitFirst separator text with
      | none => [text]
      | some (before, after) => before :: split separator after := by
  induction text with
  | nil => rfl
  | cons c text ih =>
    rw [split, splitFirst]
    split
    · rfl
    · rw [ih]
      cases splitFirst separator text <;> rfl

theorem split_of_not_mem (h : separator ∉ text) : split separator text = [text] := by
  rw [split_eq, splitFirst_eq_none_iff.2 h]

theorem split_append (h : separator ∉ before) :
    split separator (before ++ separator :: after) = before :: split separator after := by
  rw [split_eq, splitFirst_eq_some_iff.2 ⟨rfl, h⟩]

theorem split_ne_nil (separator : Char) (text : List Char) : split separator text ≠ [] := by
  rw [split_eq]
  split <;> simp

/-! ## At separators with blanks around them -/

/-- A separator with blanks around it. -/
def Spaced (separator : Char) (text : List Char) : Prop :=
  ∃ before after, Blanks before ∧ Blanks after ∧ text = before ++ separator :: after

theorem spaced_singleton (separator : Char) : Spaced separator [separator] :=
  ⟨[], [], blanks_nil, blanks_nil, rfl⟩

theorem map_trim_split_append (hsep : isBlank separator = false) (hb : Blanks before) :
    (split separator (before ++ text)).map trim = (split separator text).map trim := by
  have hnot := not_mem_of_blanks hsep hb
  cases hs : splitFirst separator text with
  | none =>
    have hmem := splitFirst_eq_none_iff.1 hs
    rw [split_of_not_mem hmem, split_of_not_mem (by simp [hnot, hmem]), List.map_singleton,
      trim_blanks_append hb, List.map_singleton]
  | some parts =>
    obtain ⟨piece, rest⟩ := parts
    obtain ⟨rfl, hmem⟩ := splitFirst_eq_some_iff.1 hs
    rw [← List.append_assoc, split_append (by simp [hnot, hmem]), split_append hmem, List.map_cons,
      trim_blanks_append hb, List.map_cons]

theorem map_trim_split_spaced {first gap rest : List Char} (hsep : isBlank separator = false)
    (hf : Trimmed first) (hmem : separator ∉ first) (hg : Spaced separator gap) :
    (split separator (first ++ (gap ++ rest))).map trim =
      first :: (split separator rest).map trim := by
  obtain ⟨before, after, hb, ha, rfl⟩ := hg
  have htext : first ++ ((before ++ separator :: after) ++ rest) =
      (first ++ before) ++ separator :: (after ++ rest) := by simp
  rw [htext, split_append (by simp [hmem, not_mem_of_blanks hsep hb]), List.map_cons,
    trim_append_blanks hb, hf.trim_eq, map_trim_split_append hsep ha]

theorem exists_spaced {first : List Char} {others : List (List Char)}
    (hsep : isBlank separator = false) (h : Trimmed text)
    (hs : (split separator text).map trim = first :: others) :
    (others = [] ∧ text = first) ∨
      ∃ gap rest, Spaced separator gap ∧ text = first ++ (gap ++ rest) ∧ Trimmed rest ∧
        (split separator rest).map trim = others := by
  rw [split_eq] at hs
  split at hs
  · cases hs
    exact .inl ⟨rfl, h.trim_eq.symm⟩
  · rename_i piece after hfirst
    obtain ⟨rfl, hmem⟩ := splitFirst_eq_some_iff.1 hfirst
    cases hs
    obtain ⟨b, a, hb, ha, hpiece⟩ := exists_trim piece
    obtain ⟨b', hb', hafter⟩ := exists_trimStart after
    have htext : piece ++ separator :: after =
        b ++ (trim piece ++ ((a ++ separator :: b') ++ trimStart after)) := by
      calc piece ++ separator :: after
          = (b ++ (trim piece ++ a)) ++ separator :: (b' ++ trimStart after) := by
            rw [← hpiece, ← hafter]
        _ = _ := by simp
    have hrest : Trimmed (trimStart after) := by
      have happend : Trimmed ((piece ++ [separator]) ++ after) := by simpa using h
      exact happend.trimStart
    rw [htext] at h ⊢
    obtain rfl := h.eq_nil_of_blanks_append hb
    refine .inr ⟨_, _, ⟨a, b', ha, hb', rfl⟩, rfl, hrest, ?_⟩
    rw [hafter, map_trim_split_append hsep hb', trimStart_append_of_blanks hb',
      trimStart_of_head hrest.head]

/-! ## At the last character -/

theorem dropLast?_eq_some_iff {last : Char} {rest : List Char} :
    dropLast? last text = some rest ↔ text = rest ++ [last] := by
  unfold dropLast?
  split
  · rename_i h
    obtain ⟨front, rfl⟩ := List.getLast?_eq_some_iff.1 h
    simp
  · rename_i h
    simp only [reduceCtorEq, false_iff]
    rintro rfl
    exact h List.getLast?_concat

/-! ## One character outside or inside brackets -/

section

variable {c : Char} {depth : Nat}

theorem splitOutsideAt_of_isOpening (h : isOpening c = true) :
    splitOutsideAt separator depth (c :: text) =
      (splitOutsideAt separator (depth + 1) text).map (pushFront c) := by
  rw [splitOutsideAt.eq_def]
  simp only [h, if_true]

theorem splitOutsideAt_of_isClosing (hopen : isOpening c = false) (h : isClosing c = true) :
    splitOutsideAt separator (depth + 1) (c :: text) =
      (splitOutsideAt separator depth text).map (pushFront c) := by
  rw [splitOutsideAt.eq_def]
  simp only [hopen, h, if_true, Bool.false_eq_true, if_false]

theorem splitOutsideAt_of_unopened (hopen : isOpening c = false) (h : isClosing c = true) :
    splitOutsideAt separator 0 (c :: text) = none := by
  rw [splitOutsideAt.eq_def]
  simp [hopen, h]

theorem splitOutsideAt_of_plain (hopen : isOpening c = false) (hclose : isClosing c = false)
    (h : ¬ (c = separator ∧ depth = 0)) :
    splitOutsideAt separator depth (c :: text) =
      (splitOutsideAt separator depth text).map (pushFront c) := by
  rw [splitOutsideAt.eq_def]
  simp only [hopen, hclose, h, Bool.false_eq_true, if_false]

theorem splitOutsideAt_separator (hopen : isOpening separator = false)
    (hclose : isClosing separator = false) :
    splitOutsideAt separator 0 (separator :: text) =
      (splitOutsideAt separator 0 text).map ([] :: ·) := by
  rw [splitOutsideAt.eq_def]
  simp [hopen, hclose]

end

/-! ## Outside brackets -/

/-- The text has no separator outside brackets, and its brackets match. -/
def Unbroken (separator : Char) (text : List Char) : Prop :=
  ∀ depth rest, splitOutsideAt separator depth (text ++ rest) =
    (splitOutsideAt separator depth rest).map (text.foldr pushFront)

theorem foldr_pushFront (text piece : List Char) (pieces : List (List Char)) :
    text.foldr pushFront (piece :: pieces) = (text ++ piece) :: pieces := by
  induction text with
  | nil => rfl
  | cons c text ih =>
    rw [List.foldr_cons, ih]
    rfl

theorem unbroken_nil : Unbroken separator [] := by
  intro depth rest
  simp

theorem Unbroken.append {a b : List Char} (ha : Unbroken separator a) (hb : Unbroken separator b) :
    Unbroken separator (a ++ b) := by
  intro depth rest
  rw [List.append_assoc, ha, hb, Option.map_map]
  congr 1
  funext pieces
  simp

/-- The characters that matter where a text is cut into pieces. -/
def cutSigns (separator : Char) : List Char := [separator, '(', ')', '[', ']']

theorem unbroken_of_not_mem (h : ∀ c ∈ cutSigns separator, c ∉ text) :
    Unbroken separator text := by
  induction text with
  | nil => exact unbroken_nil
  | cons c text ih =>
    intro depth rest
    have hne : ∀ d ∈ cutSigns separator, c ≠ d := by
      rintro d hd rfl
      exact h c hd List.mem_cons_self
    simp only [cutSigns, List.forall_mem_cons] at hne
    have hopen : isOpening c = false := by simp [isOpening, hne]
    have hclose : isClosing c = false := by simp [isClosing, hne]
    rw [List.cons_append, splitOutsideAt_of_plain hopen hclose fun hc => hne.1 hc.1,
      ih fun d hd hmem => h d hd (List.mem_cons_of_mem c hmem), Option.map_map]
    rfl

theorem unbroken_of_covers {ranges : CharRanges} (h : ∀ c ∈ text, ranges.covers c = true)
    (hr : ∀ c ∈ cutSigns separator, ranges.covers c = false) : Unbroken separator text :=
  unbroken_of_not_mem fun c hc => not_mem_of_covers h (hr c hc)

theorem unbroken_of_blanks (hsep : isBlank separator = false) (h : Blanks text) :
    Unbroken separator text :=
  unbroken_of_covers h (List.forall_mem_cons.2 ⟨hsep, by decide⟩)

theorem Unbroken.splitOutside_eq (h : Unbroken separator text) :
    splitOutside separator text = some [text] := by
  have hend := h 0 []
  rw [List.append_nil] at hend
  rw [splitOutside, hend]
  simp [splitOutsideAt, foldr_pushFront]

theorem splitOutsideAt_of_not_mem {depth : Nat} {pieces : List (List Char)}
    (hmem : separator ∉ text) (h : splitOutsideAt separator depth text = some pieces) :
    pieces = [text] := by
  fun_induction splitOutsideAt separator depth text generalizing pieces with
  | case1 =>
    cases h
    rfl
  | case2 => cases h
  | case4 => cases h
  | case6 depth c text _ _ hsep =>
    rw [hsep.1] at hmem
    exact absurd List.mem_cons_self hmem
  | case3 depth c text _ ih
  | case5 c text _ _ depth ih
  | case7 depth c text _ _ _ ih =>
    obtain ⟨pieces, hp, rfl⟩ := Option.map_eq_some_iff.1 h
    rw [ih (fun h => hmem (List.mem_cons_of_mem c h)) hp]
    rfl

theorem splitOutside_of_not_mem {pieces : List (List Char)} (hmem : separator ∉ text)
    (h : splitOutside separator text = some pieces) : pieces = [text] :=
  splitOutsideAt_of_not_mem hmem h

/-- What stands behind a text is at the depth where the text's own brackets end. -/
theorem splitOutsideAt_append {depth : Nat} {pieces : List (List Char)}
    (h : splitOutsideAt separator depth text = some pieces) (outer : Nat) (rest : List Char) :
    splitOutsideAt separator (depth + (outer + 1)) (text ++ rest) =
      (splitOutsideAt separator (outer + 1) rest).map (text.foldr pushFront) := by
  fun_induction splitOutsideAt separator depth text generalizing pieces with
  | case1 => simp
  | case2 => cases h
  | case4 => cases h
  | case3 depth c text hopen ih =>
    obtain ⟨pieces, hp, rfl⟩ := Option.map_eq_some_iff.1 h
    rw [List.cons_append, splitOutsideAt_of_isOpening hopen, Nat.add_right_comm, ih hp,
      Option.map_map]
    rfl
  | case5 c text hopen hclose depth ih =>
    obtain ⟨pieces, hp, rfl⟩ := Option.map_eq_some_iff.1 h
    rw [List.cons_append, Nat.succ_eq_add_one, Nat.add_right_comm,
      splitOutsideAt_of_isClosing (by simpa using hopen) hclose, ih hp, Option.map_map]
    rfl
  | case6 depth c text hopen hclose hsep ih =>
    obtain ⟨pieces, hp, rfl⟩ := Option.map_eq_some_iff.1 h
    obtain ⟨rfl, rfl⟩ := hsep
    rw [List.cons_append, splitOutsideAt_of_plain (by simpa using hopen) (by simpa using hclose)
      (by omega), ih hp, Option.map_map]
    rfl
  | case7 depth c text hopen hclose hsep ih =>
    obtain ⟨pieces, hp, rfl⟩ := Option.map_eq_some_iff.1 h
    rw [List.cons_append, splitOutsideAt_of_plain (by simpa using hopen) (by simpa using hclose)
      (by omega), ih hp, Option.map_map]
    rfl

theorem unbroken_bracketed {pieces : List (List Char)} {opening closing : Char}
    (hopening : isOpening opening = true) (hclosing : isClosing closing = true)
    (hnot : isOpening closing = false) (h : splitOutside separator text = some pieces) :
    Unbroken separator (opening :: (text ++ [closing])) := by
  intro depth rest
  have htext := splitOutsideAt_append h depth (closing :: rest)
  rw [Nat.zero_add] at htext
  rw [List.cons_append, splitOutsideAt_of_isOpening hopening, List.append_assoc,
    List.singleton_append, htext, splitOutsideAt_of_isClosing hnot hclosing]
  simp [Function.comp_def]

theorem length_lt_weight_of_mem {piece : List Char} {pieces : List (List Char)}
    (h : piece ∈ pieces) : piece.length < weight pieces := by
  induction pieces with
  | nil => cases h
  | cons first pieces ih =>
    rw [weight]
    rcases List.mem_cons.1 h with rfl | h
    · omega
    · have := ih h
      omega

/-! ## The first piece -/

theorem exists_cons_of_map_pushFront {c : Char} {depth : Nat} {piece : List Char}
    {pieces : List (List Char)}
    (h : (splitOutsideAt separator depth text).map (pushFront c) = some (piece :: pieces)) :
    ∃ rest, splitOutsideAt separator depth text = some (rest :: pieces) ∧ piece = c :: rest := by
  obtain ⟨whole, hp, heq⟩ := Option.map_eq_some_iff.1 h
  obtain ⟨rest, others, rfl⟩ := List.exists_cons_of_ne_nil (weight_splitOutsideAt hp).1
  cases heq
  exact ⟨rest, hp, rfl⟩

theorem eq_of_splitOutsideAt_singleton {depth : Nat} {piece : List Char}
    (h : splitOutsideAt separator depth text = some [piece]) : piece = text := by
  fun_induction splitOutsideAt separator depth text generalizing piece with
  | case1 =>
    cases h
    rfl
  | case2 => cases h
  | case4 => cases h
  | case6 depth c text _ _ hsep ih =>
    obtain ⟨pieces, hp, heq⟩ := Option.map_eq_some_iff.1 h
    cases heq
    exact absurd rfl (weight_splitOutsideAt hp).1
  | case3 depth c text _ ih
  | case5 c text _ _ depth ih
  | case7 depth c text _ _ _ ih =>
    obtain ⟨rest, hp, rfl⟩ := exists_cons_of_map_pushFront h
    rw [ih hp]

theorem exists_of_splitOutsideAt_cons {depth : Nat} {piece next : List Char}
    {pieces : List (List Char)}
    (h : splitOutsideAt separator depth text = some (piece :: next :: pieces)) :
    ∃ rest, text = piece ++ separator :: rest ∧
      splitOutsideAt separator depth piece = some [piece] ∧
      splitOutside separator rest = some (next :: pieces) := by
  fun_induction splitOutsideAt separator depth text generalizing piece with
  | case1 => cases h
  | case2 => cases h
  | case4 => cases h
  | case6 depth c text _ _ hsep ih =>
    obtain ⟨others, hp, heq⟩ := Option.map_eq_some_iff.1 h
    cases heq
    obtain ⟨rfl, rfl⟩ := hsep
    exact ⟨text, rfl, rfl, hp⟩
  | case3 depth c text hopen ih =>
    obtain ⟨rest, hp, rfl⟩ := exists_cons_of_map_pushFront h
    obtain ⟨behind, rfl, hpiece, hbehind⟩ := ih hp
    refine ⟨behind, rfl, ?_, hbehind⟩
    rw [splitOutsideAt_of_isOpening hopen, hpiece]
    rfl
  | case5 c text hopen hclose depth ih =>
    obtain ⟨rest, hp, rfl⟩ := exists_cons_of_map_pushFront h
    obtain ⟨behind, rfl, hpiece, hbehind⟩ := ih hp
    refine ⟨behind, rfl, ?_, hbehind⟩
    rw [Nat.succ_eq_add_one, splitOutsideAt_of_isClosing (by simpa using hopen) hclose, hpiece]
    rfl
  | case7 depth c text hopen hclose hsep ih =>
    obtain ⟨rest, hp, rfl⟩ := exists_cons_of_map_pushFront h
    obtain ⟨behind, rfl, hpiece, hbehind⟩ := ih hp
    refine ⟨behind, rfl, ?_, hbehind⟩
    rw [splitOutsideAt_of_plain (by simpa using hopen) (by simpa using hclose) hsep, hpiece]
    rfl

theorem splitOutside_eq_singleton_iff :
    splitOutside separator text = some [text] ↔
      (splitOutside separator text).map List.length = some 1 := by
  constructor
  · intro h
    rw [h]
    rfl
  · intro h
    obtain ⟨pieces, hp, hlength⟩ := Option.map_eq_some_iff.1 h
    obtain ⟨piece, rfl⟩ := List.length_eq_one_iff.1 hlength
    rw [hp, eq_of_splitOutsideAt_singleton hp]

theorem map_length_pushFront {depth : Nat} (c : Char) :
    ((splitOutsideAt separator depth text).map (pushFront c)).map List.length =
      (splitOutsideAt separator depth text).map List.length := by
  cases hp : splitOutsideAt separator depth text with
  | none => rfl
  | some pieces =>
    obtain ⟨piece, others, rfl⟩ := List.exists_cons_of_ne_nil (weight_splitOutsideAt hp).1
    rfl

theorem map_length_nil_cons (pieces? : Option (List (List Char))) :
    (pieces?.map ([] :: ·)).map List.length = (pieces?.map List.length).map (· + 1) := by
  cases pieces? <;> rfl

theorem map_length_splitOutsideAt_filter {depth : Nat} {p : Char → Bool}
    (hp : ∀ c ∈ cutSigns separator, p c = true) :
    (splitOutsideAt separator depth (text.filter p)).map List.length =
      (splitOutsideAt separator depth text).map List.length := by
  have hsign : ∀ c, isOpening c = true ∨ isClosing c = true ∨ c = separator → p c = true := by
    intro c hc
    apply hp
    simpa [isOpening, isClosing, cutSigns, or_assoc, or_comm, or_left_comm] using hc
  fun_induction splitOutsideAt separator depth text with
  | case1 => rfl
  | case2 depth hdepth => simp [splitOutsideAt, hdepth]
  | case3 depth c text hopen ih =>
    rw [List.filter_cons_of_pos (hsign c (.inl hopen)), splitOutsideAt_of_isOpening hopen,
      map_length_pushFront, map_length_pushFront, ih]
  | case4 c text hopen hclose =>
    rw [List.filter_cons_of_pos (hsign c (.inr (.inl hclose))),
      splitOutsideAt_of_unopened (by simpa using hopen) hclose]
  | case5 c text hopen hclose depth ih =>
    rw [List.filter_cons_of_pos (hsign c (.inr (.inl hclose))), Nat.succ_eq_add_one,
      splitOutsideAt_of_isClosing (by simpa using hopen) hclose, map_length_pushFront,
      map_length_pushFront, ih]
  | case6 depth c text hopen hclose hsep ih =>
    obtain ⟨rfl, rfl⟩ := hsep
    rw [List.filter_cons_of_pos (hsign c (.inr (.inr rfl))),
      splitOutsideAt_separator (by simpa using hopen) (by simpa using hclose),
      map_length_nil_cons, map_length_nil_cons, ih]
  | case7 depth c text hopen hclose hsep ih =>
    rw [map_length_pushFront, ← ih]
    cases hc : p c with
    | false => rw [List.filter_cons_of_neg (by simp [hc])]
    | true =>
      rw [List.filter_cons_of_pos hc, splitOutsideAt_of_plain (by simpa using hopen)
        (by simpa using hclose) hsep, map_length_pushFront]

theorem splitOutside_append_singleton {front : List Char} (hf : Unbroken separator front) :
    splitOutside separator (front ++ text) = some [front ++ text] ↔
      splitOutside separator text = some [text] := by
  rw [splitOutside, hf, ← splitOutside]
  constructor
  · intro h
    obtain ⟨pieces, hp, heq⟩ := Option.map_eq_some_iff.1 h
    obtain ⟨piece, others, rfl⟩ := List.exists_cons_of_ne_nil (weight_splitOutsideAt hp).1
    rw [foldr_pushFront, List.cons.injEq] at heq
    obtain ⟨hpiece, rfl⟩ := heq
    rw [hp, List.append_cancel_left hpiece]
  · intro h
    rw [h, Option.map_some, foldr_pushFront]

/-! ## Two texts one after the other -/

/-- The pieces of two texts that stand side by side: the last one of the first text goes on in the
second. -/
def glue : (pieces others : List (List Char)) → List (List Char)
  | [], others => others
  | [last], others => last.foldr pushFront others
  | piece :: pieces, others => piece :: glue pieces others

theorem glue_cons_cons (piece next : List Char) (pieces others : List (List Char)) :
    glue (piece :: next :: pieces) others = piece :: glue (next :: pieces) others := rfl

theorem pushFront_glue {pieces : List (List Char)} (h : pieces ≠ []) (c : Char)
    (others : List (List Char)) :
    pushFront c (glue pieces others) = glue (pushFront c pieces) others := by
  match pieces, h with
  | [_], _ => rfl
  | _ :: _ :: _, _ => rfl

theorem glue_nil_cons {pieces : List (List Char)} (h : pieces ≠ []) (others : List (List Char)) :
    glue pieces ([] :: others) = pieces ++ others := by
  induction pieces with
  | nil => exact absurd rfl h
  | cons piece pieces ih =>
    cases pieces with
    | nil => simp [glue, foldr_pushFront]
    | cons next pieces =>
      rw [glue_cons_cons, ih (by simp)]
      rfl

theorem map_trim_glue {pieces : List (List Char)} (h : pieces ≠ []) (ha : Blanks after) :
    (glue pieces [after]).map trim = pieces.map trim := by
  induction pieces with
  | nil => exact absurd rfl h
  | cons piece pieces ih =>
    cases pieces with
    | nil => simp [glue, foldr_pushFront, trim_append_blanks ha]
    | cons next pieces =>
      rw [glue_cons_cons, List.map_cons, ih (by simp), ← List.map_cons]

theorem splitOutsideAt_glue {depth : Nat} {pieces others : List (List Char)} {rest : List Char}
    (h : splitOutsideAt separator depth text = some pieces)
    (hrest : splitOutsideAt separator 0 rest = some others) :
    splitOutsideAt separator depth (text ++ rest) = some (glue pieces others) := by
  have push : ∀ {depth : Nat} {text : List Char} {pieces : List (List Char)} (c : Char),
      splitOutsideAt separator depth text = some pieces →
        some (pushFront c (glue pieces others)) = some (glue (pushFront c pieces) others) :=
    fun c h => congrArg some (pushFront_glue (weight_splitOutsideAt h).1 c others)
  fun_induction splitOutsideAt separator depth text generalizing pieces with
  | case1 =>
    cases h
    exact hrest
  | case2 => cases h
  | case4 => cases h
  | case3 depth c text hc ih =>
    obtain ⟨pieces, hp, rfl⟩ := Option.map_eq_some_iff.1 h
    rw [List.cons_append, splitOutsideAt_of_isOpening hc, ih hp]
    exact push c hp
  | case5 c text hc hc' depth ih =>
    obtain ⟨pieces, hp, rfl⟩ := Option.map_eq_some_iff.1 h
    rw [List.cons_append, splitOutsideAt_of_isClosing (by simpa using hc) hc', ih hp]
    exact push c hp
  | case6 depth c text hc hc' hsep ih =>
    obtain ⟨pieces, hp, rfl⟩ := Option.map_eq_some_iff.1 h
    obtain ⟨rfl, rfl⟩ := hsep
    rw [List.cons_append, splitOutsideAt_separator (by simpa using hc) (by simpa using hc'), ih hp]
    obtain ⟨piece, pieces, rfl⟩ := List.exists_cons_of_ne_nil (weight_splitOutsideAt hp).1
    rfl
  | case7 depth c text hc hc' hsep ih =>
    obtain ⟨pieces, hp, rfl⟩ := Option.map_eq_some_iff.1 h
    rw [List.cons_append, splitOutsideAt_of_plain (by simpa using hc) (by simpa using hc') hsep,
      ih hp]
    exact push c hp

theorem split_append_glue (separator : Char) (text rest : List Char) :
    split separator (text ++ rest) = glue (split separator text) (split separator rest) := by
  induction text with
  | nil => rfl
  | cons c text ih =>
    rw [List.cons_append, split, split, ih]
    split
    · obtain ⟨piece, pieces, hp⟩ := List.exists_cons_of_ne_nil (split_ne_nil separator text)
      rw [hp]
      rfl
    · exact pushFront_glue (split_ne_nil separator text) c _

theorem map_trim_split_pad (hsep : isBlank separator = false) (hb : Blanks before)
    (ha : Blanks after) :
    (split separator (before ++ (text ++ after))).map trim = (split separator text).map trim := by
  rw [map_trim_split_append hsep hb, split_append_glue,
    split_of_not_mem (not_mem_of_blanks hsep ha), map_trim_glue (split_ne_nil separator text) ha]

theorem splitOutside_append {pieces others : List (List Char)} {rest : List Char}
    (hopen : isOpening separator = false) (hclose : isClosing separator = false)
    (h : splitOutside separator text = some pieces)
    (hrest : splitOutside separator rest = some others) :
    splitOutside separator (text ++ separator :: rest) = some (pieces ++ others) := by
  have hsep : splitOutsideAt separator 0 (separator :: rest) = some ([] :: others) := by
    rw [splitOutsideAt_separator hopen hclose, ← splitOutside, hrest]
    rfl
  rw [splitOutside, splitOutsideAt_glue h hsep, glue_nil_cons (weight_splitOutsideAt h).1]

theorem splitOutside_pad {pieces : List (List Char)} (hsep : isBlank separator = false)
    (hb : Blanks before) (ha : Blanks after) (h : splitOutside separator text = some pieces) :
    ∃ padded, splitOutside separator (before ++ (text ++ after)) = some padded ∧
      padded.map trim = pieces.map trim := by
  have hafter := splitOutsideAt_glue h (unbroken_of_blanks hsep ha).splitOutside_eq
  refine ⟨before.foldr pushFront (glue pieces [after]), ?_, ?_⟩
  · rw [splitOutside, unbroken_of_blanks hsep hb, hafter]
    rfl
  · obtain ⟨piece, others, hg⟩ := List.exists_cons_of_ne_nil (weight_splitOutsideAt hafter).1
    rw [← map_trim_glue (weight_splitOutsideAt h).1 ha, hg, foldr_pushFront, List.map_cons,
      trim_blanks_append hb, List.map_cons]

end TrackGrid.Text
