import Mathlib.Algebra.Order.Ring.Int
import TrackGrid.Proofs.Text.Pieces

/-! # Texts with matching brackets

A text can be cut outside its brackets exactly if they match, and then so do those of every piece. A
scanner that keeps the byte at which a piece starts, and takes the piece when it comes to a
separator, finds the same pieces.

Main statement: `splitOutside_comma`.
-/

namespace TrackGrid.Text

variable {c separator : Char} {text piece : List Char} {pieces : List (List Char)}

/-! ## Matching brackets -/

def bracketValue (c : Char) : Int := if isOpening c then 1 else if isClosing c then -1 else 0

/-- How many more brackets a text opens than it closes. -/
def opened (text : List Char) : Int := (text.map bracketValue).sum

/-- With so many brackets open in front of it, the text closes all of them and all of its own, and
no others. -/
structure BalancedFrom (depth : Int) (text : List Char) : Prop where
  nonneg : ∀ before, before <+: text → 0 ≤ depth + opened before
  closed : depth + opened text = 0

def Balanced (text : List Char) : Prop := BalancedFrom 0 text

/-- The positions of the separators at which no bracket is open, if so many are open in front of
the text. -/
def separatorsFrom (separator : Char) (depth : Int) (text : List Char) : List Nat :=
  (List.range text.length).filter fun i =>
    text[i]? = some separator ∧ depth + opened (text.take i) = 0

def separatorsOutside (separator : Char) (text : List Char) : List Nat :=
  separatorsFrom separator 0 text

section

variable {depth : Int}

@[simp] theorem opened_nil : opened [] = 0 := rfl

@[simp] theorem opened_cons (c : Char) (text : List Char) :
    opened (c :: text) = bracketValue c + opened text := by
  simp [opened]

theorem bracketValue_of_isOpening (h : isOpening c = true) : bracketValue c = 1 := if_pos h

theorem bracketValue_of_isClosing (hopen : isOpening c = false) (h : isClosing c = true) :
    bracketValue c = -1 := by
  simp [bracketValue, hopen, h]

theorem bracketValue_of_plain (hopen : isOpening c = false) (hclose : isClosing c = false) :
    bracketValue c = 0 := by
  simp [bracketValue, hopen, hclose]

theorem balancedFrom_nil : BalancedFrom depth [] ↔ depth = 0 := by
  constructor
  · intro h
    simpa using h.closed
  · rintro rfl
    constructor <;> simp

theorem BalancedFrom.depth_nonneg (h : BalancedFrom depth text) : 0 ≤ depth := by
  simpa using h.nonneg [] List.nil_prefix

theorem balancedFrom_cons :
    BalancedFrom depth (c :: text) ↔ 0 ≤ depth ∧ BalancedFrom (depth + bracketValue c) text := by
  constructor
  · intro h
    refine ⟨h.depth_nonneg, fun before hbefore => ?_, ?_⟩
    · have hmore := h.nonneg (c :: before) (List.cons_prefix_cons.2 ⟨rfl, hbefore⟩)
      rwa [opened_cons, ← Int.add_assoc] at hmore
    · have hclosed := h.closed
      rwa [opened_cons, ← Int.add_assoc] at hclosed
  · rintro ⟨hnonneg, h⟩
    refine ⟨fun before hbefore => ?_, ?_⟩
    · rcases List.prefix_cons_iff.1 hbefore with rfl | ⟨rest, rfl, hrest⟩
      · simpa using hnonneg
      · rw [opened_cons, ← Int.add_assoc]
        exact h.nonneg rest hrest
    · rw [opened_cons, ← Int.add_assoc]
      exact h.closed

theorem length_separatorsFrom_cons :
    (separatorsFrom separator depth (c :: text)).length =
      (if c = separator ∧ depth = 0 then 1 else 0) +
        (separatorsFrom separator (depth + bracketValue c) text).length := by
  unfold separatorsFrom
  rw [List.length_cons, List.range_succ_eq_map, List.filter_cons, List.filter_map]
  simp only [Function.comp_def, List.getElem?_cons_zero, List.take_zero, opened_nil,
    Int.add_zero, Nat.succ_eq_add_one, List.getElem?_cons_succ, List.take_succ_cons, opened_cons,
    Option.some.injEq, Int.add_assoc]
  split <;> simp_all [Nat.add_comm]

end

/-! ## Cutting outside brackets -/

theorem isSome_splitOutsideAt_iff {depth : Nat} :
    (splitOutsideAt separator depth text).isSome ↔ BalancedFrom depth text := by
  fun_induction splitOutsideAt separator depth text with
  | case1 => simp [balancedFrom_nil]
  | case2 depth hdepth => simp [balancedFrom_nil, hdepth]
  | case3 depth c text hopen ih =>
    rw [Option.isSome_map, ih, balancedFrom_cons, bracketValue_of_isOpening hopen]
    simp
  | case4 c text hopen hclose =>
    rw [balancedFrom_cons, bracketValue_of_isClosing (by simpa using hopen) hclose]
    simp only [Option.isSome_none, Bool.false_eq_true, false_iff, not_and]
    intro _ hrest
    have hdepth := hrest.depth_nonneg
    simp at hdepth
  | case5 c text hopen hclose depth ih =>
    rw [Option.isSome_map, ih, balancedFrom_cons,
      bracketValue_of_isClosing (by simpa using hopen) hclose]
    have hinside : ((depth.succ : Nat) : Int) + -1 = depth := by omega
    rw [hinside]
    exact ⟨fun h => ⟨by omega, h⟩, fun h => h.2⟩
  | case6 depth c text hopen hclose hsep ih =>
    rw [Option.isSome_map, ih, balancedFrom_cons,
      bracketValue_of_plain (by simpa using hopen) (by simpa using hclose), hsep.2]
    simp
  | case7 depth c text hopen hclose hsep ih =>
    rw [Option.isSome_map, ih, balancedFrom_cons,
      bracketValue_of_plain (by simpa using hopen) (by simpa using hclose)]
    simp

theorem length_of_splitOutsideAt (hopen : isOpening separator = false)
    (hclose : isClosing separator = false) {depth count : Nat}
    (h : (splitOutsideAt separator depth text).map List.length = some count) :
    count = (separatorsFrom separator depth text).length + 1 := by
  fun_induction splitOutsideAt separator depth text generalizing count with
  | case1 =>
    cases h
    rfl
  | case2 => cases h
  | case4 => cases h
  | case3 depth c text hc ih =>
    have hne : ¬ (c = separator ∧ (depth : Int) = 0) := by
      rintro ⟨rfl, -⟩
      simp [hc] at hopen
    rw [map_length_pushFront] at h
    rw [length_separatorsFrom_cons, if_neg hne, bracketValue_of_isOpening hc, ih h]
    simp
  | case5 c text hc hc' depth ih =>
    have hne : ¬ (c = separator ∧ ((depth.succ : Nat) : Int) = 0) := by
      rintro ⟨rfl, -⟩
      simp [hc'] at hclose
    rw [map_length_pushFront] at h
    rw [length_separatorsFrom_cons, if_neg hne, bracketValue_of_isClosing (by simpa using hc) hc',
      ih h]
    simp
  | case6 depth c text hc hc' hsep ih =>
    obtain ⟨rfl, rfl⟩ := hsep
    rw [map_length_nil_cons] at h
    obtain ⟨others, hothers, rfl⟩ := Option.map_eq_some_iff.1 h
    rw [length_separatorsFrom_cons, if_pos ⟨rfl, rfl⟩, bracketValue_of_plain hopen hclose,
      ih hothers]
    simp [Nat.add_comm]
  | case7 depth c text hc hc' hsep ih =>
    have hne : ¬ (c = separator ∧ (depth : Int) = 0) := by simpa using hsep
    rw [map_length_pushFront] at h
    rw [length_separatorsFrom_cons, if_neg hne,
      bracketValue_of_plain (by simpa using hc) (by simpa using hc'), ih h]
    simp

theorem joined_of_splitOutside (h : splitOutside separator text = some pieces) :
    [separator].intercalate pieces = text ∧
      ∀ piece ∈ pieces, splitOutside separator piece = some [piece] := by
  induction pieces generalizing text with
  | nil => exact absurd rfl (weight_splitOutsideAt h).1
  | cons piece pieces ih =>
    cases pieces with
    | nil =>
      obtain rfl := eq_of_splitOutsideAt_singleton h
      simpa using h
    | cons next pieces =>
      obtain ⟨rest, rfl, hpiece, hrest⟩ := exists_of_splitOutsideAt_cons h
      obtain ⟨hjoined, hpieces⟩ := ih hrest
      rw [List.intercalate_cons_cons, hjoined, List.forall_mem_cons]
      exact ⟨by simp, hpiece, hpieces⟩

theorem splitOutside_eq_none_iff :
    splitOutside separator text = none ↔
      (∃ before, before <+: text ∧ opened before < 0) ∨ opened text ≠ 0 := by
  have hbalanced : Balanced text ↔
      (∀ before, before <+: text → 0 ≤ opened before) ∧ opened text = 0 := by
    constructor
    · rintro ⟨hnonneg, hclosed⟩
      simp only [Int.zero_add] at hnonneg hclosed
      exact ⟨hnonneg, hclosed⟩
    · rintro ⟨hnonneg, hclosed⟩
      constructor <;> simpa only [Int.zero_add]
  rw [splitOutside, ← Option.not_isSome_iff_eq_none, isSome_splitOutsideAt_iff]
  change ¬ Balanced text ↔ _
  rw [hbalanced, not_and_or]
  simp

theorem length_of_splitOutside (hopen : isOpening separator = false)
    (hclose : isClosing separator = false) (h : splitOutside separator text = some pieces) :
    pieces.length = (separatorsOutside separator text).length + 1 :=
  length_of_splitOutsideAt hopen hclose (congrArg (Option.map List.length) h)

theorem balanced_of_splitOutside (hopen : isOpening separator = false)
    (hclose : isClosing separator = false) (h : splitOutside separator piece = some [piece]) :
    Balanced piece ∧ separatorsOutside separator piece = [] := by
  constructor
  · exact isSome_splitOutsideAt_iff.1 (Option.isSome_of_eq_some h)
  · have hlength := length_of_splitOutside hopen hclose h
    apply List.eq_nil_of_length_eq_zero
    simpa using hlength

/-! ## Cutting by bytes -/

namespace Scan

/-- The length of a text in bytes. -/
def bytes (text : List Char) : Nat := (text.map Char.utf8Size).sum

/-- What stands in front of a byte, and what stands from there on. There is neither within a
character, nor behind the text. -/
def splitAtByte : (offset : Nat) → List Char → Option (List Char × List Char)
  | 0, text => some ([], text)
  | _ + 1, [] => none
  | offset + 1, c :: text =>
    if c.utf8Size ≤ offset + 1 then
      (splitAtByte (offset + 1 - c.utf8Size) text).map fun (before, after) => (c :: before, after)
    else none

/-- These two bytes do not have a piece of the text between them. -/
structure BadSlice where
  start : Nat
  stop : Nat

def slice (text : List Char) (start stop : Nat) : Except BadSlice (List Char) :=
  match splitAtByte stop text with
  | none => .error ⟨start, stop⟩
  | some (front, _) =>
    match splitAtByte start front with
    | none => .error ⟨start, stop⟩
    | some (_, piece) => .ok piece

structure State where
  depth : Nat := 0
  /-- The byte at which the next piece starts. -/
  start : Nat := 0
  pieces : List (List Char) := []

/-- Goes through the rest of a text, which starts at byte `index`. There are no pieces if a bracket
closes that was not opened or stays open. -/
def scan (separator : Char) (text : List Char) :
    State → (index : Nat) → List Char → Except BadSlice (Option (List (List Char)))
  | state, index, [] => do
    if state.depth = 0 then return some (state.pieces ++ [← slice text state.start index])
    else return none
  | state, index, c :: rest => do
    let next := index + c.utf8Size
    if isOpening c then scan separator text { state with depth := state.depth + 1 } next rest
    else if isClosing c then
      match state.depth with
      | 0 => return none
      | outer + 1 => scan separator text { state with depth := outer } next rest
    else if c = separator ∧ state.depth = 0 then do
      let piece ← slice text state.start index
      scan separator text { state with start := next, pieces := state.pieces ++ [piece] } next rest
    else scan separator text state next rest

def split (separator : Char) (text : List Char) : Except BadSlice (Option (List (List Char))) :=
  scan separator text {} 0 text

@[simp] theorem bytes_nil : bytes [] = 0 := rfl

@[simp] theorem bytes_cons (c : Char) (text : List Char) :
    bytes (c :: text) = c.utf8Size + bytes text := by
  simp [bytes]

@[simp] theorem bytes_append (before after : List Char) :
    bytes (before ++ after) = bytes before + bytes after := by
  simp [bytes]

theorem splitAtByte_bytes (before after : List Char) :
    splitAtByte (bytes before) (before ++ after) = some (before, after) := by
  induction before with
  | nil => rw [bytes_nil, List.nil_append, splitAtByte]
  | cons c before ih =>
    have hpos : 0 < c.utf8Size := c.utf8Size_pos
    obtain ⟨offset, hoffset⟩ : ∃ offset, bytes (c :: before) = offset + 1 :=
      ⟨bytes (c :: before) - 1, by rw [bytes_cons]; omega⟩
    have hrest : offset + 1 - c.utf8Size = bytes before := by
      rw [← hoffset, bytes_cons, Nat.add_sub_cancel_left]
    have hfits : c.utf8Size ≤ offset + 1 := by
      rw [← hoffset, bytes_cons]
      exact Nat.le_add_right ..
    rw [hoffset, List.cons_append, splitAtByte, if_pos hfits, hrest, ih]
    rfl

theorem slice_bytes (done piece rest : List Char) :
    slice (done ++ (piece ++ rest)) (bytes done) (bytes done + bytes piece) = .ok piece := by
  have hfront := splitAtByte_bytes (done ++ piece) rest
  rw [bytes_append, List.append_assoc] at hfront
  rw [slice, hfront]
  dsimp only
  rw [splitAtByte_bytes]

theorem map_pushFront (found : List (List Char)) (piece : List Char) (c : Char)
    (pieces? : Option (List (List Char))) :
    (pieces?.map (pushFront c)).map (fun pieces => found ++ piece.foldr pushFront pieces) =
      pieces?.map fun pieces => found ++ (piece ++ [c]).foldr pushFront pieces := by
  simp [Function.comp_def]

/-- What the scanner knows between two characters: the pieces that are done, the piece it is in, and
the bytes at which that piece starts and the rest of the text does. -/
structure State.At (state : State) (text : List Char) (index : Nat) (done piece rest : List Char) :
    Prop where
  text_eq : text = done ++ (piece ++ rest)
  start_eq : state.start = bytes done
  index_eq : index = bytes done + bytes piece

namespace State.At

variable {state : State} {index : Nat} {done rest : List Char}

theorem slice_eq (h : state.At text index done piece rest) :
    slice text state.start index = .ok piece := by
  rw [h.text_eq, h.start_eq, h.index_eq, slice_bytes]

theorem more (h : state.At text index done piece (c :: rest)) (depth : Nat) :
    { state with depth }.At text (index + c.utf8Size) done (piece ++ [c]) rest where
  text_eq := by simp [h.text_eq]
  start_eq := h.start_eq
  index_eq := by simp [h.index_eq, Nat.add_assoc]

theorem cut (h : state.At text index done piece (c :: rest)) (pieces : List (List Char)) :
    { state with start := index + c.utf8Size, pieces }.At text (index + c.utf8Size)
      (done ++ (piece ++ [c])) [] rest where
  text_eq := by simp [h.text_eq]
  start_eq := by simp [h.index_eq, Nat.add_assoc]
  index_eq := by simp [h.index_eq, Nat.add_assoc]

/-- The scanner adds to its pieces those of the rest, the first one of which goes on with the piece
it is in. -/
theorem scan_eq (h : state.At text index done piece rest) :
    scan separator text state index rest =
      .ok ((splitOutsideAt separator state.depth rest).map fun pieces =>
        state.pieces ++ piece.foldr pushFront pieces) := by
  induction rest generalizing state index done piece with
  | nil =>
    rw [scan, splitOutsideAt]
    split
    · rw [h.slice_eq]
      simp [foldr_pushFront]
    · rfl
  | cons c rest ih =>
    obtain ⟨depth, start, found⟩ := state
    rw [scan]
    by_cases hopen : isOpening c = true
    · rw [if_pos hopen, ih (h.more _), splitOutsideAt_of_isOpening hopen, map_pushFront]
    rw [if_neg hopen]
    rw [Bool.not_eq_true] at hopen
    by_cases hclose : isClosing c = true
    · rw [if_pos hclose]
      cases depth with
      | zero =>
        rw [splitOutsideAt_of_unopened hopen hclose]
        rfl
      | succ outer =>
        rw [splitOutsideAt_of_isClosing hopen hclose, map_pushFront]
        exact ih (h.more outer)
    rw [if_neg hclose]
    rw [Bool.not_eq_true] at hclose
    by_cases hcut : c = separator ∧ depth = 0
    · obtain ⟨rfl, rfl⟩ := hcut
      rw [if_pos ⟨rfl, rfl⟩, h.slice_eq, splitOutsideAt_separator hopen hclose, Option.map_map]
      refine (ih (h.cut (found ++ [piece]))).trans ?_
      simp [Function.comp_def, foldr_pushFront]
    · rw [if_neg hcut, ih (h.more depth), splitOutsideAt_of_plain hopen hclose hcut, map_pushFront]

end State.At

theorem split_eq_ok (separator : Char) (text : List Char) :
    split separator text = .ok (splitOutside separator text) := by
  have hstart : State.At {} text 0 [] [] text := ⟨rfl, rfl, rfl⟩
  rw [split, hstart.scan_eq, splitOutside]
  simp

end Scan

/-! ## At commas -/

/-- Cutting a text at its commas never takes a slice that is not there. There are no pieces exactly
if some bracket closes too early or the brackets do not come out even. Otherwise the pieces with
commas between them are the text. The brackets of each piece match, no comma of it is outside them,
and there is one piece more than the text has such commas. -/
theorem splitOutside_comma (text : List Char) :
    Scan.split ',' text = .ok (splitOutside ',' text) ∧
      (splitOutside ',' text = none ↔
        (∃ before, before <+: text ∧ opened before < 0) ∨ opened text ≠ 0) ∧
      ∀ pieces, splitOutside ',' text = some pieces →
        [','].intercalate pieces = text ∧
        (∀ piece ∈ pieces, Balanced piece ∧ separatorsOutside ',' piece = []) ∧
        pieces.length = (separatorsOutside ',' text).length + 1 := by
  refine ⟨Scan.split_eq_ok ',' text, splitOutside_eq_none_iff, fun pieces h => ?_⟩
  obtain ⟨hjoined, hpieces⟩ := joined_of_splitOutside h
  have hopen : isOpening ',' = false := rfl
  have hclose : isClosing ',' = false := rfl
  refine ⟨hjoined, fun piece hpiece => ?_, length_of_splitOutside hopen hclose h⟩
  exact balanced_of_splitOutside hopen hclose (hpieces piece hpiece)

/-- Brackets of both kinds count the same. -/
example : splitOutside ',' ['é', ',', '(', '€', ',', 'p', ']'] =
    some [['é'], ['(', '€', ',', 'p', ']']] := by decide

end TrackGrid.Text
