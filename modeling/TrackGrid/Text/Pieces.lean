/-! # Cutting a text into pieces -/

namespace TrackGrid.Text

/-- Puts a character in front of the first piece. -/
def pushFront (c : Char) : List (List Char) → List (List Char)
  | [] => [[c]]
  | piece :: pieces => (c :: piece) :: pieces

/-! ## At every separator -/

/-- The pieces between the separators, one more than there are separators. -/
def split (separator : Char) : List Char → List (List Char)
  | [] => [[]]
  | c :: rest =>
    if c = separator then [] :: split separator rest else pushFront c (split separator rest)

/-- What stands before the first separator and what stands after it. -/
def splitFirst (separator : Char) : List Char → Option (List Char × List Char)
  | [] => none
  | c :: rest =>
    if c = separator then some ([], rest)
    else (splitFirst separator rest).map fun (before, after) => (c :: before, after)

/-! ## Outside brackets -/

def isOpening (c : Char) : Bool := c = '(' || c = '['

def isClosing (c : Char) : Bool := c = ')' || c = ']'

/-- The pieces between the separators that stand outside all brackets, read at a bracket depth.
There are none if a bracket closes that was not opened or stays open. -/
def splitOutsideAt (separator : Char) : (depth : Nat) → List Char → Option (List (List Char))
  | depth, [] => if depth = 0 then some [[]] else none
  | depth, c :: rest =>
    if isOpening c then (splitOutsideAt separator (depth + 1) rest).map (pushFront c)
    else if isClosing c then
      match depth with
      | 0 => none
      | outer + 1 => (splitOutsideAt separator outer rest).map (pushFront c)
    else if c = separator ∧ depth = 0 then (splitOutsideAt separator 0 rest).map ([] :: ·)
    else (splitOutsideAt separator depth rest).map (pushFront c)

def splitOutside (separator : Char) (text : List Char) : Option (List (List Char)) :=
  splitOutsideAt separator 0 text

/-- The length of the pieces with one separator after each. -/
def weight : (pieces : List (List Char)) → Nat
  | [] => 0
  | piece :: pieces => piece.length + 1 + weight pieces

theorem weight_pushFront {c : Char} {pieces : List (List Char)} (h : pieces ≠ []) :
    weight (pushFront c pieces) = weight pieces + 1 := by
  cases pieces with
  | nil => exact absurd rfl h
  | cons piece pieces =>
    simp only [weight, pushFront, List.length_cons]
    omega

theorem pushFront_ne_nil (c : Char) (pieces : List (List Char)) : pushFront c pieces ≠ [] := by
  cases pieces <;> simp [pushFront]

theorem weight_splitOutsideAt {separator : Char} {depth : Nat} {text : List Char}
    {pieces : List (List Char)} (h : splitOutsideAt separator depth text = some pieces) :
    pieces ≠ [] ∧ weight pieces = text.length + 1 := by
  fun_induction splitOutsideAt separator depth text generalizing pieces with
  | case1 => cases h; simp [weight]
  | case2 => cases h
  | case4 => cases h
  | case3 depth c rest _ ih
  | case5 c rest _ _ depth ih
  | case7 depth c rest _ _ _ ih =>
    obtain ⟨pieces, hp, rfl⟩ := Option.map_eq_some_iff.1 h
    obtain ⟨hne, hw⟩ := ih hp
    exact ⟨pushFront_ne_nil _ _, by simp [weight_pushFront hne, hw]⟩
  | case6 depth c rest _ _ _ ih =>
    obtain ⟨pieces, hp, rfl⟩ := Option.map_eq_some_iff.1 h
    obtain ⟨-, hw⟩ := ih hp
    refine ⟨by simp, ?_⟩
    simp only [weight, List.length_nil, List.length_cons] at hw ⊢
    omega

theorem weight_splitOutside {separator : Char} {text : List Char} {pieces : List (List Char)}
    (h : splitOutside separator text = some pieces) : weight pieces = text.length + 1 :=
  (weight_splitOutsideAt h).2

/-! ## At the end -/

/-- The text without its last character, if that is `last`. -/
def dropLast? (last : Char) (text : List Char) : Option (List Char) :=
  if text.getLast? = some last then some text.dropLast else none

theorem length_dropLast? {last : Char} {text rest : List Char}
    (h : dropLast? last text = some rest) : rest.length + 1 = text.length := by
  unfold dropLast? at h
  split at h
  · rename_i hl
    cases h
    cases text with
    | nil => simp at hl
    | cons c text => simp
  · cases h

end TrackGrid.Text
