import TrackGrid.Proofs.Reading.TrackList

/-! # The outline of a list

What a list is before its repeats are written out. Main statement: a list is refused for its length
exactly if one of its repeats makes the list around it longer than the limit.
-/

namespace TrackGrid.Reading

open Text

/-! ## Outlines -/

/-- The items of a list, where each repeat has an outline of what it repeats. -/
inductive Outline (α : Type) where
  | nil
  | single (item : α) (rest : Outline α)
  | repeated (count : Nat) (pos : 0 < count) (body rest : Outline α)
  deriving DecidableEq

namespace Outline

variable {α : Type} {outline other : Outline α} {before : Nat}

/-- The list with its repeats written out. -/
def expand : Outline α → List α
  | nil => []
  | single item rest => item :: rest.expand
  | repeated count _ body rest => (List.replicate count body.expand).flatten ++ rest.expand

/-- The length of the list with its repeats written out. -/
def size : Outline α → Nat
  | nil => 0
  | single _ rest => rest.size + 1
  | repeated count _ body rest => count * body.size + rest.size

/-- The number of items that are not repeats, not counting those inside repeats. -/
def singles : Outline α → Nat
  | nil => 0
  | single _ rest => rest.singles + 1
  | repeated _ _ _ rest => rest.singles

/-- Some repeat makes the list around it longer than the limit, if `before` tracks stand in front.
The list that is repeated starts anew. -/
def Exceeds : (before : Nat) → Outline α → Prop
  | _, nil => False
  | before, single _ rest => rest.Exceeds (before + 1)
  | before, repeated count _ body rest =>
    body.Exceeds 0 ∨ repeatLimit < before + count * body.size ∨
      rest.Exceeds (before + count * body.size)

instance decidableExceeds :
    (before : Nat) → (outline : Outline α) → Decidable (outline.Exceeds before)
  | _, nil => inferInstanceAs (Decidable False)
  | before, single _ rest => decidableExceeds (before + 1) rest
  | before, repeated count _ body rest =>
    have := decidableExceeds 0 body
    have := decidableExceeds (before + count * body.size) rest
    inferInstanceAs (Decidable (_ ∨ _ ∨ _))

def append : Outline α → Outline α → Outline α
  | nil, other => other
  | single item rest, other => single item (rest.append other)
  | repeated count pos body rest, other => repeated count pos body (rest.append other)

@[simp] theorem length_expand (outline : Outline α) : outline.expand.length = outline.size := by
  induction outline with
  | nil => rfl
  | single item rest ih => rw [expand, List.length_cons, ih, size]
  | repeated count pos body rest ih ih' => simp [expand, size, ih, ih']

theorem length_of_mapM_expand {β ε : Type} {f : α → Except ε β} {results : List β}
    (h : outline.expand.mapM f = .ok results) : results.length = outline.size := by
  rw [length_of_mapM h, length_expand]

@[simp] theorem expand_append (outline other : Outline α) :
    (outline.append other).expand = outline.expand ++ other.expand := by
  induction outline with
  | nil => rfl
  | single item rest ih => rw [append, expand, ih, expand, List.cons_append]
  | repeated count pos body rest _ ih => rw [append, expand, ih, expand, List.append_assoc]

theorem exceeds_append :
    (outline.append other).Exceeds before ↔
      outline.Exceeds before ∨ other.Exceeds (before + outline.size) := by
  induction outline generalizing before with
  | nil => simp [append, Exceeds, size]
  | single item rest ih =>
    rw [append, Exceeds, ih, Exceeds, size, Nat.add_assoc, Nat.add_comm 1]
  | repeated count pos body rest _ ih =>
    rw [append, Exceeds, ih, Exceeds, size, Nat.add_assoc before]
    simp only [or_assoc]

theorem exceeds_repeated_nil {count : Nat} {pos : 0 < count} :
    (repeated count pos outline nil).Exceeds before ↔
      outline.Exceeds 0 ∨ repeatLimit < before + count * outline.size := by
  simp [Exceeds]

theorem lt_size_of_exceeds (h : outline.Exceeds before) : repeatLimit < before + outline.size := by
  induction outline generalizing before with
  | nil => exact absurd h id
  | single item rest ih =>
    have hrest := ih h
    rw [size]
    omega
  | repeated count pos body rest ihBody ihRest =>
    rw [size]
    rcases h with hbody | hhere | hrest
    · have hsize := ihBody hbody
      have hcopies := Nat.le_mul_of_pos_left body.size pos
      omega
    · omega
    · have hsize := ihRest hrest
      omega

theorem size_le_of_not_exceeds (h : ¬ outline.Exceeds before) :
    before + outline.size ≤ max before repeatLimit + outline.singles := by
  induction outline generalizing before with
  | nil => exact Nat.le_max_left before repeatLimit
  | single item rest ih =>
    have hrest := ih h
    rw [size, singles]
    omega
  | repeated count pos body rest _ ih =>
    obtain ⟨-, hhere, hrest⟩ : ¬ body.Exceeds 0 ∧ ¬ repeatLimit < before + count * body.size ∧
        ¬ rest.Exceeds (before + count * body.size) := by simpa [Exceeds] using h
    have hsize := ih hrest
    rw [size, singles]
    omega

end Outline

/-! ## How outlines are written -/

/-- How a list is written behind a multiplier: as it is, if it is one item, or in parentheses. -/
inductive BodyText (list : List Char) : List Char → Prop
  | alone (hone : splitOutside ',' list = some [list]) (hhead : (trim list).head? ≠ some '(') :
    BodyText list list
  | group {front back : List Char} (hf : Blanks front) (hb : Blanks back) :
    BodyText list (front ++ ('(' :: (list ++ [')']) ++ back))

/-- How a list is written, from how its single items are. -/
inductive ListText {α : Type} (item : List Char → α → Prop) : List Char → Outline α → Prop
  | single {text : List Char} {a : α} (hone : splitOutside ',' text = some [text])
    (hplain : isRepeat (trim text) = false) (h : item text a) :
    ListText item text (.single a .nil)
  | repeated {count : Nat} {front multiplier list body : List Char} {outline : Outline α}
    (hf : Blanks front) (hm : MultiplierText count multiplier) (hbody : BodyText list body)
    (h : ListText item list outline) :
    ListText item (front ++ (multiplier ++ body)) (.repeated count hm.pos outline .nil)
  | append {list other : List Char} {outline outline' : Outline α}
    (h : ListText item list outline) (h' : ListText item other outline') :
    ListText item (list ++ ',' :: other) (outline.append outline')

section

variable {multiplier list body front : List Char} {count : Nat}

theorem MultiplierText.unbroken (h : MultiplierText count multiplier) :
    Unbroken ',' multiplier := by
  obtain @⟨digits, gap, hd, -, -, -, hg⟩ := h
  have hgap : Unbroken ',' gap := by
    refine unbroken_of_not_mem fun c hc hmem => ?_
    rcases hg c hmem with rfl | rfl <;> revert hc <;> decide
  have hstar : Unbroken ',' ['*'] := unbroken_of_not_mem (by decide)
  exact (unbroken_of_covers (covers_of_digits hd.all) (by decide)).append (hgap.append hstar)

theorem MultiplierText.trimmed (h : MultiplierText count multiplier) : Trimmed multiplier := by
  obtain ⟨hd, -, -, -, -⟩ := h
  have hdigits : Trimmed _ := trimmed_of_covers (covers_of_digits hd.all)
  exact hdigits.append (.of_forall (by decide)) hd.ne_nil (List.cons_ne_nil '*' []) _

theorem MultiplierText.isRepeat_append (h : MultiplierText count multiplier) (body : List Char) :
    isRepeat (multiplier ++ body) = true := by
  obtain ⟨hd, -, -, -, -⟩ := h
  obtain ⟨c, rest, rfl⟩ := List.exists_cons_of_ne_nil hd.ne_nil
  simp [isRepeat, hd.all c List.mem_cons_self]

theorem MultiplierText.ne_nil (h : MultiplierText count multiplier) : multiplier ≠ [] := by
  obtain ⟨hd, -, -, -, -⟩ := h
  exact List.append_ne_nil_of_left_ne_nil hd.ne_nil _

theorem MultiplierText.trim_eq (h : MultiplierText count multiplier) (hf : Blanks front)
    (body : List Char) : trim (front ++ (multiplier ++ body)) = multiplier ++ trimEnd body := by
  rw [trim_blanks_append hf, h.trimmed.trim_append h.ne_nil]

theorem BodyText.splitOutside_eq {pieces : List (List Char)} (hf : Blanks front)
    (hm : MultiplierText count multiplier) (hbody : BodyText list body)
    (h : splitOutside ',' list = some pieces) :
    splitOutside ',' (front ++ (multiplier ++ body)) = some [front ++ (multiplier ++ body)] := by
  have hfront : Unbroken ',' front := unbroken_of_blanks (by decide) hf
  rw [splitOutside_append_singleton hfront, splitOutside_append_singleton hm.unbroken]
  cases hbody with
  | alone hone => exact hone
  | group hf hb =>
    rw [splitOutside_append_singleton (unbroken_of_blanks (by decide) hf)]
    have hparentheses : Unbroken ',' ('(' :: (list ++ [')'])) :=
      unbroken_bracketed (by decide) (by decide) (by decide) h
    exact (hparentheses.append (unbroken_of_blanks (by decide) hb)).splitOutside_eq

end

section

variable {axis : Axis} {vars : Variables} {front multiplier list body item : List Char}
  {count before : Nat}

theorem readEach_singleton (before : Nat) (item : List Char) :
    readEach axis vars before [item] = readItem axis vars before (trim item) := by
  rw [readEach_cons]
  simp only [readEach_nil, ok_bind, List.append_nil]
  cases readItem axis vars before (trim item) <;> rfl

theorem readEach_single (before : Nat) (hplain : isRepeat (trim item) = false) :
    readEach axis vars before [item] = (readPlainTrack axis vars (trim item)).map ([·]) := by
  rw [readEach_singleton]
  by_cases hne : trim item = []
  · rw [hne, readItem]
    rfl
  · exact readItem_of_not_isRepeat axis vars before hne hplain

theorem BodyText.readBody_eq (h : BodyText list body) (item : List Char) :
    readBody axis vars item (trim body) = readItems axis vars list := by
  cases h with
  | alone hone hhead =>
    rw [readBody_of_head?_ne hhead, readItems_of_splitOutside hone, readEach_singleton]
  | group hf hb =>
    have htrimmed : Trimmed ('(' :: (list ++ [')'])) := .of_ends (by decide) (by decide) list
    rw [htrimmed.trim_pad hf hb, readBody_group, dropLast?_eq_some_iff.2 rfl]

theorem readItem_repeated (hf : Blanks front) (hm : MultiplierText count multiplier)
    (hbody : BodyText list body) (before : Nat) :
    readItem axis vars before (trim (front ++ (multiplier ++ body))) = (do
      let tracks ← readItems axis vars list
      if before + count * tracks.length ≤ repeatLimit then
        return (List.replicate count tracks).flatten
      else throw (.tooManyTracks (String.ofList (trim (front ++ (multiplier ++ body))))
        repeatLimit)) := by
  rw [hm.trim_eq hf, readItem_of_splitMultiplier? axis vars before
    (List.append_ne_nil_of_left_ne_nil hm.ne_nil _) (hm.isRepeat_append _)
    (splitMultiplier?_append hm _), trim_trimEnd, hbody.readBody_eq]

end

/-! ## Reading what an outline is written as -/

section

variable {α : Type} {axis : Axis} {vars : Variables} {item : List Char → α → Prop}
  {list : List Char} {outline : Outline α} {pieces : List (List Char)} {before : Nat}

theorem ListText.exists_pieces (h : ListText item list outline) :
    ∃ pieces, splitOutside ',' list = some pieces := by
  induction h with
  | single hone => exact ⟨_, hone⟩
  | repeated hf hm hbody _ ih =>
    obtain ⟨pieces, hs⟩ := ih
    exact ⟨_, hbody.splitOutside_eq hf hm hs⟩
  | append _ _ ih ih' =>
    obtain ⟨pieces, hs⟩ := ih
    obtain ⟨pieces', hs'⟩ := ih'
    exact ⟨_, splitOutside_append (by decide) (by decide) hs hs'⟩

/-- A list with no repeat beyond the limit is read as its items, and the first of them that cannot
be read decides. -/
theorem ListText.readEach_eq {read : α → Except ReadError Track}
    (hitem : ∀ text a, item text a → readPlainTrack axis vars (trim text) = read a)
    (h : ListText item list outline) (hs : splitOutside ',' list = some pieces)
    (hroom : ¬ outline.Exceeds before) :
    readEach axis vars before pieces = outline.expand.mapM read := by
  induction h generalizing pieces before with
  | @single text a hone hplain ha =>
    cases hone.symm.trans hs
    rw [readEach_single before hplain, hitem text a ha, Outline.expand, Outline.expand]
    cases hread : read a <;> simp [hread, Except.map]
  | @repeated count front multiplier list body outline hf hm hbody hlist ih =>
    obtain ⟨inner, hinner⟩ := hlist.exists_pieces
    cases (hbody.splitOutside_eq hf hm hinner).symm.trans hs
    rw [Outline.exceeds_repeated_nil, not_or, Nat.not_lt] at hroom
    rw [readEach_singleton, readItem_repeated hf hm hbody, readItems_of_splitOutside hinner,
      ih hinner hroom.1, Outline.expand, Outline.expand, List.append_nil,
      mapM_flatten_replicate hm.pos]
    cases hread : outline.expand.mapM read with
    | error => rfl
    | ok tracks =>
      rw [ok_bind, Outline.length_of_mapM_expand hread, if_pos hroom.2]
      rfl
  | @append list other outline outline' hlist hother ih ih' =>
    obtain ⟨first, hfirst⟩ := hlist.exists_pieces
    obtain ⟨second, hsecond⟩ := hother.exists_pieces
    cases (splitOutside_append (by decide) (by decide) hfirst hsecond).symm.trans hs
    rw [Outline.exceeds_append, not_or] at hroom
    have hread := ih hfirst hroom.1
    rw [Outline.expand_append, List.mapM_append]
    cases htracks : outline.expand.mapM read with
    | error e =>
      rw [htracks] at hread
      rw [readEach_append_of_error hread]
      rfl
    | ok tracks =>
      rw [htracks] at hread
      rw [readEach_append hread, Outline.length_of_mapM_expand htracks, ih' hsecond hroom.2]
      cases outline'.expand.mapM read <;> rfl

theorem ListText.readEach_eq_ok {track : α → Track}
    (hitem : ∀ text a, item text a → readPlainTrack axis vars (trim text) = .ok (track a))
    (h : ListText item list outline) (hs : splitOutside ',' list = some pieces)
    (hroom : ¬ outline.Exceeds before) :
    readEach axis vars before pieces = .ok (outline.expand.map track) :=
  (h.readEach_eq hitem hs hroom).trans (mapM_eq_ok_map fun _ _ => rfl)

theorem ListText.readEach_of_exceeds {track : α → Track}
    (hitem : ∀ text a, item text a → readPlainTrack axis vars (trim text) = .ok (track a))
    (h : ListText item list outline) (hs : splitOutside ',' list = some pieces)
    (hexceeds : outline.Exceeds before) :
    ∃ token, readEach axis vars before pieces = .error (.tooManyTracks token repeatLimit) := by
  induction h generalizing pieces before with
  | single => exact absurd hexceeds id
  | @repeated count front multiplier list body outline hf hm hbody hlist ih =>
    obtain ⟨inner, hinner⟩ := hlist.exists_pieces
    cases (hbody.splitOutside_eq hf hm hinner).symm.trans hs
    rw [readEach_singleton, readItem_repeated hf hm hbody, readItems_of_splitOutside hinner]
    by_cases hin : outline.Exceeds 0
    · obtain ⟨token, htoken⟩ := ih hinner hin
      exact ⟨token, by rw [htoken, error_bind]⟩
    · have hmore := (Outline.exceeds_repeated_nil.1 hexceeds).resolve_left hin
      rw [hlist.readEach_eq_ok hitem hinner hin, ok_bind, List.length_map, Outline.length_expand,
        if_neg (Nat.not_le.2 hmore)]
      exact ⟨_, rfl⟩
  | @append list other outline outline' hlist hother ih ih' =>
    obtain ⟨first, hfirst⟩ := hlist.exists_pieces
    obtain ⟨second, hsecond⟩ := hother.exists_pieces
    cases (splitOutside_append (by decide) (by decide) hfirst hsecond).symm.trans hs
    by_cases hfront : outline.Exceeds before
    · obtain ⟨token, htoken⟩ := ih hfirst hfront
      exact ⟨token, readEach_append_of_error htoken⟩
    · have hbehind := (Outline.exceeds_append.1 hexceeds).resolve_left hfront
      obtain ⟨token, htoken⟩ := ih' hsecond hbehind
      rw [readEach_append (hlist.readEach_eq_ok hitem hfirst hfront), List.length_map,
        Outline.length_expand, htoken]
      exact ⟨token, rfl⟩

end

/-! ## The outline of a list that is read -/

section

variable {axis : Axis} {vars : Variables} {list body item : List Char} {pieces : List (List Char)}
  {tracks : List Track} {before : Nat}

/-- The text is read as the track, with or without blanks around it. -/
def ReadsAs (axis : Axis) (vars : Variables) (text : List Char) (track : Track) : Prop :=
  readPlainTrack axis vars (trim text) = .ok track

theorem exists_bodyText (hone : splitOutside ',' body = some [body])
    (h : readBody axis vars item (trim body) = .ok tracks) :
    ∃ list, BodyText list body ∧ list.length ≤ body.length ∧
      readItems axis vars list = .ok tracks := by
  rcases readBody_eq_ok_iff.1 h with ⟨list, heq, hlist⟩ | ⟨hhead, hsingle⟩
  · obtain ⟨front, back, hf, hb, hbody⟩ := exists_trim body
    rw [heq] at hbody
    subst hbody
    exact ⟨list, .group hf hb, by simp; omega, hlist⟩
  · refine ⟨body, .alone hone hhead, Nat.le_refl _, ?_⟩
    rwa [readItems_of_splitOutside hone, readEach_singleton]

theorem exists_repeated (hs : splitOutside ',' list = some [list])
    (hr : isRepeat (trim list) = true)
    (h : readItem axis vars before (trim list) = .ok tracks) :
    ∃ count front multiplier body inner repeated, Blanks front ∧ MultiplierText count multiplier ∧
      list = front ++ (multiplier ++ body) ∧ BodyText inner body ∧ inner.length < list.length ∧
      readItems axis vars inner = .ok repeated := by
  obtain ⟨-, ⟨hplain, -⟩ | ⟨-, count, body, repeated, hsplit, hbody, -⟩⟩ := readItem_eq_ok_iff.1 h
  · rw [hr] at hplain
    cases hplain
  · obtain ⟨multiplier, hm, htrim⟩ := exists_of_splitMultiplier? hsplit
    obtain ⟨front, back, hf, hb, hlist⟩ := exists_trim list
    rw [htrim, List.append_assoc] at hlist
    subst hlist
    rw [splitOutside_append_singleton (unbroken_of_blanks (by decide) hf),
      splitOutside_append_singleton hm.unbroken] at hs
    have htrimmed : trim (body ++ back) = trim body := trim_append_blanks hb
    rw [← htrimmed] at hbody
    obtain ⟨inner, hinner, hlength, hread⟩ := exists_bodyText hs hbody
    have hpos := List.length_pos_iff.2 hm.ne_nil
    refine ⟨count, front, multiplier, body ++ back, inner, repeated, hf, hm, rfl, hinner, ?_, hread⟩
    rw [List.length_append, List.length_append]
    omega

theorem exists_listText (hs : splitOutside ',' list = some pieces)
    (h : readEach axis vars before pieces = .ok tracks) :
    ∃ outline, ListText (ReadsAs axis vars) list outline := by
  -- The list that is repeated in an item is shorter than the item, and so are the pieces of a list.
  induction hn : list.length using Nat.strongRecOn generalizing list pieces before tracks with
  | _ n ih =>
    match pieces with
    | [] => exact absurd rfl (weight_splitOutsideAt hs).1
    | [piece] =>
      obtain rfl := eq_of_splitOutsideAt_singleton hs
      rw [readEach_singleton] at h
      cases hr : isRepeat (trim piece) with
      | false =>
        obtain ⟨-, ⟨-, track, htrack, -⟩ | ⟨hrepeat, -⟩⟩ := readItem_eq_ok_iff.1 h
        · exact ⟨_, .single hs hr htrack⟩
        · rw [hr] at hrepeat
          cases hrepeat
      | true =>
        obtain ⟨count, front, multiplier, body, inner, repeated, hf, hm, rfl, hbody, hlt, hread⟩ :=
          exists_repeated hs hr h
        obtain ⟨innerPieces, hpieces, heach⟩ := readItems_eq_ok_iff.1 hread
        obtain ⟨outline, houtline⟩ := ih inner.length (by omega) hpieces heach rfl
        exact ⟨_, .repeated hf hm hbody houtline⟩
    | piece :: next :: others =>
      obtain ⟨rest, rfl, hpiece, hrest⟩ := exists_of_splitOutsideAt_cons hs
      obtain ⟨first, later, hfirst, hlater, -⟩ := readEach_cons_eq_ok_iff.1 h
      rw [← readEach_singleton] at hfirst
      rw [List.length_append, List.length_cons] at hn
      obtain ⟨outline, houtline⟩ := ih piece.length (by omega) hpiece hfirst rfl
      obtain ⟨outline', houtline'⟩ := ih rest.length (by omega) hrest hlater rfl
      exact ⟨_, houtline.append houtline'⟩

end

/-! ## The text of a list -/

/-- A text without the blanks around it and without a comma at its end. -/
def bare (text : String) : List Char :=
  (dropLast? ',' (trim text.toList)).getD (trim text.toList)

theorem lower_bare (text : String) :
    lower (bare text) = (dropLast? ',' (normalize text)).getD (normalize text) := by
  unfold bare normalize
  cases hlast : dropLast? ',' (trim text.toList) with
  | some body =>
    obtain heq := dropLast?_eq_some_iff.1 hlast
    have hlower : lower (trim text.toList) = lower body ++ [','] := by
      rw [heq, lower_append_cons separates_comma]
      rfl
    rw [hlower, dropLast?_eq_some_iff.2 rfl]
    rfl
  | none =>
    have hcomma : (trim text.toList).getLast? ≠ some ',' := by
      intro hcomma
      rw [dropLast?, if_pos hcomma] at hlast
      cases hlast
    rw [getD_dropLast?_of_ne fun h => hcomma ((getLast?_lower_eq_some_iff (by decide)).1 h)]
    rfl

theorem readList_eq (axis : Axis) (vars : Variables) (text : String) :
    Track.readList axis vars text = readItems axis vars (lower (bare text)) := by
  unfold Track.readList
  rw [lower_bare]
  split
  · rename_i hnil
    rw [hnil, readItems_of_splitOutside rfl, readEach_singleton, readItem]
    rfl
  · rfl

end TrackGrid.Reading

namespace TrackGrid

open Reading Text

variable {axis : Axis} {vars : Variables} {list : List Char} {outline : Outline Track}

namespace Reading

theorem readPlainTrack_of_readsAs (text : List Char) (track : Track)
    (h : ReadsAs axis vars text track) : readPlainTrack axis vars (trim text) = .ok (id track) := h

theorem ListText.readItems_eq (h : ListText (ReadsAs axis vars) list outline)
    (hroom : ¬ outline.Exceeds 0) : readItems axis vars list = .ok outline.expand := by
  obtain ⟨pieces, hs⟩ := h.exists_pieces
  rw [readItems_of_splitOutside hs, h.readEach_eq_ok readPlainTrack_of_readsAs hs hroom,
    List.map_id]

theorem ListText.readItems_eq_error_iff (h : ListText (ReadsAs axis vars) list outline) :
    (∃ token, readItems axis vars list = .error (.tooManyTracks token repeatLimit)) ↔
      outline.Exceeds 0 := by
  constructor
  · rintro ⟨token, htoken⟩
    by_contra hroom
    rw [h.readItems_eq hroom] at htoken
    cases htoken
  · intro hexceeds
    obtain ⟨pieces, hs⟩ := h.exists_pieces
    rw [readItems_of_splitOutside hs]
    exact h.readEach_of_exceeds readPlainTrack_of_readsAs hs hexceeds

theorem exists_outline {tracks : List Track} (h : readItems axis vars list = .ok tracks) :
    ∃ outline, ListText (ReadsAs axis vars) list outline ∧ ¬ outline.Exceeds 0 ∧
      tracks = outline.expand := by
  obtain ⟨pieces, hs, heach⟩ := readItems_eq_ok_iff.1 h
  obtain ⟨outline, houtline⟩ := exists_listText hs heach
  have hroom : ¬ outline.Exceeds 0 := by
    intro hexceeds
    obtain ⟨token, htoken⟩ := houtline.readItems_eq_error_iff.2 hexceeds
    rw [h] at htoken
    cases htoken
  cases h.symm.trans (houtline.readItems_eq hroom)
  exact ⟨outline, houtline, hroom, rfl⟩

end Reading

namespace Track

/-- A list whose items can be read is refused for its length exactly if some repeat makes the list
around it longer than the limit. What is read has, besides its single items outside repeats, no more
tracks than the limit. -/
theorem readList_cap (axis : Axis) (vars : Variables) (text : String) :
    (∀ tracks, readList axis vars text = .ok tracks →
      ∃ outline, ListText (ReadsAs axis vars) (lower (bare text)) outline ∧
        tracks = outline.expand ∧ tracks.length ≤ repeatLimit + outline.singles) ∧
    ∀ outline, ListText (ReadsAs axis vars) (lower (bare text)) outline →
      ((∃ token, readList axis vars text = .error (.tooManyTracks token repeatLimit)) ↔
        outline.Exceeds 0) ∧
      (¬ outline.Exceeds 0 → readList axis vars text = .ok outline.expand) ∧
      (outline.expand.length ≤ repeatLimit → readList axis vars text = .ok outline.expand) := by
  rw [readList_eq]
  constructor
  · intro tracks hread
    obtain ⟨outline, houtline, hroom, rfl⟩ := exists_outline hread
    have hsize := Outline.size_le_of_not_exceeds hroom
    rw [← Outline.length_expand] at hsize
    exact ⟨outline, houtline, rfl, by omega⟩
  · intro outline houtline
    refine ⟨houtline.readItems_eq_error_iff, houtline.readItems_eq, fun hlength => ?_⟩
    refine houtline.readItems_eq fun hexceeds => ?_
    have hsize := Outline.lt_size_of_exceeds hexceeds
    rw [Outline.length_expand] at hlength
    omega

/-- A single item may follow on as many tracks as the limit allows, but no repeat. -/
theorem readList_cap_sample :
    readList .horizontal .empty "10000*pref, 4px" =
        .ok ((List.replicate 10000 [sampleColumn]).flatten ++ [sampleGap]) ∧
      ∃ token, readList .horizontal .empty "10000*pref, 1 * 4px" =
        .error (.tooManyTracks token repeatLimit) := by
  have hpref : ListText (ReadsAs .horizontal .empty) "pref".toList (.single sampleColumn .nil) :=
    .single (by decide) (by decide) (toOption_eq_some_iff.1 (by decide +kernel))
  have hgap : ListText (ReadsAs .horizontal .empty) " 4px".toList (.single sampleGap .nil) :=
    .single (by decide) (by decide) (toOption_eq_some_iff.1 (by decide +kernel))
  have hmany : MultiplierText 10000 ("10000".toList ++ ([] ++ ['*'])) :=
    .mk ⟨by decide, by decide⟩ (by decide) (by decide) (by decide) (by decide)
  have hone : MultiplierText 1 ("1".toList ++ ([' '] ++ ['*'])) :=
    .mk ⟨by decide, by decide⟩ (by decide) (by decide) (by decide) (by decide)
  have hspace : Blanks [' '] := List.forall_mem_singleton.2 (by decide)
  have hfull := ListText.repeated blanks_nil hmany (.alone (by decide) (by decide)) hpref
  have hsingle : ListText _ "10000*pref, 4px".toList _ := hfull.append hgap
  have hrepeat : ListText _ "10000*pref, 1 * 4px".toList _ :=
    hfull.append (.repeated hspace hone (.alone (by decide) (by decide)) hgap)
  have htext : lower (bare "10000*pref, 4px") = "10000*pref, 4px".toList := by decide +kernel
  have htext' : lower (bare "10000*pref, 1 * 4px") = "10000*pref, 1 * 4px".toList := by
    decide +kernel
  rw [← htext] at hsingle
  rw [← htext'] at hrepeat
  obtain ⟨-, hread, -⟩ := (readList_cap _ _ _).2 _ hsingle
  obtain ⟨hrefused, -⟩ := (readList_cap _ _ _).2 _ hrepeat
  refine ⟨hread ?_, hrefused.2 ?_⟩
  · simp [Outline.append, Outline.Exceeds, Outline.size, repeatLimit]
  · simp [Outline.append, Outline.Exceeds, Outline.size, repeatLimit]

end Track

end TrackGrid
