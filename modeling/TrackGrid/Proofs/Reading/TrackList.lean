import TrackGrid.Proofs.Reading.Track
import TrackGrid.Reading.TrackList

/-! # Lists of tracks

Main statements: two lists with a comma between them are read as one after the other, and a list
that is repeated is read as its tracks over and over, unless a comma stands at its end.
-/

namespace TrackGrid.Reading

open Text

variable {axis : Axis} {vars : Variables} {list item : List Char} {tracks : List Track}
  {before : Nat}

/-! ## Multipliers -/

/-- A number of 64 bits from 1 up and a star, with spaces and tabs in between. -/
inductive MultiplierText (count : Nat) : List Char → Prop
  | mk {digits gap : List Char} (hd : Digits digits) (hvalue : Nat.ofDigitChars 10 digits 0 = count)
    (hpos : 0 < count) (hlt : count < 0x10000000000000000) (hg : ∀ c ∈ gap, c = ' ' ∨ c = '\t') :
    MultiplierText count (digits ++ (gap ++ ['*']))

theorem MultiplierText.pos {count : Nat} {text : List Char} (h : MultiplierText count text) :
    0 < count := by
  obtain ⟨-, -, hpos, -, -⟩ := h
  exact hpos

theorem exists_of_splitMultiplier? {body : List Char} {count : Nat}
    (h : splitMultiplier? item = some (count, body)) :
    ∃ multiplier, MultiplierText count multiplier ∧ item = multiplier ++ body := by
  obtain ⟨digits, rest, hsplit⟩ : ∃ digits rest, splitDigits item = (digits, rest) := ⟨_, _, rfl⟩
  obtain ⟨rfl, -, -⟩ := splitDigits_eq_iff.1 hsplit
  simp only [splitMultiplier?, hsplit] at h
  split at h
  · rename_i hn hstar
    split at h
    · cases h
    · rename_i hne
      cases h
      obtain ⟨hd, hvalue, hlt⟩ := readNatural?_eq_some_iff.1 hn
      obtain ⟨gap, hgap, hrest⟩ :
          ∃ gap, (∀ c ∈ gap, c = ' ' ∨ c = '\t') ∧ rest = gap ++ '*' :: body := by
        refine ⟨rest.takeWhile fun c => c = ' ' || c = '\t', fun c hc => ?_, ?_⟩
        · simpa using List.all_eq_true.1 List.all_takeWhile c hc
        · rw [← hstar, List.takeWhile_append_dropWhile]
      exact ⟨_, .mk hd hvalue (Nat.pos_of_ne_zero hne) hlt hgap, by simp [hrest]⟩
  · cases h

theorem splitMultiplier?_append {multiplier : List Char} {count : Nat}
    (h : MultiplierText count multiplier) (body : List Char) :
    splitMultiplier? (multiplier ++ body) = some (count, body) := by
  obtain @⟨digits, gap, hd, hvalue, hpos, hlt, hg⟩ := h
  have htext : (digits ++ (gap ++ ['*'])) ++ body = digits ++ (gap ++ '*' :: body) := by simp
  have hsplit : splitDigits (digits ++ (gap ++ '*' :: body)) = (digits, gap ++ '*' :: body) := by
    refine splitDigits_eq_iff.2 ⟨rfl, hd.all, ?_⟩
    cases gap with
    | nil =>
      rintro _ ⟨⟩
      decide
    | cons c gap =>
      rintro _ ⟨⟩
      rcases hg c List.mem_cons_self with rfl | rfl <;> decide
  have hstar : ('*' :: body).dropWhile (fun c => c = ' ' || c = '\t') = '*' :: body := rfl
  rw [htext, splitMultiplier?]
  simp only [hsplit, readNatural?_eq_some_iff.2 ⟨hd, hvalue, hlt⟩]
  rw [List.dropWhile_append_of_pos (by simpa using hg), hstar]
  simp only [if_neg (Nat.ne_of_gt hpos)]

/-! ## Reading an item succeeds -/

theorem readItem_eq_ok_iff :
    readItem axis vars before item = .ok tracks ↔ item ≠ [] ∧
      ((isRepeat item = false ∧
          ∃ track, readPlainTrack axis vars item = .ok track ∧ tracks = [track]) ∨
        (isRepeat item = true ∧ ∃ count body repeated,
          splitMultiplier? item = some (count, body) ∧
          readBody axis vars item (trim body) = .ok repeated ∧
          before + count * repeated.length ≤ repeatLimit ∧
          tracks = (List.replicate count repeated).flatten)) := by
  by_cases hne : item = []
  · simp [readItem, hne]
  · simp only [ne_eq, hne, not_false_eq_true, true_and]
    cases hr : isRepeat item with
    | false =>
      rw [readItem_of_not_isRepeat axis vars before hne hr]
      cases readPlainTrack axis vars item <;> simp [Except.map, eq_comm]
    | true =>
      simp only [Bool.true_eq_false, false_and, false_or, true_and]
      cases hs : splitMultiplier? item with
      | none =>
        rw [readItem, if_neg hne, if_pos hr]
        split
        · simp
        · rename_i h
          rw [hs] at h
          cases h
      | some parts =>
        obtain ⟨count, body⟩ := parts
        rw [readItem_of_splitMultiplier? axis vars before hne hr hs, bind_eq_ok_iff]
        simp only [throw_eq_error, pure_eq_ok, ite_eq_ok_iff, Except.ok.injEq, Option.some.injEq,
          Prod.mk.injEq]
        constructor
        · rintro ⟨repeated, hbody, hroom, rfl⟩
          exact ⟨count, body, repeated, ⟨rfl, rfl⟩, hbody, hroom, rfl⟩
        · rintro ⟨_, _, repeated, ⟨rfl, rfl⟩, hbody, hroom, rfl⟩
          exact ⟨repeated, hbody, hroom, rfl⟩

theorem readBody_of_head?_ne {body : List Char} (h : body.head? ≠ some '(') :
    readBody axis vars item body = readItem axis vars 0 body := by
  rw [readBody.eq_def]
  split
  · exact absurd rfl h
  · rfl

theorem readBody_eq_ok_iff {body : List Char} :
    readBody axis vars item body = .ok tracks ↔
      (∃ inner, body = '(' :: (inner ++ [')']) ∧ readItems axis vars inner = .ok tracks) ∨
        (body.head? ≠ some '(' ∧ readItem axis vars 0 body = .ok tracks) := by
  by_cases hhead : body.head? = some '('
  · obtain ⟨group, rfl⟩ := List.head?_eq_some_iff.1 hhead
    simp only [readBody_group, List.cons.injEq, true_and, List.head?_cons, ne_eq, not_true_eq_false,
      false_and, or_false]
    split
    · rename_i hlast
      have hne : ∀ inner, group ≠ inner ++ [')'] := by
        rintro inner rfl
        rw [dropLast?_eq_some_iff.2 rfl] at hlast
        cases hlast
      simp [hne]
    · rename_i inner hlast
      obtain rfl := dropLast?_eq_some_iff.1 hlast
      constructor
      · intro h
        exact ⟨inner, rfl, h⟩
      · rintro ⟨_, heq, h⟩
        rwa [List.append_cancel_right heq]
  · rw [readBody_of_head?_ne hhead]
    constructor
    · intro h
      exact .inr ⟨hhead, h⟩
    · rintro (⟨inner, rfl, -⟩ | ⟨-, h⟩)
      · exact absurd rfl hhead
      · exact h

theorem readItem_of_room {other : Nat} (h : readItem axis vars before item = .ok tracks)
    (hroom : other + tracks.length ≤ repeatLimit) : readItem axis vars other item = .ok tracks := by
  obtain ⟨hne, hplain | ⟨hr, count, body, repeated, hs, hbody, -, rfl⟩⟩ := readItem_eq_ok_iff.1 h
  · exact readItem_eq_ok_iff.2 ⟨hne, .inl hplain⟩
  · have hlength : (List.replicate count repeated).flatten.length = count * repeated.length := by
      simp
    rw [hlength] at hroom
    exact readItem_eq_ok_iff.2 ⟨hne, .inr ⟨hr, count, body, repeated, hs, hbody, hroom, rfl⟩⟩

/-! ## The items of a list -/

theorem readEach_nil : readEach axis vars before [] = .ok [] := by rw [readEach]

theorem readEach_cons_eq_ok_iff {items : List (List Char)} :
    readEach axis vars before (item :: items) = .ok tracks ↔
      ∃ first others, readItem axis vars before (trim item) = .ok first ∧
        readEach axis vars (before + first.length) items = .ok others ∧
        tracks = first ++ others := by
  rw [readEach_cons, bind_eq_ok_iff]
  simp only [bind_eq_ok_iff, pure_eq_ok, Except.ok.injEq]
  constructor
  · rintro ⟨first, hfirst, others, hothers, rfl⟩
    exact ⟨first, others, hfirst, hothers, rfl⟩
  · rintro ⟨first, others, hfirst, hothers, rfl⟩
    exact ⟨first, hfirst, others, hothers, rfl⟩

theorem readEach_of_room {items : List (List Char)} {other : Nat}
    (h : readEach axis vars before items = .ok tracks)
    (hroom : other + tracks.length ≤ repeatLimit) :
    readEach axis vars other items = .ok tracks := by
  induction items generalizing before other tracks with
  | nil => rwa [readEach_nil] at h ⊢
  | cons item items ih =>
    obtain ⟨first, others, hfirst, hothers, rfl⟩ := readEach_cons_eq_ok_iff.1 h
    rw [List.length_append] at hroom
    exact readEach_cons_eq_ok_iff.2
      ⟨first, others, readItem_of_room hfirst (by omega), ih hothers (by omega), rfl⟩

theorem readEach_append {items items' : List (List Char)}
    (h : readEach axis vars before items = .ok tracks) :
    readEach axis vars before (items ++ items') =
      (readEach axis vars (before + tracks.length) items').map (tracks ++ ·) := by
  induction items generalizing before tracks with
  | nil =>
    rw [readEach_nil] at h
    cases h
    cases hrest : readEach axis vars before items' <;> simp [hrest, Except.map]
  | cons item items ih =>
    obtain ⟨first, others, hfirst, hothers, rfl⟩ := readEach_cons_eq_ok_iff.1 h
    rw [List.cons_append, readEach_cons, hfirst, ok_bind, ih hothers, List.length_append,
      ← Nat.add_assoc]
    cases readEach axis vars (before + first.length + others.length) items' <;>
      simp [Except.map]

theorem readEach_append_of_error {items items' : List (List Char)} {error : ReadError}
    (h : readEach axis vars before items = .error error) :
    readEach axis vars before (items ++ items') = .error error := by
  induction items generalizing before with
  | nil =>
    rw [readEach_nil] at h
    cases h
  | cons item items ih =>
    rw [readEach_cons] at h
    rw [List.cons_append, readEach_cons]
    cases hitem : readItem axis vars before (trim item) with
    | error => rwa [hitem] at h
    | ok first =>
      rw [hitem, ok_bind] at h
      rw [ok_bind]
      cases hothers : readEach axis vars (before + first.length) items with
      | error =>
        rw [hothers] at h
        cases h
        rw [ih hothers]
        rfl
      | ok others =>
        rw [hothers] at h
        cases h

theorem readEach_congr {items items' : List (List Char)} (h : items.map trim = items'.map trim) :
    readEach axis vars before items = readEach axis vars before items' := by
  induction items generalizing before items' with
  | nil =>
    rw [List.map_nil, eq_comm, List.map_eq_nil_iff] at h
    rw [h]
  | cons item items ih =>
    cases items' with
    | nil => cases h
    | cons item' items' =>
      rw [List.map_cons, List.map_cons, List.cons.injEq] at h
      simp only [readEach_cons, h.1, ih h.2]

theorem readItems_eq_ok_iff :
    readItems axis vars list = .ok tracks ↔
      ∃ items, splitOutside ',' list = some items ∧ readEach axis vars 0 items = .ok tracks := by
  rw [readItems_eq]
  split <;> simp_all

/-! ## What holds of all lists -/

section

variable {M : List Track → Prop} (append : ∀ tracks others, M tracks → M others → M (tracks ++ others))

include append

theorem readEach_induction {items : List (List Char)} (hne : items ≠ [])
    (hitem : ∀ item ∈ items, ∀ before tracks,
      readItem axis vars before (trim item) = .ok tracks → M tracks)
    (h : readEach axis vars before items = .ok tracks) : M tracks := by
  induction items generalizing before tracks with
  | nil => exact absurd rfl hne
  | cons item items ih =>
    obtain ⟨first, others, hfirst, hothers, rfl⟩ := readEach_cons_eq_ok_iff.1 h
    have hM := hitem item List.mem_cons_self before first hfirst
    by_cases hnil : items = []
    · subst hnil
      rw [readEach_nil] at hothers
      cases hothers
      rwa [List.append_nil]
    · exact append first others hM
        (ih hnil (fun item hmem => hitem item (List.mem_cons_of_mem _ hmem)) hothers)

theorem flatten_replicate_induction {count : Nat} (hpos : 0 < count) (h : M tracks) :
    M (List.replicate count tracks).flatten := by
  obtain ⟨copies, rfl⟩ := Nat.exists_eq_add_one.2 hpos
  induction copies with
  | zero => simpa using h
  | succ copies ih =>
    rw [List.replicate_succ, List.flatten_cons]
    exact append tracks _ h (ih (Nat.succ_pos copies))

variable (single : ∀ text track, readPlainTrack axis vars text = .ok track → M [track])

include single

/-- What holds of single tracks and of lists side by side holds of all that an item is read as. -/
theorem readItem_induction (h : readItem axis vars before item = .ok tracks) : M tracks := by
  -- What is repeated is shorter than the item.
  induction hn : item.length using Nat.strongRecOn generalizing item before tracks with
  | _ n ih =>
    obtain ⟨-, ⟨-, track, hplain, rfl⟩ | ⟨-, count, body, repeated, hs, hbody, -, rfl⟩⟩ :=
      readItem_eq_ok_iff.1 h
    · exact single item track hplain
    · obtain ⟨_, hm, -⟩ := exists_of_splitMultiplier? hs
      have hlt := length_lt_of_splitMultiplier? hs
      have htrim := length_trim_le body
      apply flatten_replicate_induction append hm.pos
      rcases readBody_eq_ok_iff.1 hbody with ⟨inner, heq, hinner⟩ | ⟨-, hsingle⟩
      · obtain ⟨items, hitems, heach⟩ := readItems_eq_ok_iff.1 hinner
        have hweight := weight_splitOutside hitems
        rw [heq, List.length_cons, List.length_append] at htrim
        refine readEach_induction append (weight_splitOutsideAt hitems).1 ?_ heach
        intro piece hpiece before tracks hread
        have hpieces := length_lt_weight_of_mem hpiece
        have hpiece := length_trim_le piece
        exact ih (trim piece).length (by omega) hread rfl
      · exact ih (trim body).length (by omega) hsingle rfl

theorem readItems_induction (h : readItems axis vars list = .ok tracks) : M tracks := by
  obtain ⟨items, hs, heach⟩ := readItems_eq_ok_iff.1 h
  exact readEach_induction append (weight_splitOutsideAt hs).1
    (fun _ _ _ _ hitem => readItem_induction append single hitem) heach

end

theorem readItems_ne_nil (h : readItems axis vars list = .ok tracks) : tracks ≠ [] :=
  readItems_induction (M := (· ≠ [])) (fun _ _ hne _ => List.append_ne_nil_of_left_ne_nil hne _)
    (fun _ track _ => List.cons_ne_nil track []) h

/-! ## Lists side by side -/

theorem readItems_of_splitOutside {items : List (List Char)}
    (h : splitOutside ',' list = some items) :
    readItems axis vars list = readEach axis vars 0 items := by
  rw [readItems_eq, h]

section

variable {front back : List Char} {items : List (List Char)}

theorem readItems_pad (hf : Blanks front) (hb : Blanks back)
    (h : splitOutside ',' list = some items) :
    readItems axis vars (front ++ (list ++ back)) = readItems axis vars list := by
  obtain ⟨padded, hpadded, htrim⟩ := splitOutside_pad (by decide) hf hb h
  rw [readItems_of_splitOutside hpadded, readItems_of_splitOutside h, readEach_congr htrim]

theorem readItems_pad_of_ok (hf : Blanks front) (hb : Blanks back)
    (h : readItems axis vars list = .ok tracks) :
    readItems axis vars (front ++ (list ++ back)) = .ok tracks := by
  obtain ⟨items, hs, -⟩ := readItems_eq_ok_iff.1 h
  rw [readItems_pad hf hb hs, h]

theorem readItems_append {other : List Char} {others : List Track}
    (h : readItems axis vars list = .ok tracks) (h' : readItems axis vars other = .ok others)
    (hroom : tracks.length + others.length ≤ repeatLimit) :
    readItems axis vars (list ++ ',' :: other) = .ok (tracks ++ others) := by
  obtain ⟨items, hs, hread⟩ := readItems_eq_ok_iff.1 h
  obtain ⟨items', hs', hread'⟩ := readItems_eq_ok_iff.1 h'
  rw [readItems_of_splitOutside (splitOutside_append (by decide) (by decide) hs hs'),
    readEach_append hread, readEach_of_room hread' (by omega)]
  rfl

theorem readItems_comma (h : readItems axis vars list = .ok tracks) :
    readItems axis vars (list ++ [',']) = .error .empty := by
  obtain ⟨items, hs, hread⟩ := readItems_eq_ok_iff.1 h
  have hempty : readItem axis vars (0 + tracks.length) (trim []) = .error .empty := by
    rw [readItem]
    rfl
  rw [readItems_of_splitOutside (splitOutside_append (by decide) (by decide) hs rfl),
    readEach_append hread, readEach_cons, hempty]
  rfl

end

/-! ## The text of a list -/

theorem readList_eq_ok_iff {text : String} :
    Track.readList axis vars text = .ok tracks ↔ normalize text ≠ [] ∧
      readItems axis vars ((dropLast? ',' (normalize text)).getD (normalize text)) =
        .ok tracks := by
  unfold Track.readList
  split <;> simp_all

theorem getD_dropLast?_append {front text : List Char} (hne : text ≠ []) :
    (dropLast? ',' (front ++ text)).getD (front ++ text) =
      front ++ (dropLast? ',' text).getD text := by
  cases hlast : dropLast? ',' text with
  | some rest =>
    obtain rfl := dropLast?_eq_some_iff.1 hlast
    rw [dropLast?_eq_some_iff.2 (List.append_assoc ..).symm]
    rfl
  | none =>
    have hend : (front ++ text).getLast? = text.getLast? := by
      rw [List.getLast?_append, List.getLast?_eq_some_getLast hne, Option.some_or]
    have hnone : dropLast? ',' (front ++ text) = none := by
      unfold dropLast? at hlast ⊢
      rw [hend]
      split at hlast
      · cases hlast
      · rename_i h
        rw [if_neg h]
    rw [hnone]
    rfl

theorem getD_dropLast?_of_ne {text : List Char} (h : text.getLast? ≠ some ',') :
    (dropLast? ',' text).getD text = text := by
  rw [dropLast?, if_neg h]
  rfl

theorem getLast?_normalize_eq_comma_iff {text : String} :
    (normalize text).getLast? = some ',' ↔ (trim text.toList).getLast? = some ',' :=
  getLast?_lower_eq_some_iff (by decide)

theorem exists_lower_toList (text : String) :
    ∃ front back, Blanks front ∧ Blanks back ∧
      lower text.toList = front ++ (normalize text ++ back) := by
  obtain ⟨front, back, hf, hb, htext⟩ := exists_trim text.toList
  refine ⟨front, back, hf, hb, ?_⟩
  rw [normalize, ← lower_append_blanks hb, ← lower_blanks_append hf, ← htext]

theorem exists_normalize_append {first second : String} (hne : normalize first ≠ [])
    (hne' : normalize second ≠ []) :
    ∃ back front, Blanks back ∧ Blanks front ∧
      normalize (first ++ "," ++ second) =
        (normalize first ++ back) ++ ',' :: (front ++ normalize second) := by
  obtain ⟨front, back, hf, hb, hfirst⟩ := exists_trim first.toList
  obtain ⟨front', back', hf', hb', hsecond⟩ := exists_trim second.toList
  refine ⟨back, front', hb, hf', ?_⟩
  have htrimmed : Trimmed (trim first.toList ++ ((back ++ ',' :: front') ++ trim second.toList)) :=
    (trimmed_trim _).append (trimmed_trim _) (ne_nil_of_lower_ne_nil hne)
      (ne_nil_of_lower_ne_nil hne') _
  have htext : (first ++ "," ++ second).toList = front ++
      ((trim first.toList ++ ((back ++ ',' :: front') ++ trim second.toList)) ++ back') := by
    calc (first ++ "," ++ second).toList
        = first.toList ++ ',' :: second.toList := by simp
      _ = (front ++ (trim first.toList ++ back)) ++
          ',' :: (front' ++ (trim second.toList ++ back')) := by rw [← hfirst, ← hsecond]
      _ = _ := by simp
  rw [normalize, htext, htrimmed.trim_pad hf hb', normalize, normalize, ← lower_append_blanks hb,
    ← lower_blanks_append hf', ← lower_append_cons separates_comma]
  simp

/-! ## Repeated lists -/

/-- A list in parentheses behind a multiplier. -/
def group (n : Nat) (list : List Char) : List Char :=
  Nat.toDigits 10 n ++ '*' :: '(' :: (list ++ [')'])

variable {n : Nat}

theorem group_ne_nil (n : Nat) (list : List Char) : group n list ≠ [] := by simp [group]

theorem isRepeat_group (n : Nat) (list : List Char) : isRepeat (group n list) = true := by
  have hd := digits_toDigits n
  have hstar : (group n list).contains '*' = true := by simp [group]
  obtain ⟨c, rest, hc⟩ := List.exists_cons_of_ne_nil hd.ne_nil
  have hdigit := hd.all c (by simp [hc])
  rw [isRepeat, hstar, group, hc]
  simp [hdigit]

theorem trimmed_group (n : Nat) (list : List Char) : Trimmed (group n list) := by
  have hd := digits_toDigits n
  have hdigits : Trimmed (Nat.toDigits 10 n) := trimmed_of_covers (covers_of_digits hd.all)
  have htrimmed := hdigits.append (b := [')']) (.of_forall (by decide)) hd.ne_nil (by simp)
    ('*' :: '(' :: list)
  simpa [group] using htrimmed

theorem splitOutside_group {items : List (List Char)} (h : splitOutside ',' list = some items) :
    splitOutside ',' (group n list) = some [group n list] := by
  have hdigits : Unbroken ',' (Nat.toDigits 10 n) :=
    unbroken_of_covers (covers_of_digits (digits_toDigits n).all) (by decide)
  have hstar : Unbroken ',' ['*'] := unbroken_of_not_mem (by decide)
  have hparentheses : Unbroken ',' ('(' :: (list ++ [')'])) :=
    unbroken_bracketed (by decide) (by decide) (by decide) h
  exact (hdigits.append (hstar.append hparentheses)).splitOutside_eq

theorem readItems_group {items : List (List Char)} (hpos : 0 < n)
    (hlt : n < 0x10000000000000000) (h : splitOutside ',' list = some items) :
    readItems axis vars (group n list) = (do
      let tracks ← readItems axis vars list
      if n * tracks.length ≤ repeatLimit then return (List.replicate n tracks).flatten
      else throw (.tooManyTracks (String.ofList (group n list)) repeatLimit)) := by
  have hmultiplier : MultiplierText n (Nat.toDigits 10 n ++ ([] ++ ['*'])) :=
    .mk (digits_toDigits n) Nat.ofDigitChars_ten_toDigits hpos hlt (by simp)
  have hsplit : splitMultiplier? (group n list) = some (n, '(' :: (list ++ [')'])) := by
    simpa [group] using splitMultiplier?_append hmultiplier ('(' :: (list ++ [')']))
  have hbody : Trimmed ('(' :: (list ++ [')'])) := .of_ends (by decide) (by decide) list
  rw [readItems_of_splitOutside (splitOutside_group h), readEach_cons,
    (trimmed_group n list).trim_eq,
    readItem_of_splitMultiplier? axis vars 0 (group_ne_nil n list) (isRepeat_group n list) hsplit,
    hbody.trim_eq, readBody_group, dropLast?_eq_some_iff.2 rfl]
  simp only [readEach_nil, Nat.zero_add]
  cases readItems axis vars list with
  | error e => rfl
  | ok tracks =>
    simp only [ok_bind]
    split
    · simp
    · rfl

theorem readItems_group_pad {front back : List Char} {items : List (List Char)} (hpos : 0 < n)
    (hlt : n < 0x10000000000000000) (hf : Blanks front) (hb : Blanks back)
    (h : splitOutside ',' list = some items) :
    readItems axis vars (group n (front ++ (list ++ back))) = (do
      let tracks ← readItems axis vars list
      if n * tracks.length ≤ repeatLimit then return (List.replicate n tracks).flatten
      else
        throw (.tooManyTracks (String.ofList (group n (front ++ (list ++ back)))) repeatLimit)) := by
  obtain ⟨padded, hpadded, -⟩ := splitOutside_pad (by decide) hf hb h
  rw [readItems_group hpos hlt hpadded, readItems_pad hf hb h]

theorem readList_of_group {text : String} (h : normalize text = group n list) :
    Track.readList axis vars text = readItems axis vars (group n list) := by
  have hlast : (group n list).getLast? ≠ some ',' := by
    have heq : group n list = (Nat.toDigits 10 n ++ '*' :: '(' :: list) ++ [')'] := by simp [group]
    rw [heq, List.getLast?_concat]
    decide
  unfold Track.readList
  rw [h]
  split
  · rename_i hnil
    exact absurd hnil (group_ne_nil n list)
  · rw [getD_dropLast?_of_ne hlast]

theorem exists_normalize_group (n : Nat) (text : String) :
    ∃ front back, Blanks front ∧ Blanks back ∧
      normalize s!"{n}*({text})" = group n (front ++ (normalize text ++ back)) := by
  obtain ⟨front, back, hf, hb, hlower⟩ := exists_lower_toList text
  refine ⟨front, back, hf, hb, ?_⟩
  have hlist : (s!"{n}*({text})" : String).toList = group n text.toList := by
    change (toString n ++ "*(" ++ text ++ ")").toList = _
    simp [group]
  have hsign : ∀ c, listSigns.covers c = true → Separates c := fun _ => separates_of_listSigns
  have hdigits : lower (Nat.toDigits 10 n) = Nat.toDigits 10 n :=
    lower_of_separates fun c hc =>
      hsign c (covers_of_isDigit (by decide) ((digits_toDigits n).all c hc))
  rw [normalize, hlist, (trimmed_group n _).trim_eq, group,
    lower_append_cons (hsign '*' (by decide)), lower_cons (hsign '(' (by decide)),
    lower_append_cons (hsign ')' (by decide)), hlower, hdigits]
  rfl

end TrackGrid.Reading

namespace TrackGrid

open Reading Text

variable {axis : Axis} {vars : Variables}

/-! ## Sample lists -/

/-- The column of the text `pref`. -/
def Track.sampleColumn : Track where
  axis := .horizontal
  alignment := .standard .horizontal
  size := .component .preferred
  weight := .zero
  weight_ok := isWeight_zero

/-- The column of the text `4px`. -/
def Track.sampleGap : Track := gap .horizontal ⟨.ofInt 4, .pixel⟩

open Track (sampleColumn sampleGap)

namespace Reading

theorem readItem_pref (before : Nat) :
    readItem .horizontal .empty before "pref".toList = .ok [sampleColumn] :=
  readItem_eq_ok_iff.2
    ⟨by decide, .inl ⟨by decide, _, toOption_eq_some_iff.1 (by decide +kernel), rfl⟩⟩

theorem readItem_4px (before : Nat) :
    readItem .horizontal .empty before "4px".toList = .ok [sampleGap] :=
  readItem_eq_ok_iff.2
    ⟨by decide, .inl ⟨by decide, _, toOption_eq_some_iff.1 (by decide +kernel), rfl⟩⟩

theorem readItems_sample :
    readItems .horizontal .empty "pref, 4px".toList = .ok [sampleColumn, sampleGap] := by
  refine readItems_eq_ok_iff.2 ⟨["pref".toList, " 4px".toList], by decide, ?_⟩
  refine readEach_cons_eq_ok_iff.2 ⟨[sampleColumn], [sampleGap], readItem_pref 0, ?_, rfl⟩
  exact readEach_cons_eq_ok_iff.2 ⟨[sampleGap], [], readItem_4px _, readEach_nil, rfl⟩

theorem readList_sample :
    Track.readList .horizontal .empty "2*(pref, 4px), pref" =
      .ok [sampleColumn, sampleGap, sampleColumn, sampleGap, sampleColumn] := by
  have hgroup : readItem .horizontal .empty 0 "2*(pref, 4px)".toList =
      .ok [sampleColumn, sampleGap, sampleColumn, sampleGap] :=
    readItem_eq_ok_iff.2 ⟨by decide, .inr ⟨by decide, 2, "(pref, 4px)".toList, _, by decide,
      readBody_eq_ok_iff.2 (.inl ⟨"pref, 4px".toList, by decide, readItems_sample⟩), by decide,
      rfl⟩⟩
  have hbody : (dropLast? ',' (normalize "2*(pref, 4px), pref")).getD
      (normalize "2*(pref, 4px), pref") = "2*(pref, 4px), pref".toList := by decide +kernel
  refine readList_eq_ok_iff.2 ⟨by decide +kernel, ?_⟩
  rw [hbody]
  refine readItems_eq_ok_iff.2 ⟨["2*(pref, 4px)".toList, " pref".toList], by decide, ?_⟩
  refine readEach_cons_eq_ok_iff.2 ⟨_, [sampleColumn], hgroup, ?_, rfl⟩
  exact readEach_cons_eq_ok_iff.2 ⟨[sampleColumn], [], readItem_pref _, readEach_nil, rfl⟩

theorem readList_sample_comma :
    Track.readList .horizontal .empty "pref, 4px," = .ok [sampleColumn, sampleGap] := by
  have hbody : (dropLast? ',' (normalize "pref, 4px,")).getD (normalize "pref, 4px,") =
      "pref, 4px".toList := by decide +kernel
  exact readList_eq_ok_iff.2 ⟨by decide +kernel, hbody ▸ readItems_sample⟩

end Reading

/-- Two lists with a comma between them are read as one after the other. -/
theorem Track.readList_append {first second : String} {tracks others : List Track}
    (h : readList axis vars first = .ok tracks) (h' : readList axis vars second = .ok others)
    (hcomma : (trim first.toList).getLast? ≠ some ',')
    (hroom : tracks.length + others.length ≤ repeatLimit) :
    readList axis vars (first ++ "," ++ second) = .ok (tracks ++ others) := by
  obtain ⟨hne, hread⟩ := readList_eq_ok_iff.1 h
  obtain ⟨hne', hread'⟩ := readList_eq_ok_iff.1 h'
  obtain ⟨back, front, hb, hf, htext⟩ := exists_normalize_append hne hne'
  rw [ne_eq, ← getLast?_normalize_eq_comma_iff] at hcomma
  rw [getD_dropLast?_of_ne hcomma] at hread
  have hbody : (dropLast? ',' (normalize (first ++ "," ++ second))).getD
      (normalize (first ++ "," ++ second)) =
        (normalize first ++ back) ++
          ',' :: (front ++ (dropLast? ',' (normalize second)).getD (normalize second)) := by
    have hgroup : ∀ text, (normalize first ++ back) ++ ',' :: (front ++ text) =
        (normalize first ++ (back ++ ',' :: front)) ++ text := by simp
    rw [htext, hgroup, getD_dropLast?_append hne', hgroup]
  have hpad := readItems_pad_of_ok blanks_nil hb hread
  have hpad' := readItems_pad_of_ok hf blanks_nil hread'
  rw [List.append_nil] at hpad'
  rw [readList_eq_ok_iff, hbody]
  exact ⟨by simp [htext], readItems_append hpad hpad' hroom⟩

theorem Track.readList_append_sample :
    readList .horizontal .empty ("2*(pref, 4px), pref" ++ "," ++ "pref, 4px,") =
      .ok ([sampleColumn, sampleGap, sampleColumn, sampleGap, sampleColumn] ++
        [sampleColumn, sampleGap]) :=
  readList_append readList_sample readList_sample_comma (by decide) (by decide)

/-- A list that is repeated is read as its tracks over and over, if there is room for them. Only a
comma at its end, which does no harm to the list alone, is not accepted in the parentheses. -/
theorem Track.readList_repeat {text : String} {tracks : List Track} {n : Nat}
    (h : readList axis vars text = .ok tracks) (hpos : 0 < n)
    (hroom : n * tracks.length ≤ repeatLimit) :
    readList axis vars s!"{n}*({text})" =
      if (trim text.toList).getLast? = some ',' then .error .empty
      else .ok (List.replicate n tracks).flatten := by
  obtain ⟨-, hread⟩ := readList_eq_ok_iff.1 h
  obtain ⟨front, back, hf, hb, htext⟩ := exists_normalize_group n text
  have hlt : n < 0x10000000000000000 := by
    have hlength := List.length_pos_iff.2 (readItems_ne_nil hread)
    have hle := Nat.le_mul_of_pos_right n hlength
    rw [repeatLimit] at hroom
    omega
  rw [readList_of_group htext]
  split
  · -- With the comma, an empty item stands before the closing parenthesis.
    rename_i hcomma
    rw [← getLast?_normalize_eq_comma_iff, List.getLast?_eq_some_iff] at hcomma
    obtain ⟨body, hbody⟩ := hcomma
    rw [hbody, dropLast?_eq_some_iff.2 rfl, Option.getD_some] at hread
    obtain ⟨items, hs, -⟩ := readItems_eq_ok_iff.1 hread
    have hs' : splitOutside ',' (body ++ [',']) = some (items ++ [[]]) :=
      splitOutside_append (by decide) (by decide) hs rfl
    rw [hbody, readItems_group_pad hpos hlt hf hb hs', readItems_comma hread, error_bind]
  · rename_i hcomma
    rw [← getLast?_normalize_eq_comma_iff] at hcomma
    rw [getD_dropLast?_of_ne hcomma] at hread
    obtain ⟨items, hs, -⟩ := readItems_eq_ok_iff.1 hread
    rw [readItems_group_pad hpos hlt hf hb hs, hread, ok_bind, if_pos hroom]
    rfl

theorem Track.readList_repeat_sample :
    readList .horizontal .empty "3*(2*(pref, 4px), pref)" =
      .ok (List.replicate 3
        [sampleColumn, sampleGap, sampleColumn, sampleGap, sampleColumn]).flatten :=
  readList_repeat readList_sample (n := 3) (by decide) (by decide)

/-- A list with a comma at its end is read alone, but not in the parentheses of a repeat. -/
theorem Track.readList_repeat_comma :
    readList .horizontal .empty "pref, 4px," = .ok [sampleColumn, sampleGap] ∧
      readList .horizontal .empty "2*(pref, 4px,)" = .error .empty := by
  have hgroup : normalize "2*(pref, 4px,)" = group 2 "pref, 4px,".toList := by decide +kernel
  have hsplit : splitOutside ',' "pref, 4px,".toList =
      some ["pref".toList, " 4px".toList, []] := by decide
  have hcomma : readItems .horizontal .empty "pref, 4px,".toList = .error .empty :=
    readItems_comma readItems_sample
  refine ⟨readList_sample_comma, ?_⟩
  rw [readList_of_group hgroup, readItems_group (by decide) (by decide) hsplit, hcomma]
  rfl

end TrackGrid
