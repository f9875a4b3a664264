import TrackGrid.Proofs.Reading.Outline
import TrackGrid.Proofs.Variables

/-! # References to variables

Lower case changes neither the items of a list nor its repeats. Main statement: a reference to a
name, alone or anywhere in a list, is read as the track that came in under the name last.
-/

namespace TrackGrid.Reading

open Text

variable {text list body : List Char}

/-! ## Outlines in lower case -/

theorem trim_lower (text : List Char) : trim (lower text) = lower (trim text) := by
  obtain ⟨front, back, hf, hb, htext⟩ := exists_trim text
  conv_lhs => rw [htext, lower_blanks_append hf, lower_append_blanks hb]
  exact (trimmed_trim text).lower.trim_pad hf hb

/-- The signs at which a list is cut into pieces. -/
def cutRanges : CharRanges := [(0x28, 0x29), (0x2C, 0x2C), (0x5B, 0x5B), (0x5D, 0x5D)]

theorem unmade_cutRanges : Unmade cutRanges :=
  ⟨by decide, by decide, by decide, by decide +kernel⟩

theorem separates_of_cutRanges {c : Char} (h : cutRanges.covers c = true) : Separates c := by
  apply separates_of_listSigns
  simp only [cutRanges, listSigns, CharRanges.covers, List.any_cons, List.any_nil, Bool.or_false,
    Bool.or_eq_true, Bool.and_eq_true, decide_eq_true_eq] at h ⊢
  omega

theorem covers_of_mem_cutSigns : ∀ c ∈ cutSigns ',', cutRanges.covers c = true := by decide

/-- Lower case makes no sign at which a list is cut, and leaves those that are there. -/
theorem splitOutside_lower_iff :
    splitOutside ',' (lower text) = some [lower text] ↔ splitOutside ',' text = some [text] := by
  rw [splitOutside_eq_singleton_iff, splitOutside_eq_singleton_iff, splitOutside,
    ← map_length_splitOutsideAt_filter covers_of_mem_cutSigns,
    filter_lower unmade_cutRanges fun _ => separates_of_cutRanges,
    map_length_splitOutsideAt_filter covers_of_mem_cutSigns, ← splitOutside]

theorem isRepeat_eq_true_iff :
    isRepeat text = true ↔ (∃ c, c.isDigit = true ∧ text.head? = some c) ∧ '*' ∈ text := by
  rw [isRepeat, Bool.and_eq_true, Option.any_eq_true, List.contains_iff_mem]
  simp only [and_comm]

theorem isRepeat_lower (text : List Char) : isRepeat (lower text) = isRepeat text := by
  have hdigit : ∀ c : Char, c.isDigit = true → keptSigns.covers c = true := fun c =>
    covers_of_isDigit (by decide)
  rw [Bool.eq_iff_iff, isRepeat_eq_true_iff, isRepeat_eq_true_iff, mem_lower_iff (by decide)]
  refine and_congr_left' (exists_congr fun c => and_congr_right fun hc => ?_)
  exact head?_lower_eq_some_iff (hdigit c hc)

theorem isRepeat_trim_lower (text : List Char) :
    isRepeat (trim (lower text)) = isRepeat (trim text) := by
  rw [trim_lower, isRepeat_lower]

theorem head?_trim_lower_ne_iff :
    (trim (lower text)).head? ≠ some '(' ↔ (trim text).head? ≠ some '(' := by
  rw [trim_lower, ne_eq, head?_lower_eq_some_iff (by decide)]

theorem keptSigns_of_blanks {front : List Char} (h : Blanks front) :
    ∀ c ∈ front, keptSigns.covers c = true := fun c hc => keptSigns_of_isBlank (h c hc)

theorem MultiplierText.keptSigns {count : Nat} (h : MultiplierText count text) :
    ∀ c ∈ text, keptSigns.covers c = true := by
  obtain ⟨hd, -, -, -, hg⟩ := h
  rw [List.forall_mem_append, List.forall_mem_append, List.forall_mem_singleton]
  refine ⟨fun c hc => covers_of_isDigit (by decide) (hd.all c hc), fun c hc => ?_, by decide⟩
  rcases hg c hc with rfl | rfl <;> decide

theorem MultiplierText.separates {count : Nat} (h : MultiplierText count text) :
    ∀ c ∈ text, Separates c := fun c hc => separates_of_keptSigns (h.keptSigns c hc)

theorem BodyText.lower (h : BodyText list body) : BodyText (lower list) (lower body) := by
  cases h with
  | alone hone hhead =>
    exact .alone (splitOutside_lower_iff.2 hone) (head?_trim_lower_ne_iff.2 hhead)
  | group hf hb =>
    have hopening : Separates '(' := separates_of_listSigns (by decide)
    have hclosing : Separates ')' := separates_of_listSigns (by decide)
    rw [lower_blanks_append hf, lower_append_blanks hb, lower_cons hopening,
      lower_append_cons hclosing]
    exact .group hf hb

theorem BodyText.of_lower {written : List Char} (h : BodyText list (Text.lower written)) :
    ∃ inner, BodyText inner written ∧ Text.lower inner = list := by
  generalize hbody : Text.lower written = body at h
  cases h with
  | alone hone hhead =>
    subst hbody
    exact ⟨written, .alone (splitOutside_lower_iff.1 hone) (head?_trim_lower_ne_iff.1 hhead), rfl⟩
  | @group front back hf hb =>
    have htext : front ++ ('(' :: (list ++ [')']) ++ back) =
        (front ++ ['(']) ++ (list ++ ')' :: back) := by simp
    rw [htext] at hbody
    have hopening : ∀ c ∈ front ++ ['('], keptSigns.covers c = true :=
      List.forall_mem_append.2 ⟨keptSigns_of_blanks hf, by decide⟩
    obtain ⟨rest, rfl, hrest⟩ := exists_of_lower_eq_append hopening hbody
    obtain ⟨inner, after, rfl, rfl, hafter⟩ := exists_of_lower_eq_append_cons (by decide) hrest
    obtain rfl := eq_of_lower_eq (keptSigns_of_blanks hb) hafter
    refine ⟨inner, ?_, rfl⟩
    have heq : (front ++ ['(']) ++ (inner ++ ')' :: after) =
        front ++ ('(' :: (inner ++ [')']) ++ after) := by simp
    rw [heq]
    exact .group hf hb

theorem ListText.lower {α : Type} {item : List Char → α → Prop} {outline : Outline α}
    (h : ListText item list outline) :
    ListText (fun text a => ∃ written, text = lower written ∧ item written a) (lower list)
      outline := by
  induction h with
  | single hone hplain ha =>
    refine .single (splitOutside_lower_iff.2 hone) ?_ ⟨_, rfl, ha⟩
    rw [isRepeat_trim_lower, hplain]
  | repeated hf hm hbody _ ih =>
    rw [lower_blanks_append hf, lower_append_of_separates hm.separates]
    exact .repeated hf hm hbody.lower ih
  | append _ _ ih ih' =>
    rw [lower_append_cons separates_comma]
    exact .append ih ih'

theorem ListText.of_lower {α : Type} {item : List Char → α → Prop} {outline : Outline α}
    (h : ListText item (Text.lower list) outline) :
    ListText (fun text => item (Text.lower text)) list outline := by
  generalize hlower : Text.lower list = written at h
  induction h generalizing list with
  | single hone hplain ha =>
    subst hlower
    refine .single (splitOutside_lower_iff.1 hone) ?_ ha
    rw [← isRepeat_trim_lower, hplain]
  | repeated hf hm hbody _ ih =>
    obtain ⟨rest, rfl, hrest⟩ := exists_of_lower_eq_append (keptSigns_of_blanks hf) hlower
    obtain ⟨body, rfl, rfl⟩ := exists_of_lower_eq_append hm.keptSigns hrest
    obtain ⟨inner, hinner, heq⟩ := hbody.of_lower
    exact .repeated hf hm hinner (ih heq)
  | append _ _ ih ih' =>
    obtain ⟨first, second, rfl, hfirst, hsecond⟩ :=
      exists_of_lower_eq_append_cons (by decide) hlower
    exact .append (ih hfirst) (ih' hsecond)

/-! ## References -/

/-- The characters of names. -/
def nameRanges : CharRanges :=
  [(0x2D, 0x2D), (0x30, 0x39), (0x41, 0x5A), (0x5F, 0x5F), (0x61, 0x7A)] ++ alphanumericRanges

theorem covers_of_isAlphanum {c : Char} (h : c.isAlphanum = true) : nameRanges.covers c = true := by
  have hparts : (c.isUpper || c.isLower || c.isDigit) = true := h
  rw [Bool.or_eq_true, Bool.or_eq_true] at hparts
  rcases hparts with (hupper | hlower) | hdigit
  · have hcapital : c.val ≥ 'A'.val ∧ c.val ≤ 'Z'.val := of_decide_eq_true hupper
    have hle := IsCapital.toNat hcapital
    exact List.any_eq_true.2 ⟨(0x41, 0x5A), by decide, by simpa using hle⟩
  · exact List.any_eq_true.2 ⟨(0x61, 0x7A), by decide, hlower⟩
  · exact covers_of_isDigit (by decide) hdigit

theorem covers_of_isNameChar {c : Char} (h : isNameChar c = true) : nameRanges.covers c = true := by
  unfold isNameChar isAlphanumeric at h
  rw [Bool.or_eq_true, Bool.or_eq_true, decide_eq_true_eq, decide_eq_true_eq] at h
  rcases h with (h | rfl) | rfl
  · split at h
    · exact covers_of_isAlphanum h
    · unfold nameRanges CharRanges.covers
      rw [List.any_append, Bool.or_eq_true]
      exact .inr h
  · decide
  · decide

/-- Letters, digits, hyphens and underscores, at least one. -/
structure IsName (name : String) : Prop where
  ne_nil : name.toList ≠ []
  all : ∀ c ∈ name.toList, isNameChar c = true

/-- A dollar and a name in any case, which may stand in braces. -/
inductive ReferenceText (name : String) : List Char → Prop
  | plain {written : String} (h : Variables.key written = Variables.key name) :
    ReferenceText name ('$' :: written.toList)
  | braced {written : String} (h : Variables.key written = Variables.key name) :
    ReferenceText name ('$' :: '\x7b' :: (written.toList ++ ['\x7d']))

/-- The track under a name as it is kept. -/
def resolve (axis : Axis) (vars : Variables) (name : String) : Except ReadError Track :=
  match vars.get? name axis with
  | some track => .ok track
  | none => .error (.unmappedVariable name)

section

variable {axis : Axis} {vars : Variables} {name : String}

theorem toList_key (name : String) : (Variables.key name).toList = lower name.toList :=
  String.toList_ofList

theorem ReferenceText.head?_eq (h : ReferenceText name text) : text.head? = some '$' := by
  cases h <;> rfl

theorem readVariable_of_referencedName (h : referencedName text = .ok name.toList) :
    readVariable axis vars text = resolve axis vars name := by
  unfold readVariable resolve
  rw [h, ok_bind, String.ofList_toList]
  rfl

variable (hname : IsName (Variables.key name))

include hname

theorem ReferenceText.readPlainTrack_eq (h : ReferenceText name text) :
    readPlainTrack axis vars (lower text) = resolve axis vars (Variables.key name) := by
  have hdollar : Separates '$' := separates_of_listSigns (by decide)
  have hopening : Separates '\x7b' := separates_of_listSigns (by decide)
  have hclosing : Separates '\x7d' := separates_of_listSigns (by decide)
  cases h with
  | plain h =>
    rw [lower_cons hdollar, ← toList_key, h]
    apply readVariable_of_referencedName
    refine referencedName_eq_ok_iff.2 (.inl ⟨fun hhead => ?_, rfl⟩)
    exact absurd (hname.all _ (List.mem_of_head? hhead)) (by decide)
  | braced h =>
    rw [lower_cons hdollar, lower_cons hopening, lower_append_cons hclosing, ← toList_key, h]
    apply readVariable_of_referencedName
    exact referencedName_eq_ok_iff.2 (.inr ⟨rfl, hname.ne_nil, hname.all⟩)

theorem ReferenceText.not_covers {ranges : CharRanges} (h : ReferenceText name text)
    (hdisjoint : ranges.disjoint nameRanges = true)
    (hsep : ∀ c, ranges.covers c = true → Separates c)
    (hsigns : ∀ c ∈ ['$', '\x7b', '\x7d'], ranges.covers c = false) :
    ∀ c ∈ text, ranges.covers c = false := by
  have hwritten : ∀ written : String, Variables.key written = Variables.key name →
      ∀ c ∈ written.toList, ranges.covers c = false := by
    intro written hkey c hc
    by_contra hcovers
    rw [Bool.not_eq_false] at hcovers
    -- Such a sign would be left in lower case, among the characters of a name.
    have hmem := mem_lower_of_separates (hsep c hcovers) hc
    rw [← toList_key, hkey] at hmem
    have hnot := CharRanges.not_covers_of_disjoint hdisjoint hcovers
    rw [covers_of_isNameChar (hname.all c hmem)] at hnot
    cases hnot
  cases h with
  | plain h => exact List.forall_mem_cons.2 ⟨hsigns _ (by simp), hwritten _ h⟩
  | braced h =>
    rw [List.forall_mem_cons, List.forall_mem_cons, List.forall_mem_append,
      List.forall_mem_singleton]
    exact ⟨hsigns _ (by simp), hsigns _ (by simp), hwritten _ h, hsigns _ (by simp)⟩

theorem ReferenceText.trimmed (h : ReferenceText name text) : Trimmed text :=
  .of_forall (h.not_covers hname (by decide +kernel) (fun _ => separates_of_isBlank) (by decide))

theorem ReferenceText.not_mem (h : ReferenceText name text) : ∀ c ∈ cutSigns ',', c ∉ text := by
  have hcut := h.not_covers hname (by decide +kernel) (fun _ => separates_of_cutRanges) (by decide)
  intro c hc hmem
  have hcovers := covers_of_mem_cutSigns c hc
  rw [hcut c hmem] at hcovers
  cases hcovers

theorem referenceText_trim (h : Padded (ReferenceText name) text) :
    ReferenceText name (trim text) :=
  (padded_iff fun _ h => h.trimmed hname).1 h

theorem read_of_reference {text : String} (h : Padded (ReferenceText name) text.toList) :
    Track.read axis vars text = resolve axis vars (Variables.key name) :=
  (referenceText_trim hname h).readPlainTrack_eq hname

end

/-! ## References in lists -/

/-- A single item of a list is a reference to the name, with no track of its own, or a track. -/
inductive ItemText (axis : Axis) (vars : Variables) (name : String) :
    List Char → Option Track → Prop
  | reference {text : List Char} (h : Padded (ReferenceText name) text) :
    ItemText axis vars name text none
  | track {text : List Char} {track : Track}
    (h : Track.read axis vars (String.ofList text) = .ok track) :
    ItemText axis vars name text (some track)

section

variable {axis : Axis} {vars : Variables} {name text : String}
  (hname : IsName (Variables.key name))

include hname

theorem ItemText.readPlainTrack_eq {text : List Char} {item? : Option Track}
    (h : ItemText axis vars name text item?) :
    readPlainTrack axis vars (trim (lower text)) =
      item?.elim (resolve axis vars (Variables.key name)) .ok := by
  rw [trim_lower]
  cases h with
  | reference h => exact (referenceText_trim hname h).readPlainTrack_eq hname
  | track h =>
    unfold Track.read normalize at h
    rwa [String.toList_ofList] at h

theorem readList_of_listText {outline : Outline (Option Track)}
    (h : ListText (ItemText axis vars name) (bare text) outline) (hroom : ¬ outline.Exceeds 0) :
    Track.readList axis vars text = outline.expand.mapM fun item? =>
      item?.elim (resolve axis vars (Variables.key name)) .ok := by
  obtain ⟨pieces, hs⟩ := h.lower.exists_pieces
  rw [readList_eq, readItems_of_splitOutside hs, h.lower.readEach_eq ?_ hs hroom]
  rintro _ item? ⟨written, rfl, hitem⟩
  exact hitem.readPlainTrack_eq hname

theorem listText_of_reference (h : Padded (ReferenceText name) text.toList) :
    ListText (ItemText axis vars name) (bare text) (.single none .nil) := by
  have htext := referenceText_trim hname h
  have hnot := htext.not_mem hname
  have hlast : (trim text.toList).getLast? ≠ some ',' :=
    fun hlast => hnot ',' (by decide) (List.mem_of_getLast? hlast)
  unfold bare
  rw [getD_dropLast?_of_ne hlast]
  refine .single (unbroken_of_not_mem hnot).splitOutside_eq ?_ (.reference (.of_kind htext))
  rw [(htext.trimmed hname).trim_eq, isRepeat, htext.head?_eq]
  rfl

theorem readList_of_reference (h : Padded (ReferenceText name) text.toList) :
    Track.readList axis vars text = (resolve axis vars (Variables.key name)).map ([·]) := by
  have hlist : ListText (ItemText axis vars name) (bare text) _ := listText_of_reference hname h
  rw [readList_of_listText hname hlist (by simp [Outline.Exceeds]), Outline.expand, Outline.expand,
    List.mapM_cons, List.mapM_nil, Option.elim_none]
  cases resolve axis vars (Variables.key name) <;> rfl

end

end TrackGrid.Reading

namespace TrackGrid

open Reading Text

namespace Variables

variable {start : Variables} {edits : List Edit} {axis : Axis} {name : String} {track : Track}

/-- The track came in under the name, and no later edit touches the name; or it has been there from
the start. -/
def Holds (start : Variables) (edits : List Edit) (axis : Axis) (name : String) (track : Track) :
    Prop :=
  (∃ before edit later, edits = before ++ edit :: later ∧ edit.Touches axis name ∧
    edit.track? = some track ∧ ∀ other ∈ later, ¬ other.Touches axis name) ∨
  (start.get? name axis = some track ∧ ∀ edit ∈ edits, ¬ edit.Touches axis name)

theorem holds_iff :
    start.Holds edits axis name track ↔ (edits.foldl after start).get? name axis = some track :=
  get?_foldl_after_eq_some_iff.symm

theorem resolve_of_holds (h : start.Holds edits axis name track) :
    resolve axis (edits.foldl after start) name = .ok track := by
  unfold resolve
  rw [holds_iff.1 h]

theorem resolve_of_not_holds (h : ∀ track, ¬ start.Holds edits axis name track) :
    resolve axis (edits.foldl after start) name = .error (.unmappedVariable name) := by
  unfold resolve
  split
  · rename_i track hget
    exact absurd (holds_iff.2 hget) (h track)
  · rfl

end Variables

namespace Track

open Variables

/-- A reference to a name is read as the track that came in under the name last, in whatever case
the name is written, alone and in lists. It cannot be read if the name was taken away since, or if
nothing came in under it. -/
theorem read_reference (start : Variables) (edits : List Edit) (axis : Axis) {name : String}
    (hname : IsName (key name)) :
    (∀ track, start.Holds edits axis (key name) track →
      (∀ text, Padded (ReferenceText name) text.toList →
        read axis (edits.foldl after start) text = .ok track ∧
          readList axis (edits.foldl after start) text = .ok [track]) ∧
      ∀ text outline,
        ListText (ItemText axis (edits.foldl after start) name) (bare text) outline →
          ¬ outline.Exceeds 0 → readList axis (edits.foldl after start) text =
            .ok (outline.expand.map (·.getD track))) ∧
    ((∀ track, ¬ start.Holds edits axis (key name) track) →
      (∀ text, Padded (ReferenceText name) text.toList →
        read axis (edits.foldl after start) text = .error (.unmappedVariable (key name)) ∧
          readList axis (edits.foldl after start) text = .error (.unmappedVariable (key name))) ∧
      ∀ text outline,
        ListText (ItemText axis (edits.foldl after start) name) (bare text) outline →
          ¬ outline.Exceeds 0 → none ∈ outline.expand →
            readList axis (edits.foldl after start) text =
              .error (.unmappedVariable (key name))) := by
  constructor
  · intro track htrack
    have hresolve := resolve_of_holds htrack
    refine ⟨fun text htext => ⟨?_, ?_⟩, fun text outline houtline hroom => ?_⟩
    · rw [read_of_reference hname htext, hresolve]
    · rw [readList_of_reference hname htext, hresolve]
      rfl
    · rw [readList_of_listText hname houtline hroom, hresolve]
      exact mapM_eq_ok_map fun item? _ => by cases item? <;> rfl
  · intro hnone
    have hresolve := resolve_of_not_holds hnone
    refine ⟨fun text htext => ⟨?_, ?_⟩, fun text outline houtline hroom hmem => ?_⟩
    · rw [read_of_reference hname htext, hresolve]
    · rw [readList_of_reference hname htext, hresolve]
      rfl
    · rw [readList_of_listText hname houtline hroom, hresolve]
      exact mapM_elim_error hmem

/-- The single items of a list in which columns can be named. -/
abbrev SampleItem : List Char → Option Track → Prop :=
  ItemText .horizontal (sampleEdits.foldl after empty) "Field"

theorem listText_sample :
    ListText SampleItem "2*($\x7bfieLD\x7d, 4px), $Field".toList
      (.repeated 2 (by decide) (.single none (.single (some sampleGap) .nil))
        (.single none .nil)) := by
  have hkey : key "fieLD" = key "Field" := by decide
  have hbraced : ReferenceText "Field" "$\x7bfieLD\x7d".toList := .braced hkey
  have hplain : ReferenceText "Field" "$Field".toList := .plain rfl
  have hspace : Blanks [' '] := List.forall_mem_singleton.2 (by decide)
  have hfirst : ListText SampleItem "$\x7bfieLD\x7d".toList (.single none .nil) :=
    .single (by decide) (by decide) (.reference (.of_kind hbraced))
  have hgap : ListText SampleItem " 4px".toList (.single (some sampleGap) .nil) :=
    .single (by decide) (by decide) (.track (toOption_eq_some_iff.1 (by decide +kernel)))
  have hlast : ListText SampleItem " $Field".toList (.single none .nil) :=
    .single (by decide) (by decide) (.reference ⟨_, _, [], hspace, blanks_nil, hplain, rfl⟩)
  have htwo : MultiplierText 2 ("2".toList ++ ([] ++ ['*'])) :=
    .mk ⟨by decide, by decide⟩ (by decide) (by decide) (by decide) (by decide)
  exact .append (.repeated blanks_nil htwo (.group blanks_nil blanks_nil) (hfirst.append hgap))
    hlast

/-- A name that came in as `FIELD` is found in other cases, but not where it was taken away. -/
theorem read_reference_sample :
    IsName (key "Field") ∧
      readList .horizontal (sampleEdits.foldl after empty) "2*($\x7bfieLD\x7d, 4px), $Field," =
        .ok [.glue .horizontal, sampleGap, .glue .horizontal, sampleGap, .glue .horizontal] ∧
      read .vertical (sampleEdits.foldl after empty) " $FIELD" =
        .error (.unmappedVariable "field") := by
  have hname : IsName (key "Field") := ⟨by decide, by decide⟩
  have hkey : key "Field" = "field" := by decide
  refine ⟨hname, ?_, ?_⟩
  · have hholds : Holds empty sampleEdits .horizontal (key "Field") (.glue .horizontal) := by
      rw [hkey, holds_iff]
      decide
    have htext : bare "2*($\x7bfieLD\x7d, 4px), $Field," =
        "2*($\x7bfieLD\x7d, 4px), $Field".toList := by decide
    obtain ⟨hstored, -⟩ := read_reference empty sampleEdits .horizontal hname
    exact (hstored _ hholds).2 _ _ (htext ▸ listText_sample) (by decide)
  · have hnone : ∀ track, ¬ Holds empty sampleEdits .vertical (key "Field") track := by
      intro track htrack
      rw [hkey, holds_iff] at htrack
      cases htrack
    have hspace : Blanks [' '] := List.forall_mem_singleton.2 (by decide)
    have hupper : key "FIELD" = key "Field" := by decide
    obtain ⟨-, hmissing⟩ := read_reference empty sampleEdits .vertical hname
    rw [← hkey]
    exact ((hmissing hnone).1 " $FIELD" ⟨_, _, [], hspace, blanks_nil, .plain hupper, rfl⟩).1

end Track

end TrackGrid
