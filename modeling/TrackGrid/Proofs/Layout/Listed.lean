import TrackGrid.Proofs.Layout.Preferred

/-! # What a layout depends on

A pass sees the tracks and groups of the grid and the components that are listed. Main statement:
the order of the list, repetitions in it, and components that are not listed make no difference.
-/

namespace TrackGrid

open Pixels

/-! ## Lists with the same members -/

/-- The lists have the same members, in whatever order and however often. -/
def SameMembers {α : Type} (list list' : List α) : Prop := ∀ a, a ∈ list ↔ a ∈ list'

namespace SameMembers

variable {α β : Type} {list list' : List α} {sizes sizes' : List Int}

theorem symm (h : SameMembers list list') : SameMembers list' list := fun a => (h a).symm

theorem cons (a : α) (h : SameMembers list list') : SameMembers (a :: list) (a :: list') := by
  intro b
  rw [List.mem_cons, List.mem_cons, h b]

theorem map (f : α → β) (h : SameMembers list list') :
    SameMembers (list.map f) (list'.map f) := by
  intro b
  simp only [List.mem_map, h _]

theorem filter (p : α → Bool) (h : SameMembers list list') :
    SameMembers (list.filter p) (list'.filter p) := by
  intro a
  rw [List.mem_filter, List.mem_filter, h a]

theorem max?_eq (h : SameMembers sizes sizes') : sizes.max? = sizes'.max? := by
  cases hmax : sizes'.max? with
  | none =>
    rw [List.max?_eq_none_iff] at hmax ⊢
    exact List.eq_nil_iff_forall_not_mem.2 fun a ha => by simpa [hmax] using (h a).1 ha
  | some largest =>
    obtain ⟨hmem, hle⟩ := List.max?_eq_some_iff.1 hmax
    exact List.max?_eq_some_iff.2
      ⟨(h largest).2 hmem, fun size hsize => hle size ((h size).1 hsize)⟩

theorem foldl_max_eq (h : SameMembers sizes sizes') (start : Int) :
    sizes.foldl max start = sizes'.foldl max start := by
  have hmax := (h.cons start).max?_eq
  rw [List.max?_cons', List.max?_cons'] at hmax
  exact Option.some.inj hmax

theorem exists_mapM {ε : Type} {f f' : α → Except ε β} (h : SameMembers list list')
    (hf : ∀ a ∈ list, f' a = f a) {results : List β} (hresults : list.mapM f = .ok results) :
    ∃ results', list'.mapM f' = .ok results' ∧ SameMembers results results' := by
  have hall : ∀ a ∈ list', ∃ b, f' a = .ok b := by
    intro a ha
    have hmem := (h a).2 ha
    obtain ⟨b, -, hb⟩ := exists_mem_of_mapM hresults hmem
    exact ⟨b, (hf a hmem).trans hb⟩
  obtain ⟨results', hresults'⟩ := exists_mapM_eq_ok hall
  refine ⟨results', hresults', fun b => ?_⟩
  rw [mem_mapM_iff hresults, mem_mapM_iff hresults']
  constructor
  · rintro ⟨a, ha, hb⟩
    exact ⟨a, (h a).1 ha, (hf a ha).trans hb⟩
  · rintro ⟨a, ha, hb⟩
    have hmem := (h a).2 ha
    exact ⟨a, hmem, (hf a hmem).symm.trans hb⟩

end SameMembers

/-! ## Size groups -/

namespace Component

variable {axis : Axis} {components components' : List Component}

variable (h : SameMembers components components')

include h

theorem sharedExtent_congr (axis : Axis) (component : Component) :
    component.sharedExtent axis components = component.sharedExtent axis components' := by
  have hgroup (group : Nat) :
      groupExtent? axis group components = groupExtent? axis group components' := by
    refine Extent.ext_map_get fun basis => ?_
    rw [map_get_groupExtent?, map_get_groupExtent?]
    exact (((h.filter _).map _).map _).max?_eq
  rw [sharedExtent, sharedExtent, funext hgroup]

theorem sameMembers_shareExtents :
    SameMembers (shareExtents components) (shareExtents components') := by
  simp only [shareExtents, sharedExtent_congr h]
  exact h.map _

end Component

/-! ## Tracks -/

theorem Basis.largest_congr {members members' : List Extent} (h : SameMembers members members')
    (basis : Basis) : basis.largest members = basis.largest members' := by
  rw [largest, largest, (h.map _).max?_eq]

theorem Size.toPixels_congr {members members' : List Extent} (h : SameMembers members members')
    (size : Size) (axis : Axis) (metrics : Metrics) :
    size.toPixels axis metrics members = size.toPixels axis metrics members' := by
  cases size with
  | constant length => rfl
  | component basis => exact basis.largest_congr h
  | bounded basis bounds => exact congrArg (bounds.apply axis metrics) (basis.largest_congr h)

namespace Grid

variable {grid other : Grid} {components components' : List Component}

section

variable (htracks : other.tracks = grid.tracks) (hgroups : other.groups = grid.groups)
  (h : SameMembers components components')

include htracks h

theorem ownSizes_congr (axis : Axis) (metrics : Metrics) (see : Extent → Extent) :
    other.ownSizes axis metrics components' see = grid.ownSizes axis metrics components see := by
  have hmembers (index : Nat) : SameMembers ((membersOf axis index components').map see)
      ((membersOf axis index components).map see) := ((h.symm.filter _).map _).map _
  simp only [ownSizes, htracks, Size.toPixels_congr (hmembers _)]

include hgroups

theorem needs_congr (axis : Axis) (metrics : Metrics) :
    other.needs axis metrics components' = grid.needs axis metrics components := by
  rw [needs_eq, needs_eq, hgroups, ownSizes_congr htracks h, ownSizes_congr htracks h]

theorem arrange_congr (container : Rect) (options : Options) :
    other.arrange container components' options = grid.arrange container components options := by
  funext axis
  rw [arrange, arrange, htracks, hgroups, needs_congr htracks hgroups h]

end

theorem formExtent_congr (h : SameMembers components components') (axis : Axis) (basis : Basis)
    (sizes : List Int) (options : Options) :
    formExtent axis basis sizes components' options =
      formExtent axis basis sizes components options := by
  rw [formExtent, formExtent, ((h.symm.filter _).map _).foldl_max_eq]

/-! ## Components of two grids -/

/-- The grids have the same tracks and groups, and the lists have the same keys. The components with
these keys have the same cells and measures; the other components of the grids may differ. -/
structure Alike (grid other : Grid) (keys keys' : List String) (measure measure' : Measure) :
    Prop where
  tracks : other.tracks = grid.tracks
  groups : other.groups = grid.groups
  listed : SameMembers keys keys'
  cells : ∀ key ∈ keys, other.cells.get? key = grid.cells.get? key
  measures : ∀ key ∈ keys, measure' key = measure key

variable {keys keys' : List String} {measure measure' : Measure}

namespace Alike

variable (h : grid.Alike other keys keys' measure measure')

include h

theorem symm : other.Alike grid keys' keys measure' measure where
  tracks := h.tracks.symm
  groups := h.groups.symm
  listed := h.listed.symm
  cells key hkey := (h.cells key ((h.listed key).2 hkey)).symm
  measures key hkey := (h.measures key ((h.listed key).2 hkey)).symm

theorem component_eq {key : String} (hkey : key ∈ keys) :
    other.component measure' key = grid.component measure key := by
  rw [Grid.component, Grid.component, h.cells key hkey, h.measures key hkey]

theorem exists_components (hc : grid.components measure keys = .ok components) :
    ∃ components', other.components measure' keys' = .ok components' ∧
      SameMembers components components' := by
  obtain ⟨measured, hmeasured, hfits, rfl⟩ := components_eq_ok_iff.1 hc
  obtain ⟨measured', hmeasured', hsame⟩ :=
    h.listed.exists_mapM (fun _ hkey => h.component_eq hkey) hmeasured
  have hcounts : other.counts = grid.counts :=
    congrArg PerAxis.ofFn (funext fun axis => by rw [count, count, h.tracks])
  refine ⟨Component.shareExtents measured', ?_, Component.sameMembers_shareExtents hsame⟩
  refine components_eq_ok_iff.2 ⟨measured', hmeasured', fun component hmem => ?_, rfl⟩
  rw [hcounts]
  exact hfits component ((hsame component).2 hmem)

end Alike

theorem get?_rects_eq_some_iff (hc : grid.components measure keys = .ok components)
    (boundaries : PerAxis (List Int)) {key : String} {rect : Rect} :
    (grid.rects boundaries components).get? key = some rect ↔
      ∃ component ∈ components, component.key = key ∧ grid.rectOf boundaries component = rect := by
  constructor
  · intro hrect
    have hkey : key ∈ (grid.rects boundaries components).keys :=
      (Table.contains_iff_mem_keys _ _).1 (by rw [Table.contains, hrect]; rfl)
    rw [keys_rects, List.mem_eraseDups] at hkey
    obtain ⟨component, hmem, rfl⟩ := List.mem_map.1 hkey
    exact ⟨component, hmem, rfl, Option.some.inj ((get?_rects hc hmem boundaries).symm.trans hrect)⟩
  · rintro ⟨component, hmem, rfl, rfl⟩
    exact get?_rects hc hmem boundaries

theorem get?_rects_congr (h : grid.Alike other keys keys' measure measure')
    (hc : grid.components measure keys = .ok components)
    (hc' : other.components measure' keys' = .ok components')
    (hsame : SameMembers components components') (boundaries : PerAxis (List Int)) (key : String) :
    (other.rects boundaries components').get? key =
      (grid.rects boundaries components).get? key := by
  have hrect : other.rectOf boundaries = grid.rectOf boundaries := by
    funext component
    rw [rectOf, rectOf, h.tracks]
  apply Option.ext
  intro rect
  rw [get?_rects_eq_some_iff hc', get?_rects_eq_some_iff hc, hrect]
  simp only [hsame _]

/-! ## Results of two grids -/

/-- What is laid out decides the result. Two passes over the same components, with the same tracks
and groups, both fail, or they agree on all boundaries, on the rectangle of every component, and on
the sizes of the form. -/
theorem pass_of_alike (h : grid.Alike other keys keys' measure measure') (container : Rect)
    (options : Options) :
    (∃ error error',
      grid.layout container keys measure options = .error error ∧
      other.layout container keys' measure' options = .error error' ∧
      grid.minimumSize keys measure options = .error error ∧
      other.minimumSize keys' measure' options = .error error' ∧
      grid.preferredSize keys measure options = .error error ∧
      other.preferredSize keys' measure' options = .error error') ∨
    ∃ layout layout' minimum preferred,
      grid.layout container keys measure options = .ok layout ∧
      other.layout container keys' measure' options = .ok layout' ∧
      layout'.boundaries = layout.boundaries ∧
      (∀ key, layout'.rects.get? key = layout.rects.get? key) ∧
      grid.minimumSize keys measure options = .ok minimum ∧
      other.minimumSize keys' measure' options = .ok minimum ∧
      grid.preferredSize keys measure options = .ok preferred ∧
      other.preferredSize keys' measure' options = .ok preferred := by
  cases hc : grid.components measure keys with
  | error error =>
    left
    -- The two lists may name different keys first, so the errors need not be the same.
    cases hc' : other.components measure' keys' with
    | error error' =>
      exact ⟨error, error', by rw [layout, hc, error_bind], by rw [layout, hc', error_bind],
        by rw [minimumSize, formSize, hc, error_bind],
        by rw [minimumSize, formSize, hc', error_bind],
        by rw [preferredSize, formSize, hc, error_bind],
        by rw [preferredSize, formSize, hc', error_bind]⟩
    | ok components' =>
      obtain ⟨components, hok, -⟩ := h.symm.exists_components hc'
      cases hc.symm.trans hok
  | ok components =>
    right
    obtain ⟨components', hc', hsame⟩ := h.exists_components hc
    have hextent (basis : Basis) (sizes : Needs → List Int) :
        other.formSize basis sizes keys' measure' options =
          grid.formSize basis sizes keys measure options := by
      simp only [formSize, hc, hc', ok_bind, needs_congr h.tracks h.groups hsame,
        formExtent_congr hsame]
    refine ⟨_, _, _, _, by rw [layout, hc]; rfl, by rw [layout, hc']; rfl, ?_, ?_,
      by rw [minimumSize, formSize, hc]; rfl, by rw [minimumSize, hextent, formSize, hc]; rfl,
      by rw [preferredSize, formSize, hc]; rfl, by rw [preferredSize, hextent, formSize, hc]; rfl⟩
    · exact congrArg PerAxis.ofFn (arrange_congr h.tracks h.groups hsame container options)
    · intro key
      dsimp only
      rw [arrange_congr h.tracks h.groups hsame]
      exact get?_rects_congr h hc hc' hsame _ key

/-- The titled form with a large note in the column of its label. -/
def annotated : Grid := after titled (.place "note" { start := ⟨1, 1⟩ })

def annotatedMeasure : Measure :=
  .ofTable ⟨[("title", ⟨⟨0, 100, 100⟩, ⟨0, 5, 5⟩⟩), ("note", ⟨⟨0, 500, 500⟩, ⟨0, 500, 500⟩⟩),
    ("label", ⟨⟨0, 10, 10⟩, ⟨0, 5, 5⟩⟩)]⟩

theorem alike_annotated : titled.Alike annotated ["label", "title"] ["title", "label", "title"]
    titledMeasure annotatedMeasure where
  tracks := by decide +kernel
  groups := by decide +kernel
  listed := by simp [SameMembers, or_comm, or_left_comm]
  cells := by decide +kernel
  measures := by decide +kernel

/-- The note is 500 pixels wide, but it is not laid out, so the form is as large as without it. -/
theorem pass_of_annotated :
    ∃ layout preferred,
      annotated.layout ⟨⟨0, 0⟩, ⟨110, 5⟩⟩ ["title", "label", "title"] annotatedMeasure {} =
        .ok layout ∧
      annotated.preferredSize ["title", "label", "title"] annotatedMeasure {} = .ok preferred ∧
      layout.boundaries.horizontal = [0, 10, 80, 110] ∧ preferred.horizontal = 110 ∧
      layout.rects.get? "title" = some ⟨⟨10, 0⟩, ⟨100, 5⟩⟩ ∧ layout.rects.get? "note" = none := by
  have hl : titled.layout ⟨⟨0, 0⟩, ⟨110, 5⟩⟩ ["label", "title"] titledMeasure {} = .ok _ := rfl
  have hsize : titled.preferredSize ["label", "title"] titledMeasure {} = .ok _ := rfl
  rcases pass_of_alike alike_annotated ⟨⟨0, 0⟩, ⟨110, 5⟩⟩ {} with
    ⟨_, _, herror, -⟩ | ⟨_, layout, _, preferred, hok, hok', hbounds, hrects, -, -, hpref, hpref'⟩
  · cases hl.symm.trans herror
  · obtain rfl := Except.ok.inj (hl.symm.trans hok)
    obtain rfl := Except.ok.inj (hsize.symm.trans hpref)
    exact ⟨layout, _, hok', hpref',
      (congrArg PerAxis.horizontal hbounds).trans (by decide +kernel), by decide +kernel,
      (hrects "title").trans (by decide +kernel), (hrects "note").trans (by decide +kernel)⟩

end Grid

end TrackGrid
