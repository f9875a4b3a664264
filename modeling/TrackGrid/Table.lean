/-! # Tables that keep the order of insertion -/

namespace TrackGrid

/-- Values under names, in the order in which the names came in. -/
structure Table (α : Type) where
  entries : List (String × α) := []
  deriving DecidableEq

namespace Table

variable {α β : Type}

def get? (table : Table α) (key : String) : Option α :=
  (table.entries.find? (·.1 = key)).map (·.2)

def contains (table : Table α) (key : String) : Bool := (table.get? key).isSome

/-- Replaces the value of a name in its place, or adds a new name at the end. -/
def insert (table : Table α) (key : String) (value : α) : Table α :=
  if table.contains key then
    ⟨table.entries.map fun entry => if entry.1 = key then (key, value) else entry⟩
  else ⟨table.entries ++ [(key, value)]⟩

def erase (table : Table α) (key : String) : Table α :=
  ⟨table.entries.filter fun entry => entry.1 ≠ key⟩

def map (f : α → β) (table : Table α) : Table β :=
  ⟨table.entries.map fun entry => (entry.1, f entry.2)⟩

def keys (table : Table α) : List String := table.entries.map (·.1)

def values (table : Table α) : List α := table.entries.map (·.2)

def size (table : Table α) : Nat := table.entries.length

/-! ## What each operation does to a look-up -/

theorem get?_insert_self (table : Table α) (key : String) (value : α) :
    (table.insert key value).get? key = some value := by
  unfold insert contains get?
  split
  · rename_i h
    rw [Option.isSome_map, Option.isSome_iff_exists] at h
    obtain ⟨entry, h⟩ := h
    obtain ⟨hk, before, after, he, hb⟩ := List.find?_eq_some_iff_append.1 h
    simp only [decide_eq_true_eq] at hk
    simp only [he, List.map_append, List.map_cons, hk, if_true, List.find?_append]
    have hn : List.find? (fun x => decide (x.1 = key))
        (before.map fun entry => if entry.1 = key then (key, value) else entry) = none := by
      simp only [List.find?_eq_none, List.mem_map]
      rintro _ ⟨entry', he', rfl⟩
      have := hb entry' he'
      simp_all
    simp [hn]
  · rename_i h
    simp only [Option.isSome_map, Bool.not_eq_true, Option.isSome_eq_false_iff,
      Option.isNone_iff_eq_none] at h
    simp [List.find?_append, h]

theorem get?_insert_of_ne (table : Table α) {key other : String} (value : α) (h : other ≠ key) :
    (table.insert key value).get? other = table.get? other := by
  unfold insert get?
  split
  · simp only [List.find?_map]
    rw [show ((fun x : String × α => decide (x.1 = other)) ∘
        fun entry => if entry.1 = key then (key, value) else entry) =
        fun entry => decide (entry.1 = other) from ?_]
    · cases hf : table.entries.find? (fun entry => decide (entry.1 = other)) with
      | none => rfl
      | some entry =>
        have := List.find?_some hf
        simp only [decide_eq_true_eq] at this
        simp [this, h]
    · funext entry
      by_cases he : entry.1 = key <;> simp [he, Ne.symm h]
  · simp [List.find?_append, Ne.symm h]

theorem get?_erase_self (table : Table α) (key : String) : (table.erase key).get? key = none := by
  simp [erase, get?, List.find?_filter]

theorem get?_erase_of_ne (table : Table α) {key other : String} (h : other ≠ key) :
    (table.erase key).get? other = table.get? other := by
  unfold erase get?
  rw [List.find?_filter]
  congr 2
  funext entry
  by_cases he : entry.1 = other <;> simp [he, h]

theorem get?_foldl_insert {l : List β} {key : β → String} {value : β → α} {b : β}
    {table : Table α} (h : ∀ a ∈ l, key a = key b → a = b)
    (hb : b ∈ l ∨ table.get? (key b) = some (value b)) :
    (l.foldl (fun table a => table.insert (key a) (value a)) table).get? (key b) =
      some (value b) := by
  induction l generalizing table with
  | nil => exact hb.resolve_left List.not_mem_nil
  | cons a l ih =>
    apply ih fun a ha => h a (List.mem_cons_of_mem _ ha)
    by_cases hkey : key a = key b
    · rw [h a List.mem_cons_self hkey]
      exact .inr (get?_insert_self ..)
    · rcases hb with hb | hb
      · rcases List.mem_cons.1 hb with rfl | hb
        · exact absurd rfl hkey
        · exact .inl hb
      · exact .inr ((get?_insert_of_ne table _ (Ne.symm hkey)).trans hb)

theorem get?_map (f : α → β) (table : Table α) (key : String) :
    (table.map f).get? key = (table.get? key).map f := by
  unfold map get?
  simp only [List.find?_map, Option.map_map]
  rfl

theorem map_insert (f : α → β) (table : Table α) (key : String) (value : α) :
    (table.insert key value).map f = (table.map f).insert key (f value) := by
  have hcontains : (table.map f).contains key = table.contains key := by
    rw [contains, contains, get?_map, Option.isSome_map]
  rw [insert, insert, hcontains]
  split
  · simp only [map, List.map_map, Table.mk.injEq]
    apply List.map_congr_left
    intro entry _
    simp only [Function.comp_apply]
    split <;> rfl
  · simp [map]

theorem map_foldl_insert {γ : Type} (f : α → β) (l : List γ) (key : γ → String) (value : γ → α)
    (table : Table α) :
    (l.foldl (fun table c => table.insert (key c) (value c)) table).map f =
      l.foldl (fun table c => table.insert (key c) (f (value c))) (table.map f) := by
  induction l generalizing table with
  | nil => rfl
  | cons c l ih => rw [List.foldl_cons, List.foldl_cons, ih, map_insert]

/-! ## What each operation does to the names and the values -/

theorem contains_iff_mem_keys (table : Table α) (key : String) :
    table.contains key = true ↔ key ∈ table.keys := by
  simp only [contains, get?, keys, Option.isSome_map, List.find?_isSome, List.mem_map]
  simp only [decide_eq_true_eq]

theorem keys_insert (table : Table α) (key : String) (value : α) :
    (table.insert key value).keys =
      if key ∈ table.keys then table.keys else table.keys ++ [key] := by
  rw [insert]
  by_cases h : table.contains key = true
  · rw [if_pos h, if_pos ((contains_iff_mem_keys table key).1 h)]
    simp only [keys, List.map_map]
    apply List.map_congr_left
    intro entry _
    by_cases he : entry.1 = key <;> simp [he]
  · rw [if_neg h, if_neg (mt (contains_iff_mem_keys table key).2 h)]
    simp [keys]

theorem keys_foldl_insert (l : List β) (key : β → String) (value : β → α) (table : Table α) :
    (l.foldl (fun table b => table.insert (key b) (value b)) table).keys =
      table.keys ++ ((l.map key).filter (· ∉ table.keys)).eraseDups := by
  induction l generalizing table with
  | nil => simp
  | cons b l ih =>
    rw [List.foldl_cons, ih, keys_insert, List.map_cons]
    by_cases h : key b ∈ table.keys
    · rw [if_pos h, List.filter_cons_of_neg (by simpa using h)]
    · rw [if_neg h, List.filter_cons_of_pos (by simpa using h), List.eraseDups_cons,
        List.append_assoc, List.singleton_append, List.filter_filter]
      congr 3
      apply List.filter_congr
      intro name _
      by_cases hn : name = key b <;> simp [hn]

theorem keys_ofList (l : List β) (key : β → String) (value : β → α) :
    (l.foldl (fun table b => table.insert (key b) (value b)) ({} : Table α)).keys =
      (l.map key).eraseDups := by
  rw [keys_foldl_insert, List.filter_eq_self.2 (by simp [keys])]
  rfl

@[simp] theorem values_map (f : α → β) (table : Table α) :
    (table.map f).values = table.values.map f := by
  simp [values, map]

theorem map_map_cancel {f : α → β} {g : β → α} (table : Table α)
    (h : ∀ a, g (f a) = a) : (table.map f).map g = table := by
  cases table with
  | mk entries => simp [map, Function.comp_def, h]

theorem others_insert (table : Table α) (key : String) (value : α) :
    (table.insert key value).entries.filter (·.1 ≠ key) = table.entries.filter (·.1 ≠ key) := by
  unfold insert
  split
  · have hkeys : (fun entry : String × α => decide (entry.1 ≠ key)) ∘
        (fun entry => if entry.1 = key then (key, value) else entry) =
        fun entry => decide (entry.1 ≠ key) := by
      funext entry
      by_cases h : entry.1 = key <;> simp [h]
    rw [List.filter_map, hkeys]
    refine (List.map_congr_left fun entry hentry => ?_).trans (List.map_id _)
    simp only [List.mem_filter, decide_eq_true_eq] at hentry
    exact if_neg hentry.2
  · simp

theorem others_erase (table : Table α) (key : String) :
    (table.erase key).entries.filter (·.1 ≠ key) = table.entries.filter (·.1 ≠ key) := by
  simp [erase, List.filter_filter]

theorem mem_values_insert {table : Table α} {key : String} {value a : α}
    (h : a ∈ (table.insert key value).values) : a = value ∨ a ∈ table.values := by
  simp only [values, insert] at *
  split at h
  · simp only [List.map_map, List.mem_map, Function.comp] at h
    obtain ⟨entry, he, rfl⟩ := h
    split
    · exact .inl rfl
    · exact .inr (List.mem_map_of_mem he)
  · simp only [List.map_append, List.map_cons, List.map_nil, List.mem_append,
      List.mem_singleton] at h
    exact h.symm

theorem mem_values_erase {table : Table α} {key : String} {a : α}
    (h : a ∈ (table.erase key).values) : a ∈ table.values := by
  simp only [values, erase, List.mem_map, List.mem_filter] at *
  obtain ⟨entry, ⟨he, -⟩, rfl⟩ := h
  exact ⟨entry, he, rfl⟩

theorem mem_values_of_get? {table : Table α} {key : String} {a : α}
    (h : table.get? key = some a) : a ∈ table.values := by
  obtain ⟨entry, he, rfl⟩ := Option.map_eq_some_iff.1 h
  exact List.mem_map_of_mem (List.mem_of_find?_eq_some he)

end Table

end TrackGrid
