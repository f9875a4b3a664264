import Mathlib.Data.List.Forall2

/-! # When a computation that may fail succeeds -/

namespace TrackGrid

variable {ε ε' α β : Type}

@[simp] theorem pure_eq_ok (a : α) : (pure a : Except ε α) = .ok a := rfl

@[simp] theorem throw_eq_error (e : ε) : (throw e : Except ε α) = .error e := rfl

@[simp] theorem ok_bind (a : α) (f : α → Except ε β) : (Except.ok a >>= f) = f a := rfl

@[simp] theorem error_bind (e : ε) (f : α → Except ε β) : (Except.error e >>= f) = .error e := rfl

@[simp] theorem mapError_ok (a : α) (f : ε → ε') :
    (Except.ok a : Except ε α).mapError f = .ok a := rfl

@[simp] theorem mapError_error (e : ε) (f : ε → ε') :
    (Except.error e : Except ε α).mapError f = .error (f e) := rfl

theorem bind_eq_ok_iff {x : Except ε α} {f : α → Except ε β} {b : β} :
    x >>= f = .ok b ↔ ∃ a, x = .ok a ∧ f a = .ok b := by
  cases x <;> simp

theorem exists_bind_pure_eq_ok_iff {γ : Type} {x : Except ε α} {f : α → β × γ} :
    (∃ b c, (x >>= fun a => pure (f a)) = .ok (b, c)) ↔ ∃ a, x = .ok a := by
  cases x with
  | error e => simp
  | ok a => simp [← Prod.exists (p := (f a = ·))]

theorem bind_eq_ok_iff_of_unique {x : Except ε α} {P : Prop} {a : α}
    (hx : ∀ result, x = .ok result ↔ P ∧ result = a) {f : α → Except ε β} {b : β} :
    x >>= f = .ok b ↔ P ∧ f a = .ok b := by
  simp only [bind_eq_ok_iff, hx, and_assoc, exists_and_left, exists_eq_left]

theorem check_bind_eq_ok_iff {x : Except ε Unit} {f : Unit → Except ε β} {b : β} :
    x >>= f = .ok b ↔ x = .ok () ∧ f () = .ok b := by
  cases x <;> simp

theorem mapError_eq_ok_iff {x : Except ε α} {f : ε → ε'} {a : α} :
    x.mapError f = .ok a ↔ x = .ok a := by
  cases x <;> simp

theorem ite_error_eq_ok_iff {p : Prop} [Decidable p] {e : ε} {x : Except ε α} {a : α} :
    (if p then .error e else x) = .ok a ↔ ¬ p ∧ x = .ok a := by
  split <;> simp [*]

theorem ite_eq_ok_iff {p : Prop} [Decidable p] {e : ε} {x : Except ε α} {a : α} :
    (if p then x else .error e) = .ok a ↔ p ∧ x = .ok a := by
  split <;> simp [*]

theorem toOption_eq_some_iff {x : Except ε α} {a : α} : x.toOption = some a ↔ x = .ok a := by
  cases x <;> simp [Except.toOption]

/-! ## Lists -/

theorem mapM_eq_ok_map {f : α → Except ε β} {g : α → β} {l : List α}
    (h : ∀ a ∈ l, f a = .ok (g a)) : l.mapM f = .ok (l.map g) := by
  induction l with
  | nil => rfl
  | cons a l ih =>
    have hl := ih fun b hb => h b (List.mem_cons_of_mem a hb)
    rw [List.mapM_cons, h a List.mem_cons_self, hl]
    rfl

theorem mapM_eq_ok_iff {f : α → Except ε β} {l : List α} {results : List β} :
    l.mapM f = .ok results ↔ List.Forall₂ (fun a b => f a = .ok b) l results := by
  induction l generalizing results with
  | nil =>
    rw [List.mapM_nil, pure_eq_ok, Except.ok.injEq, List.forall₂_nil_left_iff, eq_comm]
  | cons a l ih =>
    rw [List.mapM_cons, List.forall₂_cons_left_iff]
    simp only [bind_eq_ok_iff, pure_eq_ok, Except.ok.injEq, ih]
    constructor
    · rintro ⟨b, hb, rest, hrest, rfl⟩
      exact ⟨b, rest, hb, hrest, rfl⟩
    · rintro ⟨b, rest, hb, hrest, rfl⟩
      exact ⟨b, hb, rest, hrest, rfl⟩

theorem mapM_eq_ok_iff_map {f : α → Except ε β} {g : α → β} {P : α → Prop}
    (hf : ∀ a b, f a = .ok b ↔ P a ∧ b = g a) {l : List α} {results : List β} :
    l.mapM f = .ok results ↔ (∀ a ∈ l, P a) ∧ results = l.map g := by
  simp only [mapM_eq_ok_iff, hf, List.forall₂_and_left, eq_comm (b := g _)]
  rw [← List.forall₂_map_left_iff (f := g) (R := Eq), List.forall₂_eq_eq_eq, eq_comm]

theorem mapM_map {γ : Type} {f : α → Except ε β} {g : β → γ} {l : List α} :
    l.mapM (fun a => (f a).map g) = (l.mapM f).map (·.map g) := by
  induction l with
  | nil => rfl
  | cons a l ih =>
    rw [List.mapM_cons, List.mapM_cons, ih]
    cases f a with
    | error error => rfl
    | ok b => cases l.mapM f <;> rfl

theorem exists_of_mem_mapM {f : α → Except ε β} {l : List α} {results : List β}
    (h : l.mapM f = .ok results) {b : β} (hb : b ∈ results) : ∃ a ∈ l, f a = .ok b := by
  obtain ⟨hlen, hget⟩ := List.forall₂_iff_get.1 (mapM_eq_ok_iff.1 h)
  obtain ⟨i, hi, rfl⟩ := List.mem_iff_getElem.1 hb
  exact ⟨l[i], List.getElem_mem (hlen ▸ hi), hget i (hlen ▸ hi) hi⟩

theorem exists_mem_of_mapM {f : α → Except ε β} {l : List α} {results : List β}
    (h : l.mapM f = .ok results) {a : α} (ha : a ∈ l) : ∃ b ∈ results, f a = .ok b := by
  obtain ⟨hlen, hget⟩ := List.forall₂_iff_get.1 (mapM_eq_ok_iff.1 h)
  obtain ⟨i, hi, rfl⟩ := List.mem_iff_getElem.1 ha
  exact ⟨results[i], List.getElem_mem (hlen ▸ hi), hget i hi (hlen ▸ hi)⟩

theorem mem_mapM_iff {f : α → Except ε β} {l : List α} {results : List β}
    (h : l.mapM f = .ok results) {b : β} : b ∈ results ↔ ∃ a ∈ l, f a = .ok b := by
  constructor
  · exact exists_of_mem_mapM h
  · rintro ⟨a, ha, hb⟩
    obtain ⟨b', hmem, hb'⟩ := exists_mem_of_mapM h ha
    cases hb.symm.trans hb'
    exact hmem

theorem forall₂_of_mapM {γ : Type} {f : α → Except ε β} {g : α → Except ε γ} {R : β → γ → Prop}
    {l : List α} {results : List β} {results' : List γ} (h : l.mapM f = .ok results)
    (h' : l.mapM g = .ok results')
    (hR : ∀ a ∈ l, ∀ b c, f a = .ok b → g a = .ok c → R b c) : List.Forall₂ R results results' := by
  obtain ⟨hlen, hget⟩ := List.forall₂_iff_get.1 (mapM_eq_ok_iff.1 h)
  obtain ⟨hlen', hget'⟩ := List.forall₂_iff_get.1 (mapM_eq_ok_iff.1 h')
  refine List.forall₂_iff_get.2 ⟨hlen.symm.trans hlen', fun i hi hi' => ?_⟩
  have hl : i < l.length := hlen ▸ hi
  exact hR l[i] (List.getElem_mem hl) _ _ (hget i hl hi) (hget' i hl hi')

theorem forall₂_mapM {f : α → Except ε β} {R : α → β → Prop} {l : List α} {results : List β}
    (h : l.mapM f = .ok results) (hR : ∀ a ∈ l, ∀ b, f a = .ok b → R a b) :
    List.Forall₂ R l results := by
  obtain ⟨hlen, hget⟩ := List.forall₂_iff_get.1 (mapM_eq_ok_iff.1 h)
  exact List.forall₂_iff_get.2
    ⟨hlen, fun i hi hi' => hR l[i] (List.getElem_mem hi) _ (hget i hi hi')⟩

theorem exists_mapM_eq_ok {f : α → Except ε β} {l : List α} (h : ∀ a ∈ l, ∃ b, f a = .ok b) :
    ∃ results, l.mapM f = .ok results := by
  induction l with
  | nil => exact ⟨[], rfl⟩
  | cons a l ih =>
    obtain ⟨b, hb⟩ := h a List.mem_cons_self
    obtain ⟨results, hresults⟩ := ih fun a' ha => h a' (List.mem_cons_of_mem a ha)
    exact ⟨b :: results, by rw [List.mapM_cons, hb, ok_bind, hresults]; rfl⟩

theorem mapM_eq_ok_nil_iff {f : α → Except ε β} {l : List α} : l.mapM f = .ok [] ↔ l = [] := by
  rw [mapM_eq_ok_iff, List.forall₂_nil_right_iff]

theorem mapM_eq_ok_cons_iff {f : α → Except ε β} {l : List α} {b : β} {results : List β} :
    l.mapM f = .ok (b :: results) ↔
      ∃ a rest, l = a :: rest ∧ f a = .ok b ∧ rest.mapM f = .ok results := by
  simp only [mapM_eq_ok_iff, List.forall₂_cons_right_iff]
  constructor
  · rintro ⟨a, rest, hb, hrest, rfl⟩
    exact ⟨a, rest, rfl, hb, hrest⟩
  · rintro ⟨a, rest, rfl, hb, hrest⟩
    exact ⟨a, rest, hb, hrest, rfl⟩

theorem length_of_mapM {f : α → Except ε β} {l : List α} {results : List β}
    (h : l.mapM f = .ok results) : results.length = l.length :=
  (mapM_eq_ok_iff.1 h).length_eq.symm

theorem mapM_flatten_replicate {f : α → Except ε β} {l : List α} {n : Nat} (hpos : 0 < n) :
    (List.replicate n l).flatten.mapM f =
      (l.mapM f).map fun results => (List.replicate n results).flatten := by
  obtain ⟨copies, rfl⟩ := Nat.exists_eq_add_one.2 hpos
  induction copies with
  | zero =>
    rw [List.replicate_one, List.flatten_singleton]
    cases l.mapM f <;> simp [Except.map]
  | succ copies ih =>
    rw [List.replicate_succ, List.flatten_cons, List.mapM_append, ih (Nat.succ_pos copies)]
    cases l.mapM f with
    | error e => rfl
    | ok results => rfl

theorem foldlM_eq_ok_foldl {f : β → α → Except ε β} {g : β → α → β} {l : List α}
    (h : ∀ b, ∀ a ∈ l, f b a = .ok (g b a)) (b : β) : l.foldlM f b = .ok (l.foldl g b) := by
  induction l generalizing b with
  | nil => rfl
  | cons a l ih =>
    rw [List.foldlM_cons, h b a List.mem_cons_self]
    exact ih (fun b c hc => h b c (List.mem_cons_of_mem a hc)) (g b a)

theorem forM_eq_ok_iff {f : α → Except ε Unit} {l : List α} :
    l.forM f = .ok () ↔ ∀ a ∈ l, f a = .ok () := by
  induction l with
  | nil => simp
  | cons a l ih =>
    change (f a >>= fun _ => l.forM f) = .ok () ↔ _
    rw [check_bind_eq_ok_iff, ih, List.forall_mem_cons]

theorem mapM_eq_error {f : α → Except ε β} {p : α → Bool} {error : α → ε} {l : List α} {a : α}
    (hok : ∀ a, p a = true → ∃ b, f a = .ok b) (herr : ∀ a, p a = false → f a = .error (error a))
    (ha : l.find? (fun a => !p a) = some a) : l.mapM f = .error (error a) := by
  induction l with
  | nil => cases ha
  | cons first l ih =>
    rw [List.mapM_cons]
    cases hp : p first with
    | false =>
      rw [List.find?_cons_of_pos (by simp [hp])] at ha
      cases ha
      rw [herr a hp, error_bind]
    | true =>
      rw [List.find?_cons_of_neg (by simp [hp])] at ha
      obtain ⟨b, hb⟩ := hok first hp
      rw [hb, ok_bind, ih ha, error_bind]

theorem mapM_elim_error {items : List (Option β)} {error : ε} (h : none ∈ items) :
    items.mapM (fun item? => item?.elim (.error error) .ok) =
      (.error error : Except ε (List β)) := by
  induction items with
  | nil => cases h
  | cons item? items ih =>
    rw [List.mapM_cons]
    cases item? with
    | none => rfl
    | some item =>
      rw [ih ((List.mem_cons.1 h).resolve_left nofun)]
      rfl

end TrackGrid
