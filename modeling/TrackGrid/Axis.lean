/-! # The two axes of a form -/

namespace TrackGrid

/-- Columns are the tracks of the horizontal axis, rows those of the vertical one. -/
inductive Axis where
  | horizontal
  | vertical
  deriving DecidableEq

namespace Axis

def name : Axis → String
  | horizontal => "horizontal"
  | vertical => "vertical"

def trackWord : Axis → String
  | horizontal => "column"
  | vertical => "row"

theorem forall_iff {p : Axis → Prop} : (∀ axis, p axis) ↔ p horizontal ∧ p vertical := by
  constructor
  · intro h
    exact ⟨h horizontal, h vertical⟩
  · intro h axis
    cases axis with
    | horizontal => exact h.1
    | vertical => exact h.2

instance {p : Axis → Prop} [DecidablePred p] : Decidable (∀ axis, p axis) :=
  decidable_of_iff _ forall_iff.symm

end Axis

/-! ## One value for each axis -/

/-- A value for the horizontal axis and one for the vertical axis. -/
@[ext] structure PerAxis (α : Type) where
  horizontal : α
  vertical : α
  deriving DecidableEq

namespace PerAxis

variable {α β : Type}

def along (p : PerAxis α) : Axis → α
  | .horizontal => p.horizontal
  | .vertical => p.vertical

def ofFn (f : Axis → α) : PerAxis α := ⟨f .horizontal, f .vertical⟩

def both (a : α) : PerAxis α := ⟨a, a⟩

def map (f : α → β) (p : PerAxis α) : PerAxis β := ⟨f p.horizontal, f p.vertical⟩

def modify (p : PerAxis α) (axis : Axis) (f : α → α) : PerAxis α :=
  match axis with
  | .horizontal => { p with horizontal := f p.horizontal }
  | .vertical => { p with vertical := f p.vertical }

def set (p : PerAxis α) (axis : Axis) (a : α) : PerAxis α := p.modify axis fun _ => a

@[simp] theorem along_ofFn (f : Axis → α) (axis : Axis) : (ofFn f).along axis = f axis := by
  cases axis <;> rfl

@[simp] theorem along_both (a : α) (axis : Axis) : (both a).along axis = a := by
  cases axis <;> rfl

@[simp] theorem along_map (f : α → β) (p : PerAxis α) (axis : Axis) :
    (p.map f).along axis = f (p.along axis) := by
  cases axis <;> rfl

@[simp] theorem along_modify_self (p : PerAxis α) (axis : Axis) (f : α → α) :
    (p.modify axis f).along axis = f (p.along axis) := by
  cases axis <;> rfl

theorem along_modify_of_ne (p : PerAxis α) {axis axis' : Axis} (f : α → α) (h : axis' ≠ axis) :
    (p.modify axis f).along axis' = p.along axis' := by
  cases axis <;> cases axis' <;> first | rfl | exact absurd rfl h

theorem modify_modify_cancel {f g : α → α} (p : PerAxis α) (axis : Axis)
    (h : g (f (p.along axis)) = p.along axis) : (p.modify axis f).modify axis g = p := by
  cases axis with
  | horizontal => exact PerAxis.ext h rfl
  | vertical => exact PerAxis.ext rfl h

@[simp] theorem along_set_self (p : PerAxis α) (axis : Axis) (a : α) :
    (p.set axis a).along axis = a := by
  simp [set]

theorem along_set_of_ne (p : PerAxis α) {axis axis' : Axis} (a : α) (h : axis' ≠ axis) :
    (p.set axis a).along axis' = p.along axis' :=
  along_modify_of_ne p _ h

theorem ext_along {p q : PerAxis α} (h : ∀ axis, p.along axis = q.along axis) : p = q :=
  PerAxis.ext (h .horizontal) (h .vertical)

theorem set_along_self (p : PerAxis α) (axis : Axis) : p.set axis (p.along axis) = p := by
  apply ext_along
  intro axis'
  by_cases h : axis' = axis
  · rw [h, along_set_self]
  · rw [along_set_of_ne p _ h]

end PerAxis

end TrackGrid
