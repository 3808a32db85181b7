import Mathlib.Data.List.Basic

/-!
# Slots

A store that hands out small numbers as handles: a value goes into the first
empty slot, so the handle of a removed value is given out again.

* `get_add`, `get_add_handle`, `get_add_of_get` — a new value takes a handle that was not in use
  and no other handle changes.
* `get_modify`, `get_remove` — an operation on one handle leaves the others alone.
-/

namespace Maverick
namespace Lib

/-- A list of slots, each empty or with a value in it. -/
abbrev Slots (α : Type) := List (Option α)

namespace Slots

variable {α : Type}

/-- The value behind a handle. -/
def get : Slots α → Nat → Option α
  | [], _ => none
  | slot :: _, 0 => slot
  | _ :: t, h + 1 => get t h

/-- Put a value into the first empty slot. -/
def add : Slots α → α → Slots α × Nat
  | [], a => ([some a], 0)
  | none :: t, a => (some a :: t, 0)
  | some b :: t, a => (some b :: (add t a).1, (add t a).2 + 1)

/-- Change the value behind a handle, where there is one. -/
def modify : Slots α → Nat → (α → α) → Slots α
  | [], _, _ => []
  | slot :: t, 0, f => slot.map f :: t
  | slot :: t, h + 1, f => slot :: modify t h f

/-- Empty the slot behind a handle. -/
def remove : Slots α → Nat → Slots α
  | [], _ => []
  | _ :: t, 0 => none :: t
  | slot :: t, h + 1 => slot :: remove t h

/-- The handle of a new value was not in use. -/
theorem get_add_handle (t : Slots α) (a : α) : t.get (t.add a).2 = none := by
  induction t with
  | nil => rfl
  | cons slot t ih => cases slot <;> simp [add, get, ih]

theorem get_add (t : Slots α) (a : α) (h : Nat) :
    (t.add a).1.get h = if h = (t.add a).2 then some a else t.get h := by
  induction t generalizing h with
  | nil => cases h <;> simp [add, get]
  | cons slot t ih => cases slot <;> cases h <;> simp [add, get, ih]

/-- What is there stays. -/
theorem get_add_of_get {t : Slots α} {h : Nat} {b : α} (hb : t.get h = some b) (a : α) :
    (t.add a).1.get h = some b := by
  rw [get_add, if_neg, hb]
  rintro rfl
  rw [get_add_handle] at hb
  cases hb

theorem get_modify (t : Slots α) (h : Nat) (f : α → α) (g : Nat) :
    (t.modify h f).get g = if g = h then (t.get g).map f else t.get g := by
  induction t generalizing h g with
  | nil => simp [modify, get]
  | cons slot t ih => cases h <;> cases g <;> simp [modify, get, ih]

theorem get_remove (t : Slots α) (h g : Nat) :
    (t.remove h).get g = if g = h then none else t.get g := by
  induction t generalizing h g with
  | nil => simp [remove, get]
  | cons slot t ih => cases h <;> cases g <;> simp [remove, get, ih]

end Slots
end Lib
end Maverick
