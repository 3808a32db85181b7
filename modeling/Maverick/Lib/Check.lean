import Mathlib.Data.List.Basic

/-!
# Checks that stop at the first failure

Validation code is a sequence of checks, each of which either passes or stops
with an error.  A sequence passes exactly when every check in it does
(`Check.bind_eq_ok`, `Check.seq_eq_ok`, `Check.each_eq_ok`), so a successful
validation can be taken apart into the facts it has established.
-/

namespace Maverick
namespace Lib
namespace Check

variable {ε α β : Type}

/-- Fail with `e` if `c` holds. -/
def failIf (c : Prop) [Decidable c] (e : ε) : Except ε Unit :=
  if c then .error e else .ok ()

@[simp] theorem failIf_eq_ok {c : Prop} [Decidable c] {e : ε} {u : Unit} :
    failIf c e = .ok u ↔ ¬ c := by
  by_cases h : c <;> simp [failIf, h]

theorem bind_eq_ok {x : Except ε α} {f : α → Except ε β} {b : β} :
    (x >>= f) = .ok b ↔ ∃ a, x = .ok a ∧ f a = .ok b := by
  cases x with
  | error e => simp [bind, Except.bind]
  | ok a => simp [bind, Except.bind]

/-- A check followed by more passes exactly when both pass. -/
theorem seq_eq_ok {x : Except ε Unit} {y : Unit → Except ε β} {b : β} :
    (x >>= y) = .ok b ↔ x = .ok () ∧ y () = .ok b := by
  rw [bind_eq_ok]
  constructor
  · rintro ⟨⟨⟩, hx, hy⟩; exact ⟨hx, hy⟩
  · rintro ⟨hx, hy⟩; exact ⟨(), hx, hy⟩

theorem map_eq_ok {x : Except ε α} {g : α → β} {b : β} :
    x.map g = .ok b ↔ ∃ a, x = .ok a ∧ g a = b := by
  cases x <;> simp [Except.map]

theorem mapError_eq_ok {ε' : Type} {x : Except ε α} {g : ε → ε'} {a : α} :
    x.mapError g = .ok a ↔ x = .ok a := by
  cases x <;> simp [Except.mapError]

/-- Run a check on each element of a list, in order. -/
def each (f : α → Except ε Unit) : List α → Except ε Unit
  | [] => .ok ()
  | x :: xs => do f x; each f xs

/-- It passes exactly when it passes for every element. -/
theorem each_eq_ok {f : α → Except ε Unit} {l : List α} :
    each f l = .ok () ↔ ∀ x ∈ l, f x = .ok () := by
  induction l with
  | nil => simp [each]
  | cons x xs ih =>
    rw [each, seq_eq_ok, ih, List.forall_mem_cons]

end Check
end Lib
end Maverick
