import Mathlib.Tactic

/-!
# Machine integers: checked and saturating arithmetic

The overflow-aware operations on `i64` and on the unsigned counters, as the
standard library documents them, with the equations that turn them into
integer arithmetic.

* `checkedSub`, `checkedAdd`, `saturatingSub` — on `Int64`, through `toInt`.
* `satSucc` — `saturating_add(1)` on a counter of `w` bits, kept as a natural
  number below `2 ^ w`.
* `addChecked`, `mulChecked`, `satAdd` — on unsigned integers of `w` bits, kept as
  natural numbers.
-/

namespace Maverick
namespace Lib

/-! ## Signed 64-bit integers -/

/-- The integer as an `i64`, if it fits. -/
def toI64 (n : Int) : Option Int64 :=
  if -2 ^ 63 ≤ n ∧ n < 2 ^ 63 then some (Int64.ofInt n) else none

/-- `i64::checked_sub` -/
def checkedSub (a b : Int64) : Option Int64 := toI64 (a.toInt - b.toInt)

/-- `i64::checked_add` -/
def checkedAdd (a b : Int64) : Option Int64 := toI64 (a.toInt + b.toInt)

/-- `i64::saturating_sub` -/
def saturatingSub (a b : Int64) : Int64 :=
  if a.toInt - b.toInt < -2 ^ 63 then Int64.minValue
  else if 2 ^ 63 ≤ a.toInt - b.toInt then Int64.maxValue
  else Int64.ofInt (a.toInt - b.toInt)

variable {x : Int64} {w n a b : Nat}

theorem toInt_of_toI64 {n : Int} (h : toI64 n = some x) : x.toInt = n := by
  obtain ⟨hn, heq⟩ := Option.ite_none_right_eq_some.mp h
  cases heq
  exact Int64.toInt_ofInt_of_le hn.1 hn.2

theorem toI64_eq_none {n : Int} : toI64 n = none ↔ n < -2 ^ 63 ∨ 2 ^ 63 ≤ n := by
  simp [toI64]
  omega

/-- Where the checked subtraction succeeds, the saturating one agrees with it. -/
theorem saturatingSub_of_checkedSub {a b : Int64} (h : checkedSub a b = some x) :
    saturatingSub a b = x := by
  have hx := toInt_of_toI64 h
  have hlt := x.toInt_lt
  have hle := x.le_toInt
  unfold saturatingSub
  rw [if_neg (by omega), if_neg (by omega), ← hx, Int64.ofInt_toInt]

/-! ## Saturating counters -/

/-- `saturating_add(1)` on a counter of `w` bits. -/
def satSucc (w n : Nat) : Nat := if n + 1 < 2 ^ w then n + 1 else n

theorem satSucc_of_lt (h : n + 1 < 2 ^ w) : satSucc w n = n + 1 := if_pos h

/-! ## Unsigned integers -/

/-- `checked_add` on unsigned integers of `w` bits. -/
def addChecked (w a b : Nat) : Option Nat := if a + b < 2 ^ w then some (a + b) else none

/-- `checked_mul` on unsigned integers of `w` bits. -/
def mulChecked (w a b : Nat) : Option Nat := if a * b < 2 ^ w then some (a * b) else none

/-- `saturating_add` on unsigned integers of `w` bits. -/
def satAdd (w a b : Nat) : Nat := min (a + b) (2 ^ w - 1)

theorem addChecked_eq_some : addChecked w a b = some n ↔ a + b < 2 ^ w ∧ n = a + b := by
  simp [addChecked, eq_comm]

theorem mulChecked_eq_some : mulChecked w a b = some n ↔ a * b < 2 ^ w ∧ n = a * b := by
  simp [mulChecked, eq_comm]

theorem satAdd_of_lt (h : a + b < 2 ^ w) : satAdd w a b = a + b := by
  unfold satAdd
  omega

end Lib
end Maverick
