import Maverick.Lib.Bytes
import Maverick.Lib.System
import Maverick.Lib.Total

/-!
# The byte ledger

`tracked_buffered_bytes` is one counter that every task of the packet runtime updates
through two guards.  A `Tracked` value is charged when it is made and released when it is
dropped; `into_parts` moves the charge to a `ByteLease`, and the emptied guard is dropped
at the end of the call.  A call is not atomic: only the update of the counter in it is, so
that the calls of the tasks interleave around their updates.

* `Ledger.system` — the counter, the guards, and the calls that are under way.
* `Ledger.Exact` — the counter is what the guards and the calls are charged with.
* `tun_ledger_exact` — between calls the counter is the bytes of the live guards, and a
  release never takes more than the counter has.
-/

namespace Maverick
namespace Tun

open Lib

/-! ## The guards -/

/-- `Tracked`: the value, unless it has been taken, and the bytes it is charged with. -/
structure Tracked where
  value : Option Bytes
  len : Nat
deriving DecidableEq

/-- `ByteLease`: a charge without the value. -/
structure ByteLease where
  len : Nat
deriving DecidableEq

namespace Tracked

/-- What `Tracked::new` returns, once it has charged the counter. -/
def new (value : Bytes) : Tracked := ⟨some value, value.length⟩

/-- `Tracked::into_inner`: the value, and what is left of the guard for its drop.
`none` stands for the panic of `expect`. -/
def intoInner (t : Tracked) : Option (Bytes × Tracked) :=
  t.value.map fun value => (value, { t with value := none })

/-- `Tracked::into_parts`: the value, the lease that takes over the charge, and what is
left of the guard for its drop. -/
def intoParts (t : Tracked) : Option (Bytes × ByteLease × Tracked) :=
  t.value.map fun value => (value, ⟨t.len⟩, { value := none, len := 0 })

/-- The guard is charged with the bytes of the value in it. -/
def Whole (t : Tracked) : Prop := t.value.map List.length = some t.len

theorem whole_new (value : Bytes) : (new value).Whole := rfl

theorem Whole.exists_value {t : Tracked} (h : t.Whole) :
    ∃ value, t.value = some value ∧ value.length = t.len := by
  simpa [Whole, Option.map_eq_some_iff] using h

end Tracked

/-! ## The counter and its users -/

/-- What takes part in the account: a live guard, or a call that is under way. -/
inductive Holder where
  /-- In `Tracked::new`, before the update. -/
  | creating (value : Bytes)
  /-- In `Tracked::new`, after the update. -/
  | created (t : Tracked)
  | value (t : Tracked)
  | lease (l : ByteLease)
  /-- In `into_inner`, `into_parts` or a drop, before the update in the `Drop` of the guard;
  `into_parts` holds the lease that it is going to return. -/
  | dropping (len : Nat) (kept : Option ByteLease)
  /-- The same call after the update. -/
  | dropped (kept : Option ByteLease)
deriving DecidableEq

/-- `tracked_buffered_bytes`, and all that is charged to it or is about to be. -/
structure Ledger where
  tracked : Nat
  holders : List Holder

/-- What a task does next: it starts a call, makes the update of one, or returns from it. -/
inductive LedgerAction where
  | create (value : Bytes)
  | addTrackedBytes (value : Bytes)
  | created (t : Tracked)
  | intoInner (t : Tracked)
  | intoParts (t : Tracked)
  | dropValue (t : Tracked)
  | dropLease (l : ByteLease)
  | removeTrackedBytes (len : Nat) (kept : Option ByteLease)
  | dropped (kept : Option ByteLease)

namespace Ledger

/-- One holder gives way to others, and the counter takes a new value.  Holders that are
equal are interchangeable, so that it does not matter which of them it is. -/
def replace (s : Ledger) (old : Holder) (new : List Holder) (tracked : Nat) : Option Ledger :=
  if old ∈ s.holders then some ⟨tracked, s.holders.erase old ++ new⟩ else none

/-- One step of one task.  The counter is a machine word in the source, and a sum of bytes
that are or were in memory is taken to fit it. -/
def next (s : Ledger) : LedgerAction → Option Ledger
  | .create value => some { s with holders := s.holders ++ [.creating value] }
  | .addTrackedBytes value =>
    s.replace (.creating value) [.created (.new value)] (s.tracked + value.length)
  | .created t => s.replace (.created t) [.value t] s.tracked
  | .intoInner t => do
    let (_, left) ← t.intoInner
    s.replace (.value t) [.dropping left.len none] s.tracked
  | .intoParts t => do
    let (_, lease, left) ← t.intoParts
    s.replace (.value t) [.dropping left.len (some lease)] s.tracked
  | .dropValue t => s.replace (.value t) [.dropping t.len none] s.tracked
  | .dropLease l => s.replace (.lease l) [.dropping l.len none] s.tracked
  -- `saturating_sub` is the subtraction of natural numbers
  | .removeTrackedBytes len kept =>
    s.replace (.dropping len kept) [.dropped kept] (s.tracked - len)
  | .dropped kept => s.replace (.dropped kept) (kept.toList.map .lease) s.tracked

def system : System Ledger LedgerAction where
  start := ⟨0, []⟩
  next := next

/-- The live `Tracked` values. -/
def values (s : Ledger) : List Tracked :=
  s.holders.filterMap fun | .value t => some t | _ => none

/-- The live leases. -/
def leases (s : Ledger) : List ByteLease :=
  s.holders.filterMap fun | .lease l => some l | _ => none

/-- No call is under way. -/
def Idle (s : Ledger) : Prop :=
  ∀ holder ∈ s.holders, (∃ t, holder = .value t) ∨ ∃ l, holder = .lease l

/-! ## The account -/

/-- What the counter holds for a guard or a call. -/
def charge : Holder → Nat
  | .creating _ => 0
  | .created t => t.len
  | .value t => t.len
  | .lease l => l.len
  | .dropping len kept => len + total ByteLease.len kept.toList
  | .dropped kept => total ByteLease.len kept.toList

/-- A guard that has not been taken apart is whole. -/
def Sound : Holder → Prop
  | .created t => t.Whole
  | .value t => t.Whole
  | _ => True

/-- **The account**: the counter is the sum of the charges. -/
structure Exact (s : Ledger) : Prop where
  balanced : s.tracked = total charge s.holders
  sound : ∀ holder ∈ s.holders, Sound holder

theorem total_erase {l : List Holder} {a : Holder} (h : a ∈ l) :
    charge a + total charge (l.erase a) = total charge l :=
  List.sum_map_erase charge h

variable {s s' : Ledger}

/-- A replacement keeps the account if the counter follows the charges. -/
theorem Exact.replace {old : Holder} {new : List Holder} {tracked : Nat} (hexact : Exact s)
    (hnext : s.replace old new tracked = some s')
    (hsound : Sound old → ∀ holder ∈ new, Sound holder)
    (hcharge : Sound old → charge old ≤ s.tracked →
      tracked + charge old = s.tracked + total charge new) : Exact s' := by
  rw [Ledger.replace] at hnext
  split at hnext
  · next hmem =>
    cases hnext
    have hold := hexact.sound old hmem
    have herase := total_erase hmem
    have hbalanced := hexact.balanced
    have hcharge := hcharge hold (by omega)
    constructor
    · show tracked = total charge (s.holders.erase old ++ new)
      rw [total_append]
      omega
    intro holder hholder
    rcases List.mem_append.mp hholder with hkept | hnew
    exacts [hexact.sound holder (List.mem_of_mem_erase hkept), hsound hold holder hnew]
  · cases hnext

theorem Exact.next {action : LedgerAction} (hexact : Exact s) (hnext : s.next action = some s') :
    Exact s' := by
  cases action with
  | create value =>
    cases hnext
    refine ⟨?_, ?_⟩
    · simp [hexact.balanced, charge]
    intro holder hholder
    rcases List.mem_append.mp hholder with hold | hnew
    · exact hexact.sound holder hold
    · cases List.mem_singleton.mp hnew
      trivial
  | addTrackedBytes value =>
    refine hexact.replace hnext ?_ ?_
    · simp [Sound, Tracked.whole_new]
    · simp [charge, Tracked.new]
  | created _ | dropValue _ | dropLease _ =>
    exact hexact.replace hnext (by simp [Sound]) (by simp [charge])
  | intoInner t =>
    obtain ⟨⟨value, left⟩, htake, hnext⟩ := Option.bind_eq_some_iff.mp hnext
    obtain ⟨_, _, hleft⟩ := Option.map_eq_some_iff.mp htake
    cases hleft
    exact hexact.replace hnext (by simp [Sound]) (by simp [charge])
  | intoParts t =>
    -- the charge goes to the lease: what is left of the guard releases nothing
    obtain ⟨⟨value, lease, left⟩, htake, hnext⟩ := Option.bind_eq_some_iff.mp hnext
    obtain ⟨_, _, hleft⟩ := Option.map_eq_some_iff.mp htake
    cases hleft
    exact hexact.replace hnext (by simp [Sound]) (by simp [charge])
  | removeTrackedBytes len kept =>
    refine hexact.replace hnext (by simp [Sound]) ?_
    simp only [charge, total_cons, total_nil]
    omega
  | dropped kept =>
    refine hexact.replace hnext ?_ ?_
    · simp [Sound]
    · simp [charge, total_map]

theorem exact_of_reach (h : system.Reach s) : Exact s :=
  h.invariant ⟨rfl, by simp [system]⟩ fun _ _ _ hexact _ hnext => hexact.next hnext

/-- Between calls, the charges are those of the live guards. -/
theorem Idle.total_charge (h : Idle s) :
    total charge s.holders = total Tracked.len s.values + total ByteLease.len s.leases := by
  obtain ⟨tracked, holders⟩ := s
  simp only [Idle, values, leases] at h ⊢
  induction holders with
  | nil => rfl
  | cons holder holders ih =>
    have hrest := ih fun other hother => h other (List.mem_cons_of_mem _ hother)
    rw [total_cons, hrest]
    rcases h holder List.mem_cons_self with ⟨t, rfl⟩ | ⟨l, rfl⟩
    · simp [charge, Nat.add_assoc]
    · simp [charge, Nat.add_left_comm]

theorem Exact.whole_values (h : Exact s) {t : Tracked} (ht : t ∈ s.values) : t.Whole := by
  obtain ⟨holder, hholder, hvalue⟩ := List.mem_filterMap.mp ht
  cases holder with
  | value t' =>
    cases hvalue
    exact h.sound _ hholder
  | _ => cases hvalue

end Ledger

/-- **The ledger is exact**: in every state that the tasks reach, the counter is what the
guards and the calls under way are charged with.  Between calls that is the lengths of the
live values and of the live leases; every live value is still in its guard, which is charged
with its length; and a release never takes more than the counter has. -/
theorem tun_ledger_exact {s : Ledger} (h : Ledger.system.Reach s) :
    s.tracked = total Ledger.charge s.holders ∧
      (s.Idle → s.tracked = total Tracked.len s.values + total ByteLease.len s.leases) ∧
      (∀ t ∈ s.values, ∃ value, t.value = some value ∧ value.length = t.len) ∧
      ∀ len kept, .dropping len kept ∈ s.holders → len ≤ s.tracked := by
  have hexact := Ledger.exact_of_reach h
  refine ⟨hexact.balanced, ?_, ?_, ?_⟩
  · intro hidle
    rw [hexact.balanced, hidle.total_charge]
  · intro t ht
    exact (hexact.whole_values ht).exists_value
  intro len kept hmem
  have hcharge := le_total Ledger.charge hmem
  rw [← hexact.balanced] at hcharge
  exact (Nat.le_add_right _ _).trans hcharge

/-- One task has split a value of two bytes while another is still in `Tracked::new`. -/
def splitRun : List LedgerAction :=
  [.create [1, 2], .addTrackedBytes [1, 2], .create [3], .created (.new [1, 2]),
    .intoParts (.new [1, 2]), .addTrackedBytes [3], .removeTrackedBytes 0 (some ⟨2⟩),
    .dropped (some ⟨2⟩), .created (.new [3])]

theorem tun_ledger_exact_split :
    ∃ s, Ledger.system.run Ledger.system.start splitRun = some s ∧ s.tracked = 3 ∧
      s.tracked = total Tracked.len s.values + total ByteLease.len s.leases := by
  have hrun : Ledger.system.run Ledger.system.start splitRun =
      some ⟨3, [.lease ⟨2⟩, .value (.new [3])]⟩ := rfl
  refine ⟨_, hrun, rfl, (tun_ledger_exact (System.reach_of_run .start hrun)).2.1 ?_⟩
  simp [Ledger.Idle]

end Tun
end Maverick
