import Maverick.Lib.System
import Maverick.Lib.Total

/-!
# The rate limiter

`RateLimiter`: the flows of a user share one instant up to which the line is taken.
`throttle` reserves the time that its bytes need, behind what is reserved already, and sleeps
to the end of it.  Instants and durations are in nanoseconds; the duration of
`bytes / bytes_per_second` seconds, which the source computes with floating-point numbers, is
a parameter.

* `Metered` — the reservations do not overlap, and leave no gap while somebody waits.
* `rate_bounded` — how many bytes pass in any window of time.
* `throttle_waits` — a caller waits for those before it, and for nobody else.
-/

namespace Maverick
namespace Server

open Lib

structure RateLimiter where
  nextAvailable : Nat

/-- A call of `throttle`, with the instants at which it has the lock and wakes up. -/
structure Reservation where
  bytes : Nat
  now : Nat
  wakeAt : Nat

/-- A caller wakes up after `a`, and no later than `b`. -/
def Reservation.within (a b : Nat) (r : Reservation) : Bool := a < r.wakeAt && r.wakeAt ≤ b

namespace RateLimiter

variable (quotient : Nat → Nat)

/-- `RateLimiter::delay_for` -/
def delayFor (bytes : Nat) : Nat := if bytes = 0 then 0 else quotient bytes

/-- `RateLimiter::throttle` up to its sleep: the limiter, and the end of the sleep. -/
def throttle (l : RateLimiter) (now bytes : Nat) : RateLimiter × Nat :=
  let delay := delayFor quotient bytes
  if delay = 0 then (l, now)
  else
    let startAt := max l.nextAvailable now
    let wakeAt := startAt + delay
    (⟨wakeAt⟩, wakeAt)

/-- The limiter of a user, with the calls so far. -/
structure Meter where
  limiter : RateLimiter
  clock : Nat
  served : List Reservation

/-- A limiter made at an instant.  An action is a call: the instant at which it has the lock,
and its bytes.  The lock is held from the reading of the clock to the reservation. -/
def system (made : Nat) : System Meter (Nat × Nat) where
  start := ⟨⟨made⟩, made, []⟩
  next m call :=
    if m.clock ≤ call.1 then
      let r := m.limiter.throttle quotient call.1 call.2
      some ⟨r.1, call.1, m.served ++ [⟨call.2, call.1, r.2⟩]⟩
    else none

/-- The time reserved by the calls that a condition selects. -/
def reserved (served : List Reservation) (p : Reservation → Bool) : Nat :=
  total (fun r => delayFor quotient r.bytes) (served.filter p)

/-- How the reservations lie in time. -/
structure Metered (m : Meter) : Prop where
  past : ∀ r ∈ m.served, delayFor quotient r.bytes ≠ 0 → r.wakeAt ≤ m.limiter.nextAvailable
  apart : ∀ {most} a b, (∀ r ∈ m.served, delayFor quotient r.bytes ≤ most) →
    reserved quotient m.served (Reservation.within a b) ≤ min b m.limiter.nextAvailable - a + most
  dense : ∀ t, m.clock ≤ t →
    m.limiter.nextAvailable ≤ t + reserved quotient m.served fun r => t < r.wakeAt

variable {quotient} {m m' : Meter} {served : List Reservation} {p : Reservation → Bool}
  {call : Nat × Nat} {made now bytes : Nat}

theorem reserved_snoc (r : Reservation) : reserved quotient (served ++ [r]) p =
    reserved quotient served p + if p r then delayFor quotient r.bytes else 0 := by
  by_cases hp : p r <;> simp [reserved, hp]

/-- What wakes up after the end of all reservations has reserved nothing. -/
theorem Metered.reserved_eq_zero (h : Metered quotient m) {a b : Nat}
    (hend : m.limiter.nextAvailable ≤ a) :
    reserved quotient m.served (Reservation.within a b) = 0 := by
  refine Nat.le_zero.mp ((total_le _ (Nat.le_refl _) fun r hr => ?_).trans_eq (Nat.mul_zero _))
  obtain ⟨hr, hwithin⟩ := List.mem_filter.mp hr
  simp only [Reservation.within, Bool.and_eq_true, decide_eq_true_eq] at hwithin
  by_contra hdelay
  have := h.past r hr (by omega)
  omega

/-- **A call** reserves the time behind the others. -/
theorem Metered.step (h : Metered quotient m)
    (hnext : (system quotient made).next m call = some m') : Metered quotient m' := by
  obtain ⟨hclock, heq⟩ := Option.ite_none_right_eq_some.mp hnext
  by_cases hdelay : delayFor quotient call.2 = 0
  · rw [throttle, if_pos hdelay] at heq
    cases heq
    refine ⟨forall_mem_snoc h.past (absurd hdelay), fun a b hmost => ?_, fun t ht => ?_⟩
    · rw [reserved_snoc, hdelay, ite_self, Nat.add_zero]
      exact h.apart a b (List.forall_mem_append.mp hmost).1
    · rw [reserved_snoc, hdelay, ite_self, Nat.add_zero]
      exact h.dense t (hclock.trans ht)
  · rw [throttle, if_neg hdelay] at heq
    cases heq
    refine ⟨forall_mem_snoc (fun r hr hr' => ?_) fun _ => Nat.le_refl _, fun {most} a b hmost => ?_,
      fun t ht => ?_⟩
    · have := h.past r hr hr'
      dsimp only
      omega
    · obtain ⟨hmost, hnew⟩ := List.forall_mem_append.mp hmost
      have hfits : delayFor quotient call.2 ≤ most := hnew _ List.mem_cons_self
      have hold := h.apart a b hmost
      have hzero := @Metered.reserved_eq_zero quotient m h a b
      rw [reserved_snoc]
      simp only [Reservation.within, Bool.and_eq_true, decide_eq_true_eq]
      -- the window ends before the new reservation, or begins after the others, or has both
      split <;> omega
    · have hlater : call.1 ≤ t := ht
      have hold := h.dense t (hclock.trans hlater)
      rw [reserved_snoc]
      simp only [decide_eq_true_eq]
      split <;> omega

theorem metered_of_reach (h : (system quotient made).Reach m) : Metered quotient m := by
  exact h.invariant (I := Metered quotient) ⟨List.forall_mem_nil _, fun _ _ _ => Nat.zero_le _,
    fun t ht => Nat.le_add_right_of_le ht⟩ fun _ _ _ hm _ hnext => hm.step hnext

/-- **The rate is kept**, where each delay is at most a nanosecond short of the exact one.  In
any window of time the bytes that pass are at most those of the window, of the longest delay
and of a nanosecond for each call. -/
theorem rate_bounded {bytesPerSecond most : Nat} (h : (system quotient made).Reach m)
    (hmost : ∀ r ∈ m.served, delayFor quotient r.bytes ≤ most ∧
      r.bytes * 1000000000 ≤ (delayFor quotient r.bytes + 1) * bytesPerSecond) (a b : Nat) :
    total Reservation.bytes (m.served.filter (Reservation.within a b)) * 1000000000 ≤
      (b - a + most + m.served.countP (Reservation.within a b)) * bytesPerSecond := by
  have hreserved := (metered_of_reach h).apart a b fun r hr => (hmost r hr).1
  have hcount : total (fun _ => 1) (m.served.filter (Reservation.within a b)) =
      m.served.countP (Reservation.within a b) := by
    simp [total, List.countP_eq_length_filter]
  calc total Reservation.bytes (m.served.filter (Reservation.within a b)) * 1000000000
      = total (fun r => r.bytes * 1000000000) (m.served.filter (Reservation.within a b)) :=
        (total_mul ..).symm
    _ ≤ total (fun r => (delayFor quotient r.bytes + 1) * bytesPerSecond)
          (m.served.filter (Reservation.within a b)) :=
        total_le_total fun r hr => (hmost r (List.mem_of_mem_filter hr)).2
    _ = (reserved quotient m.served (Reservation.within a b) +
          m.served.countP (Reservation.within a b)) * bytesPerSecond := by
        rw [total_mul, total_add, hcount, reserved]
    _ ≤ _ := Nat.mul_le_mul_right _ (by omega)

/-- Two calls of 5 and 8 bytes at one byte a nanosecond. -/
theorem rate_bounded_pair : ∃ m : Meter, (system id 0).Reach m ∧ m.served.length = 2 ∧
    total Reservation.bytes (m.served.filter (Reservation.within 0 13)) * 1000000000 ≤
      (13 - 0 + 8 + m.served.countP (Reservation.within 0 13)) * 1000000000 := by
  obtain ⟨m, hreach, hlength, hmost⟩ := (system id 0).exists_reach
    (fun m => m.served.length = 2 ∧ ∀ r ∈ m.served, delayFor id r.bytes ≤ 8 ∧
      r.bytes * 1000000000 ≤ (delayFor id r.bytes + 1) * 1000000000) [(0, 5), (3, 8)] (by decide)
  exact ⟨m, hreach, hlength, rate_bounded hreach hmost 0 13⟩

/-- **A caller waits its own delay and for what is reserved before it**, no longer, and wakes
up behind everybody who came before. -/
theorem throttle_waits (h : (system quotient made).Reach m) (hnow : m.clock ≤ now) (bytes : Nat) :
    let wakeAt := (m.limiter.throttle quotient now bytes).2
    now + delayFor quotient bytes ≤ wakeAt ∧
      wakeAt ≤ now + reserved quotient m.served (fun r => now < r.wakeAt) +
        delayFor quotient bytes ∧
      (delayFor quotient bytes ≠ 0 → ∀ r ∈ m.served, delayFor quotient r.bytes ≠ 0 →
        r.wakeAt + delayFor quotient bytes ≤ wakeAt) := by
  have hm := metered_of_reach h
  have hdense := hm.dense now hnow
  dsimp only [throttle]
  split
  · refine ⟨by omega, by omega, fun hdelay => absurd ‹_› hdelay⟩
  · refine ⟨by omega, by omega, fun _ r hr hr' => ?_⟩
    have := hm.past r hr hr'
    omega

/-- A third caller, behind two. -/
theorem throttle_waits_third : ∃ m : Meter, (system id 0).Reach m ∧ m.clock ≤ 4 ∧
    (m.limiter.throttle id 4 2).2 ≤ 4 + reserved id m.served (fun r => 4 < r.wakeAt) + 2 := by
  obtain ⟨m, hreach, hclock⟩ := (system id 0).exists_reach (fun m => m.clock ≤ 4) [(0, 5), (3, 8)]
    (by decide)
  exact ⟨m, hreach, hclock, (throttle_waits hreach hclock 2).2.1⟩

end RateLimiter
end Server
end Maverick
