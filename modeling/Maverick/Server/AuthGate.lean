import Maverick.Core.Egress
import Maverick.Lib.System
import Maverick.Lib.Table

/-!
# Limiting authentication failures

`AuthFailureTracker`: failures are counted for each address in a window that starts with
the first of them.  A window that has passed is dropped by the next call, whatever address
that call is about.  Times are numbers on one clock.

* `recordFailure_cases` — what a call finds after the drop, and what it does.
* `Windowed` — the windows account for the calls that were let through.
* `auth_failures_limited` — the bounds on calls and entries, in every run.
-/

namespace Maverick
namespace Server

open Lib

/-! ## The tracker -/

structure AuthFailureWindow where
  startedAt : Nat
  failures : UInt32
  deriving DecidableEq

inductive AuthFailureDecision where
  | allowFallback
  | rateLimited
  deriving DecidableEq

structure AuthFailureTracker where
  windows : Table IpAddr AuthFailureWindow

/-- `u32::saturating_add(1)` -/
def saturatingSucc (n : UInt32) : UInt32 := if n = 0xFFFFFFFF then n else n + 1

theorem toNat_saturatingSucc {n m : UInt32} (h : n < m) :
    (saturatingSucc n).toNat = n.toNat + 1 := by
  have hlt : n.toNat < m.toNat := UInt32.lt_iff_toNat_lt.mp h
  have hmax := m.toNat_lt
  have hne : n ≠ 0xFFFFFFFF := by
    rintro rfl
    have hvalue : (0xFFFFFFFF : UInt32).toNat = 4294967295 := rfl
    omega
  rw [saturatingSucc, if_neg hne, UInt32.toNat_add]
  have hone : (1 : UInt32).toNat = 1 := rfl
  omega

namespace AuthFailureTracker

/-- A window still runs. -/
def Running (window now : Nat) (w : AuthFailureWindow) : Prop := now - w.startedAt < window

instance (window now : Nat) (w : AuthFailureWindow) : Decidable (Running window now w) :=
  inferInstanceAs (Decidable (_ < _))

/-- `AuthFailureTracker::prune_expired` -/
def pruneExpired (t : AuthFailureTracker) (now window : Nat) : AuthFailureTracker :=
  ⟨t.windows.retain fun _ w => if Running window now w then some w else none⟩

/-- `AuthFailureTracker::record_failure` -/
def recordFailure (t : AuthFailureTracker) (peerIp : IpAddr) (now window : Nat)
    (maxFailuresPerWindow : UInt32) (maxEntries : Nat) :
    AuthFailureTracker × AuthFailureDecision :=
  let t := t.pruneExpired now window
  if (t.windows.lookup peerIp).isNone ∧ maxEntries ≤ t.windows.size then (t, .rateLimited)
  else
    let entry := (t.windows.lookup peerIp).getD ⟨now, 0⟩
    let entry := if window ≤ now - entry.startedAt then ⟨now, 0⟩ else entry
    if maxFailuresPerWindow ≤ entry.failures then
      (⟨t.windows.insert peerIp entry⟩, .rateLimited)
    else
      (⟨t.windows.insert peerIp { entry with failures := saturatingSucc entry.failures }⟩,
        .allowFallback)

theorem lookup_pruneExpired {t : AuthFailureTracker} {now window : Nat} {ip : IpAddr}
    {w : AuthFailureWindow} :
    (t.pruneExpired now window).windows.lookup ip = some w ↔
      t.windows.lookup ip = some w ∧ Running window now w := by
  rw [pruneExpired, Table.lookup_retain, Option.bind_eq_some_iff]
  constructor
  · rintro ⟨v, hv, hkeep⟩
    obtain ⟨hrunning, hsame⟩ := Option.ite_none_right_eq_some.mp hkeep
    cases hsame
    exact ⟨hv, hrunning⟩
  · rintro ⟨hw, hrunning⟩
    exact ⟨w, hw, if_pos hrunning⟩

end AuthFailureTracker

open AuthFailureTracker

/-- The values that the configuration gives, none of which is zero. -/
structure AuthFailureLimits where
  window : Nat
  maxFailuresPerWindow : UInt32
  maxEntries : Nat
  window_pos : 0 < window
  maxFailuresPerWindow_pos : 0 < maxFailuresPerWindow
  maxEntries_pos : 0 < maxEntries

/-- The most failures that one window counts. -/
abbrev AuthFailureLimits.most (limits : AuthFailureLimits) : Nat :=
  limits.maxFailuresPerWindow.toNat

/-- A call of `record_auth_failure` at a time. -/
def recordAuthFailure (limits : AuthFailureLimits) (t : AuthFailureTracker) (peerIp : IpAddr)
    (now : Nat) : AuthFailureTracker × AuthFailureDecision :=
  t.recordFailure peerIp now limits.window limits.maxFailuresPerWindow limits.maxEntries

/-- What a call does, with `u` the tracker after the drop. -/
inductive Recorded (limits : AuthFailureLimits) (u : AuthFailureTracker) (ip : IpAddr) (now : Nat) :
    AuthFailureTracker × AuthFailureDecision → Prop where
  /-- there is no room for a new entry -/
  | full (hnone : u.windows.lookup ip = none) (hfull : limits.maxEntries ≤ u.windows.size) :
      Recorded limits u ip now (u, .rateLimited)
  /-- the window of the address is used up -/
  | exhausted (w : AuthFailureWindow) (hw : u.windows.lookup ip = some w)
      (hmost : limits.maxFailuresPerWindow ≤ w.failures) :
      Recorded limits u ip now (⟨u.windows.insert ip w⟩, .rateLimited)
  | counted (w : AuthFailureWindow) (hw : u.windows.lookup ip = some w)
      (hroom : w.failures < limits.maxFailuresPerWindow) :
      Recorded limits u ip now
        (⟨u.windows.insert ip ⟨w.startedAt, saturatingSucc w.failures⟩⟩, .allowFallback)
  /-- a window starts -/
  | started (hnone : u.windows.lookup ip = none) (hroom : u.windows.size < limits.maxEntries) :
      Recorded limits u ip now (⟨u.windows.insert ip ⟨now, saturatingSucc 0⟩⟩, .allowFallback)

/-- **The four things a call can do.** -/
theorem recordFailure_cases (limits : AuthFailureLimits) (t : AuthFailureTracker) (ip : IpAddr)
    (now : Nat) :
    Recorded limits (t.pruneExpired now limits.window) ip now
      (recordAuthFailure limits t ip now) := by
  have hpos := limits.window_pos
  unfold recordAuthFailure recordFailure
  cases hw : (t.pruneExpired now limits.window).windows.lookup ip with
  | none =>
    by_cases hfull : limits.maxEntries ≤ (t.pruneExpired now limits.window).windows.size
    · simp only [hw, Option.isNone_none, hfull, and_self, if_true]
      exact .full hw hfull
    have hfresh : ¬ limits.window ≤ now - now := by omega
    have hfirst : ¬ limits.maxFailuresPerWindow ≤ 0 :=
      UInt32.not_le.mpr limits.maxFailuresPerWindow_pos
    simp only [hw, Option.isNone_none, hfull, and_false, if_false, Option.getD_none, ite_self,
      hfirst]
    exact .started hw (not_le.mp hfull)
  | some w =>
    have hrunning : ¬ limits.window ≤ now - w.startedAt :=
      not_le.mpr (lookup_pruneExpired.mp hw).2
    simp only [hw, Option.isNone_some, Bool.false_eq_true, false_and, if_false, Option.getD_some,
      hrunning]
    split
    · next hmost => exact .exhausted w hw hmost
    · next hroom => exact .counted w hw (UInt32.not_le.mp hroom)

/-! ## Runs -/

/-- The tracker, and the time of the last call. -/
structure AuthGate where
  tracker : AuthFailureTracker
  clock : Nat

structure FailureCall where
  peerIp : IpAddr
  now : Nat

/-- A call and its decision. -/
structure DecidedCall where
  peerIp : IpAddr
  now : Nat
  decision : AuthFailureDecision
  deriving DecidableEq

/-- Calls at times that do not go back. -/
def authGate (limits : AuthFailureLimits) : System AuthGate FailureCall where
  start := ⟨⟨∅⟩, 0⟩
  next s call :=
    if s.clock ≤ call.now then
      some ⟨(recordAuthFailure limits s.tracker call.peerIp call.now).1, call.now⟩
    else none

/-- The record of a call. -/
def decided (limits : AuthFailureLimits) (s : AuthGate) (call : FailureCall) : List DecidedCall :=
  [⟨call.peerIp, call.now, (recordAuthFailure limits s.tracker call.peerIp call.now).2⟩]

/-- The times at which calls for an address were let through. -/
def allowedTimes (log : List DecidedCall) (ip : IpAddr) : List Nat :=
  (log.filter fun c => c.peerIp = ip ∧ c.decision = .allowFallback).map DecidedCall.now

section
variable {log : List DecidedCall} {ip peerIp : IpAddr} {now : Nat}

theorem allowedTimes_allowed (log : List DecidedCall) (ip : IpAddr) (now : Nat) :
    allowedTimes (log ++ [⟨ip, now, .allowFallback⟩]) ip = allowedTimes log ip ++ [now] := by
  simp [allowedTimes]

theorem allowedTimes_refused (log : List DecidedCall) (peerIp ip : IpAddr) (now : Nat) :
    allowedTimes (log ++ [⟨peerIp, now, .rateLimited⟩]) ip = allowedTimes log ip := by
  simp [allowedTimes]

theorem allowedTimes_other (h : ip ≠ peerIp) (decision : AuthFailureDecision) :
    allowedTimes (log ++ [⟨peerIp, now, decision⟩]) ip = allowedTimes log ip := by
  simp [allowedTimes, Ne.symm h]

end

/-- Times that lie closer together than a window. -/
def Narrow (window : Nat) (p : Nat → Bool) : Prop :=
  ∀ t u, p t = true → p u = true → t < u + window

/-- Counting by a cover of two properties. -/
theorem countP_le_add {α : Type} {p q r : α → Bool} {l : List α}
    (h : ∀ a, p a = true → q a = true ∨ r a = true) : l.countP p ≤ l.countP q + l.countP r := by
  induction l with
  | nil => exact Nat.zero_le _
  | cons a l ih =>
    rw [List.countP_cons, List.countP_cons, List.countP_cons]
    by_cases hp : p a = true
    · rcases h a hp with hq | hr
      · simp only [hp, hq, if_true]
        omega
      · simp only [hp, hr, if_true]
        omega
    · rw [if_neg hp]
      omega

/-- What is known of the calls for an address, from the window stored for it. -/
inductive Accounted (limits : AuthFailureLimits) (clock : Nat) (times : List Nat) :
    Option AuthFailureWindow → Prop where
  /-- no window: all calls are over, and no more than one window is recent -/
  | absent (past : ∀ t ∈ times, t < clock)
      (recent : ∀ x, clock ≤ x → times.countP (fun t => x < t + limits.window) ≤ limits.most) :
      Accounted limits clock times none
  /-- a window: it counts the calls since its start, and no more than one window is recent
  before that -/
  | present (w : AuthFailureWindow) (started : w.startedAt ≤ clock)
      (within : ∀ t ∈ times, t < w.startedAt + limits.window)
      (counts : times.countP (fun t => w.startedAt ≤ t) = w.failures.toNat)
      (bounded : w.failures ≤ limits.maxFailuresPerWindow)
      (recent : times.countP (fun t => t < w.startedAt ∧ w.startedAt < t + limits.window) ≤
        limits.most) :
      Accounted limits clock times (some w)

/-- The windows account for the calls that were let through. -/
structure Windowed (limits : AuthFailureLimits) (log : List DecidedCall) (t : AuthFailureTracker)
    (clock : Nat) : Prop where
  accounted : ∀ ip, Accounted limits clock (allowedTimes log ip) (t.windows.lookup ip)
  size : t.windows.size ≤ limits.maxEntries
  narrow : ∀ ip p, Narrow limits.window p → (allowedTimes log ip).countP p ≤ 2 * limits.most

section
variable {limits : AuthFailureLimits} {log : List DecidedCall} {t u : AuthFailureTracker}
  {clock now : Nat} {ip : IpAddr} {times : List Nat} {w : AuthFailureWindow}

theorem Windowed.start (limits : AuthFailureLimits) : Windowed limits [] ⟨∅⟩ 0 where
  accounted ip := by
    rw [AList.lookup_empty]
    exact .absent (List.forall_mem_nil _) fun _ _ => Nat.zero_le _
  size := Nat.zero_le _
  narrow ip p _ := Nat.zero_le _

/-! ### Time passes -/

variable {entry : Option AuthFailureWindow} {peerIp : IpAddr}

theorem Accounted.later (h : Accounted limits clock times entry) (hclock : clock ≤ now) :
    Accounted limits now times entry := by
  cases h with
  | absent past recent =>
    exact .absent (fun t ht => lt_of_lt_of_le (past t ht) hclock) fun x hx =>
      recent x (hclock.trans hx)
  | present w started within counts bounded recent =>
    exact .present w (started.trans hclock) within counts bounded recent

/-- A window that is dropped leaves nothing but recent calls of its own behind. -/
theorem Accounted.dropped (h : Accounted limits clock times (some w))
    (hpassed : w.startedAt + limits.window ≤ now) : Accounted limits now times none := by
  cases h with
  | present _ started within counts bounded recent =>
    refine .absent (fun t ht => lt_of_lt_of_le (within t ht) hpassed) fun x hx => ?_
    have hsub : times.countP (fun t => x < t + limits.window) ≤
        times.countP (fun t => w.startedAt ≤ t) := by
      refine List.countP_mono_left fun t _ ht => ?_
      simp only [decide_eq_true_eq] at ht ⊢
      omega
    have hmost : w.failures.toNat ≤ limits.most := UInt32.le_iff_toNat_le.mp bounded
    omega

/-- Dropping the windows that have passed. -/
theorem Windowed.prune (h : Windowed limits log t clock) (hclock : clock ≤ now) :
    Windowed limits log (t.pruneExpired now limits.window) now where
  accounted ip := by
    have hip := h.accounted ip
    rw [pruneExpired, Table.lookup_retain]
    cases hw : t.windows.lookup ip with
    | none =>
      rw [hw] at hip
      exact hip.later hclock
    | some w =>
      rw [hw] at hip
      rw [Option.bind_some]
      split
      · exact hip.later hclock
      next hpassed =>
        have hpos := limits.window_pos
        have hend : w.startedAt + limits.window ≤ now := by
          rw [Running, not_lt] at hpassed
          omega
        exact hip.dropped hend
  size := (Table.size_retain_le _ _).trans h.size
  narrow := h.narrow

/-! ### One call -/

/-- A call that is let through in a window that runs. -/
theorem Accounted.counted (h : Accounted limits now times (some w))
    (hrunning : Running limits.window now w) (hroom : w.failures < limits.maxFailuresPerWindow) :
    Accounted limits now (times ++ [now])
      (some ⟨w.startedAt, saturatingSucc w.failures⟩) := by
  have hsucc := toNat_saturatingSucc hroom
  have hlt : w.failures.toNat < limits.maxFailuresPerWindow.toNat :=
    UInt32.lt_iff_toNat_lt.mp hroom
  unfold Running at hrunning
  cases h with
  | present _ started within counts bounded recent =>
    refine .present _ started ?_ ?_ ?_ ?_
    · intro t ht
      rcases List.mem_append.mp ht with ht | ht
      · exact within t ht
      rw [List.mem_singleton.mp ht]
      dsimp only
      omega
    · rw [List.countP_append, counts, hsucc]
      simp [started]
    · rwa [UInt32.le_iff_toNat_le, hsucc]
    · rw [List.countP_append]
      have hnow : ¬ now < w.startedAt := by omega
      simpa [hnow] using recent

/-- A call that starts a window. -/
theorem Accounted.started (h : Accounted limits now times none) :
    Accounted limits now (times ++ [now]) (some ⟨now, saturatingSucc 0⟩) := by
  have hpos := limits.window_pos
  have hsucc := toNat_saturatingSucc limits.maxFailuresPerWindow_pos
  have hmost : 0 < limits.maxFailuresPerWindow.toNat :=
    UInt32.lt_iff_toNat_lt.mp limits.maxFailuresPerWindow_pos
  cases h with
  | absent past recent =>
    refine .present _ le_rfl ?_ ?_ ?_ ?_
    · intro t ht
      dsimp only
      rcases List.mem_append.mp ht with ht | ht
      · have hpast := past t ht
        omega
      · rw [List.mem_singleton.mp ht]
        omega
    · have hnone : times.countP (fun t => now ≤ t) = 0 := by
        rw [List.countP_eq_zero]
        intro t ht
        simpa using past t ht
      rw [List.countP_append, hnone, hsucc]
      simp
    · rwa [UInt32.le_iff_toNat_le, hsucc]
    · have hsub : times.countP (fun t => t < now ∧ now < t + limits.window) ≤
          times.countP (fun t => now < t + limits.window) := by
        refine List.countP_mono_left fun t _ ht => ?_
        simp only [decide_eq_true_eq] at ht ⊢
        exact ht.2
      rw [List.countP_append]
      simpa using hsub.trans (recent now le_rfl)

/-- **The bound for narrow times**: what is close to the present lies in the window that
runs, or was recent when it started. -/
theorem Accounted.countP_narrow (h : Accounted limits now times entry) {p : Nat → Bool}
    (hp : Narrow limits.window p) (hnow : p now = true) :
    times.countP p ≤ (entry.map (·.failures.toNat)).getD 0 + limits.most := by
  cases h with
  | absent past recent =>
    have hsub : times.countP p ≤ times.countP (fun t => now < t + limits.window) := by
      refine List.countP_mono_left fun t _ ht => ?_
      simpa using hp now t hnow ht
    simpa using hsub.trans (recent now le_rfl)
  | present w started within counts bounded recent =>
    have hsplit : times.countP p ≤ times.countP (fun t => w.startedAt ≤ t) +
        times.countP (fun t => t < w.startedAt ∧ w.startedAt < t + limits.window) := by
      refine countP_le_add fun t ht => ?_
      have hclose := hp now t hnow ht
      simp only [decide_eq_true_eq]
      omega
    simp only [Option.map_some, Option.getD_some]
    omega

/-- A call that is let through keeps the account, if the window it leaves behind does. -/
theorem Windowed.allow (h : Windowed limits log u now) {w' : AuthFailureWindow}
    (haccounted : Accounted limits now (allowedTimes log peerIp ++ [now]) (some w'))
    (hroom : ((u.windows.lookup peerIp).map (·.failures.toNat)).getD 0 < limits.most)
    (hsize : Table.size (u.windows.insert peerIp w') ≤ limits.maxEntries) :
    Windowed limits (log ++ [⟨peerIp, now, .allowFallback⟩]) ⟨u.windows.insert peerIp w'⟩ now where
  accounted ip := by
    by_cases hip : ip = peerIp
    · subst hip
      rwa [allowedTimes_allowed, AList.lookup_insert]
    · rw [allowedTimes_other hip, AList.lookup_insert_ne hip]
      exact h.accounted ip
  size := hsize
  narrow ip p hp := by
    by_cases hip : ip = peerIp
    · subst hip
      rw [allowedTimes_allowed, List.countP_append, List.countP_singleton]
      by_cases hnow : p now = true
      · have hbound := (h.accounted ip).countP_narrow hp hnow
        rw [if_pos hnow]
        omega
      · rw [if_neg hnow]
        exact h.narrow ip p hp
    · rw [allowedTimes_other hip]
      exact h.narrow ip p hp

/-- A call that is refused and changes no window keeps the account. -/
theorem Windowed.refuse (h : Windowed limits log u now) (peerIp : IpAddr) {u' : AuthFailureTracker}
    (hsame : ∀ ip, u'.windows.lookup ip = u.windows.lookup ip) :
    Windowed limits (log ++ [⟨peerIp, now, .rateLimited⟩]) u' now where
  accounted ip := by
    rw [allowedTimes_refused, hsame]
    exact h.accounted ip
  size := by
    rw [Table.size_congr fun ip => congrArg Option.isSome (hsame ip)]
    exact h.size
  narrow ip p hp := by
    rw [allowedTimes_refused]
    exact h.narrow ip p hp

/-- **A call keeps the account.** -/
theorem Windowed.record (h : Windowed limits log u now)
    (hrunning : ∀ ip w, u.windows.lookup ip = some w → Running limits.window now w)
    {result : AuthFailureTracker × AuthFailureDecision}
    (hresult : Recorded limits u peerIp now result) :
    Windowed limits (log ++ [⟨peerIp, now, result.2⟩]) result.1 now := by
  have hpeer := h.accounted peerIp
  cases hresult with
  | full hnone hfull => exact h.refuse peerIp fun _ => rfl
  | exhausted w hw hmost =>
    refine h.refuse peerIp fun ip => ?_
    by_cases hip : ip = peerIp
    · subst hip
      rw [AList.lookup_insert, hw]
    · rw [AList.lookup_insert_ne hip]
  | counted w hw hroom =>
    rw [hw] at hpeer
    refine h.allow (hpeer.counted (hrunning peerIp w hw) hroom) ?_ ?_
    · rw [hw]
      exact UInt32.lt_iff_toNat_lt.mp hroom
    · rw [Table.size_insert_of_mem hw]
      exact h.size
  | started hnone hroom =>
    rw [hnone] at hpeer
    refine h.allow hpeer.started ?_ ?_
    · rw [hnone]
      exact UInt32.lt_iff_toNat_lt.mp limits.maxFailuresPerWindow_pos
    · rwa [Table.size_insert_of_not_mem hnone]

end

/-! ## The bounds -/

/-- What limits the failures of each address, after some calls. -/
structure FailuresLimited (limits : AuthFailureLimits) (log : List DecidedCall) (s : AuthGate) :
    Prop where
  /-- In a half-open interval as long as a window, two windows' worth of calls are let
  through at most. -/
  allowed : ∀ ip a,
    (allowedTimes log ip).countP (fun t => a ≤ t ∧ t < a + limits.window) ≤ 2 * limits.most ∧
    (allowedTimes log ip).countP (fun t => a < t ∧ t ≤ a + limits.window) ≤ 2 * limits.most
  /-- A window holds the number of calls let through since it started. -/
  recorded : ∀ ip w, s.tracker.windows.lookup ip = some w →
    w.failures.toNat = (allowedTimes log ip).countP fun t => w.startedAt ≤ t
  /-- An address whose window is not used up is only refused when it has no entry and the
  table is full of entries of others, all of them in use. -/
  refused : ∀ ip now, s.clock ≤ now →
    (∀ w, s.tracker.windows.lookup ip = some w → Running limits.window now w →
      w.failures < limits.maxFailuresPerWindow) →
    (recordAuthFailure limits s.tracker ip now).2 = .rateLimited →
    s.tracker.windows.lookup ip = none ∧
      ∃ others : Finset IpAddr, others.card = limits.maxEntries ∧ ip ∉ others ∧
        ∀ q ∈ others, ∃ w, s.tracker.windows.lookup q = some w ∧ Running limits.window now w
  entries : s.tracker.windows.size ≤ limits.maxEntries
  /-- A call leaves the windows of other addresses alone as long as they run. -/
  isolated : ∀ ip now q w, s.clock ≤ now → q ≠ ip → s.tracker.windows.lookup q = some w →
    Running limits.window now w →
    (recordAuthFailure limits s.tracker ip now).1.windows.lookup q = some w

section
variable {limits : AuthFailureLimits} {log : List DecidedCall} {t : AuthFailureTracker}
  {clock now : Nat} {ip : IpAddr}

variable {w : AuthFailureWindow}

theorem Windowed.recorded (h : Windowed limits log t clock) (hw : t.windows.lookup ip = some w) :
    w.failures.toNat = (allowedTimes log ip).countP fun t => w.startedAt ≤ t := by
  have hip := h.accounted ip
  rw [hw] at hip
  cases hip with
  | present _ _ _ counts _ _ => exact counts.symm

theorem Windowed.refused (h : Windowed limits log t clock) (hclock : clock ≤ now)
    (hroom : ∀ w, t.windows.lookup ip = some w → Running limits.window now w →
      w.failures < limits.maxFailuresPerWindow)
    (hrefused : (recordAuthFailure limits t ip now).2 = .rateLimited) :
    t.windows.lookup ip = none ∧
      ∃ others : Finset IpAddr, others.card = limits.maxEntries ∧ ip ∉ others ∧
        ∀ q ∈ others, ∃ w, t.windows.lookup q = some w ∧ Running limits.window now w := by
  have hcases := recordFailure_cases limits t ip now
  generalize recordAuthFailure limits t ip now = result at hcases hrefused
  cases hcases with
  | full hnone hfull =>
    have hsize : (t.pruneExpired now limits.window).windows.size = limits.maxEntries :=
      le_antisymm (h.prune hclock).size hfull
    -- the drop removed nothing, or there would be room
    have hkeys : (t.pruneExpired now limits.window).windows.keySet = t.windows.keySet := by
      refine Finset.eq_of_subset_of_card_le (fun q hq => ?_) ?_
      · obtain ⟨w, hw⟩ := Option.isSome_iff_exists.mp (Table.mem_keySet.mp hq)
        rw [Table.mem_keySet, (lookup_pruneExpired.mp hw).1]
        rfl
      · rw [Table.card_keySet, Table.card_keySet, hsize]
        exact h.size
    have habsent : ip ∉ (t.pruneExpired now limits.window).windows.keySet := by
      rw [Table.mem_keySet, hnone]
      exact Bool.false_ne_true
    refine ⟨?_, _, (Table.card_keySet _).trans hsize, habsent, fun q hq => ?_⟩
    · rw [hkeys, Table.mem_keySet] at habsent
      exact Option.not_isSome_iff_eq_none.mp habsent
    · obtain ⟨w, hw⟩ := Option.isSome_iff_exists.mp (Table.mem_keySet.mp hq)
      exact ⟨w, lookup_pruneExpired.mp hw⟩
  | exhausted w hw hmost =>
    obtain ⟨hw, hrunning⟩ := lookup_pruneExpired.mp hw
    exact absurd (hroom w hw hrunning) (UInt32.not_lt.mpr hmost)
  | counted w hw hroom => cases hrefused
  | started hnone hroom => cases hrefused

theorem isolated_recordAuthFailure {q : IpAddr} (hq : q ≠ ip) (hw : t.windows.lookup q = some w)
    (hrunning : Running limits.window now w) :
    (recordAuthFailure limits t ip now).1.windows.lookup q = some w := by
  have hkept : (t.pruneExpired now limits.window).windows.lookup q = some w :=
    lookup_pruneExpired.mpr ⟨hw, hrunning⟩
  have hcases := recordFailure_cases limits t ip now
  generalize recordAuthFailure limits t ip now = result at hcases
  cases hcases with
  | full _ _ => exact hkept
  | _ =>
    exact (AList.lookup_insert_ne hq).trans hkept

theorem narrow_ico (window a : Nat) : Narrow window fun t => a ≤ t ∧ t < a + window := by
  intro t u ht hu
  simp only [decide_eq_true_eq] at ht hu
  omega

theorem narrow_ioc (window a : Nat) : Narrow window fun t => a < t ∧ t ≤ a + window := by
  intro t u ht hu
  simp only [decide_eq_true_eq] at ht hu
  omega

/-- **Authentication failures are limited**, in every run of calls whose times do not go
back. -/
theorem auth_failures_limited (limits : AuthFailureLimits) {log : List DecidedCall} {s : AuthGate}
    (h : ((authGate limits).recording (decided limits)).Reach (log, s)) :
    FailuresLimited limits log s := by
  have hwindowed : Windowed limits log s.tracker s.clock := by
    refine h.invariant (I := fun r => Windowed limits r.1 r.2.tracker r.2.clock)
      (.start limits) ?_
    rintro ⟨log, s⟩ call r' hs - hnext
    obtain ⟨s', hs', rfl⟩ := Option.map_eq_some_iff.mp hnext
    obtain ⟨hclock, hs'⟩ := Option.ite_none_right_eq_some.mp hs'
    cases hs'
    exact (hs.prune hclock).record (fun _ _ hw => (lookup_pruneExpired.mp hw).2)
      (recordFailure_cases limits s.tracker call.peerIp call.now)
  exact {
    allowed := fun ip a =>
      ⟨hwindowed.narrow ip _ (narrow_ico _ a), hwindowed.narrow ip _ (narrow_ioc _ a)⟩
    recorded := fun _ _ => hwindowed.recorded
    refused := fun _ _ => hwindowed.refused
    entries := hwindowed.size
    isolated := fun _ _ _ _ _ => isolated_recordAuthFailure }

/-- Two failures in a window of ten. -/
def twoFailures : AuthFailureLimits := ⟨10, 2, 1, by decide, by decide, by decide⟩

theorem auth_failures_limited_threeFailures : ∃ log s, FailuresLimited twoFailures log s ∧
    log.map DecidedCall.decision = [.allowFallback, .allowFallback, .rateLimited] := by
  obtain ⟨⟨log, s⟩, hreach, hlog⟩ :=
    ((authGate twoFailures).recording (decided twoFailures)).exists_reach
      (fun r => r.1.map DecidedCall.decision = [.allowFallback, .allowFallback, .rateLimited])
      ([1, 2, 3].map fun now => ⟨.v4 ⟨10, 0, 0, 1⟩, now⟩) (by decide +kernel)
  exact ⟨log, s, auth_failures_limited _ hreach, hlog⟩

end

end Server
end Maverick
