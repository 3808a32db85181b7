import Maverick.Client.Pool
import Maverick.Lib.System

/-!
# Runs of the H2 connection pool

Any number of calls of `open_h2`, each with its loop over `acquire` and, inside,
`checkout_or_connect` under the connect gate, interleaved with lease drops, the
idle maintenance task, connections that close, and shutdown.  One action is one
section under the lock, or one wait that ends.

* `poolRuns` — the system; every wait can succeed, fail, time out or be
  cancelled.
* `next_effect` — the few shapes that the steps of the system have.
-/

namespace Maverick
namespace Client

open Lib

/-! ## Calls of `open_h2` -/

/-- The loop variables of `open_h2` (`outer`, `timeout_recovery_pending`) and of
`acquire` (`inner`). -/
structure Attempt where
  outer : Nat
  inner : Nat
  recoveryPending : Bool
  deriving DecidableEq

/-- Where a call of `open_h2` stands, and the tunnel after it. -/
inductive Opening where
  /-- before the first `checkout_cached` -/
  | checkout (attempt : Attempt)
  /-- waiting for the connect gate -/
  | awaitGate (attempt : Attempt)
  /-- with the gate, before the second `checkout_cached` -/
  | recheck (attempt : Attempt)
  /-- with the gate, waiting for the connection -/
  | connecting (attempt : Attempt)
  /-- with the gate, before `install_and_checkout` -/
  | connected (attempt : Attempt) (connection : H2Connection)
  /-- with a lease, waiting for `ready` -/
  | readying (attempt : Attempt) (generation : Nat)
  /-- with a lease, after the invalidation that follows a readiness failure -/
  | abandoning (attempt : Attempt) (generation : Nat)
  /-- with a lease, waiting for the tunnel handshake -/
  | opening (attempt : Attempt) (generation : Nat)
  /-- the handshake has timed out or stalled, and has dropped its lease -/
  | retiring (attempt : Attempt) (generation : Nat)
  /-- the stream could not be opened, and its lease is dropped -/
  | invalidating (attempt : Attempt) (generation : Nat)
  /-- with a lease, before `record_timeout_recovery` -/
  | recovering (generation : Nat)
  /-- with a lease: the tunnel is in use -/
  | tunnel (generation : Nat)
  | finished (result : Except PoolError Unit)
  deriving DecidableEq

namespace Opening

/-- The generation of the lease that is held. -/
def lease : Opening → Option Nat
  | readying _ generation => some generation
  | abandoning _ generation => some generation
  | opening _ generation => some generation
  | recovering generation => some generation
  | tunnel generation => some generation
  | _ => none

/-- The generation that a call carries: that of the lease it holds, or of the
lease whose end it still has to report. -/
def generation : Opening → Option Nat
  | retiring _ generation => some generation
  | invalidating _ generation => some generation
  | t => t.lease

def holdsGate : Opening → Bool
  | recheck _ => true
  | connecting _ => true
  | connected _ _ => true
  | _ => false

/-- Has the second checkout found the cache empty? -/
def dialing : Opening → Bool
  | connecting _ => true
  | connected _ _ => true
  | _ => false

end Opening

/-- How a tunnel handshake fails. -/
inductive OpenFailure where
  /-- `H2SendStalled`, or the timeout -/
  | timedOut
  | h2Error
  | other (message : String)
  deriving DecidableEq

/-! ## The system -/

structure PoolRun where
  pool : H2ConnectionPoolState
  tasks : List Opening
  now : Nat
  /-- the generations of all connections installed so far -/
  installed : List Nat

inductive PoolAction where
  /-- a new call of `open_h2` -/
  | call
  /-- the first `checkout_cached` -/
  | checkout (i : Nat)
  | gateAcquired (i : Nat)
  | gateTimeout (i : Nat)
  /-- the second `checkout_cached` -/
  | recheck (i : Nat)
  | connected (i : Nat) (connection : H2Connection) (elapsedMs : Nat)
  | connectFailed (i : Nat) (message : String)
  | install (i : Nat)
  | ready (i : Nat)
  /-- `ready` fails and the generation is invalidated -/
  | readinessFailed (i : Nat)
  /-- the lease of a failed attempt is dropped -/
  | abandon (i : Nat)
  | readinessTimeout (i : Nat)
  | opened (i : Nat) (elapsedMs : Nat)
  | openFailed (i : Nat) (failure : OpenFailure)
  | retire (i : Nat)
  | invalidate (i : Nat)
  | recordRecovery (i : Nat)
  | streamReset (i : Nat)
  | sendStall (i : Nat)
  /-- a call is cancelled at a wait, or a tunnel is closed -/
  | cancel (i : Nat)
  | tick (now : Nat)
  /-- the driver of the cached connection ends -/
  | connectionClosed
  | maintenance
  | shutdown

/-- The call that an action is a step of. -/
def PoolAction.task : PoolAction → Option Nat
  | call => none
  | checkout i => some i
  | gateAcquired i => some i
  | gateTimeout i => some i
  | recheck i => some i
  | connected i _ _ => some i
  | connectFailed i _ => some i
  | install i => some i
  | ready i => some i
  | readinessFailed i => some i
  | abandon i => some i
  | readinessTimeout i => some i
  | opened i _ => some i
  | openFailed i _ => some i
  | retire i => some i
  | invalidate i => some i
  | recordRecovery i => some i
  | streamReset i => some i
  | sendStall i => some i
  | cancel i => some i
  | tick _ => none
  | connectionClosed => none
  | maintenance => none
  | shutdown => none

/-- The generation that a step of a call carries. -/
def PoolAction.carries (s : PoolRun) (a : PoolAction) : Option Nat :=
  a.task.bind fun i => s.tasks[i]?.bind Opening.generation

namespace PoolRun

/-- Task `i` moves on. -/
def move (s : PoolRun) (i : Nat) (task : Opening) : PoolRun :=
  { s with tasks := s.tasks.set i task }

/-- Task `i` moves on after a section under the lock. -/
def step (s : PoolRun) (pool : H2ConnectionPoolState) (i : Nat) (task : Opening) : PoolRun :=
  { s with pool, tasks := s.tasks.set i task }

/-- The next attempt of `acquire` after a readiness failure. -/
def afterReadinessFailure (a : Attempt) : Opening :=
  if a.inner + 1 < MAX_READY_ATTEMPTS then .checkout { a with inner := a.inner + 1 }
  else .finished (.error .connectionClosed)

/-- The next attempt of `open_h2` after its stream could not be opened. -/
def afterStreamOpenFailure (a : Attempt) : Opening :=
  if a.outer + 1 < MAX_READY_ATTEMPTS then .checkout { a with outer := a.outer + 1, inner := 0 }
  else .finished (.error .streamOpenFailed)

/-- The next attempt of `open_h2` after a handshake timeout. -/
def afterHandshakeTimeout (a : Attempt) (retired : Bool) : Opening :=
  if retired ∧ a.outer + 1 < MAX_READY_ATTEMPTS then .checkout ⟨a.outer + 1, 0, true⟩
  else .finished (.error .handshakeTimedOut)

/-- Where a call goes on after a checkout under the gate or without it. -/
def afterCheckout (a : Attempt) (empty : Opening) : Except PoolError (Option H2Checkout) → Opening
  | .error e => .finished (.error e)
  | .ok none => empty
  | .ok (some c) => .readying a c.generation

/-- Where a call goes on after its connection was offered to the pool, and the
generation that was installed. -/
def afterInstall (a : Attempt) : Except PoolError H2Checkout → Opening × List Nat
  | .error e => (.finished (.error e), [])
  | .ok c => (.readying a c.generation, [c.generation])

/-- The state after task `i` has offered its connection to the pool. -/
def afterInstalling (s : PoolRun) (i : Nat) (a : Attempt) (c : H2Connection) : PoolRun :=
  let r := s.pool.installAndCheckout c
  let t := afterInstall a r.2
  { s.step r.1 i t.1 with installed := s.installed ++ t.2 }

def next (idleTimeout : Nat) (s : PoolRun) : PoolAction → Option PoolRun
  | .call => some { s with tasks := s.tasks ++ [.checkout ⟨0, 0, false⟩] }
  | .checkout i =>
    match s.tasks[i]? with
    | some (.checkout a) =>
      let r := s.pool.checkoutCached
      some (s.step r.1 i (afterCheckout a (.awaitGate a) r.2))
    | _ => none
  | .gateAcquired i =>
    match s.tasks[i]? with
    | some (.awaitGate a) =>
      if s.tasks.any Opening.holdsGate then none else some (s.move i (.recheck a))
    | _ => none
  | .gateTimeout i =>
    match s.tasks[i]? with
    | some (.awaitGate _) =>
      some (s.move i (.finished (.error .gateTimeout)))
    | _ => none
  | .recheck i =>
    match s.tasks[i]? with
    | some (.recheck a) =>
      let r := s.pool.checkoutCached
      some (s.step r.1 i (afterCheckout a (.connecting a) r.2))
    | _ => none
  | .connected i connection elapsedMs =>
    match s.tasks[i]? with
    | some (.connecting a) =>
      some (s.step (s.pool.recordConnectionSetupDuration elapsedMs) i (.connected a connection))
    | _ => none
  | .connectFailed i message =>
    match s.tasks[i]? with
    | some (.connecting _) => some (s.move i (.finished (.error (.connect message))))
    | _ => none
  | .install i =>
    match s.tasks[i]? with
    | some (.connected a connection) => some (s.afterInstalling i a connection)
    | _ => none
  | .ready i =>
    match s.tasks[i]? with
    | some (.readying a g) => some (s.move i (.opening a g))
    | _ => none
  | .readinessFailed i =>
    match s.tasks[i]? with
    | some (.readying a g) =>
      some (s.step (s.pool.invalidateAfterReadinessFailure g) i (.abandoning a g))
    | _ => none
  | .abandon i =>
    match s.tasks[i]? with
    | some (.abandoning a g) =>
      some (s.step (s.pool.dropLease s.now g) i (afterReadinessFailure a))
    | _ => none
  | .readinessTimeout i =>
    match s.tasks[i]? with
    | some (.readying _ g) =>
      some (s.step (s.pool.dropLease s.now g) i
        (.finished (.error .acquisitionTimedOut)))
    | _ => none
  | .opened i elapsedMs =>
    match s.tasks[i]? with
    | some (.opening a g) =>
      some (s.step (s.pool.recordTunnelOpenDuration elapsedMs) i
        (if a.recoveryPending then .recovering g else .tunnel g))
    | _ => none
  | .openFailed i failure =>
    match s.tasks[i]? with
    | some (.opening a g) =>
      some (s.step (s.pool.dropLease s.now g) i (match failure with
        | .timedOut => .retiring a g
        | .h2Error => .invalidating a g
        | .other message => .finished (.error (.tunnel message))))
    | _ => none
  | .retire i =>
    match s.tasks[i]? with
    | some (.retiring a g) =>
      let r := s.pool.retireAfterHandshakeTimeoutIfUnshared g
      some (s.step r.1 i (afterHandshakeTimeout a r.2))
    | _ => none
  | .invalidate i =>
    match s.tasks[i]? with
    | some (.invalidating a g) =>
      some (s.step (s.pool.invalidateAfterStreamOpenFailure g) i (afterStreamOpenFailure a))
    | _ => none
  | .recordRecovery i =>
    match s.tasks[i]? with
    | some (.recovering g) => some (s.step s.pool.recordTimeoutRecovery i (.tunnel g))
    | _ => none
  | .streamReset i =>
    match s.tasks[i]? with
    | some (.tunnel g) => some (s.step s.pool.recordRuntimeStreamReset i (.tunnel g))
    | _ => none
  | .sendStall i =>
    match s.tasks[i]? with
    | some (.tunnel g) => some (s.step s.pool.recordRuntimeSendStall i (.tunnel g))
    | _ => none
  | .cancel i =>
    match s.tasks[i]? with
    | some (.awaitGate _) => some (s.move i (.finished (.error .cancelled)))
    | some (.connecting _) => some (s.move i (.finished (.error .cancelled)))
    | some (.readying _ g) =>
      some (s.step (s.pool.dropLease s.now g) i (.finished (.error .cancelled)))
    | some (.opening _ g) =>
      some (s.step (s.pool.dropLease s.now g) i (.finished (.error .cancelled)))
    | some (.tunnel g) => some (s.step (s.pool.dropLease s.now g) i (.finished (.ok ())))
    | _ => none
  | .tick now => if s.now ≤ now then some { s with now } else none
  | .connectionClosed =>
    match s.pool.connection with
    | some c =>
      some { s with pool := { s.pool with connection := some { c with connectionClosed := true } } }
    | none => none
  | .maintenance => some { s with pool := s.pool.retireInactiveConnection s.now idleTimeout }
  | .shutdown => some { s with pool := s.pool.shutDown }

/-- The number of live leases. -/
def liveLeases (s : PoolRun) : Nat := s.tasks.countP fun t => t.lease.isSome

/-- The number of live leases of a generation. -/
def leasesOf (s : PoolRun) (generation : Nat) : Nat :=
  s.tasks.countP fun t => t.lease == some generation

/-- The counters stay in range: fewer than `2^32` live leases and `2^64`
connections. -/
def InRange (idleTimeout : Nat) (s : PoolRun) (a : PoolAction) : Prop :=
  ∀ s', s.next idleTimeout a = some s' → s'.liveLeases < 2 ^ 32 ∧ s'.installed.length < 2 ^ 64

instance (idleTimeout : Nat) (s : PoolRun) (a : PoolAction) : Decidable (s.InRange idleTimeout a) :=
  inferInstanceAs (Decidable (∀ s' ∈ s.next idleTimeout a, _))

end PoolRun

/-- The system of all calls, with the idle timeout of the configuration. -/
def poolRuns (idleTimeout : Nat) : System PoolRun PoolAction where
  start := ⟨{}, [], 0, []⟩
  next := PoolRun.next idleTimeout

/-! ## What an action does -/

theorem dialing_of_free {t : Opening} (h : t.holdsGate = false) : t.dialing = false := by
  cases t <;> first | rfl | cases h

/-- A task may move on to a place without the gate, or keep it, or take it when
it is free; it never fails with a changed pool. -/
structure Moves (s : PoolRun) (i : Nat) (t t' : Opening) : Prop where
  located : s.tasks[i]? = some t
  gate : t'.holdsGate = true → t.holdsGate = true ∨ s.tasks.any Opening.holdsGate = false
  changed : t' ≠ .finished (.error .changedWhileConnecting)

variable {t : Opening} {pool pool' : H2ConnectionPoolState}

theorem Moves.of_free {s : PoolRun} {i : Nat} {t' : Opening} (hi : s.tasks[i]? = some t)
    (hgate : t'.holdsGate = false) (hchanged : t' ≠ .finished (.error .changedWhileConnecting)) :
    Moves s i t t' :=
  ⟨hi, fun hg => absurd (hgate.symm.trans hg) Bool.false_ne_true, hchanged⟩

/-- A section on behalf of `t` leaves a connection of another generation alone. -/
def Spares (t : Opening) (pool pool' : H2ConnectionPoolState) : Prop :=
  ∀ g c, t.generation = some g → pool.connection = some c → c.generation ≠ g →
    pool'.connection = some c

theorem Spares.of_eq (h : pool'.connection = pool.connection) : Spares t pool pool' :=
  fun _ _ _ hc _ => h.trans hc

theorem Spares.of_ne {g : Nat} (hg : t.generation = some g)
    (h : ∀ c, pool.connection = some c → c.generation ≠ g → pool'.connection = some c) :
    Spares t pool pool' := by
  intro g' c hg' hc hne
  cases hg.symm.trans hg'
  exact h c hc hne

/-- **The shapes of a step.** -/
inductive Effect (s : PoolRun) (a : PoolAction) (s' : PoolRun) : Prop where
  | call (t : Attempt) (hact : a.task = none)
      (h : s' = { s with tasks := s.tasks ++ [.checkout t] })
  | tick (now : Nat) (hact : a.task = none) (h : s' = { s with now })
  /-- the cached connection is noted as closed -/
  | closed (c : CachedH2Connection) (hact : a.task = none) (hc : s.pool.connection = some c)
      (h : s' = { s with
        pool := { s.pool with connection := some { c with connectionClosed := true } } })
  /-- a section outside of any call -/
  | shed (pool : H2ConnectionPoolState) (hact : a.task = none) (hshed : s.pool.Sheds pool)
      (h : s' = { s with pool })
  /-- a call moves on with what it holds -/
  | move (i : Nat) (t t' : Opening) (pool : H2ConnectionPoolState) (hact : a.task = some i)
      (hm : Moves s i t t') (hshed : s.pool.Sheds pool) (hspare : Spares t s.pool pool)
      (hlease : t'.lease = t.lease) (hdial : t'.dialing = true → t.dialing = true)
      (h : s' = s.step pool i t')
  /-- a call drops its lease -/
  | drop (i : Nat) (t t' : Opening) (g : Nat) (hact : a.task = some i) (hm : Moves s i t t')
      (hlease : t.lease = some g) (hgen : t.generation = some g) (hnone : t'.lease = none)
      (hdial : t'.dialing = false) (h : s' = s.step (s.pool.dropLease s.now g) i t')
  /-- a call checks out, or goes on to `empty` -/
  | checkout (i : Nat) (t : Opening) (attempt : Attempt) (empty : Opening)
      (hact : a.task = some i) (hm : Moves s i t empty) (hlease : t.lease = none)
      (hgen : t.generation = none) (hempty : empty.lease = none)
      (h : s' = s.step s.pool.checkoutCached.1 i
        (PoolRun.afterCheckout attempt empty s.pool.checkoutCached.2))
  | install (i : Nat) (attempt : Attempt) (c : H2Connection) (hact : a.task = some i)
      (hi : s.tasks[i]? = some (.connected attempt c)) (h : s' = s.afterInstalling i attempt c)

section
variable {s s' : PoolRun} {idleTimeout : Nat}

variable {a : PoolAction} {i : Nat} {t t' : Opening}

/-- A call moves on to a place without the gate. -/
theorem effect_move {pool : H2ConnectionPoolState} (hact : a.task = some i)
    (hi : s.tasks[i]? = some t) (hshed : s.pool.Sheds pool) (hspare : Spares t s.pool pool)
    (hlease : t'.lease = t.lease) (hgate : t'.holdsGate = false)
    (hchanged : t' ≠ .finished (.error .changedWhileConnecting)) :
    Effect s a (s.step pool i t') :=
  .move i t t' pool hact (.of_free hi hgate hchanged) hshed hspare hlease
    (fun hd => absurd ((dialing_of_free hgate).symm.trans hd) Bool.false_ne_true) rfl

/-- A call moves on and drops its lease. -/
theorem effect_drop {g : Nat} (hact : a.task = some i) (hi : s.tasks[i]? = some t)
    (hlease : t.lease = some g) (hgen : t.generation = some g) (hnone : t'.lease = none)
    (hgate : t'.holdsGate = false) (hchanged : t' ≠ .finished (.error .changedWhileConnecting)) :
    Effect s a (s.step (s.pool.dropLease s.now g) i t') :=
  .drop i t t' g hact (.of_free hi hgate hchanged) hlease hgen hnone (dialing_of_free hgate) rfl

/-- **Every action has one of the shapes.** -/
theorem next_effect (hnext : s.next idleTimeout a = some s') : Effect s a s' := by
  unfold PoolRun.next at hnext
  split at hnext <;> (try split at hnext) <;> (try split at hnext) <;> cases hnext
  -- most steps take a call on with what it holds, or end its lease
  all_goals try first
    | exact effect_move rfl ‹_› ⟨rfl, rfl, .inl rfl, .inl rfl⟩ (.of_eq rfl) (by rfl) rfl (by simp)
    | exact effect_drop rfl ‹_› (by rfl) (by rfl) rfl rfl (by simp)
  · exact .call _ rfl rfl
  · exact .checkout _ _ _ _ rfl (.of_free ‹_› rfl (by simp)) (by rfl) (by rfl) rfl rfl
  · next hi hfree =>
      exact .move _ _ (.recheck _) _ rfl ⟨hi, fun _ => .inr (by simpa using hfree), by simp⟩
        (.refl _) (.of_eq rfl) rfl nofun rfl
  · next hi => exact .checkout _ _ _ _ rfl ⟨hi, fun _ => .inl rfl, by simp⟩ rfl rfl rfl rfl
  · next hi =>
      exact .move _ _ (.connected _ _) (s.pool.recordConnectionSetupDuration _) rfl
        ⟨hi, fun _ => .inl rfl, by simp⟩ ⟨rfl, rfl, .inl rfl, .inl rfl⟩ (.of_eq rfl) rfl
        (fun _ => rfl) rfl
  · exact .install _ _ _ rfl ‹_› rfl
  · exact effect_move rfl ‹_› (s.pool.sheds_readinessFailure _)
      (.of_ne (by rfl) fun _ hc => H2ConnectionPoolState.takeGeneration_of_ne hc) (by rfl) rfl (by simp)
  · unfold PoolRun.afterReadinessFailure
    split <;> exact effect_drop rfl ‹_› (by rfl) (by rfl) rfl rfl (by simp)
  · unfold PoolRun.afterHandshakeTimeout
    split <;> exact effect_move rfl ‹_› (s.pool.sheds_handshakeTimeout _)
      (.of_ne (by rfl) fun _ => H2ConnectionPoolState.retireAfterHandshakeTimeout_of_ne) (by rfl) rfl
      (by simp)
  · unfold PoolRun.afterStreamOpenFailure
    split <;> exact effect_move rfl ‹_› (s.pool.sheds_streamOpenFailure _)
      (.of_ne (by rfl) fun _ hc => H2ConnectionPoolState.takeGeneration_of_ne hc) (by rfl) rfl (by simp)
  · exact .tick _ rfl rfl
  · exact .closed _ rfl ‹_› rfl
  · exact .shed _ rfl (s.pool.sheds_retireInactive _ _) rfl
  · exact .shed _ rfl s.pool.sheds_shutDown rfl

end

end Client
end Maverick
