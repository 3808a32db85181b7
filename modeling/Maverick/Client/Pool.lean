import Maverick.Core.Transcript
import Maverick.Lib.Machine

/-!
# The H2 connection pool

The state of `maverick_client::connection_manager` and each section of the code
that runs under its lock.  At most one connection is cached; a stream that uses
it holds a lease, which outlives the cached connection when that is retired.
Counters saturate.  Instants are milliseconds.

* `H2ConnectionPoolState.checkoutCached_spec`,
  `H2ConnectionPoolState.installAndCheckout_spec` — what taking a stream does to
  the cached connection and to the number of streams.
* `H2ConnectionPoolState.dropLease_spec` — what returning one does.
-/

namespace Maverick
namespace Client

open Lib

def MAX_READY_ATTEMPTS : Nat := 2

inductive ObservedOuterTlsVersion where
  | tls12
  | tls13
  | unknown
  deriving DecidableEq

inductive ObservedOuterTlsGroup where
  | x25519MlKem768
  | x25519
  | secp256r1
  | secp384r1
  | otherOrUnknown
  deriving DecidableEq

/-- A connection that has been set up. -/
structure H2Connection where
  channelBinding : Option TlsChannelBinding
  connectionClosed : Bool
  observedOuterTlsVersion : ObservedOuterTlsVersion
  observedOuterTlsGroup : ObservedOuterTlsGroup
  deriving DecidableEq

structure CachedH2Connection where
  generation : Nat
  channelBinding : Option TlsChannelBinding
  /-- the last value of the watch channel -/
  connectionClosed : Bool
  activeStreams : Nat
  idleSince : Option Nat
  deriving DecidableEq

/-- Has the connection been idle for the timeout? -/
def CachedH2Connection.idleElapsed (c : CachedH2Connection) (now idleTimeout : Nat) : Bool :=
  match c.idleSince with
  | some idleSince => idleTimeout ≤ now - idleSince
  | none => false

def H2_DURATION_BUCKET_UPPER_BOUNDS_MS : List Nat :=
  [10, 25, 50, 100, 250, 500, 1000, 2500, 5000, 10000]

structure H2DurationHistogram where
  count : Nat := 0
  sumMs : Nat := 0
  /-- one bucket for each bound and one without a bound -/
  buckets : List Nat := List.replicate (H2_DURATION_BUCKET_UPPER_BOUNDS_MS.length + 1) 0
  deriving DecidableEq

/-- `H2DurationHistogram::record` -/
def H2DurationHistogram.record (h : H2DurationHistogram) (elapsedMs : Nat) : H2DurationHistogram :=
  let elapsedMs := min elapsedMs (2 ^ 64 - 1)
  { count := satSucc 64 h.count
    sumMs := min (h.sumMs + elapsedMs) (2 ^ 64 - 1)
    buckets := h.buckets.mapIdx fun index bucket =>
      match H2_DURATION_BUCKET_UPPER_BOUNDS_MS[index]? with
      | some upperBoundMs => if elapsedMs ≤ upperBoundMs then satSucc 64 bucket else bucket
      | none => satSucc 64 bucket }

structure H2ConnectionPoolState where
  connection : Option CachedH2Connection := none
  nextGeneration : Nat := 0
  connectionsCreated : Nat := 0
  /-- the counters of connections by observed TLS version and group -/
  observedVersion : ObservedOuterTlsVersion → Nat := fun _ => 0
  observedGroup : ObservedOuterTlsGroup → Nat := fun _ => 0
  streamsOpened : Nat := 0
  streamsReused : Nat := 0
  reconnects : Nat := 0
  readinessFailures : Nat := 0
  streamOpenFailures : Nat := 0
  handshakeTimeouts : Nat := 0
  timeoutRetirements : Nat := 0
  timeoutRecoveries : Nat := 0
  idleRetirements : Nat := 0
  closedRetirements : Nat := 0
  runtimeStreamResets : Nat := 0
  runtimeSendStalls : Nat := 0
  connectionSetupDurationMs : H2DurationHistogram := {}
  tunnelOpenDurationMs : H2DurationHistogram := {}
  activeStreams : Nat := 0
  shutdown : Bool := false

/-- The failures of `open_h2`. -/
inductive PoolError where
  | shutDown
  | changedWhileConnecting
  | gateTimeout
  | connect (message : String)
  | connectionClosed
  | acquisitionTimedOut
  | streamOpenFailed
  | handshakeTimedOut
  | tunnel (message : String)
  /-- not an error of the source: the call was dropped -/
  | cancelled
  deriving DecidableEq

/-- What a checkout hands out; its lease carries the generation. -/
structure H2Checkout where
  generation : Nat
  channelBinding : Option TlsChannelBinding
  deriving DecidableEq

namespace H2ConnectionPoolState

/-! ## The locked sections -/

/-- `record_installed_connection` -/
def recordInstalledConnection (s : H2ConnectionPoolState) (version : ObservedOuterTlsVersion)
    (group : ObservedOuterTlsGroup) : H2ConnectionPoolState :=
  if satSucc 64 s.connectionsCreated = s.connectionsCreated then s
  else
    { s with
      connectionsCreated := satSucc 64 s.connectionsCreated
      observedVersion := Function.update s.observedVersion version
        (satSucc 64 (s.observedVersion version))
      observedGroup := Function.update s.observedGroup group (satSucc 64 (s.observedGroup group)) }

/-- `H2ConnectionLease::drop` -/
def dropLease (s : H2ConnectionPoolState) (now generation : Nat) : H2ConnectionPoolState :=
  let s := { s with activeStreams := s.activeStreams - 1 }
  match s.connection with
  | none => s
  | some connection =>
    if connection.generation ≠ generation then s
    else
      let activeStreams := connection.activeStreams - 1
      { s with
        connection := some { connection with
          activeStreams
          idleSince := if activeStreams = 0 then some now else connection.idleSince } }

/-- The retirement of a connection that has closed, at the head of a checkout. -/
def retireClosed (s : H2ConnectionPoolState) : H2ConnectionPoolState :=
  match s.connection with
  | some connection =>
    if connection.connectionClosed then
      { s with connection := none, closedRetirements := satSucc 64 s.closedRetirements }
    else s
  | none => s

/-- `checkout_cached` -/
def checkoutCached (s : H2ConnectionPoolState) :
    H2ConnectionPoolState × Except PoolError (Option H2Checkout) :=
  if s.shutdown then (s, .error .shutDown)
  else
    let s := s.retireClosed
    match s.connection with
    | none => (s, .ok none)
    | some connection =>
      ({ s with
          connection := some { connection with
            activeStreams := satSucc 32 connection.activeStreams, idleSince := none }
          activeStreams := satSucc 32 s.activeStreams
          streamsOpened := satSucc 64 s.streamsOpened
          streamsReused := satSucc 64 s.streamsReused },
        .ok (some ⟨connection.generation, connection.channelBinding⟩))

/-- `install_and_checkout` -/
def installAndCheckout (s : H2ConnectionPoolState) (c : H2Connection) :
    H2ConnectionPoolState × Except PoolError H2Checkout :=
  if s.shutdown then (s, .error .shutDown)
  else if s.connection.isSome then (s, .error .changedWhileConnecting)
  else
    let generation := satSucc 64 s.nextGeneration
    let s := { s with
      nextGeneration := generation
      reconnects := if 0 < s.connectionsCreated then satSucc 64 s.reconnects else s.reconnects }
    let s := s.recordInstalledConnection c.observedOuterTlsVersion c.observedOuterTlsGroup
    ({ s with
        streamsOpened := satSucc 64 s.streamsOpened
        activeStreams := satSucc 32 s.activeStreams
        connection := some
          { generation
            channelBinding := c.channelBinding
            connectionClosed := c.connectionClosed
            activeStreams := 1
            idleSince := none } },
      .ok ⟨generation, c.channelBinding⟩)

/-- The removal of the cached connection if it has the generation. -/
def takeGeneration (s : H2ConnectionPoolState) (generation : Nat) : H2ConnectionPoolState :=
  match s.connection with
  | some connection =>
    if connection.generation = generation then { s with connection := none } else s
  | none => s

/-- `invalidate_after_readiness_failure` -/
def invalidateAfterReadinessFailure (s : H2ConnectionPoolState) (generation : Nat) :
    H2ConnectionPoolState :=
  { s with readinessFailures := satSucc 64 s.readinessFailures }.takeGeneration generation

/-- `invalidate_after_stream_open_failure` -/
def invalidateAfterStreamOpenFailure (s : H2ConnectionPoolState) (generation : Nat) :
    H2ConnectionPoolState :=
  { s with streamOpenFailures := satSucc 64 s.streamOpenFailures }.takeGeneration generation

/-- `retire_after_handshake_timeout_if_unshared` -/
def retireAfterHandshakeTimeoutIfUnshared (s : H2ConnectionPoolState) (generation : Nat) :
    H2ConnectionPoolState × Bool :=
  let s := { s with handshakeTimeouts := satSucc 64 s.handshakeTimeouts }
  match s.connection with
  | some connection =>
    if connection.generation = generation ∧ connection.activeStreams = 0 then
      ({ s with connection := none, timeoutRetirements := satSucc 64 s.timeoutRetirements }, true)
    else (s, false)
  | none => (s, false)

/-- `record_timeout_recovery` -/
def recordTimeoutRecovery (s : H2ConnectionPoolState) : H2ConnectionPoolState :=
  { s with timeoutRecoveries := satSucc 64 s.timeoutRecoveries }

/-- `record_connection_setup_duration` -/
def recordConnectionSetupDuration (s : H2ConnectionPoolState) (elapsedMs : Nat) :
    H2ConnectionPoolState :=
  { s with connectionSetupDurationMs := s.connectionSetupDurationMs.record elapsedMs }

/-- `record_tunnel_open_duration` -/
def recordTunnelOpenDuration (s : H2ConnectionPoolState) (elapsedMs : Nat) :
    H2ConnectionPoolState :=
  { s with tunnelOpenDurationMs := s.tunnelOpenDurationMs.record elapsedMs }

/-- `record_runtime_stream_reset` -/
def recordRuntimeStreamReset (s : H2ConnectionPoolState) : H2ConnectionPoolState :=
  { s with runtimeStreamResets := satSucc 64 s.runtimeStreamResets }

/-- `record_runtime_send_stall` -/
def recordRuntimeSendStall (s : H2ConnectionPoolState) : H2ConnectionPoolState :=
  { s with runtimeSendStalls := satSucc 64 s.runtimeSendStalls }

/-- `retire_inactive_connection` -/
def retireInactiveConnection (s : H2ConnectionPoolState) (now idleTimeout : Nat) :
    H2ConnectionPoolState :=
  match s.connection with
  | none => s
  | some connection =>
    if connection.connectionClosed then
      { s with connection := none, closedRetirements := satSucc 64 s.closedRetirements }
    else
      if connection.activeStreams = 0 ∧ connection.idleElapsed now idleTimeout = true then
        { s with connection := none, idleRetirements := satSucc 64 s.idleRetirements }
      else s

/-- `shutdown` -/
def shutDown (s : H2ConnectionPoolState) : H2ConnectionPoolState :=
  { s with shutdown := true, connection := none }

/-! ## What the sections do -/

/-- The section hands out and returns no stream; at most it removes the cached
connection. -/
structure Sheds (s s' : H2ConnectionPoolState) : Prop where
  nextGeneration : s'.nextGeneration = s.nextGeneration
  activeStreams : s'.activeStreams = s.activeStreams
  connection : s'.connection = s.connection ∨ s'.connection = none
  shutdown : s'.shutdown = s.shutdown ∨ s'.shutdown = true ∧ s'.connection = none

theorem Sheds.refl (s : H2ConnectionPoolState) : s.Sheds s := ⟨rfl, rfl, .inl rfl, .inl rfl⟩

theorem sheds_takeGeneration (s : H2ConnectionPoolState) (generation : Nat) :
    s.Sheds (s.takeGeneration generation) := by
  unfold takeGeneration
  split <;> (try split)
  exacts [⟨rfl, rfl, .inr rfl, .inl rfl⟩, Sheds.refl s, Sheds.refl s]

theorem sheds_readinessFailure (s : H2ConnectionPoolState) (generation : Nat) :
    s.Sheds (s.invalidateAfterReadinessFailure generation) :=
  { sheds_takeGeneration { s with readinessFailures := satSucc 64 s.readinessFailures } generation
    with }

theorem sheds_streamOpenFailure (s : H2ConnectionPoolState) (generation : Nat) :
    s.Sheds (s.invalidateAfterStreamOpenFailure generation) :=
  { sheds_takeGeneration { s with streamOpenFailures := satSucc 64 s.streamOpenFailures } generation
    with }

theorem sheds_handshakeTimeout (s : H2ConnectionPoolState) (generation : Nat) :
    s.Sheds (s.retireAfterHandshakeTimeoutIfUnshared generation).1 := by
  unfold retireAfterHandshakeTimeoutIfUnshared
  dsimp only
  split <;> (try split)
  · exact ⟨rfl, rfl, .inr rfl, .inl rfl⟩
  · exact ⟨rfl, rfl, .inl rfl, .inl rfl⟩
  · exact ⟨rfl, rfl, .inl rfl, .inl rfl⟩

theorem sheds_retireInactive (s : H2ConnectionPoolState) (now idleTimeout : Nat) :
    s.Sheds (s.retireInactiveConnection now idleTimeout) := by
  unfold retireInactiveConnection
  split <;> (try split) <;> (try split)
  · exact Sheds.refl s
  · exact ⟨rfl, rfl, .inr rfl, .inl rfl⟩
  · exact ⟨rfl, rfl, .inr rfl, .inl rfl⟩
  · exact Sheds.refl s

theorem sheds_shutDown (s : H2ConnectionPoolState) : s.Sheds s.shutDown :=
  ⟨rfl, rfl, .inr rfl, .inr ⟨rfl, rfl⟩⟩

theorem sheds_retireClosed (s : H2ConnectionPoolState) : s.Sheds s.retireClosed := by
  unfold retireClosed
  split <;> (try split)
  exacts [⟨rfl, rfl, .inr rfl, .inl rfl⟩, Sheds.refl s, Sheds.refl s]

/-- One stream more on the cached connection. -/
structure Borrows (s s' : H2ConnectionPoolState) (c : CachedH2Connection) : Prop where
  before : s.connection = some c
  connection : s'.connection = some
    { c with activeStreams := satSucc 32 c.activeStreams, idleSince := none }
  activeStreams : s'.activeStreams = satSucc 32 s.activeStreams
  nextGeneration : s'.nextGeneration = s.nextGeneration
  shutdown : s'.shutdown = s.shutdown

/-- **A checkout** fails, finds nothing, or takes a stream on the cached
connection. -/
theorem checkoutCached_spec (s : H2ConnectionPoolState) :
    ((∃ e, s.checkoutCached.2 = .error e ∧ e ≠ .changedWhileConnecting) ∧
        s.Sheds s.checkoutCached.1) ∨
    (s.checkoutCached.2 = .ok none ∧ s.Sheds s.checkoutCached.1 ∧
        s.checkoutCached.1.connection = none) ∨
    ∃ c, s.checkoutCached.2 = .ok (some ⟨c.generation, c.channelBinding⟩) ∧
        s.Borrows s.checkoutCached.1 c := by
  unfold checkoutCached
  split
  · exact .inl ⟨⟨_, rfl, by decide⟩, Sheds.refl s⟩
  have hshed := sheds_retireClosed s
  dsimp only
  split
  · next hnone => exact .inr (.inl ⟨rfl, hshed, hnone⟩)
  next c hsome =>
    have hthere : s.retireClosed.connection ≠ none := hsome ▸ Option.some_ne_none c
    have hsame := hshed.connection.resolve_right hthere
    have hshut := hshed.shutdown.resolve_right fun h => hthere h.2
    exact .inr (.inr ⟨c, rfl, hsame ▸ hsome, rfl, congrArg (satSucc 32) hshed.activeStreams,
      hshed.nextGeneration, hshut⟩)

/-- A connection is recorded in the counters of connections only. -/
theorem recordInstalledConnection_spec (s : H2ConnectionPoolState)
    (version : ObservedOuterTlsVersion) (group : ObservedOuterTlsGroup) :
    (s.recordInstalledConnection version group).nextGeneration = s.nextGeneration ∧
    (s.recordInstalledConnection version group).activeStreams = s.activeStreams ∧
    (s.recordInstalledConnection version group).shutdown = s.shutdown := by
  unfold recordInstalledConnection
  split <;> exact ⟨rfl, rfl, rfl⟩

/-- **An installation** on an empty cache fails when the pool is shut down, and
otherwise caches a connection of the next generation with one stream. -/
theorem installAndCheckout_spec (s : H2ConnectionPoolState) (c : H2Connection)
    (hempty : s.connection = none) :
    (s.installAndCheckout c = (s, .error .shutDown)) ∨
    (s.shutdown = false ∧
      (s.installAndCheckout c).2 = .ok ⟨satSucc 64 s.nextGeneration, c.channelBinding⟩ ∧
      (s.installAndCheckout c).1.nextGeneration = satSucc 64 s.nextGeneration ∧
      (s.installAndCheckout c).1.activeStreams = satSucc 32 s.activeStreams ∧
      (s.installAndCheckout c).1.shutdown = false ∧
      (s.installAndCheckout c).1.connection = some ⟨satSucc 64 s.nextGeneration, c.channelBinding,
        c.connectionClosed, 1, none⟩) := by
  unfold installAndCheckout
  cases hshut : s.shutdown with
  | true => exact .inl rfl
  | false => simp [hempty, recordInstalledConnection_spec]

/-- **A drop** returns one stream, on the cached connection only if that has the
generation of the lease. -/
theorem dropLease_spec (s : H2ConnectionPoolState) (now generation : Nat) :
    (s.dropLease now generation).activeStreams = s.activeStreams - 1 ∧
    (s.dropLease now generation).nextGeneration = s.nextGeneration ∧
    (s.dropLease now generation).shutdown = s.shutdown ∧
    ∀ c', (s.dropLease now generation).connection = some c' → ∃ c, s.connection = some c ∧
      c'.generation = c.generation ∧
      c'.activeStreams =
        if c.generation = generation then c.activeStreams - 1 else c.activeStreams := by
  unfold dropLease
  dsimp only
  split <;> (try split) <;> refine ⟨rfl, rfl, rfl, fun c' h => ?_⟩
  · next hnone => cases hnone.symm.trans h
  · next c hsome hne =>
      cases hsome.symm.trans h
      exact ⟨c, hsome, rfl, (if_neg hne).symm⟩
  next c hsome heq =>
    cases h
    exact ⟨c, hsome, rfl, (if_pos (not_not.mp heq)).symm⟩

theorem connection_dropLease_of_none (s : H2ConnectionPoolState) (now generation : Nat)
    (h : s.connection = none) : (s.dropLease now generation).connection = none := by
  simp [dropLease, h]

variable {s : H2ConnectionPoolState} {c : CachedH2Connection} {now g : Nat}

theorem dropLease_of_ne (hc : s.connection = some c) (hg : c.generation ≠ g) :
    (s.dropLease now g).connection = some c := by
  simp [dropLease, hc, hg]

theorem takeGeneration_of_ne (hc : s.connection = some c) (hg : c.generation ≠ g) :
    (s.takeGeneration g).connection = some c := by
  simp [takeGeneration, hc, hg]

theorem retireAfterHandshakeTimeout_of_ne (hc : s.connection = some c) (hg : c.generation ≠ g) :
    (s.retireAfterHandshakeTimeoutIfUnshared g).1.connection = some c := by
  simp [retireAfterHandshakeTimeoutIfUnshared, hc, hg]

/-- A handshake timeout retires only a connection without streams. -/
theorem activeStreams_of_retired (hc : s.connection = some c)
    (h : (s.retireAfterHandshakeTimeoutIfUnshared g).1.connection = none) :
    c.activeStreams = 0 := by
  by_contra hne
  simp [retireAfterHandshakeTimeoutIfUnshared, hc, hne] at h

/-- The maintenance task retires an open connection only when it has no
streams. -/
theorem activeStreams_of_idle {idleTimeout : Nat} (hc : s.connection = some c)
    (hopen : c.connectionClosed = false)
    (h : (s.retireInactiveConnection now idleTimeout).connection = none) : c.activeStreams = 0 := by
  by_contra hne
  simp [retireInactiveConnection, hc, hopen, hne] at h

end H2ConnectionPoolState
end Client
end Maverick
