import Maverick.Client.HalfClose

/-!
# Truncated downloads

A relay that returns `RelayClose::Graceful` should have been told by the server that the
download is complete.  A TUN application reads through a `ConnectorTcpStream`, which turns the
end of the relay's stream into end of file, or into a reset when `relay_failed` is set.

* `ClosedDown` — the server has closed the flow, and all it sent before is written.
* `truncated_is_graceful` — on H2 a response that breaks off is reported as graceful.
* `connectorStream` — the task of `open_tcp` and the application's reads.
* `truncation_detected` — when a response ends with a closing frame, graceful means complete; and
  what the application takes for end of file.
-/

namespace Maverick
namespace Client

open Lib Server

/-! ## The relay -/

/-- The flow was closed by a TcpFin or CloseFlow, and everything before it is written. -/
structure ClosedDown (flowId : UInt64) (s : ClientRelay) : Prop where
  closed : ∃ f ∈ s.down.received, f.flowId = flowId ∧
    (f.frameType = .tcpFin ∨ f.frameType = .closeFlow)
  written : s.down.written = carried (downloadVerdict flowId) s.down.received

/-! An H2 response of half a frame. -/

namespace BrokenOff

def trace : List ClientRelayAction :=
  [.chunk ((Framing.grpc.bytes (tcpData 1 [1, 2])).take 10), .streamEnd none]

end BrokenOff

/-- **A response that breaks off is graceful** on H2. -/
theorem truncated_is_graceful : ∃ s : ClientRelay,
    (clientRelay .h2 Plain.policy 65536 1 []).Reach s ∧
    s.outcome = some (.returned .graceful) ∧ ¬ ClosedDown 1 s := by
  obtain ⟨s, hreach, hreturned, hreceived⟩ :=
    (clientRelay .h2 Plain.policy 65536 1 []).exists_reach
      (fun s => s.outcome = some (.returned .graceful) ∧ s.down.received = []) BrokenOff.trace
      (by decide +kernel)
  refine ⟨s, hreach, hreturned, fun h => ?_⟩
  obtain ⟨f, hf, -⟩ := h.closed
  rw [hreceived] at hf
  cases hf

def ClientRelayAction.isStreamEnd : ClientRelayAction → Bool
  | streamEnd _ => true
  | _ => false

def ClientRelayAction.isIdle : ClientRelayAction → Bool
  | idle => true
  | _ => false

/-- The response does not end before a frame that ends the download. -/
def EndsClosed (s : ClientRelay) (action : ClientRelayAction) : Prop :=
  action.isStreamEnd = true → s.down.isStopped = true

instance (s : ClientRelay) (action : ClientRelayAction) : Decidable (EndsClosed s action) :=
  inferInstanceAs (Decidable (_ → _))

section
variable {carrier : Carrier} {policy : TunnelRelayPolicy} {max : Nat} {flowId : UInt64}
  {recvBuf : Bytes} {s s' : ClientRelay} {action : ClientRelayAction}

theorem ClientJoined.closedDown (h : ClientJoined carrier flowId s) {f : Frame}
    (hphase : s.down.phase = .stopped f) (hclose : closeOf f = .graceful) :
    ClosedDown flowId s := by
  obtain ⟨hmem, hstop⟩ := h.down.last f hphase
  obtain ⟨hflow, -⟩ := stop_of_downloadVerdict hstop
  refine ⟨⟨f, hmem, hflow, ?_⟩, h.down.written_of_stopped (by rw [Inlet.isStopped, hphase])⟩
  by_contra hother
  rw [closeOf, if_neg hother] at hclose
  cases hclose

/-- A relay that has returned was stopped by a frame. -/
def Stopped (s : ClientRelay) : Prop :=
  ∀ close, s.outcome = some (.returned close) → s.down.isStopped = true

theorem Stopped.settle (hrunning : s.outcome = none) : Stopped (s.settle carrier) := by
  intro close hclose
  rw [ClientRelay.settle_down]
  rcases s.settle_cases carrier with heq | ⟨f, hphase, -, -⟩
  · rw [heq, hrunning] at hclose
    cases hclose
  · rw [Inlet.isStopped, hphase]

theorem Stopped.of_running (hrunning : s.outcome = none) : Stopped s := by
  intro close hclose
  cases hrunning.symm.trans hclose

theorem Stopped.effect (hrunning : s.outcome = none) (hgood : EndsClosed s action)
    (heffect : ClientEffect carrier max flowId s action s') : Stopped s' := by
  cases heffect with
  | failed _ _ | idle _ => exact fun _ => nofun
  | took f buf _ _ _ =>
    intro close hclose
    rcases ClientRelay.takeFrame_cases { s with recvBuf := buf } carrier flowId f with
      ⟨_, heq⟩ | ⟨hflow, htype, heq⟩ | ⟨-, -, heq⟩
    · rw [heq] at hclose
      cases hclose
    · rw [heq]
      have hstop : downloadVerdict flowId f = .stop := by
        rw [downloadVerdict, if_pos hflow, htype]
      have hphase : (s.down.take (downloadVerdict flowId) f).phase = .stopped f :=
        Inlet.phase_take_eq_stopped.mpr ⟨hstop, rfl⟩
      show (s.down.take (downloadVerdict flowId) f).isStopped = true
      rw [Inlet.isStopped, hphase]
    · rw [heq] at hclose
      rw [show s.outcome = some (.returned close) from hclose] at hrunning
      cases hrunning
  | ended _ hphase _ =>
    have hstopped := hgood rfl
    rw [Inlet.isStopped, hphase] at hstopped
    cases hstopped
  | finished _ | shutWs _ _ | sent _ => exact .settle hrunning
  | _ => exact .of_running hrunning

theorem closedDown_of_graceful
    (h : (clientRelay carrier policy max flowId recvBuf).ReachBy EndsClosed s)
    (hreturned : s.outcome = some (.returned .graceful)) : ClosedDown flowId s := by
  have hjoined := ClientJoined.of_reach h
  have hstopped : Stopped s :=
    h.invariant (I := Stopped) (.of_running rfl) fun _ _ _ _ hgood hnext =>
      .effect (ClientRelay.next_effect hnext).1 hgood (ClientRelay.next_effect hnext).2
  rcases hjoined.returned _ hreturned with ⟨hreading, -⟩ | ⟨f, hphase, hclose, -⟩
  · have hphase := hstopped _ hreturned
    rw [Inlet.isStopped, hreading] at hphase
    cases hphase
  · exact hjoined.closedDown hphase hclose.symm

end

/-! ## The application's stream -/

/-- The task that `open_tcp` spawns. -/
inductive ConnectorTask where
  | running
  /-- the relay has ended and `relay_failed` is written -/
  | stored
  /-- the relay's end of the stream is dropped -/
  | gone
  deriving DecidableEq

inductive StreamEnd where
  | endOfFile
  | connectionReset
  deriving DecidableEq

structure ConnectorStream where
  relay : ClientRelay
  relayFailed : Bool
  task : ConnectorTask
  /-- how many bytes the application has read -/
  taken : Nat
  seen : Option StreamEnd
  deriving DecidableEq

inductive ConnectorAction where
  | relay (action : ClientRelayAction)
  | store
  | drop
  /-- the connector or the flow is cancelled -/
  | cancel
  | read (n : Nat)
  /-- a read after the last byte -/
  | readEnd

/-- `Ok(RelayClose::Graceful)` -/
def ClientRelayOutcome.isGraceful : ClientRelayOutcome → Bool
  | .returned .graceful | .idle => true
  | _ => false

section
variable (carrier : Carrier) (policy : TunnelRelayPolicy) (max : Nat) (flowId : UInt64)

def ConnectorStream.next (t : ConnectorStream) : ConnectorAction → Option ConnectorStream
  | .relay action =>
    if t.task = .running then
      (t.relay.next carrier flowId policy max action).map fun relay => { t with relay := relay }
    else none
  | .store =>
    match t.task, t.relay.outcome with
    | .running, some outcome =>
      some { t with relayFailed := !outcome.isGraceful, task := .stored }
    | _, _ => none
  | .drop => if t.task = .stored then some { t with task := .gone } else none
  | .cancel =>
    if t.task = .running ∧ t.relay.outcome = none then some { t with task := .gone } else none
  | .read n =>
    if t.seen = none ∧ t.taken + n ≤ t.relay.down.written.length then
      some { t with taken := t.taken + n }
    else none
  | .readEnd =>
    -- the buffer of the stream is empty, and its other end is shut down or gone
    if t.seen = none ∧ t.taken = t.relay.down.written.length ∧
        (t.relay.down.shutDown = true ∨ t.task = .gone) then
      some { t with seen := some (if t.relayFailed then .connectionReset else .endOfFile) }
    else none

/-- A TCP flow of the connector and the application that reads it. -/
def connectorStream (recvBuf : Bytes) : System ConnectorStream ConnectorAction where
  start := ⟨.start recvBuf, false, .running, 0, none⟩
  next := ConnectorStream.next carrier policy max flowId

end

/-- No frame that makes the relay shut down the local stream although it is a reset. -/
def OrderlyFrame (carrier : Carrier) (flowId : UInt64) : Option Frame → Prop
  | none => True
  | some f => f.flowId = flowId →
      (carrier ≠ .h3 → f.frameType ≠ .error) ∧ (carrier = .cloudflareWs → f.frameType ≠ .tcpReset)

instance (carrier : Carrier) (flowId : UInt64) :
    ∀ handed, Decidable (OrderlyFrame carrier flowId handed)
  | none => .isTrue trivial
  | some f => inferInstanceAs (Decidable (f.flowId = flowId →
      (_ → f.frameType ≠ .error) ∧ (_ → f.frameType ≠ .tcpReset)))

/-- No such frame, no response that ends early, and no idle timeout that is reported as
graceful. -/
def Orderly (carrier : Carrier) (max : Nat) (flowId : UInt64) (s : ClientRelay)
    (action : ClientRelayAction) : Prop :=
  OrderlyFrame carrier flowId (s.handed carrier max action) ∧ EndsClosed s action ∧
    (action.isIdle = true → carrier = .h3)

instance (carrier : Carrier) (max : Nat) (flowId : UInt64) (s : ClientRelay)
    (action : ClientRelayAction) : Decidable (Orderly carrier max flowId s action) :=
  inferInstanceAs (Decidable (_ ∧ _ ∧ _))

/-- The same for the flow, which is not cancelled. -/
def OrderlyFlow (carrier : Carrier) (max : Nat) (flowId : UInt64) (t : ConnectorStream) :
    ConnectorAction → Prop
  | .relay action => Orderly carrier max flowId t.relay action
  | .cancel => False
  | _ => True

instance (carrier : Carrier) (max : Nat) (flowId : UInt64) (t : ConnectorStream) :
    ∀ action, Decidable (OrderlyFlow carrier max flowId t action)
  | .relay _ => inferInstanceAs (Decidable (Orderly carrier max flowId t.relay _))
  | .cancel => .isFalse id
  | .store | .drop | .read _ | .readEnd => .isTrue trivial

section
variable {carrier : Carrier} {policy : TunnelRelayPolicy} {max : Nat} {flowId : UInt64}
  {recvBuf : Bytes} {s s' : ClientRelay} {action : ClientRelayAction}

/-- The local stream is shut down only for a flow that was closed. -/
structure ShutOrderly (carrier : Carrier) (s : ClientRelay) : Prop where
  closes : s.outcome = none ∨ s.down.shutDown = true →
    ∀ f, s.down.phase = .stopped f → closeOf f = .graceful
  idle : s.outcome ≠ some .idle

theorem ShutOrderly.settle (h : ShutOrderly carrier s) (hrunning : s.outcome = none) :
    ShutOrderly carrier (s.settle carrier) := by
  refine ⟨fun _ f hf => ?_, ?_⟩
  · rw [ClientRelay.settle_down] at hf
    exact h.closes (.inl hrunning) f hf
  rcases s.settle_cases carrier with heq | ⟨f, -, -, heq⟩
  · rw [heq]
    exact h.idle
  · rw [heq]
    nofun

/-- A step that leaves the download's phase as it is. -/
theorem ShutOrderly.same (h : ShutOrderly carrier s) (hrunning : s.outcome = none)
    (hphase : s'.down.phase = s.down.phase) (hidle : s'.outcome ≠ some .idle) :
    ShutOrderly carrier s' := by
  refine ⟨fun _ f hf => ?_, hidle⟩
  rw [hphase] at hf
  exact h.closes (.inl hrunning) f hf

theorem ShutOrderly.ended (hopen : s.down.shutDown ≠ true) (houtcome : s.outcome ≠ none)
    (hidle : s.outcome ≠ some .idle) : ShutOrderly carrier s :=
  ⟨fun hwhen => hwhen.elim (absurd · houtcome) (absurd · hopen), hidle⟩

theorem ShutOrderly.takeFrame (hjoined : ClientJoined carrier flowId s)
    (h : ShutOrderly carrier s) (hphase : s.down.phase = .reading) {f : Frame}
    (hframe : OrderlyFrame carrier flowId (some f)) (buf : Bytes) :
    ShutOrderly carrier ({ s with recvBuf := buf }.takeFrame carrier flowId f) := by
  have hopen : s.down.shutDown ≠ true := by
    intro hshut
    have hstopped := hjoined.down.shutDown hshut
    rw [Inlet.isStopped, hphase] at hstopped
    cases hstopped
  rcases ClientRelay.takeFrame_cases { s with recvBuf := buf } carrier flowId f with
    ⟨error, heq⟩ | ⟨-, -, heq⟩ | ⟨herror, hreset, heq⟩
  · rw [heq]
    exact .ended hopen (Option.some_ne_none _) fun hidle => by cases hidle
  · rw [heq]
    exact .ended hopen (Option.some_ne_none _) fun hidle => by cases hidle
  rw [heq]
  refine ⟨fun _ g hg => ?_, h.idle⟩
  obtain ⟨hstop, rfl⟩ := Inlet.phase_take_eq_stopped.mp hg
  obtain ⟨hflow, htype⟩ := stop_of_downloadVerdict hstop
  obtain ⟨herror', hreset'⟩ := hframe hflow
  refine closeOf_eq_graceful htype ?_ ?_
  · by_cases hcarrier : carrier = .h3
    exacts [herror hcarrier hflow, herror' hcarrier]
  by_cases hcarrier : carrier = .cloudflareWs
  exacts [hreset' hcarrier, hreset hcarrier hflow]

theorem ShutOrderly.effect (hjoined : ClientJoined carrier flowId s) (h : ShutOrderly carrier s)
    (hrunning : s.outcome = none) (hgood : Orderly carrier max flowId s action)
    (heffect : ClientEffect carrier max flowId s action s') : ShutOrderly carrier s' := by
  cases heffect with
  | failed _ _ | ended _ _ _ => exact h.same hrunning rfl nofun
  | took f buf hphase _ hhanded =>
    have hframe := hgood.1
    rw [hhanded] at hframe
    exact .takeFrame hjoined h hphase hframe buf
  | finished _ | shutWs _ _ | sent _ =>
    refine ShutOrderly.settle (h.same hrunning ?_ ?_) ?_
    · rfl
    · exact h.idle
    · exact hrunning
  | @wrote _ _ down hwrote =>
    have hopen := Inlet.isStopped_wrote hwrote
    refine ⟨fun _ f hf => ?_, h.idle⟩
    rw [Inlet.isStopped, show down.phase = .stopped f from hf] at hopen
    cases hopen
  | idle hcarrier => exact absurd (hgood.2.2 rfl) hcarrier
  | _ => exact h.same hrunning rfl h.idle

/-- A stopped download stays as it is. -/
theorem phase_of_stopped (hstopped : s.down.isStopped = true)
    (heffect : ClientEffect carrier max flowId s action s') :
    s'.down.phase = s.down.phase ∧ s'.down.written = s.down.written := by
  cases heffect with
  | took f buf hphase _ _ =>
    rw [Inlet.isStopped, hphase] at hstopped
    cases hstopped
  | finished _ | shutWs _ _ | sent _ =>
    rw [ClientRelay.settle_down]
    exact ⟨rfl, rfl⟩
  | wrote hwrote =>
    rw [Inlet.isStopped_of_wrote hwrote] at hstopped
    cases hstopped
  | _ => exact ⟨rfl, rfl⟩

/-- What holds of the flow and of what the application has seen. -/
structure Conveyed (carrier : Carrier) (flowId : UInt64) (t : ConnectorStream) : Prop where
  joined : ClientJoined carrier flowId t.relay
  stopped : Stopped t.relay
  orderly : ShutOrderly carrier t.relay
  task : t.task ≠ .running → t.relayFailed = false → t.relay.outcome = some (.returned .graceful)
  seen : t.seen = some .endOfFile →
    (∃ f, t.relay.down.phase = .stopped f ∧ closeOf f = .graceful) ∧
    t.taken = t.relay.down.written.length

namespace Conveyed

variable {t t' : ConnectorStream} {step : ConnectorAction}

theorem start :
    Conveyed carrier flowId (connectorStream carrier policy max flowId recvBuf).start where
  joined := ClientJoined.start recvBuf
  stopped := .of_running rfl
  orderly := ⟨fun _ _ hf => (by cases (show InletPhase.reading = .stopped _ from hf)),
    fun h => by cases (show (none : Option ClientRelayOutcome) = some .idle from h)⟩
  task h := absurd rfl h
  seen h := by cases (show (none : Option StreamEnd) = some .endOfFile from h)

theorem relay (h : Conveyed carrier flowId t) (htask : t.task = .running)
    (hgood : Orderly carrier max flowId t.relay action)
    (hnext : t.relay.next carrier flowId policy max action = some s') :
    Conveyed carrier flowId { t with relay := s' } := by
  obtain ⟨hrunning, heffect⟩ := ClientRelay.next_effect hnext
  refine ⟨h.joined.effect hrunning heffect, .effect hrunning hgood.2.1 heffect,
    .effect h.joined h.orderly hrunning hgood heffect, fun hgone => absurd htask hgone,
    fun hseen => ?_⟩
  obtain ⟨⟨f, hphase, hclose⟩, htaken⟩ := h.seen hseen
  obtain ⟨hphase', hwritten⟩ := phase_of_stopped (by rw [Inlet.isStopped, hphase]) heffect
  exact ⟨⟨f, hphase'.trans hphase, hclose⟩, by rw [hwritten]; exact htaken⟩

/-- The relay's stream ends: it was closed, or the flag is up. -/
theorem closed_of_end (h : Conveyed carrier flowId t)
    (hend : t.relay.down.shutDown = true ∨ t.task = .gone) (hfailed : t.relayFailed = false) :
    ∃ f, t.relay.down.phase = .stopped f ∧ closeOf f = .graceful := by
  rcases hend with hshut | hgone
  · obtain ⟨f, hf⟩ := Inlet.isStopped_iff.mp (h.joined.down.shutDown hshut)
    exact ⟨f, hf, h.orderly.closes (.inr hshut) f hf⟩
  have hreturned := h.task (by rw [hgone]; nofun) hfailed
  rcases h.joined.returned _ hreturned with ⟨hreading, -⟩ | ⟨f, hphase, hclose, -⟩
  · have hstopped := h.stopped _ hreturned
    rw [Inlet.isStopped, hreading] at hstopped
    cases hstopped
  · exact ⟨f, hphase, hclose.symm⟩

theorem next (h : Conveyed carrier flowId t) (hgood : OrderlyFlow carrier max flowId t step)
    (hnext : t.next carrier policy max flowId step = some t') : Conveyed carrier flowId t' := by
  cases step with
  | relay action =>
    obtain ⟨htask, hnext⟩ := Option.ite_none_right_eq_some.mp hnext
    obtain ⟨relay, hrelay, rfl⟩ := Option.map_eq_some_iff.mp hnext
    exact h.relay htask hgood hrelay
  | store =>
    simp only [ConnectorStream.next] at hnext
    split at hnext
    · rename_i outcome htask houtcome
      cases hnext
      refine { h with task := fun _ hgraceful => ?_ }
      have hgraceful : outcome.isGraceful = true := by simpa using hgraceful
      show t.relay.outcome = _
      rw [houtcome]
      cases outcome with
      | returned close =>
        cases close with
        | graceful => rfl
        | reset => cases hgraceful
      | idle => exact absurd houtcome h.orderly.idle
      | failed _ => cases hgraceful
    · cases hnext
  | drop =>
    obtain ⟨htask, hnext⟩ := Option.ite_none_right_eq_some.mp hnext
    cases hnext
    exact { h with task := fun _ => h.task (by rw [htask]; nofun) }
  | cancel => exact absurd hgood id
  | read n =>
    obtain ⟨⟨hseen, -⟩, hnext⟩ := Option.ite_none_right_eq_some.mp hnext
    cases hnext
    refine { h with seen := fun heof => ?_ }
    rw [show t.seen = some .endOfFile from heof] at hseen
    cases hseen
  | readEnd =>
    obtain ⟨⟨-, htaken, hend⟩, hnext⟩ := Option.ite_none_right_eq_some.mp hnext
    cases hnext
    refine { h with seen := fun heof => ⟨?_, htaken⟩ }
    refine h.closed_of_end hend ?_
    by_contra hfailed
    rw [if_pos (Bool.not_eq_false _ ▸ hfailed)] at heof
    cases heof

end Conveyed

/-- **Truncation is detected.**  When every response ends behind a frame that ends the download,
a relay that returns gracefully has got the server's close and written everything before it.
And when a flow is orderly, its application sees end of file only after such a close, with all
bytes read, and otherwise a reset. -/
theorem truncation_detected (carrier : Carrier) (policy : TunnelRelayPolicy) (max : Nat)
    (flowId : UInt64) (recvBuf : Bytes) :
    (∀ s, (clientRelay carrier policy max flowId recvBuf).ReachBy EndsClosed s →
      s.outcome = some (.returned .graceful) → ClosedDown flowId s) ∧
    (∀ t, (connectorStream carrier policy max flowId recvBuf).ReachBy
        (OrderlyFlow carrier max flowId) t → ∀ seen, t.seen = some seen →
      seen = .connectionReset ∨
        ClosedDown flowId t.relay ∧ t.taken = t.relay.down.written.length) := by
  refine ⟨fun s h hreturned => closedDown_of_graceful h hreturned, fun t h seen hseen => ?_⟩
  have hconveyed : Conveyed carrier flowId t :=
    h.invariant (I := Conveyed carrier flowId) Conveyed.start fun _ _ _ hconveyed hgood hnext =>
      hconveyed.next hgood hnext
  cases seen with
  | connectionReset => exact .inl rfl
  | endOfFile =>
    obtain ⟨⟨f, hphase, hclose⟩, htaken⟩ := hconveyed.seen hseen
    exact .inr ⟨hconveyed.joined.closedDown hphase hclose, htaken⟩

end

/-! A download of two bytes on H2, read to its end. -/

namespace WholeDownload

def trace : List ConnectorAction :=
  [.relay (.chunk (Framing.grpc.bytes (tcpData 1 [1, 2]) ++ Framing.grpc.bytes (tcpFin 1))),
    .relay .decode, .relay (.write 2), .read 2, .relay .decode, .relay (.shutdown (.ok ())),
    .readEnd]

end WholeDownload

theorem truncation_detected_whole : ∃ t : ConnectorStream,
    (connectorStream .h2 Plain.policy 65536 1 []).ReachBy (OrderlyFlow .h2 65536 1) t ∧
    t.seen = some .endOfFile ∧ t.relay.down.written = [1, 2] ∧ ClosedDown 1 t.relay := by
  obtain ⟨t, hreach, hseen, hwritten⟩ :=
    (connectorStream .h2 Plain.policy 65536 1 []).exists_reachBy (OrderlyFlow .h2 65536 1)
      (fun t => t.seen = some .endOfFile ∧ t.relay.down.written = [1, 2]) WholeDownload.trace
      (by decide +kernel)
  rcases (truncation_detected .h2 Plain.policy 65536 1 []).2 t hreach _ hseen with
    hreset | ⟨hclosed, -⟩
  · cases hreset
  · exact ⟨t, hreach, hseen, hwritten, hclosed⟩

end Client
end Maverick
