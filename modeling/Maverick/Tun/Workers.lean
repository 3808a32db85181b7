import Maverick.Tun.Config
import Maverick.Tun.Engine

/-!
# The workers of the packet runtime

The runtime starts one task for each TCP flow, UDP association and DNS query.  A
task talks to the actor through a bounded command channel, a cancellation token
and the event queue; `oneshot` channels carry the answer to the data it sends.

A worker is modelled by the place in its source text where it waits.  What ends
the wait (a result of the connector, a timer, a cancellation, room in the event
queue) is a step that the environment picks; a step may put one event into the
queue.

* `TcpWorker.step` — `tcp_worker` with the two halves of `relay_tcp_flow`.
* `UdpWorker.step`, `DnsWorker.step` — `udp_worker` and the task of
  `start_dns_query`.
* `Worker.tcpKey_step` — a TCP worker only sends events under the key it was
  started for, and no other worker sends a TCP event.
-/

namespace Maverick
namespace Tun

open Lib

/-! ## Events and commands -/

structure TcpFlowKey where
  app : SocketAddr
  target : SocketAddr
  deriving DecidableEq, Repr

structure UdpAssociationKey where
  app : SocketAddr
  target : SocketAddr
  deriving DecidableEq, Repr

/-- The place of a task in the order in which the tasks were started. -/
abbrev WorkerId := Nat

/-- An event; `accepted` is the worker that holds the other end of the
`oneshot` channel. -/
inductive EngineEvent where
  | packetReadFailed
  | packetWriteFailed
  | packetEof
  | tcpOpened (key : TcpFlowKey)
  | tcpData (key : TcpFlowKey) (data : Bytes) (accepted : WorkerId)
  | tcpRemoteFin (key : TcpFlowKey)
  | tcpDone (key : TcpFlowKey) (failed : Bool)
  | udpResponse (key : UdpAssociationKey) (endpoint : SocketAddr) (payload : Bytes)
      (accepted : WorkerId)
  | udpDone (key : UdpAssociationKey) (failed : Bool)
  | dnsResponse (target app : SocketAddr) (response : Bytes)
  deriving DecidableEq, Repr

/-- The flow that a TCP event names. -/
def EngineEvent.tcpKey : EngineEvent → Option TcpFlowKey
  | tcpOpened key | tcpData key _ _ | tcpRemoteFin key | tcpDone key _ => some key
  | _ => none

/-- The association that a UDP event names. -/
def EngineEvent.udpKey : EngineEvent → Option UdpAssociationKey
  | udpResponse key _ _ _ | udpDone key _ => some key
  | _ => none

/-- The events of the packet reader and the packet writer. -/
def EngineEvent.isPacket : EngineEvent → Bool
  | packetReadFailed | packetWriteFailed | packetEof => true
  | _ => false

inductive Sender where
  | reader
  | writer
  | worker (id : WorkerId)
  deriving DecidableEq, Repr

/-- An event in the queue together with the task that sent it.  The runtime has
only the event: no handler gets to see the sender. -/
structure Posted where
  sender : Sender
  event : EngineEvent
  deriving DecidableEq, Repr

inductive TcpCommand where
  | data (data : Bytes)
  | localFin
  deriving DecidableEq, Repr

structure UdpCommand where
  endpoint : SocketAddr
  payload : Bytes
  deriving DecidableEq, Repr

inductive FlowErrorKind where
  | admissionRejected
  | remoteConnection
  | dnsExchange
  | datagramExchange
  | timedOut
  | cancelled
  | closed
  deriving DecidableEq, Repr

/-! ## The TCP worker -/

/-- `relay_tcp_local_to_remote`. -/
inductive LocalHalf where
  | receiving
  | writing (data : Bytes)
  | shuttingDown
  | returned
  deriving DecidableEq, Repr

/-- `relay_tcp_remote_to_local`.  The answer it waits for is `true` when the
actor has accepted the data and `false` when it has dropped the channel. -/
inductive RemoteHalf where
  | reading
  | sendingFin
  | sendingData (data : Bytes)
  | waiting (answer : Option Bool)
  | returned
  deriving DecidableEq, Repr

/-- The bytes that a half holds while it waits. -/
def LocalHalf.held : LocalHalf → Nat
  | writing data => data.length
  | _ => 0

def RemoteHalf.held : RemoteHalf → Nat
  | sendingData data => data.length
  | _ => 0

/-- In `sendingDone` the halves have been given up but not dropped: what they hold is
still held. -/
inductive TcpWorkerPhase where
  | connecting
  | sendingOpened
  | relaying (here : LocalHalf) (there : RemoteHalf)
  | sendingDone (failed : Bool) (held : Nat)
  | ended (panicked : Bool)
  deriving DecidableEq, Repr

structure TcpWorker where
  key : TcpFlowKey
  /-- The commands in the channel. -/
  commands : List TcpCommand
  /-- Whether the entry with the sending end of the channel is still there. -/
  senderAlive : Bool
  cancelled : Bool
  phase : TcpWorkerPhase
  /-- What has been written to the remote flow, and whether the flow was shut down
  after it; no step reads them. -/
  written : Bytes
  shutDown : Bool
  /-- Every command that was put into the channel, and the report that the worker has
  sent; no step reads them. -/
  sent : List TcpCommand
  reported : Option Bool
  deriving DecidableEq, Repr

inductive TcpWorkerStep where
  | cancelled
  | localCancelled
  | remoteCancelled
  | opened
  | openFailed (kind : FlowErrorKind)
  | timedOut
  | sent
  | received
  | wrote (ok : Bool)
  | read (result : Option Bytes)
  | answered
  | panicked
  deriving DecidableEq, Repr

namespace TcpWorker

def start (key : TcpFlowKey) : TcpWorker :=
  ⟨key, [], true, false, .connecting, [], false, [], none⟩

def enter (w : TcpWorker) (phase : TcpWorkerPhase) : TcpWorker := { w with phase := phase }

/-- The end of a task drops what is left in its channel. -/
def finish (w : TcpWorker) (panicked : Bool) : TcpWorker :=
  { w with commands := [], phase := .ended panicked }

/-- The loop of `relay_tcp_flow` goes on until both halves have returned. -/
def relay (w : TcpWorker) (here : LocalHalf) (there : RemoteHalf) : TcpWorker :=
  if here = .returned ∧ there = .returned then w.enter (.sendingDone false 0)
  else w.enter (.relaying here there)

/-- A failed half, or the idle timer, breaks the loop. -/
def fail (w : TcpWorker) (here : LocalHalf) (there : RemoteHalf) : TcpWorker :=
  w.enter (.sendingDone (!w.cancelled) (here.held + there.held))

/-- Steps of `relay_tcp_local_to_remote`. -/
def stepLocal (w : TcpWorker) (here : LocalHalf) (there : RemoteHalf) :
    TcpWorkerStep → Option TcpWorker
  | .received =>
    match here, w.commands with
    | .receiving, .data data :: rest =>
      some ({ w with commands := rest }.enter (.relaying (.writing data) there))
    | .receiving, .localFin :: rest =>
      some ({ w with commands := rest }.enter (.relaying .shuttingDown there))
    | .receiving, [] =>
      if w.senderAlive then none else some (w.enter (.relaying .shuttingDown there))
    | _, _ => none
  | .wrote ok =>
    match here with
    | .writing data =>
      if ok then
        some ({ w with written := w.written ++ data }.enter (.relaying .receiving there))
      else some (w.fail .returned there)
    | .shuttingDown =>
      if ok then some ({ w with shutDown := true }.relay .returned there)
      else some (w.fail .returned there)
    | _ => none
  | .localCancelled =>
    if w.cancelled ∧ here ≠ .returned then some (w.relay .returned there) else none
  | _ => none

/-- Steps of `relay_tcp_remote_to_local`, with the event sent. -/
def stepRemote (id : WorkerId) (w : TcpWorker) (here : LocalHalf) (there : RemoteHalf) :
    TcpWorkerStep → Option (TcpWorker × Option EngineEvent)
  | .read result =>
    match there, result with
    | .reading, none => some (w.fail here .returned, none)
    | .reading, some data =>
      if data = [] then some (w.enter (.relaying here .sendingFin), none)
      else if data.length ≤ 16 * 1024 then
        some (w.enter (.relaying here (.sendingData data)), none)
      else none
    | _, _ => none
  | .sent =>
    match there with
    | .sendingFin => some (w.relay here .returned, some (.tcpRemoteFin w.key))
    | .sendingData data =>
      some (w.enter (.relaying here (.waiting none)), some (.tcpData w.key data id))
    | _ => none
  | .answered =>
    match there with
    | .waiting (some true) => some (w.enter (.relaying here .reading), none)
    | .waiting (some false) => some (w.fail here .returned, none)
    | _ => none
  | .remoteCancelled =>
    if w.cancelled ∧ there ≠ .returned then some (w.relay here .returned, none) else none
  | _ => none

/-- `relay_tcp_flow`. -/
def stepRelay (id : WorkerId) (w : TcpWorker) (here : LocalHalf) (there : RemoteHalf)
    (step : TcpWorkerStep) : Option (TcpWorker × Option EngineEvent) :=
  match step with
  | .cancelled =>
    if w.cancelled then some (w.enter (.sendingDone false (here.held + there.held)), none)
    else none
  | .timedOut => some (w.fail here there, none)
  | .received | .wrote _ | .localCancelled => (w.stepLocal here there step).map (·, none)
  | _ => w.stepRemote id here there step

/-- `tcp_worker`. -/
def step (id : WorkerId) (w : TcpWorker) (step : TcpWorkerStep) :
    Option (TcpWorker × Option EngineEvent) :=
  match w.phase, step with
  | .ended _, _ => none
  | _, .panicked => some (w.finish true, none)
  | .connecting, .cancelled => if w.cancelled then some (w.finish false, none) else none
  | .connecting, .opened => some (w.enter .sendingOpened, none)
  | .connecting, .openFailed kind =>
    if kind = .cancelled ∧ w.cancelled then some (w.finish false, none)
    else some (w.enter (.sendingDone true 0), none)
  | .connecting, .timedOut => some (w.enter (.sendingDone true 0), none)
  | .sendingOpened, .sent =>
    some (w.enter (.relaying .receiving .reading), some (.tcpOpened w.key))
  | .relaying here there, step => w.stepRelay id here there step
  | .sendingDone failed _, .sent =>
    some ({ w with reported := some failed }.finish false, some (.tcpDone w.key failed))
  | _, _ => none

/-- The actor's answer on the `oneshot` channel of the data sent last. -/
def answer (ok : Bool) (w : TcpWorker) : TcpWorker :=
  match w.phase with
  | .relaying here (.waiting none) => w.enter (.relaying here (.waiting (some ok)))
  | _ => w

def isEnded (w : TcpWorker) : Bool :=
  match w.phase with
  | .ended _ => true
  | _ => false

/-- What `relay_tcp_remote_to_local` does when it does not fail, with the event sent. -/
inductive RemoteEffect (id : WorkerId) (key : TcpFlowKey) :
    TcpWorkerStep → RemoteHalf → RemoteHalf → Option EngineEvent → Prop where
  | ended : RemoteEffect id key (.read (some [])) .reading .sendingFin none
  | read {data : Bytes} : data.length ≤ 16 * 1024 →
      RemoteEffect id key (.read (some data)) .reading (.sendingData data) none
  | finished : RemoteEffect id key .sent .sendingFin .returned (some (.tcpRemoteFin key))
  | sent {data : Bytes} :
      RemoteEffect id key .sent (.sendingData data) (.waiting none) (some (.tcpData key data id))
  | accepted : RemoteEffect id key .answered (.waiting (some true)) .reading none
  | cancelled {there : RemoteHalf} : RemoteEffect id key .remoteCancelled there .returned none

/-- Nothing is read from the remote flow in the step. -/
def Unread (step : TcpWorkerStep) : Prop := ∀ data, step ≠ .read (some data)

/-- What a worker does in a step. -/
inductive Effect (id : WorkerId) (w : TcpWorker) :
    TcpWorkerStep → TcpWorker → Option EngineEvent → Prop where
  /-- A panic, or a flow that was cancelled before it was open. -/
  | gone {step : TcpWorkerStep} (panicked : Bool) : Unread step →
      Effect id w step (w.finish panicked) none
  | connected : w.phase = .connecting → Effect id w .opened (w.enter .sendingOpened) none
  | refused {step : TcpWorkerStep} : w.phase = .connecting → Unread step →
      Effect id w step (w.enter (.sendingDone true 0)) none
  | opened : w.phase = .sendingOpened →
      Effect id w .sent (w.enter (.relaying .receiving .reading)) (some (.tcpOpened w.key))
  | took {data : Bytes} {rest : List TcpCommand} {there : RemoteHalf} :
      w.phase = .relaying .receiving there → w.commands = .data data :: rest →
      Effect id w .received
        ({ w with commands := rest }.enter (.relaying (.writing data) there)) none
  | tookFin {rest : List TcpCommand} {there : RemoteHalf} :
      w.phase = .relaying .receiving there → w.commands = .localFin :: rest →
      Effect id w .received ({ w with commands := rest }.enter (.relaying .shuttingDown there)) none
  | orphaned {there : RemoteHalf} : w.phase = .relaying .receiving there → w.senderAlive = false →
      Effect id w .received (w.enter (.relaying .shuttingDown there)) none
  | wrote {data : Bytes} {there : RemoteHalf} : w.phase = .relaying (.writing data) there →
      Effect id w (.wrote true)
        ({ w with written := w.written ++ data }.enter (.relaying .receiving there)) none
  | shutDown {there : RemoteHalf} : w.phase = .relaying .shuttingDown there →
      Effect id w (.wrote true) ({ w with shutDown := true }.relay .returned there) none
  | localCancelled {here : LocalHalf} {there : RemoteHalf} : w.phase = .relaying here there →
      w.cancelled = true → Effect id w .localCancelled (w.relay .returned there) none
  | remote {step : TcpWorkerStep} {here : LocalHalf} {there there' : RemoteHalf}
      {event : Option EngineEvent} : w.phase = .relaying here there →
      RemoteEffect id w.key step there there' event → Effect id w step (w.relay here there') event
  | cancelled {here : LocalHalf} {there : RemoteHalf} : w.phase = .relaying here there →
      w.cancelled = true →
      Effect id w .cancelled (w.enter (.sendingDone false (here.held + there.held))) none
  /-- A half has failed and holds nothing any more, or the idle timer has run out. -/
  | failed {step : TcpWorkerStep} {here : LocalHalf} {there : RemoteHalf} {held : Nat} :
      w.phase = .relaying here there → held ≤ here.held + there.held → Unread step →
      Effect id w step (w.enter (.sendingDone (!w.cancelled) held)) none
  | reported {failed : Bool} {held : Nat} : w.phase = .sendingDone failed held →
      Effect id w .sent ({ w with reported := some failed }.finish false)
        (some (.tcpDone w.key failed))

variable {id : WorkerId} {w w' : TcpWorker} {here : LocalHalf} {there : RemoteHalf}
  {step : TcpWorkerStep} {event : Option EngineEvent} {r : TcpWorker × Option EngineEvent}

theorem effect_stepLocal (hphase : w.phase = .relaying here there)
    (h : w.stepLocal here there step = some w') : Effect id w step w' none := by
  unfold stepLocal at h
  split at h <;> (try split at h) <;> (try split at h) <;> cases h
  · exact .took hphase ‹_›
  · exact .tookFin hphase ‹_›
  · exact .orphaned hphase (Bool.eq_false_iff.mpr ‹_›)
  · rename_i hok
    subst hok
    exact .wrote hphase
  · exact .failed hphase (Nat.add_le_add_right (Nat.zero_le _) _) nofun
  · rename_i hok
    subst hok
    exact .shutDown hphase
  · exact .failed hphase (Nat.le_refl _) nofun
  · rename_i hcancelled
    exact .localCancelled hphase hcancelled.1

/-- The loop goes on while the other half has not returned. -/
theorem Effect.ofRemote {there' : RemoteHalf} (hphase : w.phase = .relaying here there)
    (h : RemoteEffect id w.key step there there' event) (hne : there' ≠ .returned) :
    Effect id w step (w.enter (.relaying here there')) event := by
  have heq : w.relay here there' = w.enter (.relaying here there') := if_neg fun h => hne h.2
  exact heq ▸ .remote hphase h

theorem effect_stepRemote (hphase : w.phase = .relaying here there)
    (h : w.stepRemote id here there step = some r) : Effect id w step r.1 r.2 := by
  unfold stepRemote at h
  split at h <;> (try split at h) <;> (try split at h) <;> (try split at h) <;> cases h
  · exact .failed hphase (Nat.le_add_right _ _) nofun
  · rename_i hempty
    subst hempty
    exact .ofRemote hphase .ended nofun
  · exact .ofRemote hphase (.read ‹_›) nofun
  · exact .remote hphase .finished
  · exact .ofRemote hphase .sent nofun
  · exact .ofRemote hphase .accepted nofun
  · exact .failed hphase (Nat.le_add_right _ _) nofun
  · exact .remote hphase .cancelled

/-- **Every step of a worker is one of these.** -/
theorem effect_step (h : w.step id step = some r) : Effect id w step r.1 r.2 := by
  unfold TcpWorker.step at h
  split at h <;> (try split at h) <;> (try cases h)
  · exact .gone true nofun
  · exact .gone false nofun
  · exact .connected ‹_›
  · exact .gone false nofun
  · exact .refused ‹_› nofun
  · exact .refused ‹_› nofun
  · exact .opened ‹_›
  · rename_i here there hphase _
    unfold stepRelay at h
    split at h
    · obtain ⟨hcancelled, h⟩ := Option.ite_none_right_eq_some.mp h
      cases h
      exact .cancelled hphase hcancelled
    · cases h
      exact .failed hphase (Nat.le_refl _) nofun
    iterate 3
      · obtain ⟨w', hw', rfl⟩ := Option.map_eq_some_iff.mp h
        exact effect_stepLocal hphase hw'
    · exact effect_stepRemote hphase h
  · exact .reported ‹_›

theorem relay_eq (w : TcpWorker) (here : LocalHalf) (there : RemoteHalf) :
    w.relay here there = w.enter (w.relay here there).phase := by
  unfold relay
  split <;> rfl

@[simp] theorem key_relay (w : TcpWorker) (here : LocalHalf) (there : RemoteHalf) :
    (w.relay here there).key = w.key := by
  rw [relay_eq]
  rfl

@[simp] theorem key_answer (ok : Bool) (w : TcpWorker) : (w.answer ok).key = w.key := by
  unfold answer
  split <;> rfl

@[simp] theorem senderAlive_answer (ok : Bool) (w : TcpWorker) :
    (w.answer ok).senderAlive = w.senderAlive := by
  unfold answer
  split <;> rfl

@[simp] theorem isEnded_answer (ok : Bool) (w : TcpWorker) : (w.answer ok).isEnded = w.isEnded := by
  unfold answer
  split
  · rename_i h
    simp [isEnded, enter, h]
  · rfl

/-- The worker after a step has the key it had, and so does the event it sent. -/
def KeepsKey (w : TcpWorker) (r : TcpWorker × Option EngineEvent) : Prop :=
  r.1.key = w.key ∧ ∀ event ∈ r.2, event.tcpKey = some w.key

theorem Effect.keepsKey (h : Effect id w step w' event) : w.KeepsKey (w', event) := by
  cases h with
  | remote _ hremote => cases hremote <;> simp [KeepsKey, EngineEvent.tcpKey]
  | _ => simp [KeepsKey, EngineEvent.tcpKey, enter, finish]

/-- **A TCP worker only sends events under the key it was started for.** -/
theorem keepsKey_step (h : w.step id step = some r) : w.KeepsKey r := (effect_step h).keepsKey

theorem not_isEnded_of_step (h : w.step id step = some r) : w.isEnded = false := by
  cases hphase : w.phase with
  | ended panicked => simp [TcpWorker.step, hphase] at h
  | _ =>
    simp [isEnded, hphase]

end TcpWorker

/-! ## The UDP worker -/

/-- `lease` is the length of the request: its bytes are charged until the turn of the
loop ends. -/
inductive UdpWorkerPhase where
  | opening
  | receiving
  | exchanging (command : UdpCommand)
  | sendingResponse (lease : Nat) (endpoint : SocketAddr) (payload : Bytes)
  | waiting (lease : Nat) (answer : Option Bool)
  | closing (failed : Bool)
  | sendingDone (failed : Bool)
  | ended (panicked : Bool)
  deriving DecidableEq, Repr

structure UdpWorker where
  key : UdpAssociationKey
  commands : List UdpCommand
  senderAlive : Bool
  /-- The token of the association; its parent is the token of all UDP and DNS tasks. -/
  cancelled : Bool
  phase : UdpWorkerPhase
  deriving DecidableEq, Repr

inductive UdpWorkerStep where
  | cancelled
  | opened
  | openFailed (kind : FlowErrorKind)
  | timedOut
  | received
  | exchanged (result : Except FlowErrorKind (SocketAddr × Bytes))
  | sent
  | answered
  | closed (ok : Bool)
  | panicked

namespace UdpWorker

def start (key : UdpAssociationKey) : UdpWorker := ⟨key, [], true, false, .opening⟩

def enter (w : UdpWorker) (phase : UdpWorkerPhase) : UdpWorker := { w with phase := phase }

def finish (w : UdpWorker) (panicked : Bool) : UdpWorker :=
  { w with commands := [], phase := .ended panicked }

/-- `udp_worker`; `cancelled` is the state of its token or of a parent of it. -/
def step (maxPayloadBytes : Nat) (id : WorkerId) (cancelled : Bool) (w : UdpWorker)
    (step : UdpWorkerStep) : Option (UdpWorker × Option EngineEvent) :=
  match w.phase, step with
  | .ended _, _ => none
  | _, .panicked => some (w.finish true, none)
  | .opening, .cancelled => if cancelled then some (w.finish false, none) else none
  | .opening, .opened => some (w.enter .receiving, none)
  | .opening, .openFailed kind =>
    if kind = .cancelled ∧ cancelled then some (w.finish false, none)
    else some (w.enter (.sendingDone true), none)
  | .opening, .timedOut => some (w.enter (.sendingDone true), none)
  | .receiving, .cancelled | .exchanging _, .cancelled | .waiting _ _, .cancelled =>
    if cancelled then some (w.enter (.closing false), none) else none
  | .receiving, .timedOut => some (w.enter (.closing false), none)
  | .receiving, .received =>
    match w.commands with
    | command :: rest => some ({ w with commands := rest }.enter (.exchanging command), none)
    | [] => if w.senderAlive then none else some (w.enter (.closing false), none)
  | .exchanging _, .timedOut => some (w.enter (.closing true), none)
  | .exchanging _, .exchanged (.error kind) =>
    some (w.enter (.closing !(kind == .cancelled && cancelled)), none)
  | .exchanging command, .exchanged (.ok (endpoint, payload)) =>
    if payload.length > maxPayloadBytes then some (w.enter (.closing true), none)
    else some (w.enter (.sendingResponse command.payload.length endpoint payload), none)
  | .sendingResponse lease endpoint payload, .sent =>
    some (w.enter (.waiting lease none), some (.udpResponse w.key endpoint payload id))
  -- accepted or dropped, the worker goes on with the next command
  | .waiting _ (some _), .answered => some (w.enter .receiving, none)
  | .closing failed, .closed ok =>
    some (w.enter (.sendingDone ((failed || !ok) && !cancelled)), none)
  | .closing _, .timedOut => some (w.enter (.sendingDone !cancelled), none)
  | .sendingDone failed, .sent => some (w.finish false, some (.udpDone w.key failed))
  | _, _ => none

def answer (ok : Bool) (w : UdpWorker) : UdpWorker :=
  match w.phase with
  | .waiting lease none => w.enter (.waiting lease (some ok))
  | _ => w

def isEnded (w : UdpWorker) : Bool :=
  match w.phase with
  | .ended _ => true
  | _ => false

theorem tcpKey_of_step {maxPayloadBytes : Nat} {id : WorkerId} {cancelled : Bool} {w : UdpWorker}
    {step : UdpWorkerStep} {r : UdpWorker × Option EngineEvent}
    (h : w.step maxPayloadBytes id cancelled step = some r) : ∀ event ∈ r.2, event.tcpKey = none := by
  unfold UdpWorker.step at h
  split at h <;> (try split at h) <;> (try split at h) <;> cases h <;> simp [EngineEvent.tcpKey]

theorem not_isEnded_of_step {maxPayloadBytes : Nat} {id : WorkerId} {cancelled : Bool}
    {w : UdpWorker} {step : UdpWorkerStep} {r : UdpWorker × Option EngineEvent}
    (h : w.step maxPayloadBytes id cancelled step = some r) : w.isEnded = false := by
  unfold isEnded
  split
  · rename_i hphase
    simp [UdpWorker.step, hphase] at h
  · rfl

end UdpWorker

/-! ## The DNS task -/

inductive DnsWorkerPhase where
  | querying
  | sending (response : Bytes)
  | ended (panicked : Bool)
  deriving DecidableEq, Repr

structure DnsWorker where
  target : SocketAddr
  app : SocketAddr
  query : Bytes
  phase : DnsWorkerPhase
  deriving DecidableEq, Repr

inductive DnsWorkerStep where
  | cancelled
  | exchanged (result : Except FlowErrorKind Bytes)
  | timedOut
  | sent
  | panicked

namespace DnsWorker

def enter (w : DnsWorker) (phase : DnsWorkerPhase) : DnsWorker := { w with phase := phase }

/-- The task of `start_dns_query`. -/
def step (maxPayloadBytes : Nat) (cancelled : Bool) (w : DnsWorker) (step : DnsWorkerStep) :
    Option (DnsWorker × Option EngineEvent) :=
  match w.phase, step with
  | .querying, .cancelled => if cancelled then some (w.enter (.ended false), none) else none
  | .querying, .exchanged (.ok response) =>
    if response.length ≤ maxPayloadBytes then some (w.enter (.sending response), none)
    else some (w.enter (.ended false), none)
  | .querying, .exchanged (.error _) => some (w.enter (.ended false), none)
  | .querying, .timedOut => some (w.enter (.ended false), none)
  | .sending response, .sent =>
    some (w.enter (.ended false), some (.dnsResponse w.target w.app response))
  | .querying, .panicked | .sending _, .panicked => some (w.enter (.ended true), none)
  | _, _ => none

def isEnded (w : DnsWorker) : Bool :=
  match w.phase with
  | .ended _ => true
  | _ => false

theorem tcpKey_of_step {maxPayloadBytes : Nat} {cancelled : Bool} {w : DnsWorker}
    {step : DnsWorkerStep} {r : DnsWorker × Option EngineEvent}
    (h : w.step maxPayloadBytes cancelled step = some r) : ∀ event ∈ r.2, event.tcpKey = none := by
  unfold DnsWorker.step at h
  split at h <;> (try split at h) <;> cases h <;> simp [EngineEvent.tcpKey]

theorem not_isEnded_of_step {maxPayloadBytes : Nat} {cancelled : Bool} {w : DnsWorker}
    {step : DnsWorkerStep} {r : DnsWorker × Option EngineEvent}
    (h : w.step maxPayloadBytes cancelled step = some r) : w.isEnded = false := by
  unfold isEnded
  split
  · rename_i hphase
    cases step <;> simp [DnsWorker.step, hphase] at h
  · rfl

end DnsWorker

/-! ## All workers -/

inductive Worker where
  | tcp (worker : TcpWorker)
  | udp (worker : UdpWorker)
  | dns (worker : DnsWorker)
  deriving DecidableEq, Repr

inductive WorkerStep where
  | tcp (step : TcpWorkerStep)
  | udp (step : UdpWorkerStep)
  | dns (step : DnsWorkerStep)

namespace Worker

def isEnded : Worker → Bool
  | tcp w => w.isEnded
  | udp w => w.isEnded
  | dns w => w.isEnded

def panicked : Worker → Bool
  | tcp w => w.phase == .ended true
  | udp w => w.phase == .ended true
  | dns w => w.phase == .ended true

/-- `shared` is the token of all UDP and DNS tasks. -/
def step (config : PacketRuntimeConfig) (id : WorkerId) (shared : Bool) (worker : Worker)
    (step : WorkerStep) : Option (Worker × Option EngineEvent) :=
  match worker, step with
  | tcp w, .tcp step => (w.step id step).map fun r => (tcp r.1, r.2)
  | udp w, .udp step =>
    (w.step config.maxUdpPayloadBytes id (w.cancelled || shared) step).map fun r => (udp r.1, r.2)
  | dns w, .dns step =>
    (w.step config.maxDnsPayloadBytes shared step).map fun r => (dns r.1, r.2)
  | _, _ => none

def answer (ok : Bool) : Worker → Worker
  | tcp w => tcp (w.answer ok)
  | udp w => udp (w.answer ok)
  | dns w => dns w

/-- The flow that a TCP worker was started for. -/
def tcpKey : Worker → Option TcpFlowKey
  | tcp w => some w.key
  | udp _ | dns _ => none

/-- The flow of a TCP worker that has not ended. -/
def liveKey : Worker → Option TcpFlowKey
  | tcp w => if w.isEnded then none else some w.key
  | udp _ | dns _ => none

@[simp] theorem liveKey_answer (ok : Bool) (worker : Worker) :
    (worker.answer ok).liveKey = worker.liveKey := by
  cases worker <;> simp [answer, liveKey]

theorem liveKey_tcp_congr {w w' : TcpWorker} (hkey : w'.key = w.key) (hphase : w'.phase = w.phase) :
    (tcp w').liveKey = (tcp w).liveKey := by
  have hended : w'.isEnded = w.isEnded := by rw [TcpWorker.isEnded, hphase, TcpWorker.isEnded]
  rw [liveKey, liveKey, hended, hkey]

theorem tcpKey_of_liveKey {worker : Worker} {key : TcpFlowKey} (h : worker.liveKey = some key) :
    worker.tcpKey = some key := by
  cases worker with
  | tcp w =>
    simp only [liveKey] at h
    split at h
    · cases h
    · exact h
  | _ => cases h

/-- A step of one of the three kinds of workers. -/
inductive Stepped (config : PacketRuntimeConfig) (id : WorkerId) (shared : Bool) :
    Worker → WorkerStep → Worker → Option EngineEvent → Prop where
  | tcp {w w' : TcpWorker} {step : TcpWorkerStep} {event : Option EngineEvent} :
      w.step id step = some (w', event) → Stepped config id shared (tcp w) (.tcp step) (tcp w') event
  | udp {w w' : UdpWorker} {step : UdpWorkerStep} {event : Option EngineEvent} :
      w.step config.maxUdpPayloadBytes id (w.cancelled || shared) step = some (w', event) →
      Stepped config id shared (udp w) (.udp step) (udp w') event
  | dns {w w' : DnsWorker} {step : DnsWorkerStep} {event : Option EngineEvent} :
      w.step config.maxDnsPayloadBytes shared step = some (w', event) →
      Stepped config id shared (dns w) (.dns step) (dns w') event

section
variable {config : PacketRuntimeConfig} {id : WorkerId} {shared : Bool} {worker worker' : Worker}
  {step : WorkerStep} {event : Option EngineEvent}

theorem stepped (h : worker.step config id shared step = some (worker', event)) :
    Stepped config id shared worker step worker' event := by
  unfold Worker.step at h
  split at h
  · obtain ⟨r, hr, heq⟩ := Option.map_eq_some_iff.mp h
    cases heq
    exact .tcp hr
  · obtain ⟨r, hr, heq⟩ := Option.map_eq_some_iff.mp h
    cases heq
    exact .udp hr
  · obtain ⟨r, hr, heq⟩ := Option.map_eq_some_iff.mp h
    cases heq
    exact .dns hr
  · cases h

/-- A worker that has ended takes no step. -/
theorem not_isEnded_of_step (h : worker.step config id shared step = some (worker', event)) :
    worker.isEnded = false := by
  cases stepped h with
  | tcp hr => exact TcpWorker.not_isEnded_of_step hr
  | udp hr => exact UdpWorker.not_isEnded_of_step hr
  | dns hr => exact DnsWorker.not_isEnded_of_step hr

/-- **A step keeps the flow of a worker, and an event it sends is of that flow.** -/
theorem tcpKey_step (h : worker.step config id shared step = some (worker', event)) :
    worker'.tcpKey = worker.tcpKey ∧ ∀ e ∈ event, e.tcpKey = worker.tcpKey := by
  cases stepped h with
  | tcp hr =>
    obtain ⟨hkey, hevent⟩ := TcpWorker.keepsKey_step hr
    exact ⟨congrArg some hkey, hevent⟩
  | udp hr => exact ⟨rfl, UdpWorker.tcpKey_of_step hr⟩
  | dns hr => exact ⟨rfl, DnsWorker.tcpKey_of_step hr⟩

/-- A TCP worker that takes a step has not ended. -/
theorem liveKey_of_step (h : worker.step config id shared step = some (worker', event)) :
    worker.liveKey = worker.tcpKey := by
  cases stepped h with
  | tcp hr => simp [liveKey, tcpKey, TcpWorker.not_isEnded_of_step hr]
  | _ => rfl

end
end Worker

end Tun
end Maverick
