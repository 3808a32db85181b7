import Maverick.Tun.Runtime

/-!
# Runs of the packet runtime

The packet runtime as a state machine.  The actor goes through one turn of the loop
of `Runtime::run` phase by phase; which ready branch its `select!` takes is a choice
of the environment.  Between any two phases, and between the entries that `drive_tcp`
goes through, the packet tasks and the workers take any number of steps and the
clock moves on.

A run ends in the phase `stopped`; what `cleanup` does after that is not modelled.
-/

namespace Maverick
namespace Tun

open Lib

/-! ## Actions -/

inductive ReaderStep where
  | cancelled
  | packet (packet : Packet)
  | eof
  | failed
  | queued
  | sent
  | panicked
  deriving DecidableEq, Repr

inductive WriterStep where
  | cancelled
  | received
  | wrote (ok : Bool)
  | sent
  | panicked
  deriving DecidableEq, Repr

/-- The first six are the branches of the `select!`. -/
inductive ActorStep where
  | cancelled
  | event
  | packet (steps : List PollStep)
  | ingressClosed
  | join (id : WorkerId)
  | tick
  | reapTasks
  | poll (steps : List PollStep)
  | driveTcp (keys : List TcpFlowKey)
  | driveTcpKey
  | driveUdp (targets : List SocketAddr) (keys : List UdpAssociationKey)
  | flush
  | reapTargets
  | checkStop (connectorQuiet : Bool)

inductive Action where
  /-- The handle of the runtime is cancelled. -/
  | cancel
  | clock (now : Nat)
  | reader (step : ReaderStep)
  | writer (step : WriterStep)
  | worker (id : WorkerId) (step : WorkerStep)
  | actor (step : ActorStep)

namespace Runtime

variable (config : PacketRuntimeConfig)

/-- A bounded queue: a sender waits until there is room. -/
def post (s : Runtime) (sender : Sender) (event : EngineEvent) : Option Runtime :=
  if s.events.length < config.eventQueueDepth then
    some { s with events := s.events ++ [⟨sender, event⟩] }
  else none

/-- `packet_reader_task` and `io_task_monitor`. -/
def stepReader (s : Runtime) (step : ReaderStep) : Option Runtime :=
  match s.reader, step with
  | .ended, _ => none
  | .panicked, .sent => { s with reader := .ended }.post config .reader .packetReadFailed
  | .reporting eof, .sent =>
    { s with reader := .ended }.post config .reader
      (if eof then .packetEof else .packetReadFailed)
  | _, .cancelled => if s.cancel then some { s with reader := .ended } else none
  | .panicked, _ => none
  | _, .panicked => some { s with reader := .panicked }
  | .reading, .packet packet =>
    if packet.length ≤ config.mtu then some { s with reader := .queueing packet }
    else some { s with reader := .reporting false }
  | .reading, .eof => some { s with reader := .reporting true }
  | .reading, .failed => some { s with reader := .reporting false }
  | .queueing packet, .queued =>
    if s.ingress.length < config.packetQueueDepth then
      some { s with
        reader := .reading
        ingress := s.ingress ++ [packet]
        ingressQueueDepth := s.ingressQueueDepth + 1 }
    else none
  | _, _ => none

/-- The end of the writer: it empties its queue. -/
def endWriter (s : Runtime) (depth : Nat) : Runtime :=
  { s with writer := .ended, egress := [], egressQueueDepth := depth - s.egress.length }

/-- `packet_writer_task` and `io_task_monitor`. -/
def stepWriter (s : Runtime) (step : WriterStep) : Option Runtime :=
  match s.writer, step with
  | .ended, _ => none
  | .panicked, .sent => { s with writer := .ended }.post config .writer .packetWriteFailed
  | .panicked, .cancelled => if s.cancel then some { s with writer := .ended } else none
  | .panicked, _ => none
  | _, .panicked => some { s with writer := .panicked, egress := [] }
  | .waiting, .cancelled => if s.cancel then some (s.endWriter s.egressQueueDepth) else none
  | .writing _, .cancelled | .reporting _, .cancelled =>
    if s.cancel then some (s.endWriter (fetchSub s.egressQueueDepth)) else none
  | .waiting, .received =>
    match s.egress with
    | [] => none
    | packet :: rest => some { s with writer := .writing packet, egress := rest }
  | .writing _, .wrote true =>
    some { s with writer := .waiting, egressQueueDepth := fetchSub s.egressQueueDepth }
  | .writing packet, .wrote false => some { s with writer := .reporting packet }
  | .reporting _, .sent =>
    (s.endWriter (fetchSub s.egressQueueDepth)).post config .writer .packetWriteFailed
  | _, _ => none

/-- The guard of a DNS query is released where the task ends and has not passed it
on in an event. -/
def releasesGuard (worker : Worker) (event : Option EngineEvent) : Bool :=
  match worker with
  | .dns w => w.isEnded && event.isNone
  | _ => false

/-- A worker after its step. -/
def setWorker (s : Runtime) (id : WorkerId) (worker : Worker) (event : Option EngineEvent) :
    Runtime :=
  { s with
    workers := s.workers.set id worker
    activeDnsQueries :=
      if releasesGuard worker event then fetchSub s.activeDnsQueries else s.activeDnsQueries }

def stepWorker (s : Runtime) (id : WorkerId) (step : WorkerStep) : Option Runtime :=
  match s.workers[id]? with
  | none => none
  | some worker =>
    match worker.step config id (s.udpDnsCancel || s.cancel) step with
    | none => none
    | some (worker', none) => some (s.setWorker id worker' none)
    | some (worker', some event) =>
      (s.setWorker id worker' (some event)).post config (.worker id) event

def goto (s : Runtime) (phase : Phase) : Runtime := { s with phase := phase }

/-- The reader, which holds the sending end of the ingress queue, is gone. -/
def readerGone (s : Runtime) : Bool :=
  match s.reader with
  | .panicked | .ended => true
  | _ => false

/-- The branches of the `select!` of `Runtime::run`. -/
def select (s : Runtime) (step : ActorStep) : Option Runtime :=
  match step with
  | .cancelled =>
    if s.cancel && s.drainingDeadline.isNone then some (s.beginDraining config false) else none
  | .event =>
    match s.events with
    | [] => none
    | posted :: rest => some ({ s with events := rest }.handleEvent config posted.event)
  | .packet steps =>
    match s.ingress with
    | [] => none
    | packet :: rest =>
      if s.ingressOpen then { s with ingress := rest }.handlePacket config packet steps
      else none
  | .ingressClosed =>
    if s.ingressOpen && s.ingress.isEmpty && s.readerGone then
      let s := { s with ingressOpen := false }
      some (if s.readerEofSeen then s.beginDraining config false else s)
    else none
  | .join id =>
    if s.tasks.contains id && s.workerEnded id then some (s.joined config id) else none
  | .tick => some s
  | _ => none

/-- One phase of a turn of the loop. -/
def stepActor (s : Runtime) (step : ActorStep) : Option Runtime :=
  match s.phase, step with
  | .select, step => (s.select config step).map (·.goto .reapTasks)
  | .reapTasks, .reapTasks => some ((s.reapCompletedTasks config).goto .firstPoll)
  | .firstPoll, .poll steps =>
    (s.engine.poll steps).map fun engine => { s with engine := engine }.goto .driveTcp
  | .driveTcp, .driveTcp keys =>
    if keys.Perm s.tcp.keys then some (s.goto (.drivingTcp keys [])) else none
  | .drivingTcp (key :: keys) remove, .driveTcpKey =>
    let driven := s.driveTcpKey config key
    some (driven.1.goto (.drivingTcp keys (remove ++ (driven.2.map (key, ·)).toList)))
  | .drivingTcp [] remove, .driveTcpKey => some ((s.removeFinished remove).goto .driveUdp)
  | .driveUdp, .driveUdp targets keys =>
    if targets.Perm s.udpTargets.keys then
      let s := s.drainUdpRequests config targets
      if keys.Perm s.udpAssociations.keys then
        some ((s.sendUdpResponses keys).goto .secondPoll)
      else none
    else none
  | .secondPoll, .poll steps =>
    (s.engine.poll steps).map fun engine => { s with engine := engine }.goto .flush
  | .flush, .flush =>
    some ((s.flushDeviceOutput config s.engine.device.outgoing.length).goto .reapTargets)
  | .reapTargets, .reapTargets => some ((s.reapUdpTargets config).goto .checkStop)
  | .checkStop, .checkStop connectorQuiet =>
    some (s.refreshActorBufferedBytes.checkStop connectorQuiet)
  | _, _ => none

def next (s : Runtime) : Action → Option Runtime
  | .cancel => some { s with cancel := true }
  | .clock now => if s.now ≤ now then some { s with now := now } else none
  | .reader step => s.stepReader config step
  | .writer step => s.stepWriter config step
  | .worker id step => s.stepWorker config id step
  | .actor step => s.stepActor config step

/-- The packet runtime with the given configuration. -/
def system : System Runtime Action where
  start := start config
  next := next config

/-! ## Traces -/

/-- The reader queues a packet and the actor handles it. -/
def arrival (packet : Packet) (steps : List PollStep) : List Action :=
  [.reader (.packet packet), .reader .queued, .actor (.packet steps)]

/-- The phases between the `select!` and the flush, for the flows with these keys. -/
def turnUntilFlush (keys : List TcpFlowKey) : List Action :=
  let steps : List ActorStep :=
    [.reapTasks, .poll [], .driveTcp keys] ++ List.replicate (keys.length + 1) .driveTcpKey ++
      [.driveUdp [] [], .poll []]
  steps.map .actor

/-- The phases after the `select!`, for the flows with these keys. -/
def turn (keys : List TcpFlowKey) : List Action :=
  let steps : List ActorStep := [.flush, .reapTargets, .checkStop true]
  turnUntilFlush keys ++ steps.map .actor

/-- The phases after the `select!` without flows, for these targets and associations. -/
def udpTurn (targets : List SocketAddr) (keys : List UdpAssociationKey) : List Action :=
  let steps : List ActorStep :=
    [.reapTasks, .poll [], .driveTcp [], .driveTcpKey, .driveUdp targets keys, .poll [], .flush,
      .reapTargets, .checkStop true]
  steps.map .actor

namespace Sample

/-- The application and the remote address, with these ports. -/
def app (port : UInt16) : SocketAddr := ⟨.v4 ⟨10, 0, 0, 2⟩, port⟩
def target (port : UInt16) : SocketAddr := ⟨.v4 ⟨192, 0, 2, 1⟩, port⟩

def key (source destination : UInt16) : TcpFlowKey := ⟨app source, target destination⟩

/-- A packet of the application. -/
def packet (length : Nat) (transport : Transport) : Packet :=
  ⟨length, some (.v4 ⟨10, 0, 0, 2⟩ ⟨192, 0, 2, 1⟩ 0 false), transport⟩

def segment (source destination : UInt16) (syn ack rst : Bool) : Packet :=
  packet 40 (.tcp (some ⟨source, destination, syn, ack, rst⟩))

/-- One byte. -/
def datagram (source destination : UInt16) : Packet := packet 29 (.udp 9 true source destination)

def socket (capacity : Nat) (source destination : UInt16) (state : TcpState) : Socket :=
  .tcp ⟨target destination, some (app source), state, [], [], capacity, []⟩

end Sample

/-! ## What a step can do -/

variable {config} {s s' : Runtime}

/-- The state after an event has been put into the queue. -/
def posted (s : Runtime) (sender : Sender) (event : EngineEvent) : Runtime :=
  { s with events := s.events ++ [⟨sender, event⟩] }

theorem post_eq_some {sender : Sender} {event : EngineEvent} :
    s.post config sender event = some s' ↔
      s.events.length < config.eventQueueDepth ∧ s' = s.posted sender event := by
  simp [post, posted, eq_comm]

variable (config s) in
inductive ReaderEffect : Runtime → Prop where
  | quiet (reader : ReaderPhase) (hpacket : ∀ packet, reader = .queueing packet →
      packet.length ≤ config.mtu) : ReaderEffect { s with reader := reader }
  | queued {packet : Packet} : s.reader = .queueing packet →
      s.ingress.length < config.packetQueueDepth → ReaderEffect
        { s with
          reader := .reading
          ingress := s.ingress ++ [packet]
          ingressQueueDepth := s.ingressQueueDepth + 1 }
  | reported (event : EngineEvent) : event = .packetEof ∨ event = .packetReadFailed →
      s.events.length < config.eventQueueDepth →
      ReaderEffect ({ s with reader := .ended }.posted .reader event)

theorem stepReader_effect {step : ReaderStep} (h : s.stepReader config step = some s') :
    ReaderEffect config s s' := by
  unfold stepReader at h
  split at h <;> (try split at h) <;> (try cases h)
  · obtain ⟨hroom, rfl⟩ := post_eq_some.mp h
    exact .reported _ (.inr rfl) hroom
  · obtain ⟨hroom, rfl⟩ := post_eq_some.mp h
    exact .reported _ (.inl rfl) hroom
  · obtain ⟨hroom, rfl⟩ := post_eq_some.mp h
    exact .reported _ (.inr rfl) hroom
  · exact .quiet .ended nofun
  · exact .quiet .panicked nofun
  · rename_i packet _ hlength
    refine .quiet (.queueing packet) fun packet' heq => ?_
    cases heq
    exact hlength
  · exact .quiet (.reporting false) nofun
  · exact .quiet (.reporting true) nofun
  · exact .quiet (.reporting false) nofun
  · exact .queued ‹_› ‹_›

variable (config s) in
inductive WriterEffect : Runtime → Prop where
  | ended : s.writer = .panicked → WriterEffect { s with writer := .ended }
  | panicked : WriterEffect { s with writer := .panicked, egress := [] }
  | emptied (depth : Nat) : WriterEffect (s.endWriter depth)
  | received {packet : Packet} {rest : List Packet} : s.writer = .waiting →
      s.egress = packet :: rest → WriterEffect { s with writer := .writing packet, egress := rest }
  | wrote {packet : Packet} : s.writer = .writing packet → WriterEffect
        { s with writer := .waiting, egressQueueDepth := fetchSub s.egressQueueDepth }
  | failed {packet : Packet} : s.writer = .writing packet →
      WriterEffect { s with writer := .reporting packet }
  | reported {t : Runtime} : WriterEffect t → t.writer = .ended →
      t.events.length < config.eventQueueDepth → WriterEffect (t.posted .writer .packetWriteFailed)

theorem stepWriter_effect {step : WriterStep} (h : s.stepWriter config step = some s') :
    WriterEffect config s s' := by
  unfold stepWriter at h
  split at h <;> (try split at h) <;> (try cases h)
  · obtain ⟨hroom, rfl⟩ := post_eq_some.mp h
    exact .reported (.ended ‹_›) rfl hroom
  · exact .ended ‹_›
  · exact .panicked
  iterate 3 exact .emptied _
  · exact .received ‹_› ‹_›
  · exact .wrote ‹_›
  · exact .failed ‹_›
  · obtain ⟨hroom, rfl⟩ := post_eq_some.mp h
    exact .reported (.emptied _) rfl hroom

/-- A worker takes a step, and may send one event. -/
inductive WorkerEffect (config : PacketRuntimeConfig) (s : Runtime) (id : WorkerId) :
    Runtime → Prop where
  | quiet {worker worker' : Worker} {step : WorkerStep} : s.workers[id]? = some worker →
      worker.step config id (s.udpDnsCancel || s.cancel) step = some (worker', none) →
      WorkerEffect config s id (s.setWorker id worker' none)
  | sent {worker worker' : Worker} {step : WorkerStep} {event : EngineEvent} :
      s.workers[id]? = some worker →
      worker.step config id (s.udpDnsCancel || s.cancel) step = some (worker', some event) →
      s.events.length < config.eventQueueDepth →
      WorkerEffect config s id ((s.setWorker id worker' (some event)).posted (.worker id) event)

theorem stepWorker_effect {id : WorkerId} {step : WorkerStep}
    (h : s.stepWorker config id step = some s') : WorkerEffect config s id s' := by
  unfold stepWorker at h
  split at h
  · cases h
  split at h
  · cases h
  · cases h
    exact .quiet ‹_› ‹_›
  · obtain ⟨hroom, rfl⟩ := post_eq_some.mp h
    exact .sent ‹_› ‹_› hroom

variable (config s) in
/-- The branches of the `select!`. -/
inductive SelectEffect : ActorStep → Runtime → Prop where
  | cancelled : s.cancel → s.drainingDeadline = none →
      SelectEffect .cancelled (s.beginDraining config false)
  | event {posted : Posted} {rest : List Posted} : s.events = posted :: rest →
      SelectEffect .event ({ s with events := rest }.handleEvent config posted.event)
  | packet {packet : Packet} {rest : List Packet} {steps : List PollStep} {t : Runtime} :
      s.ingress = packet :: rest → s.ingressOpen →
      { s with ingress := rest }.handlePacket config packet steps = some t →
      SelectEffect (.packet steps) t
  | ingressClosed : s.ingressOpen → s.ingress = [] → s.readerGone → s.readerEofSeen = false →
      SelectEffect .ingressClosed { s with ingressOpen := false }
  | ingressEnded : s.ingressOpen → s.ingress = [] → s.readerGone → s.readerEofSeen →
      SelectEffect .ingressClosed ({ s with ingressOpen := false }.beginDraining config false)
  | join {id : WorkerId} : id ∈ s.tasks → s.workerEnded id →
      SelectEffect (.join id) (s.joined config id)
  | tick : SelectEffect .tick s

variable {step : ActorStep}

theorem select_effect (h : s.select config step = some s') : SelectEffect config s step s' := by
  unfold select at h
  split at h <;> (try split at h) <;> (try cases h)
  · rename_i hcancel
    simp only [Bool.and_eq_true, Option.isNone_iff_eq_none] at hcancel
    exact .cancelled hcancel.1 hcancel.2
  · exact .event ‹_›
  · obtain ⟨hopen, h⟩ := Option.ite_none_right_eq_some.mp h
    exact .packet ‹_› hopen h
  · rename_i hclosed
    simp only [Bool.and_eq_true, List.isEmpty_iff] at hclosed
    obtain ⟨⟨hopen, hempty⟩, hgone⟩ := hclosed
    dsimp only
    split
    · exact .ingressEnded hopen hempty hgone ‹_›
    · exact .ingressClosed hopen hempty hgone (Bool.eq_false_iff.mpr ‹_›)
  · rename_i hjoin
    simp only [Bool.and_eq_true, List.contains_iff_mem] at hjoin
    exact .join hjoin.1 hjoin.2
  · exact .tick

variable (config s) in
/-- One phase of a turn of the loop. -/
inductive ActorEffect : ActorStep → Runtime → Prop where
  | select {step : ActorStep} {t : Runtime} : s.phase = .select → SelectEffect config s step t →
      ActorEffect step (t.goto .reapTasks)
  | reapTasks : s.phase = .reapTasks →
      ActorEffect .reapTasks ((s.reapCompletedTasks config).goto .firstPoll)
  | firstPoll {steps : List PollStep} {engine : Engine} : s.phase = .firstPoll →
      s.engine.poll steps = some engine →
      ActorEffect (.poll steps) ({ s with engine := engine }.goto .driveTcp)
  | driveTcp {keys : List TcpFlowKey} : s.phase = .driveTcp → keys.Perm s.tcp.keys →
      ActorEffect (.driveTcp keys) (s.goto (.drivingTcp keys []))
  | driveTcpKey {key : TcpFlowKey} {keys : List TcpFlowKey}
      {remove : List (TcpFlowKey × SocketHandle)} : s.phase = .drivingTcp (key :: keys) remove →
      ActorEffect .driveTcpKey ((s.driveTcpKey config key).1.goto
          (.drivingTcp keys (remove ++ ((s.driveTcpKey config key).2.map (key, ·)).toList)))
  | removeFinished {remove : List (TcpFlowKey × SocketHandle)} : s.phase = .drivingTcp [] remove →
      ActorEffect .driveTcpKey ((s.removeFinished remove).goto .driveUdp)
  | driveUdp {targets : List SocketAddr} {keys : List UdpAssociationKey} : s.phase = .driveUdp →
      targets.Perm s.udpTargets.keys →
      keys.Perm (s.drainUdpRequests config targets).udpAssociations.keys →
      ActorEffect (.driveUdp targets keys)
        (((s.drainUdpRequests config targets).sendUdpResponses keys).goto .secondPoll)
  | secondPoll {steps : List PollStep} {engine : Engine} : s.phase = .secondPoll →
      s.engine.poll steps = some engine →
      ActorEffect (.poll steps) ({ s with engine := engine }.goto .flush)
  | flush : s.phase = .flush → ActorEffect .flush
        ((s.flushDeviceOutput config s.engine.device.outgoing.length).goto .reapTargets)
  | reapTargets : s.phase = .reapTargets →
      ActorEffect .reapTargets ((s.reapUdpTargets config).goto .checkStop)
  | goOn {connectorQuiet : Bool} : s.phase = .checkStop →
      ActorEffect (.checkStop connectorQuiet) (s.refreshActorBufferedBytes.goto .select)
  | stop {connectorQuiet : Bool} {deadline : Nat} : s.phase = .checkStop →
      s.drainingDeadline = some deadline → s.refreshActorBufferedBytes.quiescent connectorQuiet →
      ActorEffect (.checkStop connectorQuiet) (s.refreshActorBufferedBytes.goto .stopped)
  | force {connectorQuiet : Bool} {deadline : Nat} : s.phase = .checkStop →
      s.drainingDeadline = some deadline → deadline ≤ s.now →
      ActorEffect (.checkStop connectorQuiet)
        ({ s.refreshActorBufferedBytes with forced := true }.goto .stopped)

theorem stepActor_effect (h : s.stepActor config step = some s') :
    ActorEffect config s step s' := by
  unfold stepActor at h
  split at h <;> (try split at h) <;> (try cases h)
  · obtain ⟨t, ht, rfl⟩ := Option.map_eq_some_iff.mp h
    exact .select ‹_› (select_effect ht)
  · exact .reapTasks ‹_›
  · obtain ⟨engine, hpoll, rfl⟩ := Option.map_eq_some_iff.mp h
    exact .firstPoll ‹_› hpoll
  · exact .driveTcp ‹_› ‹_›
  · exact .driveTcpKey ‹_›
  · exact .removeFinished ‹_›
  · obtain ⟨hkeys, h⟩ := Option.ite_none_right_eq_some.mp h
    cases h
    exact .driveUdp ‹_› ‹_› hkeys
  · obtain ⟨engine, hpoll, rfl⟩ := Option.map_eq_some_iff.mp h
    exact .secondPoll ‹_› hpoll
  · exact .flush ‹_›
  · exact .reapTargets ‹_›
  unfold checkStop
  split
  · exact .goOn ‹_›
  split
  · exact .stop ‹_› ‹_› ‹_›
  split
  exacts [.force ‹_› ‹_› ‹_›, .goOn ‹_›]

variable (config s) in
inductive Effect : Action → Runtime → Prop where
  | cancel : Effect .cancel { s with cancel := true }
  | clock {now : Nat} : s.now ≤ now → Effect (.clock now) { s with now := now }
  | reader {step : ReaderStep} {t : Runtime} : ReaderEffect config s t → Effect (.reader step) t
  | writer {step : WriterStep} {t : Runtime} : WriterEffect config s t → Effect (.writer step) t
  | worker {id : WorkerId} {step : WorkerStep} {t : Runtime} : WorkerEffect config s id t →
      Effect (.worker id step) t
  | actor {step : ActorStep} {t : Runtime} : ActorEffect config s step t → Effect (.actor step) t

/-- **What one step of the packet runtime can do.** -/
theorem next_effect {action : Action} (h : s.next config action = some s') :
    Effect config s action s' := by
  cases action with
  | cancel =>
    cases h
    exact .cancel
  | clock now =>
    obtain ⟨hnow, h⟩ := Option.ite_none_right_eq_some.mp h
    cases h
    exact .clock hnow
  | reader step => exact .reader (stepReader_effect h)
  | writer step => exact .writer (stepWriter_effect h)
  | worker id step => exact .worker (stepWorker_effect h)
  | actor step => exact .actor (stepActor_effect h)

end Runtime
end Tun
end Maverick
