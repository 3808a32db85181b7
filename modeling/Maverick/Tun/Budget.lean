import Maverick.Tun.Sizes

/-!
# The buffer budget

`buffer_capacity_bytes` is a sum of terms, one for each place where bytes wait.  The
bytes themselves are in queues, in tasks and in entries, and each holder is charged to
one of the terms.

* `trackedBytes` — what the runtime counts in `tracked_buffered_bytes`.
* `LeavesRoom` — a step that may start tasks finds room for them beside the tasks that still
  run; `room_of_reach` — so there is room in every state reached.
* `buffered_within_capacity` — in every such run the bytes are within the budget.
* `cancelled_workers_exceed_budget` — a task that was cancelled with its flow still
  holds its bytes, and the next flow is started without it.
-/

namespace Maverick
namespace Tun

open Lib PacketRuntimeConfig

/-! ## Tasks that run -/

inductive TaskKind where
  | tcp
  | udp
  | dns
  deriving DecidableEq

/-- The tasks of a kind that the budget has room for.  Its terms are for a flow, an association
and a query each; a task may hold as much, and its entry holds data of its own. -/
def TaskKind.room (config : PacketRuntimeConfig) : TaskKind → Nat
  | .tcp => config.maxTcpFlows / 2
  | .udp => config.maxUdpAssociations / 3
  | .dns => config.maxDnsQueries / 2

namespace Worker

def kind : Worker → TaskKind
  | .tcp _ => .tcp
  | .udp _ => .udp
  | .dns _ => .dns

/-- A task of this kind that has not ended. -/
def runs (kind : TaskKind) (worker : Worker) : Bool := worker.kind = kind && !worker.isEnded

variable {worker worker' : Worker} {kind : TaskKind}

theorem Unmoved.runs (h : worker.Unmoved worker') : worker'.runs kind = worker.runs kind := by
  have hended : worker'.isEnded = worker.isEnded := by
    refine h.cases (fun w w' _ hphase => ?_) (fun w w' _ hphase => ?_) fun _ => rfl
    · rcases hphase with heq | ⟨here, ok, hbefore, hafter⟩
      · simp only [Worker.isEnded, TcpWorker.isEnded, heq]
      · simp only [Worker.isEnded, TcpWorker.isEnded, hbefore, hafter]
    · rcases hphase with heq | ⟨lease, ok, hbefore, hafter⟩
      · simp only [Worker.isEnded, UdpWorker.isEnded, heq]
      · simp only [Worker.isEnded, UdpWorker.isEnded, hbefore, hafter]
  have hkind : worker'.kind = worker.kind :=
    h.cases (fun _ _ _ _ => rfl) (fun _ _ _ _ => rfl) fun _ => rfl
  rw [Worker.runs, Worker.runs, hended, hkind]

theorem runs_of_step {config : PacketRuntimeConfig} {id : WorkerId} {shared : Bool}
    {step : WorkerStep} {event : Option EngineEvent}
    (h : worker.step config id shared step = some (worker', event))
    (hruns : worker'.runs kind = true) : worker.runs kind = true := by
  have hkind : worker'.kind = worker.kind := by
    cases Worker.stepped h <;> rfl
  simp_all [runs, not_isEnded_of_step h]

end Worker

/-! ## Bytes -/

/-- A task that has ended holds nothing: its channel is gone with it. -/
def TcpWorker.trackedBytes (w : TcpWorker) : Nat :=
  if w.isEnded then 0 else total TcpCommand.bytes w.commands + w.phase.held

def UdpWorker.trackedBytes (w : UdpWorker) : Nat :=
  if w.isEnded then 0
  else total (fun command => command.payload.length) w.commands + w.phase.messages.sum

def DnsWorker.trackedBytes (w : DnsWorker) : Nat := w.messages.sum

namespace Worker

def tcpBytes : Worker → Nat
  | .tcp w => w.trackedBytes
  | _ => 0

def udpBytes : Worker → Nat
  | .udp w => w.trackedBytes
  | _ => 0

def dnsBytes : Worker → Nat
  | .dns w => w.trackedBytes
  | _ => 0

def trackedBytes (worker : Worker) : Nat := worker.tcpBytes + worker.udpBytes + worker.dnsBytes

end Worker

def EngineEvent.trackedBytes : EngineEvent → Nat
  | .tcpData _ data _ => data.length
  | .udpResponse _ _ payload _ => payload.length
  | .dnsResponse _ _ response => response.length
  | _ => 0

def ReaderPhase.trackedBytes : ReaderPhase → Nat
  | .queueing packet => packet.length
  | _ => 0

def WriterPhase.trackedBytes (phase : WriterPhase) : Nat :=
  (phase.packet.map Packet.length).getD 0

def TcpEntry.trackedBytes (entry : TcpEntry) : Nat :=
  (entry.pendingRemote.map fun pending => pending.data.length).getD 0

def UdpAssociationEntry.trackedBytes (entry : UdpAssociationEntry) : Nat :=
  (entry.pendingResponse.map fun pending => pending.payload.length).getD 0

namespace Runtime

variable {config : PacketRuntimeConfig} {cause : Cause} {steps : List PollStep} {s s' : Runtime}

/-- `tracked_buffered_bytes`. -/
def trackedBytes (s : Runtime) : Nat :=
  s.reader.trackedBytes + total Packet.length s.ingress +
    (total Packet.length s.egress + s.writer.trackedBytes) +
    total (fun posted => posted.event.trackedBytes) s.events +
    total Worker.trackedBytes s.workers +
    total (fun e => e.2.trackedBytes) s.tcp.entries +
    total (fun e => e.2.trackedBytes) s.udpAssociations.entries +
    total (fun pending => pending.payload.length) s.pendingDnsResponses

/-! ## Room for tasks -/

/-- The tasks of this kind that have not ended. -/
def running (s : Runtime) (kind : TaskKind) : Nat := s.workers.countP (Worker.runs kind)

/-- The tasks that a step may start: one for a packet that asks for a flow, one for each
datagram of an application. -/
def mayStart (s : Runtime) (action : Action) : TaskKind → Nat
  | .tcp => if (s.asksFor action).isSome then 1 else 0
  | .udp | .dns => (Cause.heard ⟨s, action⟩).length

/-- A step that may start tasks finds room for them beside the tasks that still run. -/
def LeavesRoom (config : PacketRuntimeConfig) (s : Runtime) (action : Action) : Prop :=
  ∀ kind ∈ [TaskKind.tcp, .udp, .dns], 0 < s.mayStart action kind →
    s.running kind + s.mayStart action kind ≤ kind.room config

instance (config : PacketRuntimeConfig) (s : Runtime) (action : Action) :
    Decidable (LeavesRoom config s action) :=
  List.decidableBAll _ _

theorem running_aside {workers workers' : List Worker} (h : Aside workers workers')
    (kind : TaskKind) : workers'.countP (Worker.runs kind) = workers.countP (Worker.runs kind) := by
  have hmap := h.map_eq (f := Worker.runs kind) fun _ _ hmoved => hmoved.runs
  have hcount := congrArg (List.countP id) hmap
  rwa [List.countP_map, List.countP_map] at hcount

theorem running_snoc (workers : List Worker) (worker : Worker) (kind : TaskKind) :
    (workers ++ [worker]).countP (Worker.runs kind) =
      workers.countP (Worker.runs kind) + if worker.runs kind then 1 else 0 := by
  rw [List.countP_append, List.countP_singleton]

/-- A change starts no TCP task, and every other task that it starts is in the list. -/
theorem running_change (h : Change config cause s s') : s'.running .tcp = s.running .tcp ∧
    ∀ kind, s'.running kind + s.workers.length ≤ s.running kind + s'.workers.length := by
  unfold running
  cases tasks_change h with
  | touched htouched =>
    have hlength := htouched.aside.length_eq
    refine ⟨running_aside htouched.aside .tcp, fun kind => ?_⟩
    rw [running_aside htouched.aside kind, hlength]
  | queried _ _ hworkers | associated _ hworkers =>
    rw [hworkers]
    refine ⟨running_snoc s.workers _ .tcp, fun kind => ?_⟩
    rw [running_snoc, List.length_append, List.length_singleton]
    split <;> omega

theorem running_changes (h : Changes config cause s s') : s'.running .tcp = s.running .tcp ∧
    ∀ kind, s'.running kind + s.workers.length ≤ s.running kind + s'.workers.length := by
  refine h.invariant (I := fun t => t.running .tcp = s.running .tcp ∧
    ∀ kind, t.running kind + s.workers.length ≤ s.running kind + t.workers.length) ?_
    ⟨rfl, fun _ => Nat.le_refl _⟩
  intro t t' hchange ht
  obtain ⟨htcp, htasks⟩ := running_change hchange
  refine ⟨htcp.trans ht.1, fun kind => ?_⟩
  have hfirst := ht.2 kind
  have hsecond := htasks kind
  omega

/-! ### The tasks that a step starts -/

theorem length_of_unheard (hheard : cause.heard = []) (h : Changes config cause s s') :
    s'.workers.length = s.workers.length := by
  refine h.invariant (I := fun t => t.workers.length = s.workers.length) ?_ rfl
  intro t t' hchange ht
  cases tasks_change hchange with
  | touched htouched => exact htouched.aside.length_eq.trans ht
  | queried _ hmem _ =>
    rw [hheard] at hmem
    cases hmem
  | associated hmem _ =>
    rw [hheard] at hmem
    obtain ⟨_, hmem⟩ := hmem
    cases hmem

theorem length_forwardUdp (s : Runtime) (key : UdpAssociationKey) (payload : Bytes) :
    (s.forwardUdp config key payload).workers.length = s.workers.length := by
  unfold forwardUdp
  split
  exacts [rfl, List.length_modify ..]

/-- A datagram starts at most one task. -/
theorem length_dispatchReceived (config : PacketRuntimeConfig) (s : Runtime)
    (received : SocketAddr × SocketAddr × Bytes) :
    (s.dispatchReceived config received).workers.length ≤ s.workers.length + 1 := by
  unfold dispatchReceived startDnsQuery dispatchUdp
  dsimp only
  split_ifs <;> simp [length_forwardUdp, startUdpWorker, spawn]

theorem length_drainUdpRequests (config : PacketRuntimeConfig) (s : Runtime)
    (targets : List SocketAddr) :
    (s.drainUdpRequests config targets).workers.length ≤
      s.workers.length + (s.receiveAllUdp targets).2.length := by
  have hfold : ∀ (received : List (SocketAddr × SocketAddr × Bytes)) (t : Runtime),
      (received.foldl (dispatchReceived config) t).workers.length ≤
        t.workers.length + received.length := by
    intro received
    induction received with
    | nil => exact fun _ => Nat.le_refl _
    | cons r received ih =>
      intro t
      have hone := length_dispatchReceived config t r
      have hrest := ih (t.dispatchReceived config r)
      rw [List.foldl_cons, List.length_cons]
      omega
  have hreceived : Changes config ⟨s, .actor .event⟩ s (s.receiveAllUdp targets).1 :=
    changes_receiveAllUdp s targets
  have hsame := length_of_unheard rfl hreceived
  exact hsame ▸ hfold _ _

/-- **An action starts at most one task for each datagram that it takes.** -/
theorem length_next {action : Action} (hnext : s.next config action = some s')
    (hchanges : Changes config ⟨s, action⟩ s s') :
    s'.workers.length ≤ s.workers.length + (Cause.heard ⟨s, action⟩).length := by
  cases next_effect hnext with
  | actor hactor =>
    cases hactor with
    | @driveUdp targets keys _ _ _ =>
      have hsent : Changes config ⟨s, .actor .event⟩ (s.drainUdpRequests config targets)
          ((s.drainUdpRequests config targets).sendUdpResponses keys) :=
        changes_sendUdpResponses _ keys
      have hsame := length_of_unheard rfl hsent
      have hdrained := length_drainUdpRequests config s targets
      exact hsame.trans_le hdrained
    | select _ hselect => cases hselect <;> exact (length_of_unheard rfl hchanges).le
    | _ => exact (length_of_unheard rfl hchanges).le
  | _ => exact (length_of_unheard rfl hchanges).le

theorem running_started {key : TcpFlowKey} (h : Started config steps s key s') (kind : TaskKind) :
    s'.running kind = s.running kind + if kind = .tcp then 1 else 0 := by
  cases h
  refine (running_snoc s.workers _ kind).trans ?_
  cases kind <;> rfl

theorem running_worker {id : WorkerId} {step : WorkerStep}
    (hstep : s.stepWorker config id step = some s') (kind : TaskKind) :
    s'.running kind ≤ s.running kind := by
  obtain ⟨worker, worker', event, hget, hworker, rfl⟩ := stepWorker_eq_some hstep
  have hset := countP_set_add (p := Worker.runs kind) (b := worker') hget
  have hruns : worker'.runs kind = true → worker.runs kind = true := Worker.runs_of_step hworker
  show (s.workers.set id worker').countP (Worker.runs kind) ≤ s.workers.countP (Worker.runs kind)
  split_ifs at hset <;> first | omega | exact absurd (hruns ‹_›) ‹_›

/-- **A step starts no more tasks than it may.** -/
theorem running_next {action : Action} {good : Runtime → Action → Prop}
    (hreach : (system config).ReachBy good s) (hnext : s.next config action = some s')
    (kind : TaskKind) : s'.running kind ≤ s.running kind + s.mayStart action kind := by
  rcases next_changes hreach hnext with hchanges | ⟨steps, key, rfl, hstarted⟩ |
    ⟨id, step, rfl, hstep⟩
  · obtain ⟨htcp, htasks⟩ := running_changes hchanges
    have hlength := length_next hnext hchanges
    have hkind := htasks kind
    cases kind with
    | tcp => exact htcp.trans_le (Nat.le_add_right _ _)
    | udp | dns =>
      simp only [mayStart]
      omega
  · rw [running_started hstarted]
    cases kind <;> simp [mayStart, asksFor_started hstarted]
  · exact (running_worker hstep kind).trans (Nat.le_add_right _ _)

/-- **There is room for the tasks that run**, in every run whose steps leave it. -/
theorem room_of_reach (h : (system config).ReachBy (LeavesRoom config) s) (kind : TaskKind) :
    s.running kind ≤ kind.room config := by
  induction h with
  | start => exact Nat.zero_le _
  | @step s s' action hreach hgood hnext ih =>
    have hstep := running_next hreach hnext kind
    rcases Nat.eq_zero_or_pos (s.mayStart action kind) with hnone | hsome
    · omega
    · exact hstep.trans (hgood kind (by cases kind <;> simp) hsome)

/-! ## TCP -/

theorem held_le {phase : TcpWorkerPhase} (h : phase.Sized) : phase.held ≤ 2 * tcpWorkChunk := by
  cases phase with
  | relaying here there =>
    obtain ⟨hhere, hthere⟩ := h
    simp only [TcpWorkerPhase.held]
    omega
  | sendingDone failed held => exact h
  | _ => exact Nat.zero_le _

theorem tcpBytes_le {worker : Worker} (h : worker.Sized config) : worker.tcpBytes ≤
    if worker.runs .tcp then (config.tcpChannelDepth + 2) * tcpWorkChunk else 0 := by
  cases worker with
  | tcp w =>
    have hsized : w.Sized config.tcpChannelDepth := h
    have hcommands := total_le TcpCommand.bytes hsized.length hsized.command
    have hheld := held_le hsized.phase
    simp only [Worker.tcpBytes, TcpWorker.trackedBytes, Worker.runs, Worker.kind, Worker.isEnded,
      Nat.add_mul]
    cases w.isEnded
    · simp
      omega
    · simp
  | _ => exact Nat.zero_le _

/-- **The TCP term**: tasks and pending data. -/
theorem tcpWork_le (hsized : Sized config s) (hbounded : Bounded config 0 s)
    (h : 2 * s.running .tcp ≤ config.maxTcpFlows) :
    total Worker.tcpBytes s.workers + total (fun e => e.2.trackedBytes) s.tcp.entries ≤
      config.maxTcpFlows * ((config.tcpChannelDepth + 2) * tcpWorkChunk) := by
  have htasks : _ ≤ s.running .tcp * _ :=
    total_le_countP Worker.tcpBytes fun worker hworker => tcpBytes_le (hsized.workers worker hworker)
  have hentries := total_le (fun e : (_ : TcpFlowKey) × TcpEntry => e.2.trackedBytes)
    hbounded.tcp.bound fun e he => getD_map_le _ (hsized.pendingRemote.of_mem_entries he)
  have hshares : s.running .tcp * (config.tcpChannelDepth + 2) + config.maxTcpFlows ≤
      config.maxTcpFlows * (config.tcpChannelDepth + 2) := by
    nlinarith
  have hbytes := Nat.mul_le_mul_right tcpWorkChunk hshares
  rw [Nat.add_mul, Nat.mul_assoc, Nat.mul_assoc] at hbytes
  omega

/-! ## UDP and DNS -/

/-- A task holds no more than two messages: a request, and the response to it. -/
theorem messages_le {messages : List Nat} {b : Nat} (hlength : messages.length ≤ 2)
    (h : ∀ n ∈ messages, n ≤ b) : messages.sum ≤ 2 * b := by
  have htotal := total_le (fun n => n) hlength h
  simpa [total] using htotal

theorem udpBytes_le {worker : Worker} (h : worker.Sized config) : worker.udpBytes ≤
    if worker.runs .udp then (config.udpChannelDepth + 2) * config.maxUdpPayloadBytes else 0 := by
  cases worker with
  | udp w =>
    have hsized : w.Sized config := h
    have hcommands :=
      total_le (fun command : UdpCommand => command.payload.length) hsized.length hsized.command
    have hmessages := messages_le (by cases w.phase <;> simp [UdpWorkerPhase.messages]) hsized.phase
    simp only [Worker.udpBytes, UdpWorker.trackedBytes, Worker.runs, Worker.kind, Worker.isEnded,
      Nat.add_mul]
    cases w.isEnded
    · simp
      omega
    · simp
  | _ => exact Nat.zero_le _

theorem dnsBytes_le {worker : Worker} (h : worker.Sized config) :
    worker.dnsBytes ≤ if worker.runs .dns then 2 * config.maxDnsPayloadBytes else 0 := by
  cases worker with
  | dns w =>
    have hmessages :=
      messages_le (by cases hphase : w.phase <;> simp [DnsWorker.messages, hphase]) h
    simp only [Worker.dnsBytes, DnsWorker.trackedBytes, Worker.runs, Worker.kind, Worker.isEnded]
    cases hphase : w.phase <;> simp_all [DnsWorker.messages, DnsWorker.isEnded]
  | _ => exact Nat.zero_le _

/-- **The UDP term**: tasks and pending responses. -/
theorem udpWork_le (hsized : Sized config s) (hbounded : Bounded config 0 s)
    (hdepth : 0 < config.udpChannelDepth) (h : 3 * s.running .udp ≤ config.maxUdpAssociations) :
    total Worker.udpBytes s.workers + total (fun e => e.2.trackedBytes) s.udpAssociations.entries ≤
      config.maxUdpAssociations *
        ((config.udpChannelDepth + 1) * config.maxUdpPayloadBytes) := by
  have htasks : _ ≤ s.running .udp * _ :=
    total_le_countP Worker.udpBytes fun worker hworker => udpBytes_le (hsized.workers worker hworker)
  have hentries := total_le
    (fun e : (_ : UdpAssociationKey) × UdpAssociationEntry => e.2.trackedBytes)
    hbounded.associations.bound fun e he =>
      getD_map_le _ (hsized.pendingResponse.of_mem_entries he)
  have hshares : s.running .udp * (config.udpChannelDepth + 2) + config.maxUdpAssociations ≤
      config.maxUdpAssociations * (config.udpChannelDepth + 1) := by
    nlinarith
  have hbytes := Nat.mul_le_mul_right config.maxUdpPayloadBytes hshares
  rw [Nat.add_mul, Nat.mul_assoc, Nat.mul_assoc] at hbytes
  omega

/-- **The DNS term**: tasks and pending responses. -/
theorem dnsWork_le (hsized : Sized config s) (hbounded : Bounded config 0 s)
    (h : 2 * s.running .dns ≤ config.maxDnsQueries) :
    total Worker.dnsBytes s.workers +
        total (fun pending => pending.payload.length) s.pendingDnsResponses ≤
      2 * config.maxDnsQueries * config.maxDnsPayloadBytes := by
  have htasks : _ ≤ s.running .dns * _ :=
    total_le_countP Worker.dnsBytes fun worker hworker => dnsBytes_le (hsized.workers worker hworker)
  have hpending := total_le (fun pending : PendingUdpResponse => pending.payload.length)
    hbounded.dns.room hsized.pendingDns
  have hbytes := Nat.mul_le_mul_right config.maxDnsPayloadBytes h
  linarith

/-! ## Packets, events and the actor -/

theorem packets_le (hsized : Sized config s) (hbounded : Bounded config 0 s) :
    s.reader.trackedBytes + total Packet.length s.ingress +
        (total Packet.length s.egress + s.writer.trackedBytes) ≤
      (2 * config.packetQueueDepth + 1) * config.mtu := by
  have hreader : s.reader.trackedBytes ≤ config.mtu := by
    cases hphase : s.reader with
    | queueing packet => exact hsized.reader packet hphase
    | _ => exact Nat.zero_le _
  have hingress := total_le Packet.length hsized.ingressLength hsized.ingress
  have hegress := total_le Packet.length (Nat.le_refl s.egress.length) hsized.egress
  have hwriter : s.egress.length * config.mtu + s.writer.trackedBytes ≤
      s.inFlight * config.mtu := by
    have hpacket := hsized.writer
    unfold inFlight WriterPhase.trackedBytes
    cases hphase : s.writer with
    | writing packet | reporting packet =>
      have hlength := hpacket packet (by rw [hphase]; rfl)
      simp only [WriterPhase.packet, Option.map_some, Option.getD_some, Nat.add_mul]
      omega
    | waiting | panicked | ended => simp [WriterPhase.packet]
  have hflight := Nat.mul_le_mul_right config.mtu hbounded.inFlight
  have hring : (2 * config.packetQueueDepth + 1) * config.mtu =
      config.packetQueueDepth * config.mtu + config.packetQueueDepth * config.mtu + config.mtu := by
    ring
  omega

theorem events_le (hsized : Sized config s)
    (hdns : config.maxDnsPayloadBytes ≤ config.maxUdpPayloadBytes) :
    total (fun posted => posted.event.trackedBytes) s.events ≤
      config.eventQueueDepth * max tcpWorkChunk config.maxUdpPayloadBytes := by
  refine total_le _ hsized.eventsLength fun posted hposted => ?_
  have hevent := hsized.events posted hposted
  cases hcase : posted.event with
  | tcpData key data accepted =>
    rw [hcase] at hevent
    exact Nat.le_trans hevent (Nat.le_max_left _ _)
  | udpResponse key endpoint payload accepted =>
    rw [hcase] at hevent
    exact Nat.le_trans hevent (Nat.le_max_right _ _)
  | dnsResponse target app response =>
    rw [hcase] at hevent
    exact Nat.le_trans (Nat.le_trans hevent hdns) (Nat.le_max_right _ _)
  | _ => exact Nat.zero_le _

/-- What `refresh_actor_buffered_bytes` can find. -/
def actorCapacity (config : PacketRuntimeConfig) : Nat :=
  2 * config.packetQueueDepth * config.mtu + config.maxTcpFlows * (2 * config.tcpBufferBytes) +
    config.maxUdpTargets * (2 * config.udpBufferBytes)

theorem refreshed_le (hplaced : s.Placed) (hsized : Sized config s)
    (hbounded : Bounded config 0 s) :
    s.refreshActorBufferedBytes.actorBufferedBytes ≤ actorCapacity config := by
  have hincoming := total_le Packet.length hbounded.device.incoming hsized.incoming
  have houtgoing := total_le Packet.length hbounded.device.outgoing hsized.outgoing
  have htcp := total_le
    (fun e : (_ : TcpFlowKey) × TcpEntry => s.engine.sockets.queuedBytes e.2.handle)
    hbounded.tcp.bound fun e he =>
      hsized.sockets.queuedBytes_le (hplaced.tcp.valid (AList.mem_lookup_iff.mpr he))
  have hudp := total_le
    (fun e : (_ : SocketAddr) × UdpTargetEntry => s.engine.sockets.queuedBytes e.2.handle)
    hbounded.targets fun e he =>
      hsized.sockets.queuedBytes_le (hplaced.udp.valid (AList.mem_lookup_iff.mpr he))
  simp only [refreshActorBufferedBytes, BoundedDevice.bufferedBytes, actorCapacity,
    List.map_append, List.sum_append]
  simp only [total, SocketKind.bufferBytes] at hincoming houtgoing htcp hudp
  have hring : 2 * config.packetQueueDepth * config.mtu =
      config.packetQueueDepth * config.mtu + config.packetQueueDepth * config.mtu := by ring
  omega

/-- Only the end of a turn counts anew. -/
theorem actorBuffered_change (hchange : Change config cause s s') :
    s'.actorBufferedBytes = s.actorBufferedBytes ∨ s' = s.refreshActorBufferedBytes := by
  cases hchange with
  | control hcontrol =>
    cases hcontrol
    exact .inl rfl
  | reader hreader => cases hreader <;> exact .inl rfl
  | writer hwriter =>
    rw [writer_eq hwriter]
    exact .inl rfl
  | event _ hhandled =>
    have hsame := (kept_handled hhandled).2.1
    exact .inl hsame
  | driven _ _ _ =>
    rw [applyDrive_eq]
    exact .inl rfl
  | removed hkey =>
    rw [removeTcp_eq hkey]
    exact .inl rfl
  | responded _ _ _ =>
    rw [answer_eq]
    exact .inl rfl
  | refreshed => exact .inr rfl
  | _ => exact .inl rfl

/-- `actor_buffered_bytes` is as of the last turn of the loop. -/
theorem actorBuffered_of_reach {good : Runtime → Action → Prop}
    (h : (system config).ReachBy good s) : s.actorBufferedBytes ≤ actorCapacity config := by
  have hall : (s.Placed ∧ Sized config s ∧ Bounded config 0 s) ∧
      s.actorBufferedBytes ≤ actorCapacity config := by
    refine reach_invariant (I := fun s => (s.Placed ∧ Sized config s ∧ Bounded config 0 s) ∧
      s.actorBufferedBytes ≤ actorCapacity config) ?_ ?_ ?_ ?_ h
    · exact ⟨⟨⟨.empty, .empty⟩, sized_start config, bounded_start config⟩, Nat.zero_le _⟩
    · intro steps s s' hchange hs
      obtain ⟨⟨hplaced, hsized, hbounded⟩, hactor⟩ := hs
      refine ⟨⟨(keeps_change hchange).placed hplaced, sized_change hchange hsized,
        bounded_change hchange hbounded⟩, ?_⟩
      rcases actorBuffered_change hchange with hsame | rfl
      · rwa [hsame]
      · exact refreshed_le hplaced hsized hbounded
    · intro steps s key s' hstarted hs
      obtain ⟨⟨hplaced, hsized, hbounded⟩, hactor⟩ := hs
      refine ⟨⟨(starts_of_started hstarted).placed hplaced, sized_started hstarted hsized,
        bounded_started hstarted hbounded⟩, ?_⟩
      cases hstarted
      exact hactor
    · intro s id s' hworker hs
      obtain ⟨⟨hplaced, hsized, hbounded⟩, hactor⟩ := hs
      refine ⟨⟨?_, sized_worker hworker hsized, bounded_worker hworker hbounded⟩, ?_⟩
      · cases hworker <;> exact ⟨hplaced.tcp, hplaced.udp⟩
      · cases hworker <;> exact hactor
  exact hall.2

/-! ## The budget -/

/-- **The bytes are within the budget**, in every run of every validated configuration whose
steps leave room. -/
theorem buffered_within_capacity {bytes : Nat} (hvalid : config.validate = .ok ())
    (hcapacity : config.bufferCapacityBytes = .ok bytes)
    (hreach : (system config).ReachBy (LeavesRoom config) s) :
    s.trackedBytes + s.actorBufferedBytes ≤ bytes := by
  have hlimits := limits_of_validate hvalid
  have hsized := sized_of_reach hreach
  have hbounded := bounded_of_reach hreach
  have hroom := room_of_reach hreach
  have hroomTcp := hroom .tcp
  have hroomUdp := hroom .udp
  have hroomDns := hroom .dns
  simp only [TaskKind.room] at hroomTcp hroomUdp hroomDns
  have hpackets := packets_le hsized hbounded
  have hevents := events_le hsized hlimits.maxDnsPayloadBytes
  have htcp := tcpWork_le hsized hbounded (by omega)
  have hudp := udpWork_le hsized hbounded hlimits.udpChannelDepth.1 (by omega)
  have hdns := dnsWork_le hsized hbounded (by omega)
  have hactor := actorBuffered_of_reach hreach
  have hworkers : total Worker.trackedBytes s.workers =
      total Worker.tcpBytes s.workers + total Worker.udpBytes s.workers +
        total Worker.dnsBytes s.workers := by
    rw [← total_add, ← total_add]
    rfl
  have htcpDepth : satAdd usizeBits config.tcpChannelDepth 2 = config.tcpChannelDepth + 2 :=
    satAdd_of_lt (by have := hlimits.tcpChannelDepth; unfold usizeBits; omega)
  have hudpDepth : satAdd usizeBits config.udpChannelDepth 1 = config.udpChannelDepth + 1 :=
    satAdd_of_lt (by have := hlimits.udpChannelDepth.2; unfold usizeBits; omega)
  have hsum := bufferCapacityBytes_eq_ok hcapacity
  rw [htcpDepth, hudpDepth] at hsum
  unfold actorCapacity at hactor
  unfold trackedBytes
  rw [hworkers]
  linarith

/-! ## Tasks that outlive their flows -/

namespace CancelledWorkers

/-- The least that a configuration may allow. -/
def small : PacketRuntimeConfig :=
  { PacketRuntimeConfig.default with
    mtu := 576
    ipv6Enabled := false
    maxTcpFlows := 1
    maxUdpTargets := 1
    maxUdpAssociations := 1
    maxDnsQueries := 1
    packetQueueDepth := 1
    eventQueueDepth := 1
    tcpBufferBytes := 576
    tcpChannelDepth := 1
    udpBufferBytes := 576
    udpMessageDepth := 1
    udpChannelDepth := 1
    maxUdpPayloadBytes := 1
    maxDnsPayloadBytes := 1 }

/-- What one read from the remote flow can give. -/
def chunk : Bytes := List.replicate (16 * 1024) 0

open Sample

/-- A flow is established, and its task reads a chunk for the application. -/
def opened (port : UInt16) (id : WorkerId) : List Action :=
  arrival (segment port 443 true false false)
      [.receive (some (0, socket 576 port 443 .synReceived))] ++ turn [key port 443] ++
    arrival (segment port 443 false true false)
      [.receive (some (0, socket 576 port 443 .established))] ++ turn [key port 443] ++
    [.worker id (.tcp .opened), .worker id (.tcp .sent), .actor .event] ++ turn [key port 443] ++
    [.worker id (.tcp (.read (some chunk)))]

/-- The application resets the connection: the entry goes, and its task is cancelled. -/
def reset (port : UInt16) : List Action :=
  arrival (segment port 443 false true true) [.receive (some (0, socket 576 port 443 .closed))] ++
    turn [key port 443]

/-- Five flows, one after the other. -/
def five : List Action :=
  opened 1 0 ++ reset 1 ++ opened 2 1 ++ reset 2 ++ opened 3 2 ++ reset 3 ++ opened 4 3 ++ reset 4 ++
    opened 5 4 ++ reset 5

/-- Room for a flow beside a task that was cancelled, and for an association. -/
def roomy : PacketRuntimeConfig :=
  { small with
    maxTcpFlows := 4
    maxUdpAssociations := 3
    maxDnsQueries := 2 }

/-- Two flows, the first of which is reset while its task has a chunk, and a datagram. -/
def two : List Action :=
  let steps : List ActorStep :=
    [.reapTasks, .poll [], .driveTcp [key 2 443], .driveTcpKey, .driveTcpKey,
      .driveUdp [target 443] [⟨app 9, target 443⟩]]
  opened 1 0 ++ reset 1 ++ opened 2 1 ++
    arrival (datagram 9 443) [.receive (some (1, .udp ⟨target 443, [(app 9, [1])], [], 1, 576⟩))] ++
    steps.map .actor

end CancelledWorkers

/-- **Tasks of flows that are gone exceed the budget.**  The limit is one flow, and no
flow is left; the five tasks that were cancelled still hold a chunk each. -/
theorem cancelled_workers_exceed_budget : CancelledWorkers.small.validate = .ok () ∧
    CancelledWorkers.small.bufferCapacityBytes = .ok 73724 ∧
    ∃ s : Runtime, (system CancelledWorkers.small).Reach s ∧ s.tcp.size = 0 ∧
      73724 < s.trackedBytes + s.actorBufferedBytes := by
  refine ⟨by decide, by decide, ?_⟩
  obtain ⟨s, hreach, hsize, hbytes⟩ := (system CancelledWorkers.small).exists_reach
    (fun s => s.tcp.size = 0 ∧ s.trackedBytes = 5 * (16 * 1024)) CancelledWorkers.five
    (by decide +kernel)
  exact ⟨s, hreach, hsize, by omega⟩

/-- A task that was cancelled runs beside the one of the next flow, and there is room for both. -/
theorem buffered_within_capacity_two : ∃ s : Runtime,
    (system CancelledWorkers.roomy).ReachBy (LeavesRoom CancelledWorkers.roomy) s ∧
    s.tcp.size = 1 ∧ s.running .tcp = 2 ∧ s.running .udp = 1 ∧
    s.trackedBytes = 2 * (16 * 1024) + 1 ∧
    s.trackedBytes + s.actorBufferedBytes ≤ 224642 := by
  obtain ⟨s, hreach, hsize, htcp, hudp, hbytes⟩ := (system CancelledWorkers.roomy).exists_reachBy
    (LeavesRoom CancelledWorkers.roomy)
    (fun s => s.tcp.size = 1 ∧ s.running .tcp = 2 ∧ s.running .udp = 1 ∧
      s.trackedBytes = 2 * (16 * 1024) + 1) CancelledWorkers.two (by decide +kernel)
  exact ⟨s, hreach, hsize, htcp, hudp, hbytes,
    buffered_within_capacity (by decide) (by decide) hreach⟩

end Runtime
end Tun
end Maverick
