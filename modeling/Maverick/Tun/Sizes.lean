import Maverick.Tun.Bounds

/-!
# Sizes in the packet runtime

Bytes are in packets, in commands and events, in the tasks and in the buffers of the
sockets.  Each of these has a limit of its own; `Sized` says that all of them are kept.

* `Worker.sized_step` — a step keeps a task within its limits, and so is the event it
  sends.
* `TcpDrive.fits_drive` — one turn of the loop of `drive_tcp`.
* `sized_of_reach` — the limits hold in every run.
-/

namespace Maverick
namespace Tun

open Lib PacketRuntimeConfig

/-! ## Tasks and events -/

/-- The payload of an event is within its limit. -/
def EngineEvent.Sized (config : PacketRuntimeConfig) : EngineEvent → Prop
  | .tcpData _ data _ => data.length ≤ tcpWorkChunk
  | .udpResponse _ _ payload _ => payload.length ≤ config.maxUdpPayloadBytes
  | .dnsResponse _ _ response => response.length ≤ config.maxDnsPayloadBytes
  | _ => True

variable {config : PacketRuntimeConfig}

theorem EngineEvent.sized_none : ∀ event ∈ (none : Option EngineEvent), event.Sized config := nofun

def TcpCommand.bytes : TcpCommand → Nat
  | .data bytes => bytes.length
  | .localFin => 0

/-- What the halves of a flow hold. -/
def TcpWorkerPhase.held : TcpWorkerPhase → Nat
  | .relaying here there => here.held + there.held
  | .sendingDone _ held => held
  | _ => 0

def TcpWorkerPhase.Sized : TcpWorkerPhase → Prop
  | .relaying here there => here.held ≤ tcpWorkChunk ∧ there.held ≤ tcpWorkChunk
  | .sendingDone _ held => held ≤ 2 * tcpWorkChunk
  | _ => True

structure TcpWorker.Sized (depth : Nat) (w : TcpWorker) : Prop where
  length : w.commands.length ≤ depth
  command : ∀ command ∈ w.commands, command.bytes ≤ tcpWorkChunk
  phase : w.phase.Sized

namespace TcpWorker

variable {depth : Nat} {w w' : TcpWorker} {here : LocalHalf} {there : RemoteHalf}
  {step : TcpWorkerStep} {id : WorkerId} {r : TcpWorker × Option EngineEvent}

theorem Sized.enter (h : w.Sized depth) {phase : TcpWorkerPhase} (hphase : phase.Sized) :
    (w.enter phase).Sized depth := ⟨h.length, h.command, hphase⟩

theorem sized_finish (w : TcpWorker) (panicked : Bool) : (w.finish panicked).Sized depth :=
  ⟨Nat.zero_le depth, nofun, trivial⟩

theorem Sized.relay (h : w.Sized depth) (hhere : here.held ≤ tcpWorkChunk)
    (hthere : there.held ≤ tcpWorkChunk) : (w.relay here there).Sized depth := by
  unfold TcpWorker.relay
  split
  exacts [h.enter (Nat.zero_le _), h.enter ⟨hhere, hthere⟩]

/-- A command leaves the channel. -/
theorem Sized.taken (h : w.Sized depth) {command : TcpCommand} {rest : List TcpCommand}
    (hcommands : w.commands = command :: rest) : Sized depth { w with commands := rest } := by
  have hlength := h.length
  rw [hcommands, List.length_cons] at hlength
  refine ⟨by dsimp only; omega, ?_, h.phase⟩
  intro command' hmem
  exact h.command command' (by rw [hcommands]; exact List.mem_cons_of_mem _ hmem)

variable {config : PacketRuntimeConfig} {event : Option EngineEvent}

/-- A step of the half that reads from the remote flow. -/
theorem sized_remote {there' : RemoteHalf} (h : RemoteEffect id w.key step there there' event)
    (hthere : there.held ≤ tcpWorkChunk) :
    there'.held ≤ tcpWorkChunk ∧ ∀ e ∈ event, e.Sized config := by
  cases h with
  | read hlength => exact ⟨hlength, EngineEvent.sized_none⟩
  | sent => exact ⟨Nat.zero_le _, by rintro e ⟨⟩; exact hthere⟩
  | _ =>
    exact ⟨Nat.zero_le _, by simp [EngineEvent.Sized]⟩

theorem sized_effect (h : w.Sized depth) (heffect : Effect id w step w' event) :
    w'.Sized depth ∧ ∀ e ∈ event, e.Sized config := by
  have hhalves : ∀ {here : LocalHalf} {there : RemoteHalf}, w.phase = .relaying here there →
      here.held ≤ tcpWorkChunk ∧ there.held ≤ tcpWorkChunk := by
    intro here there hphase
    have hsized := h.phase
    rwa [hphase] at hsized
  cases heffect with
  | gone panicked _ => exact ⟨sized_finish w panicked, EngineEvent.sized_none⟩
  | connected => exact ⟨h.enter trivial, EngineEvent.sized_none⟩
  | refused => exact ⟨h.enter (Nat.zero_le _), EngineEvent.sized_none⟩
  | opened => exact ⟨h.enter ⟨Nat.zero_le _, Nat.zero_le _⟩, by simp [EngineEvent.Sized]⟩
  | took hphase hcommands =>
    have hdata := h.command (.data _) (by rw [hcommands]; exact List.mem_cons_self)
    exact ⟨(h.taken hcommands).enter ⟨hdata, (hhalves hphase).2⟩, EngineEvent.sized_none⟩
  | tookFin hphase hcommands =>
    exact ⟨(h.taken hcommands).enter ⟨Nat.zero_le _, (hhalves hphase).2⟩, EngineEvent.sized_none⟩
  | orphaned hphase _ =>
    exact ⟨h.enter ⟨Nat.zero_le _, (hhalves hphase).2⟩, EngineEvent.sized_none⟩
  | wrote hphase =>
    exact ⟨⟨h.length, h.command, Nat.zero_le _, (hhalves hphase).2⟩, EngineEvent.sized_none⟩
  | shutDown hphase =>
    have hshut : Sized depth { w with shutDown := true } := ⟨h.length, h.command, h.phase⟩
    exact ⟨hshut.relay (Nat.zero_le _) (hhalves hphase).2, EngineEvent.sized_none⟩
  | localCancelled hphase _ =>
    exact ⟨h.relay (Nat.zero_le _) (hhalves hphase).2, EngineEvent.sized_none⟩
  | remote hphase hremote =>
    obtain ⟨hhere, hthere⟩ := hhalves hphase
    obtain ⟨hthere', hevent⟩ := sized_remote hremote hthere
    exact ⟨h.relay hhere hthere', hevent⟩
  | cancelled hphase _ | failed hphase hheld _ =>
    obtain ⟨hhere, hthere⟩ := hhalves hphase
    refine ⟨h.enter ?_, EngineEvent.sized_none⟩
    simp only [TcpWorkerPhase.Sized]
    omega
  | reported => exact ⟨sized_finish _ false, by simp [EngineEvent.Sized]⟩

theorem Sized.answer (h : w.Sized depth) (ok : Bool) : (w.answer ok).Sized depth := by
  unfold TcpWorker.answer
  split
  · rename_i hphase
    have hhalves := h.phase
    rw [hphase] at hhalves
    exact h.enter ⟨hhalves.1, Nat.zero_le _⟩
  · exact h

end TcpWorker

/-- The messages that a UDP task holds: the request, and the response to it. -/
def UdpWorkerPhase.messages : UdpWorkerPhase → List Nat
  | .exchanging command => [command.payload.length]
  | .sendingResponse lease _ payload => [lease, payload.length]
  | .waiting lease _ => [lease]
  | _ => []

structure UdpWorker.Sized (config : PacketRuntimeConfig) (w : UdpWorker) : Prop where
  length : w.commands.length ≤ config.udpChannelDepth
  command : ∀ command ∈ w.commands, command.payload.length ≤ config.maxUdpPayloadBytes
  phase : ∀ length ∈ w.phase.messages, length ≤ config.maxUdpPayloadBytes

namespace UdpWorker

variable {config : PacketRuntimeConfig} {w : UdpWorker} {step : UdpWorkerStep} {id : WorkerId}
  {cancelled : Bool} {r : UdpWorker × Option EngineEvent}

variable {phase : UdpWorkerPhase}

theorem Sized.enter (h : w.Sized config)
    (hphase : ∀ length ∈ phase.messages, length ≤ config.maxUdpPayloadBytes) :
    (w.enter phase).Sized config := ⟨h.length, h.command, hphase⟩

/-- In most phases a task holds nothing. -/
theorem Sized.quiet (h : w.Sized config) (hphase : phase.messages = []) :
    (w.enter phase).Sized config := by
  refine h.enter ?_
  rw [hphase]
  exact List.forall_mem_nil _

theorem sized_finish (w : UdpWorker) (panicked : Bool) : (w.finish panicked).Sized config :=
  ⟨Nat.zero_le _, nofun, nofun⟩

theorem sized_step (h : w.Sized config)
    (hstep : w.step config.maxUdpPayloadBytes id cancelled step = some r) :
    r.1.Sized config ∧ ∀ event ∈ r.2, event.Sized config := by
  have hphase := h.phase
  unfold UdpWorker.step at hstep
  split at hstep <;> (try split at hstep) <;> (try split at hstep) <;> cases hstep <;>
    try first
      | exact ⟨h.quiet rfl, EngineEvent.sized_none⟩
      | exact ⟨sized_finish w _, EngineEvent.sized_none⟩
  · next command rest hcommands =>
      have hlength := h.length
      rw [hcommands, List.length_cons] at hlength
      refine ⟨⟨by dsimp only [UdpWorker.enter]; omega, ?_, ?_⟩, EngineEvent.sized_none⟩
      · intro command' hmem
        exact h.command command' (by rw [hcommands]; exact List.mem_cons_of_mem _ hmem)
      intro length hmem
      obtain rfl := List.mem_singleton.mp hmem
      exact h.command command (by rw [hcommands]; exact List.mem_cons_self)
  · next hexchanging hlength =>
      rw [hexchanging] at hphase
      refine ⟨h.enter ?_, EngineEvent.sized_none⟩
      intro length hmem
      rcases List.mem_cons.mp hmem with rfl | hmem
      · exact hphase _ List.mem_cons_self
      · obtain rfl := List.mem_singleton.mp hmem
        exact Nat.not_lt.mp hlength
  · next hsending =>
      rw [hsending] at hphase
      refine ⟨h.enter ?_, ?_⟩
      · intro length hmem
        obtain rfl := List.mem_singleton.mp hmem
        exact hphase _ List.mem_cons_self
      intro event hevent
      cases hevent
      exact hphase _ (List.mem_cons_of_mem _ List.mem_cons_self)
  · exact ⟨sized_finish w false, by simp [EngineEvent.Sized]⟩

theorem Sized.answer (h : w.Sized config) (ok : Bool) : (w.answer ok).Sized config := by
  unfold UdpWorker.answer
  split
  · rename_i hwaiting
    have hphase := h.phase
    rw [hwaiting] at hphase
    exact h.enter hphase
  · exact h

end UdpWorker

/-- The messages that a DNS task holds. -/
def DnsWorker.messages (w : DnsWorker) : List Nat :=
  match w.phase with
  | .querying => [w.query.length]
  | .sending response => [w.query.length, response.length]
  | .ended _ => []

def DnsWorker.Sized (config : PacketRuntimeConfig) (w : DnsWorker) : Prop :=
  ∀ length ∈ w.messages, length ≤ config.maxDnsPayloadBytes

theorem DnsWorker.sized_step {w : DnsWorker} {step : DnsWorkerStep} {cancelled : Bool}
    {r : DnsWorker × Option EngineEvent} (h : w.Sized config)
    (hstep : w.step config.maxDnsPayloadBytes cancelled step = some r) :
    r.1.Sized config ∧ ∀ event ∈ r.2, event.Sized config := by
  have hended : ∀ panicked : Bool, (w.enter (.ended panicked)).Sized config := nofun
  unfold DnsWorker.step at hstep
  split at hstep <;> (try split at hstep) <;> cases hstep <;>
    try exact ⟨hended _, EngineEvent.sized_none⟩
  · next hquerying hlength =>
      refine ⟨?_, EngineEvent.sized_none⟩
      intro length hmem
      rcases List.mem_cons.mp hmem with rfl | hmem
      · refine h _ ?_
        rw [DnsWorker.messages, hquerying]
        exact List.mem_cons_self
      · obtain rfl := List.mem_singleton.mp hmem
        exact hlength
  · next hsending =>
      refine ⟨hended false, ?_⟩
      intro event hevent
      cases hevent
      refine h _ ?_
      rw [DnsWorker.messages, hsending]
      exact List.mem_cons_of_mem _ List.mem_cons_self

/-- A task is within its limits. -/
def Worker.Sized (config : PacketRuntimeConfig) : Worker → Prop
  | .tcp w => w.Sized config.tcpChannelDepth
  | .udp w => w.Sized config
  | .dns w => w.Sized config

/-- **A step keeps a task within its limits, and so is the event it sends.** -/
theorem Worker.sized_step {id : WorkerId} {shared : Bool} {worker worker' : Worker}
    {step : WorkerStep} {event : Option EngineEvent} (h : worker.Sized config)
    (hstep : worker.step config id shared step = some (worker', event)) :
    worker'.Sized config ∧ ∀ e ∈ event, e.Sized config := by
  cases Worker.stepped hstep with
  | tcp hr => exact TcpWorker.sized_effect h (TcpWorker.effect_step hr)
  | udp hr => exact UdpWorker.sized_step h hr
  | dns hr => exact DnsWorker.sized_step h hr

/-! ## Sockets -/

/-- The buffers of a socket are not overfull. -/
def Socket.Sized (config : PacketRuntimeConfig) : Socket → Prop
  | .tcp socket =>
    socket.capacity = config.tcpBufferBytes ∧ socket.rx.length ≤ config.tcpBufferBytes ∧
      socket.tx.length ≤ config.tcpBufferBytes
  | .udp socket =>
    socket.bufferBytes = config.udpBufferBytes ∧
      UdpSocket.payloadBytes socket.rx ≤ config.udpBufferBytes ∧
      UdpSocket.payloadBytes socket.tx ≤ config.udpBufferBytes

/-- The size of each of the two buffers. -/
def SocketKind.bufferBytes (config : PacketRuntimeConfig) : SocketKind → Nat
  | .tcp => config.tcpBufferBytes
  | .udp => config.udpBufferBytes

theorem UdpSocket.payloadBytes_le_of_suffix {l l' : List (SocketAddr × Bytes)} (h : l <:+ l') :
    payloadBytes l ≤ payloadBytes l' := by
  obtain ⟨front, rfl⟩ := h
  simp [payloadBytes]

theorem Socket.sized_polls {packet : Option Packet} {socket socket' : Socket}
    (h : socket.Sized config) (hpolls : socket.polls packet socket') : socket'.Sized config := by
  cases socket with
  | tcp socket =>
    cases socket' with
    | udp socket' => cases hpolls
    | tcp socket' =>
      simp only [Socket.polls, TcpSocket.polls, Bool.and_eq_true, beq_iff_eq,
        decide_eq_true_eq, List.isSuffixOf_iff_suffix] at hpolls
      obtain ⟨⟨⟨⟨⟨hcapacity, -⟩, -⟩, -⟩, hrx⟩, htx⟩ := hpolls
      obtain ⟨hsize, -, htxOld⟩ := h
      have htxLe := htx.length_le
      exact ⟨hcapacity.trans hsize, by omega, by omega⟩
  | udp socket =>
    cases socket' with
    | tcp socket' => cases hpolls
    | udp socket' =>
      simp only [Socket.polls, UdpSocket.polls, Bool.and_eq_true, beq_iff_eq,
        decide_eq_true_eq, List.isSuffixOf_iff_suffix] at hpolls
      obtain ⟨⟨⟨⟨⟨⟨-, -⟩, hbuffer⟩, -⟩, -⟩, hrx⟩, htx⟩ := hpolls
      obtain ⟨hsize, -, htxOld⟩ := h
      have htxLe := UdpSocket.payloadBytes_le_of_suffix htx
      exact ⟨hbuffer.trans hsize, by omega, by omega⟩

/-- Every socket of the set is within its limits. -/
def SocketSet.Sized (config : PacketRuntimeConfig) (sockets : SocketSet) : Prop :=
  ∀ g socket, sockets.get g = some socket → socket.Sized config

namespace SocketSet.Sized

variable {config : PacketRuntimeConfig} {sockets : SocketSet}

variable {g : SocketHandle}

theorem modify (h : Sized config sockets) {f : Socket → Socket}
    (hf : ∀ socket, sockets.get g = some socket → (f socket).Sized config) :
    Sized config (sockets.modify g f) := by
  intro g' socket hget
  rw [Slots.get_modify] at hget
  by_cases hg : g' = g
  · rw [if_pos hg] at hget
    obtain ⟨before, hbefore, rfl⟩ := Option.map_eq_some_iff.mp hget
    exact hf before (hg ▸ hbefore)
  · rw [if_neg hg] at hget
    exact h g' socket hget

theorem modifyTcp (h : Sized config sockets) {f : TcpSocket → TcpSocket}
    (hf : ∀ socket, Socket.Sized config (.tcp socket) → Socket.Sized config (.tcp (f socket))) :
    Sized config (sockets.modifyTcp g f) := by
  refine h.modify fun socket hget => ?_
  have hsocket := h g socket hget
  cases socket with
  | tcp socket => exact hf socket hsocket
  | udp socket => exact hsocket

theorem modifyUdp (h : Sized config sockets) {f : UdpSocket → UdpSocket}
    (hf : ∀ socket, Socket.Sized config (.udp socket) → Socket.Sized config (.udp (f socket))) :
    Sized config (sockets.modifyUdp g f) := by
  refine h.modify fun socket hget => ?_
  have hsocket := h g socket hget
  cases socket with
  | tcp socket => exact hsocket
  | udp socket => exact hf socket hsocket

theorem add (h : Sized config sockets) {socket : Socket} (hsocket : socket.Sized config) :
    Sized config (sockets.add socket).1 := by
  intro g after hget
  rw [Slots.get_add] at hget
  by_cases hg : g = (sockets.add socket).2
  · rw [if_pos hg] at hget
    cases hget
    exact hsocket
  · rw [if_neg hg] at hget
    exact h g after hget

theorem remove (h : Sized config sockets) (g : SocketHandle) : Sized config (sockets.remove g) := by
  intro g' socket hget
  rw [Slots.get_remove] at hget
  split at hget
  · cases hget
  · exact h g' socket hget

theorem moved (h : Sized config sockets) {packet : Option Packet}
    {delivered : Option (SocketHandle × Socket)} {sockets' : SocketSet}
    (hmoved : Engine.Moved packet sockets delivered sockets') : Sized config sockets' := by
  cases hmoved with
  | none => exact h
  | one hget hpolls => exact h.modify fun _ _ => Socket.sized_polls (h _ _ hget) hpolls

/-- The bytes in the two buffers. -/
theorem queuedBytes_le (h : Sized config sockets) {kind : SocketKind}
    (hkind : sockets.kind g = some kind) :
    sockets.queuedBytes g ≤ 2 * kind.bufferBytes config := by
  obtain ⟨socket, hget, rfl⟩ := Option.map_eq_some_iff.mp hkind
  have hsized := h g socket hget
  cases socket with
  | tcp _ | udp _ =>
    obtain ⟨-, hrx, htx⟩ := hsized
    simp only [SocketSet.queuedBytes, hget, Option.map_some, Option.getD_some,
      Socket.queuedBytes, Socket.kind, SocketKind.bufferBytes]
    omega

end SocketSet.Sized

namespace Runtime

variable {config : PacketRuntimeConfig} {cause : Cause} {steps : List PollStep} {s s' : Runtime}

/-! ## Driving a flow -/

/-- The entry, the socket and the worker of a flow are within their limits. -/
structure TcpDrive.Fits (config : PacketRuntimeConfig) (d : TcpDrive) : Prop where
  pending : ∀ pending ∈ d.entry.pendingRemote, pending.data.length ≤ tcpWorkChunk
  socket : Socket.Sized config (.tcp d.socket)
  worker : d.worker.Sized config.tcpChannelDepth

namespace TcpDrive

variable {d d' : TcpDrive}

theorem fits_drive (h : d.Fits config) : (d.drive config.tcpChannelDepth).Fits config := by
  refine drive_invariant (fun hpart h => ?_) h
  obtain ⟨hpending, ⟨hcapacity, hrx, htx⟩, hworker⟩ := h
  have hpushed : ∀ {d : TcpDrive} {command : TcpCommand}, d.worker.Sized config.tcpChannelDepth →
      d.worker.commands.length < config.tcpChannelDepth → command.bytes ≤ tcpWorkChunk →
      (d.worker.push [command]).Sized config.tcpChannelDepth := by
    intro d command hsized hroom hbytes
    refine ⟨?_, forall_mem_snoc hsized.command hbytes, hsized.phase⟩
    rwa [TcpWorker.push, List.length_append]
  cases hpart with
  | same => exact ⟨hpending, ⟨hcapacity, hrx, htx⟩, hworker⟩
  | aborted amount =>
    refine ⟨hpending, ⟨hcapacity, ?_, htx⟩, hworker⟩
    simp only [TcpSocket.recvSlice, TcpSocket.abort, List.length_drop]
    omega
  | placed written _ hwritten =>
    refine ⟨by rintro _ ⟨⟩, ⟨hcapacity, hrx, ?_⟩, hworker⟩
    simp only [List.length_append, List.length_take]
    omega
  | @placedSome pending written hsome hwritten =>
    refine ⟨?_, ⟨hcapacity, hrx, ?_⟩, hworker⟩
    · intro pending' hmem
      cases hmem
      exact hpending pending hsome
    · simp only [List.length_append, List.length_take]
      omega
  | received amount hamount _ _ hroom =>
    -- the bytes leave the receive buffer
    refine ⟨hpending, ⟨hcapacity, ?_, htx⟩, hpushed hworker hroom ?_⟩
    · simp only [TcpSocket.recvSlice, List.length_drop]
      omega
    · simp only [TcpCommand.bytes, TcpSocket.recvSlice, List.length_take, tcpWorkChunk]
      omega
  | finished _ _ _ _ hroom =>
    exact ⟨hpending, ⟨hcapacity, hrx, htx⟩, hpushed hworker hroom (Nat.zero_le _)⟩

end TcpDrive

/-! ## The runtime -/

end Runtime

/-- The packet that the writer holds. -/
def WriterPhase.packet : WriterPhase → Option Packet
  | .writing packet | .reporting packet => some packet
  | _ => none

namespace Runtime

variable {config : PacketRuntimeConfig} {cause : Cause} {steps : List PollStep} {s s' : Runtime}

/-- Everything that holds bytes is within its limit. -/
structure Sized (config : PacketRuntimeConfig) (s : Runtime) : Prop where
  reader : ∀ packet, s.reader = .queueing packet → packet.length ≤ config.mtu
  ingressLength : s.ingress.length ≤ config.packetQueueDepth
  ingress : ∀ packet ∈ s.ingress, packet.length ≤ config.mtu
  egress : ∀ packet ∈ s.egress, packet.length ≤ config.mtu
  writer : ∀ packet, s.writer.packet = some packet → packet.length ≤ config.mtu
  mtu : s.engine.device.mtu = config.mtu
  incoming : ∀ packet ∈ s.engine.device.incoming, packet.length ≤ config.mtu
  outgoing : ∀ packet ∈ s.engine.device.outgoing, packet.length ≤ config.mtu
  eventsLength : s.events.length ≤ config.eventQueueDepth
  events : ∀ posted ∈ s.events, posted.event.Sized config
  workers : ∀ worker ∈ s.workers, worker.Sized config
  pendingRemote : Table.Every s.tcp fun entry =>
    ∀ pending ∈ entry.pendingRemote, pending.data.length ≤ tcpWorkChunk
  pendingResponse : Table.Every s.udpAssociations fun entry =>
    ∀ pending ∈ entry.pendingResponse, pending.payload.length ≤ config.maxUdpPayloadBytes
  pendingDns : ∀ pending ∈ s.pendingDnsResponses,
    pending.payload.length ≤ config.maxDnsPayloadBytes
  sockets : s.engine.sockets.Sized config

theorem sized_start (config : PacketRuntimeConfig) : Sized config (start config) where
  reader := by
    intro packet h
    cases h
  ingressLength := Nat.zero_le _
  ingress := List.forall_mem_nil _
  egress := List.forall_mem_nil _
  writer := by
    intro packet h
    cases h
  mtu := rfl
  incoming := List.forall_mem_nil _
  outgoing := List.forall_mem_nil _
  eventsLength := Nat.zero_le _
  events := List.forall_mem_nil _
  workers := List.forall_mem_nil _
  pendingRemote := Table.every_empty _
  pendingResponse := Table.every_empty _
  pendingDns := List.forall_mem_nil _
  sockets := by
    intro g socket h
    cases h

variable {event : EngineEvent} {key : TcpFlowKey}

theorem Sized.posted (h : Sized config s) (sender : Sender) (hevent : event.Sized config)
    (hroom : s.events.length < config.eventQueueDepth) : Sized config (s.posted sender event) := by
  refine { h with eventsLength := ?_, events := forall_mem_snoc h.events hevent }
  simp only [Runtime.posted, List.length_append, List.length_singleton]
  omega

theorem Sized.answer (h : Sized config s) (accepted : Option WorkerId) (ok : Bool) :
    Sized config (s.answer accepted ok) := by
  cases accepted with
  | none => exact h
  | some id =>
    refine { h with workers := forall_mem_modify h.workers fun worker _ hworker => ?_ }
    cases worker with
    | tcp w => exact TcpWorker.Sized.answer hworker ok
    | udp w => exact UdpWorker.Sized.answer hworker ok
    | dns w => exact hworker

theorem Sized.release (h : Sized config s) (id : WorkerId) :
    Sized config (s.modifyWorker id release) := by
  refine { h with workers := forall_mem_modify h.workers fun worker _ hworker => ?_ }
  cases worker with
  | tcp w => exact ⟨hworker.length, hworker.command, hworker.phase⟩
  | udp w => exact ⟨hworker.length, hworker.command, hworker.phase⟩
  | dns w => exact hworker

theorem Sized.removeUdpAssociation (h : Sized config s) {key : UdpAssociationKey}
    {entry : UdpAssociationEntry} (hkey : s.udpAssociations.lookup key = some entry) :
    Sized config (s.removeUdpAssociation key) := by
  simp only [Runtime.removeUdpAssociation, hkey]
  have hchannels := (h.answer (entry.pendingResponse.bind (·.accepted)) false).release entry.worker
  exact { hchannels with pendingResponse := hchannels.pendingResponse.erase key }

theorem Sized.removeTcp (h : Sized config s) {entry : TcpEntry}
    (hkey : s.tcp.lookup key = some entry) : Sized config (s.removeTcp key entry.handle) := by
  simp only [Runtime.removeTcp, hkey]
  have hchannels := (h.answer (entry.pendingRemote.bind (·.accepted)) false).release entry.worker
  exact { hchannels with
    pendingRemote := hchannels.pendingRemote.erase key
    sockets := hchannels.sockets.remove entry.handle }

theorem sized_control (hcontrol : Control s s') (h : Sized config s) : Sized config s' := by
  cases hcontrol
  exact { h with }

theorem sized_reader (hreader : ReaderEffect config s s') (h : Sized config s) :
    Sized config s' := by
  cases hreader with
  | quiet reader hpacket => exact { h with reader := hpacket }
  | @queued packet hqueueing hroom =>
    refine { h with
      reader := ?_
      ingressLength := ?_
      ingress := forall_mem_snoc h.ingress (h.reader packet hqueueing) }
    · intro packet' heq
      cases heq
    · simp only [List.length_append, List.length_singleton]
      omega
  | reported event hevent hroom =>
    have hsized : event.Sized config := by rcases hevent with rfl | rfl <;> trivial
    have hended : Sized config { s with reader := .ended } := by
      refine { h with reader := ?_ }
      intro packet heq
      cases heq
    exact hended.posted .reader hsized hroom

theorem sized_writer (hwriter : WriterEffect config s s') (h : Sized config s) :
    Sized config s' := by
  -- a writer that holds no packet
  have hidle : ∀ {phase : WriterPhase}, phase.packet = none →
      ∀ packet, phase.packet = some packet → packet.length ≤ config.mtu := by
    intro phase hnone packet hsome
    cases hnone.symm.trans hsome
  induction hwriter with
  | ended _ | wrote _ => exact { h with writer := hidle rfl }
  | panicked | emptied depth =>
    exact { h with writer := hidle rfl, egress := List.forall_mem_nil _ }
  | @received packet rest _ hegress =>
    refine { h with writer := ?_, egress := forall_mem_tail h.egress hegress }
    intro packet' heq
    cases heq
    exact h.egress packet (by rw [hegress]; exact List.mem_cons_self)
  | @failed packet hwriting =>
    have hpacket := h.writer packet (by rw [hwriting]; rfl)
    refine { h with writer := ?_ }
    intro packet' heq
    cases heq
    exact hpacket
  | reported _ _ hroom ih => exact ih.posted .writer trivial hroom

theorem sized_handled (hhandled : Handled config s event s') (hevent : event.Sized config)
    (h : Sized config s) : Sized config s' := by
  cases hhandled with
  | control _ hcontrol _ => exact sized_control hcontrol h
  | dropped _ _ => exact h
  | opened hkey | done hkey =>
    have hpending := h.pendingRemote _ _ hkey
    exact { h with pendingRemote := h.pendingRemote.insert _ hpending }
  | data hkey _ =>
    refine { h with pendingRemote := h.pendingRemote.insert _ ?_ }
    intro pending hpending
    cases hpending
    exact hevent
  | dataDropped _ => exact h.answer _ false
  | remoteFin _ =>
    refine { h with sockets := h.sockets.modifyTcp fun socket hsocket => ?_ }
    unfold TcpSocket.close
    split <;> exact hsocket
  | failed hkey =>
    have hpending := h.pendingRemote _ _ hkey
    exact { h with
      pendingRemote := h.pendingRemote.insert _ hpending
      sockets := h.sockets.modifyTcp fun _ hsocket => hsocket }
  | response _ _ =>
    refine { h with pendingResponse := h.pendingResponse.insert _ ?_ }
    intro pending hpending
    cases hpending
    exact hevent
  | responseDropped => exact h.answer _ _
  | disassociated hkey => exact h.removeUdpAssociation hkey
  | dnsQueued _ => exact { h with pendingDns := forall_mem_snoc h.pendingDns hevent }
  | dnsDropped => exact { h with }

/-- What a poll changes. -/
structure EngineSized (config : PacketRuntimeConfig) (engine : Engine) : Prop where
  mtu : engine.device.mtu = config.mtu
  incoming : ∀ packet ∈ engine.device.incoming, packet.length ≤ config.mtu
  outgoing : ∀ packet ∈ engine.device.outgoing, packet.length ≤ config.mtu
  sockets : engine.sockets.Sized config

theorem engineSized_poll {engine engine' : Engine} (hpoll : engine.poll steps = some engine')
    (h : EngineSized config engine) : EngineSized config engine' := by
  refine Engine.poll_invariant (I := EngineSized config) ?_ hpoll h
  intro engine step engine' _ heffect h
  cases heffect with
  | receive hincoming _ hmoved =>
    exact ⟨h.mtu, forall_mem_tail h.incoming hincoming, h.outgoing, h.sockets.moved hmoved⟩
  | transmit _ hlength =>
    exact ⟨h.mtu, h.incoming, forall_mem_snoc h.outgoing (h.mtu ▸ hlength), h.sockets⟩
  | timer hmoved => exact ⟨h.mtu, h.incoming, h.outgoing, h.sockets.moved hmoved⟩

theorem Sized.engine (h : Sized config s) : EngineSized config s.engine :=
  ⟨h.mtu, h.incoming, h.outgoing, h.sockets⟩

theorem Sized.of_engine (h : Sized config s) {engine : Engine} (hengine : EngineSized config engine) :
    Sized config { s with engine := engine } :=
  { h with
    mtu := hengine.mtu
    incoming := hengine.incoming
    outgoing := hengine.outgoing
    sockets := hengine.sockets }

theorem sized_listen {target : SocketAddr} {socket : TcpSocket}
    (h : TcpSocket.listen config.tcpBufferBytes target = some socket) :
    Socket.Sized config (.tcp socket) := by
  unfold TcpSocket.listen at h
  split at h
  · cases h
  · cases h
    exact ⟨rfl, Nat.zero_le _, Nat.zero_le _⟩

theorem sized_sendSlice {socket after : UdpSocket} {payload : Bytes} {destination : SocketAddr}
    (h : Socket.Sized config (.udp socket)) (hsend : socket.sendSlice payload destination = some after) :
    Socket.Sized config (.udp after) := by
  unfold UdpSocket.sendSlice at hsend
  split at hsend
  · cases hsend
  split at hsend
  · rename_i hroom
    cases hsend
    simp only [Bool.and_eq_true, decide_eq_true_eq] at hroom
    obtain ⟨hsize, hrx, -⟩ := h
    refine ⟨hsize, hrx, ?_⟩
    simp only [UdpSocket.payloadBytes, List.map_append, List.sum_append, List.map_singleton,
      List.sum_singleton] at hroom ⊢
    omega
  · cases hsend

theorem sized_trySendUdpResponse {pending : PendingUdpResponse} {sockets : SocketSet}
    (hsend : s.trySendUdpResponse pending = some sockets) (h : s.engine.sockets.Sized config) :
    sockets.Sized config := by
  unfold trySendUdpResponse at hsend
  split at hsend
  · cases hsend
    exact h
  split at hsend
  · cases hsend
  rename_i socket hsocket
  split at hsend
  · cases hsend
  · obtain ⟨after, hafter, rfl⟩ := Option.map_eq_some_iff.mp hsend
    refine h.modifyUdp fun _ _ => sized_sendSlice (h _ _ (SocketSet.udp_eq_some.mp hsocket)) hafter

theorem sized_applyDrive (h : Sized config s) {d : TcpDrive} (hfits : d.Fits config) :
    Sized config (s.applyDrive key d) := by
  have hdriven : Sized config
      ({ s with
          tcp := s.tcp.insert key d.entry
          engine.sockets := s.engine.sockets.modifyTcp d.entry.handle fun _ => d.socket }.modifyWorker
        d.entry.worker fun _ =>
          .tcp { d.worker with cancelled := d.worker.cancelled || d.finished }) :=
    { h with
      pendingRemote := h.pendingRemote.insert key hfits.pending
      sockets := h.sockets.modifyTcp fun _ _ => hfits.socket
      workers := forall_mem_modify h.workers fun _ _ _ =>
        ⟨hfits.worker.length, hfits.worker.command, hfits.worker.phase⟩ }
  exact hdriven.answer _ true

/-- **Every change keeps everything within its limits.** -/
theorem sized_change (hchange : Change config cause s s') (h : Sized config s) :
    Sized config s' := by
  cases hchange with
  | control hcontrol => exact sized_control hcontrol h
  | reader hreader => exact sized_reader hreader h
  | writer hwriter => exact sized_writer hwriter h
  | @event posted rest _ hevents hhandled =>
    have hlength := h.eventsLength
    rw [hevents, List.length_cons] at hlength
    have htaken : Sized config { s with events := rest } :=
      { h with
        eventsLength := by dsimp only; omega
        events := forall_mem_tail h.events hevents }
    exact sized_handled hhandled (h.events posted (by rw [hevents]; exact List.mem_cons_self))
      htaken
  | @taken packet rest hingress =>
    have hlength := h.ingressLength
    rw [hingress, List.length_cons] at hlength
    exact { h with
      ingressLength := by dsimp only; omega
      ingress := forall_mem_tail h.ingress hingress }
  | admitted hpacket _ => exact { h with incoming := forall_mem_snoc h.incoming hpacket }
  | polled _ hpoll => exact h.of_engine (engineSized_poll hpoll h.engine)
  | unused hlisten hincoming _ hpoll =>
    have hengine : _ → EngineSized config _ := engineSized_poll hpoll
    have hpolled := hengine ⟨h.mtu, ?_, h.outgoing, h.sockets.add (sized_listen hlisten)⟩
    · exact h.of_engine ⟨hpolled.mtu, hpolled.incoming, hpolled.outgoing,
        hpolled.sockets.remove _⟩
    rcases hincoming with rfl | ⟨packet, hpacket, -, rfl⟩
    exacts [h.incoming, forall_mem_snoc h.incoming hpacket]
  | touched _ => exact { h with }
  | @bound target socket _ _ _ hbind =>
    refine { h with sockets := h.sockets.add ?_ }
    unfold UdpSocket.bind at hbind
    split at hbind
    · cases hbind
    · cases hbind
      exact ⟨rfl, Nat.zero_le _, Nat.zero_le _⟩
  | @driven key entry socket worker hkey hsocket hworker =>
    have hfits : TcpDrive.Fits config ⟨entry, socket, worker, none⟩ :=
      ⟨h.pendingRemote key entry hkey, h.sockets _ _ (SocketSet.tcp_eq_some.mp hsocket),
        h.workers _ (List.mem_of_getElem? hworker)⟩
    exact sized_applyDrive h (TcpDrive.fits_drive hfits)
  | removed hkey => exact h.removeTcp hkey
  | received _ =>
    refine { h with sockets := h.sockets.modifyUdp fun socket hsocket => ?_ }
    exact ⟨hsocket.1, Nat.zero_le _, hsocket.2.2⟩
  | queried _ hquery _ =>
    refine { h with workers := forall_mem_snoc h.workers ?_ }
    intro length hmem
    obtain rfl := List.mem_singleton.mp hmem
    exact hquery
  | associated _ _ _ =>
    refine { h with
      workers :=
        forall_mem_snoc h.workers ⟨Nat.zero_le _, List.forall_mem_nil _, List.forall_mem_nil _⟩
      pendingResponse := h.pendingResponse.insert _ ?_ }
    intro pending hpending
    cases hpending
  | @forwarded key entry payload _ hpayload =>
    refine { h with workers := forall_mem_modify h.workers fun worker _ hworker => ?_ }
    cases worker with
    | tcp w => exact hworker
    | dns w => exact hworker
    | udp w =>
      simp only [sendUdpCommand]
      split
      · exact hworker
      rename_i hroom
      simp only [Bool.or_eq_true, decide_eq_true_eq, not_or, Nat.not_le] at hroom
      refine ⟨?_, forall_mem_snoc hworker.command hpayload, hworker.phase⟩
      simp only [List.length_append, List.length_singleton]
      omega
  | @responded key entry pending sockets _ _ hsend =>
    have hsent : Sized config
        { s with
          engine.sockets := sockets
          udpAssociations := s.udpAssociations.insert key { entry with pendingResponse := none } } := by
      refine { h with
        sockets := sized_trySendUdpResponse hsend h.sockets
        pendingResponse := h.pendingResponse.insert _ ?_ }
      intro pending hpending
      cases hpending
    exact hsent.answer _ true
  | dnsSent hpending hsend =>
    exact { h with
      pendingDns := forall_mem_tail h.pendingDns hpending
      sockets := sized_trySendUdpResponse hsend h.sockets }
  | @dnsKept pending rest hpending =>
    have hfirst := h.pendingDns pending (by rw [hpending]; exact List.mem_cons_self)
    exact { h with pendingDns := forall_mem_snoc (forall_mem_tail h.pendingDns hpending) hfirst }
  | unbound _ => exact { h with sockets := h.sockets.remove _ }
  | @flushed packet rest houtgoing _ _ _ =>
    have hfirst := h.outgoing packet (by rw [houtgoing]; exact List.mem_cons_self)
    exact { h with
      outgoing := forall_mem_tail h.outgoing houtgoing
      egress := forall_mem_snoc h.egress hfirst }
  | lost houtgoing => exact { h with outgoing := forall_mem_tail h.outgoing houtgoing }
  | refreshed => exact { h with }

theorem sized_started (hstarted : Started config steps s key s') (h : Sized config s) :
    Sized config s' := by
  cases hstarted with
  | @mk packet rest socket engine depth phase hingress hpacket _ _ _ _ hlisten _ hpoll _ =>
    have hlength := h.ingressLength
    rw [hingress, List.length_cons] at hlength
    have hengine : _ → EngineSized config engine := engineSized_poll hpoll
    have hpolled := hengine ⟨h.mtu, forall_mem_snoc h.incoming hpacket, h.outgoing,
      h.sockets.add (sized_listen hlisten)⟩
    have htaken : Sized config { s with ingress := rest } :=
      { h with
        ingressLength := by dsimp only; omega
        ingress := forall_mem_tail h.ingress hingress }
    have hmoved := htaken.of_engine hpolled
    refine { hmoved with
      workers := forall_mem_snoc h.workers ⟨Nat.zero_le _, List.forall_mem_nil _, trivial⟩
      pendingRemote := h.pendingRemote.insert key ?_ }
    intro pending hpending
    cases hpending

theorem sized_worker {id : WorkerId} (hworker : WorkerEffect config s id s')
    (h : Sized config s) : Sized config s' := by
  -- the task after its step
  have hset : ∀ {worker worker' : Worker} {step : WorkerStep} {event : Option EngineEvent},
      s.workers[id]? = some worker →
      worker.step config id (s.udpDnsCancel || s.cancel) step = some (worker', event) →
      Sized config (s.setWorker id worker' event) := by
    intro worker worker' step event hget hstep
    refine { h with workers := ?_ }
    intro w hw
    rcases List.mem_or_eq_of_mem_set hw with hw | rfl
    exacts [h.workers w hw, (Worker.sized_step (h.workers _ (List.mem_of_getElem? hget)) hstep).1]
  cases hworker with
  | quiet hget hstep => exact hset hget hstep
  | sent hget hstep hroom =>
    have hevent := (Worker.sized_step (h.workers _ (List.mem_of_getElem? hget)) hstep).2
    exact (hset hget hstep).posted _ (hevent _ rfl) hroom

theorem sized_of_reach {good : Runtime → Action → Prop} (h : (system config).ReachBy good s) :
    Sized config s :=
  reach_invariant (sized_start config) sized_change sized_started sized_worker h

end Runtime
end Tun
end Maverick
