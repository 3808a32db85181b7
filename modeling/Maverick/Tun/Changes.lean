import Maverick.Tun.Runs

/-!
# What happens in a step of the packet runtime

A phase of the actor does many things at once.  Here each phase is taken apart into
elementary changes: one event handled, one flow driven, one datagram passed on, one
packet flushed.  An invariant of the runtime is then a statement about elementary
changes, the start of a TCP flow and a step of a worker.

* `Change` — the elementary changes, with the conditions under which the source makes
  them; `Changes` — a sequence of them.
* `Started` — how a flow begins: a new listener has taken a SYN.
* `next_changes` — every step of the runtime is a sequence of changes, starts a flow
  or is a step of a worker.
* `reachBy_invariant` — so what these three keep holds in every run; `reach_invariant` —
  the same change by change.
-/

namespace Maverick
namespace Tun

open Lib

/-- The polls of the engine that an action asks for. -/
def Action.polls : Action → List PollStep
  | .actor (.packet steps) | .actor (.poll steps) => steps
  | _ => []

/-- More commands in the channel of a worker. -/
def TcpWorker.push (w : TcpWorker) (commands : List TcpCommand) : TcpWorker :=
  { w with commands := w.commands ++ commands, sent := w.sent ++ commands }

namespace Runtime

/-- What a change is part of: an action, and the state it is taken in. -/
structure Cause where
  state : Runtime
  action : Action

/-- The datagrams of the applications that the action takes from the sockets. -/
def Cause.heard (cause : Cause) : List (SocketAddr × SocketAddr × Bytes) :=
  match cause.action with
  | .actor (.driveUdp targets _) => (cause.state.receiveAllUdp targets).2
  | _ => []

variable {config : PacketRuntimeConfig} {cause : Cause} {steps : List PollStep} {s s' : Runtime}

/-! ## Elementary changes -/

/-- How far the loop is, and whether the runtime is draining. -/
inductive Control (s : Runtime) : Runtime → Prop where
  | mk (tasks : List WorkerId) (ingressOpen readerEofSeen : Bool) (nextUdpReap : Nat)
      (accepting : Bool) (drainingDeadline : Option Nat) (fatalFailure : Option PacketRuntimeFailure)
      (cancel udpDnsCancel : Bool) (ingressQueueDepth : Nat) (forced : Bool) (phase : Phase)
      (now : Nat) :
      (s.drainingDeadline.isSome → drainingDeadline.isSome) →
      (accepting = false ∨
        accepting = s.accepting ∧ drainingDeadline.isSome = s.drainingDeadline.isSome) →
      Control s
        { s with
          tasks := tasks
          ingressOpen := ingressOpen
          readerEofSeen := readerEofSeen
          nextUdpReap := nextUdpReap
          accepting := accepting
          drainingDeadline := drainingDeadline
          fatalFailure := fatalFailure
          cancel := cancel
          udpDnsCancel := udpDnsCancel
          ingressQueueDepth := ingressQueueDepth
          forced := forced
          phase := phase
          now := now }

variable (config s) in
/-- The branches of `handle_event`. -/
inductive Handled : EngineEvent → Runtime → Prop where
  | control {event : EngineEvent} {t : Runtime} : event.tcpKey = none → Control s t →
      (∀ target app response, event ≠ .dnsResponse target app response) → event.isPacket →
      Handled event t
  /-- The event names a flow or an association that is not there. -/
  | dropped {event : EngineEvent} : (∀ target app response, event ≠ .dnsResponse target app response) →
      (∀ key, event.tcpKey = some key → s.tcp.lookup key = none) →
      (∀ key, event.udpKey = some key → s.udpAssociations.lookup key = none) → Handled event s
  | opened {key : TcpFlowKey} {entry : TcpEntry} : s.tcp.lookup key = some entry →
      Handled (.tcpOpened key) { s with tcp := s.tcp.insert key { entry with opened := true } }
  | data {key : TcpFlowKey} {data : Bytes} {accepted : WorkerId} {entry : TcpEntry} :
      s.tcp.lookup key = some entry → entry.pendingRemote = none →
      Handled (.tcpData key data accepted)
        { s with
          tcp := s.tcp.insert key { entry with pendingRemote := some ⟨data, 0, some accepted⟩ } }
  | dataDropped {key : TcpFlowKey} {data : Bytes} {accepted : WorkerId} :
      (∀ entry, s.tcp.lookup key = some entry → entry.pendingRemote ≠ none) →
      Handled (.tcpData key data accepted) (s.answer (some accepted) false)
  | remoteFin {key : TcpFlowKey} {entry : TcpEntry} : s.tcp.lookup key = some entry →
      Handled (.tcpRemoteFin key)
        { s with engine.sockets := s.engine.sockets.modifyTcp entry.handle TcpSocket.close }
  | done {key : TcpFlowKey} {entry : TcpEntry} : s.tcp.lookup key = some entry →
      Handled (.tcpDone key false)
        { s with tcp := s.tcp.insert key { entry with workerDone := true } }
  | failed {key : TcpFlowKey} {entry : TcpEntry} : s.tcp.lookup key = some entry →
      Handled (.tcpDone key true)
        { s with
          tcp := s.tcp.insert key { entry with workerDone := true }
          engine.sockets := s.engine.sockets.modifyTcp entry.handle TcpSocket.abort }
  | response {key : UdpAssociationKey} {payload : Bytes} {accepted : WorkerId}
      {entry : UdpAssociationEntry} : s.udpAssociations.lookup key = some entry →
      entry.pendingResponse = none → Handled (.udpResponse key key.target payload accepted)
        { s with
          udpAssociations := s.udpAssociations.insert key
            { entry with pendingResponse := some ⟨key.app, key.target, payload, some accepted⟩ } }
  | responseDropped {key : UdpAssociationKey} {endpoint : SocketAddr} {payload : Bytes}
      {accepted : WorkerId} {ok : Bool} : (endpoint = key.target →
        ∀ entry, s.udpAssociations.lookup key = some entry → entry.pendingResponse ≠ none) →
      Handled (.udpResponse key endpoint payload accepted) (s.answer (some accepted) ok)
  | disassociated {key : UdpAssociationKey} {failed : Bool} {entry : UdpAssociationEntry} :
      s.udpAssociations.lookup key = some entry →
      Handled (.udpDone key failed) (s.removeUdpAssociation key)
  | dnsQueued {target app : SocketAddr} {response : Bytes} :
      s.pendingDnsResponses.length < config.maxDnsQueries →
      Handled (.dnsResponse target app response)
        { s with
          activeDnsQueries := fetchSub s.activeDnsQueries
          pendingDnsResponses := s.pendingDnsResponses ++ [⟨app, target, response, none⟩] }
  | dnsDropped {target app : SocketAddr} {response : Bytes} :
      Handled (.dnsResponse target app response)
        { s with activeDnsQueries := fetchSub s.activeDnsQueries }

variable (config cause s) in
/-- The elementary changes, each with the action that it can be part of. -/
inductive Change : Runtime → Prop where
  | control {t : Runtime} : Control s t → Change t
  | reader {t : Runtime} : ReaderEffect config s t → Change t
  | writer {t : Runtime} : WriterEffect config s t → Change t
  | event {posted : Posted} {rest : List Posted} {t : Runtime} : s.events = posted :: rest →
      Handled config { s with events := rest } posted.event t → Change t
  | taken {packet : Packet} {rest : List Packet} : s.ingress = packet :: rest →
      Change { s with ingress := rest }
  | admitted {packet : Packet} : packet.length ≤ config.mtu →
      s.engine.device.incoming.length < s.engine.device.queueLimit → Change
        { s with engine.device.incoming := s.engine.device.incoming ++ [packet] }
  | polled {steps : List PollStep} {engine : Engine} : steps ⊆ cause.action.polls →
      s.engine.poll steps = some engine → Change { s with engine := engine }
  /-- A listener that did not take the SYN is removed again. -/
  | unused {socket : TcpSocket} {target : SocketAddr} {incoming : List Packet}
      {steps : List PollStep} {engine : Engine} :
      TcpSocket.listen config.tcpBufferBytes target = some socket →
      (incoming = s.engine.device.incoming ∨ ∃ packet : Packet, packet.length ≤ config.mtu ∧
        s.engine.device.incoming.length < s.engine.device.queueLimit ∧
        incoming = s.engine.device.incoming ++ [packet]) → steps ⊆ cause.action.polls →
      Engine.poll ⟨{ s.engine.device with incoming := incoming },
        (s.engine.sockets.add (.tcp socket)).1⟩ steps = some engine → Change
        { s with
          engine := ⟨engine.device, engine.sockets.remove (s.engine.sockets.add (.tcp socket)).2⟩ }
  | touched {target : SocketAddr} {entry : UdpTargetEntry} :
      s.udpTargets.lookup target = some entry → Change
        { s with udpTargets := s.udpTargets.insert target { entry with lastActivity := s.now } }
  | bound {target : SocketAddr} {socket : UdpSocket} : s.udpTargets.lookup target = none →
      s.accepting → s.udpTargets.size < config.maxUdpTargets →
      UdpSocket.bind config.udpMessageDepth config.udpBufferBytes target = some socket → Change
        { s with
          engine.sockets := (s.engine.sockets.add (.udp socket)).1
          udpTargets := s.udpTargets.insert target
            ⟨(s.engine.sockets.add (.udp socket)).2, target, s.now⟩ }
  | driven {key : TcpFlowKey} {entry : TcpEntry} {socket : TcpSocket} {worker : TcpWorker} :
      s.tcp.lookup key = some entry → s.engine.sockets.tcp entry.handle = some socket →
      s.workers[entry.worker]? = some (.tcp worker) → cause.action = .actor .driveTcpKey → Change
        (s.applyDrive key (TcpDrive.drive config.tcpChannelDepth ⟨entry, socket, worker, none⟩))
  | removed {key : TcpFlowKey} {entry : TcpEntry} : s.tcp.lookup key = some entry →
      Change (s.removeTcp key entry.handle)
  | received {target : SocketAddr} {entry : UdpTargetEntry} :
      s.udpTargets.lookup target = some entry → Change
        { s with
          engine.sockets :=
            s.engine.sockets.modifyUdp entry.handle fun socket => { socket with rx := [] } }
  | queried {app target : SocketAddr} {query : Bytes} : s.accepting →
      query.length ≤ config.maxDnsPayloadBytes → s.activeDnsQueries < config.maxDnsQueries →
      target.port = 53 → (app, target, query) ∈ cause.heard → Change
        { s.spawn (.dns ⟨target, app, query, .querying⟩) with
          activeDnsQueries := s.activeDnsQueries + 1 }
  | associated {key : UdpAssociationKey} : s.udpAssociations.lookup key = none → s.accepting →
      s.udpAssociations.size < config.maxUdpAssociations →
      (∃ payload, (key.app, key.target, payload) ∈ cause.heard) → Change (s.startUdpWorker key)
  | forwarded {key : UdpAssociationKey} {entry : UdpAssociationEntry} {payload : Bytes} :
      s.udpAssociations.lookup key = some entry → payload.length ≤ config.maxUdpPayloadBytes →
      (key.app, key.target, payload) ∈ cause.heard → Change
        (s.modifyWorker entry.worker (sendUdpCommand config.udpChannelDepth ⟨key.target, payload⟩))
  | responded {key : UdpAssociationKey} {entry : UdpAssociationEntry}
      {pending : PendingUdpResponse} {sockets : SocketSet} :
      s.udpAssociations.lookup key = some entry → entry.pendingResponse = some pending →
      s.trySendUdpResponse pending = some sockets → Change
        ({ s with
            engine.sockets := sockets
            udpAssociations := s.udpAssociations.insert key
              { entry with pendingResponse := none } }.answer pending.accepted true)
  | dnsSent {pending : PendingUdpResponse} {rest : List PendingUdpResponse} {sockets : SocketSet} :
      s.pendingDnsResponses = pending :: rest → s.trySendUdpResponse pending = some sockets →
      Change { s with pendingDnsResponses := rest, engine.sockets := sockets }
  | dnsKept {pending : PendingUdpResponse} {rest : List PendingUdpResponse} :
      s.pendingDnsResponses = pending :: rest →
      Change { s with pendingDnsResponses := rest ++ [pending] }
  | unbound {target : SocketAddr} {entry : UdpTargetEntry} :
      s.udpTargets.lookup target = some entry → cause.action = .actor .reapTargets →
      s.isIdle config entry → Change
        { s.removeSocket entry.handle with udpTargets := s.udpTargets.erase target }
  | flushed {packet : Packet} {rest : List Packet} : s.engine.device.outgoing = packet :: rest →
      s.inFlight < config.packetQueueDepth → s.writer ≠ .panicked → s.writer ≠ .ended → Change
        { s with
          engine.device.outgoing := rest
          egress := s.egress ++ [packet]
          egressQueueDepth := s.egressQueueDepth + 1 }
  | lost {packet : Packet} {rest : List Packet} : s.engine.device.outgoing = packet :: rest →
      Change { s with engine.device.outgoing := rest }
  | refreshed : Change s.refreshActorBufferedBytes

/-- A sequence of changes. -/
abbrev Changes (config : PacketRuntimeConfig) (cause : Cause) : Runtime → Runtime → Prop :=
  Relation.ReflTransGen (Change config cause)

variable {I : Runtime → Prop} {key : TcpFlowKey} {packet : Packet} {id : WorkerId}
  {remove : List (TcpFlowKey × SocketHandle)} {keys : List TcpFlowKey} {app target : SocketAddr}
  {payload : Bytes} {targets : List SocketAddr} {action : Action} {good : Runtime → Action → Prop}
  {step : ActorStep}

/-- What every change keeps, a sequence of them keeps. -/
theorem Changes.invariant (hchange : ∀ {s s'}, Change config cause s s' → I s → I s')
    (h : Changes config cause s s') (hs : I s) : I s' := by
  induction h with
  | refl => exact hs
  | tail _ hlast ih => exact hchange hlast ih

theorem Changes.foldl {α : Type} {f : Runtime → α → Runtime} (l : List α)
    (h : ∀ s, ∀ a ∈ l, Changes config cause s (f s a)) (s : Runtime) :
    Changes config cause s (l.foldl f s) := by
  induction l generalizing s with
  | nil => exact .refl
  | cons a l ih =>
    exact (h s a List.mem_cons_self).trans (ih (fun s b hb => h s b (List.mem_cons_of_mem a hb)) _)

/-! ### What the compound updates leave alone -/

theorem answer_eq (s : Runtime) (accepted : Option WorkerId) (ok : Bool) :
    s.answer accepted ok = { s with workers := (s.answer accepted ok).workers } := by
  cases accepted <;> rfl

theorem applyDrive_eq (s : Runtime) (key : TcpFlowKey) (d : TcpDrive) :
    s.applyDrive key d =
      { s with
        tcp := s.tcp.insert key d.entry
        engine.sockets := s.engine.sockets.modifyTcp d.entry.handle fun _ => d.socket
        workers := (s.applyDrive key d).workers } := by
  unfold applyDrive
  exact answer_eq _ _ _

theorem removeTcp_eq {entry : TcpEntry} (hkey : s.tcp.lookup key = some entry) :
    s.removeTcp key entry.handle =
      { s with
        tcp := s.tcp.erase key
        engine.sockets := s.engine.sockets.remove entry.handle
        activeTcpFlows := fetchSub s.activeTcpFlows
        workers := (s.removeTcp key entry.handle).workers } := by
  simp only [removeTcp, hkey]
  rw [answer_eq]
  rfl

theorem removeUdpAssociation_eq {key : UdpAssociationKey} {entry : UdpAssociationEntry}
    (hkey : s.udpAssociations.lookup key = some entry) :
    s.removeUdpAssociation key =
      { s with
        udpAssociations := s.udpAssociations.erase key
        activeUdpAssociations := fetchSub s.activeUdpAssociations
        workers := (s.removeUdpAssociation key).workers } := by
  simp only [removeUdpAssociation, hkey]
  rw [answer_eq]
  rfl

theorem writer_eq (h : WriterEffect config s s') :
    s' = { s with
      writer := s'.writer
      egress := s'.egress
      egressQueueDepth := s'.egressQueueDepth
      events := s'.events } := by
  induction h with
  | reported _ _ _ ih =>
    rw [ih]
    rfl
  | _ => rfl

/-! ## The methods of the actor -/

theorem control_goto (s : Runtime) (phase : Phase) : Control s (s.goto phase) := by
  constructor <;> simp

/-- At last the loop goes on to its next phase. -/
theorem Changes.goto (h : Changes config cause s s') (phase : Phase) :
    Changes config cause s (s'.goto phase) :=
  h.tail (.control (control_goto s' phase))

theorem Control.trans {s'' : Runtime} (h : Control s s') (h' : Control s' s'') : Control s s'' := by
  cases h with
  | mk _ _ _ _ _ _ _ _ _ _ _ _ _ hdraining haccepting =>
    cases h' with
    | mk _ _ _ _ _ _ _ _ _ _ _ _ _ hdraining' haccepting' =>
      refine .mk _ _ _ _ _ _ _ _ _ _ _ _ _ (fun h => hdraining' (hdraining h)) ?_
      rcases haccepting' with h' | ⟨h', hsome'⟩
      exacts [.inl h', haccepting.imp h'.trans fun h => ⟨h'.trans h.1, hsome'.trans h.2⟩]

theorem control_beginDraining (s : Runtime) (immediate : Bool) :
    Control s (beginDraining config s immediate) := by
  unfold beginDraining
  split
  · rename_i hdraining
    split
    · exact .mk _ _ _ _ _ _ _ _ _ _ _ _ _ (fun _ => rfl) (.inr ⟨rfl, hdraining.symm⟩)
    · constructor <;> simp
  · exact .mk _ _ _ _ _ _ _ _ _ _ _ _ _ (fun _ => rfl) (.inl rfl)

theorem control_recordFailure (s : Runtime) (failure : PacketRuntimeFailure) :
    Control s (recordFailure config s failure) := by
  have hrecord : Control s
      { s with fatalFailure := if s.fatalFailure.isNone then some failure else s.fatalFailure } := by
    constructor <;> simp
  exact hrecord.trans (control_beginDraining _ true)

theorem control_joined (s : Runtime) (id : WorkerId) : Control s (joined config s id) := by
  have hjoined : Control s { s with tasks := s.tasks.filter (· != id) } := by
    constructor <;> simp
  unfold joined
  split
  exacts [hjoined.trans (control_recordFailure _ _), hjoined]

theorem changes_reapCompletedTasks (s : Runtime) :
    Changes config cause s (reapCompletedTasks config s) :=
  .foldl _ (fun s id _ => .single (.control (control_joined s id))) s

theorem handled_handleEvent (s : Runtime) (event : EngineEvent) :
    Handled config s event (handleEvent config s event) := by
  cases event with
  | packetReadFailed | packetWriteFailed => exact .control rfl (control_recordFailure s _) nofun rfl
  | packetEof =>
    have hseen : Control s { s with readerEofSeen := true } := by
      constructor <;> simp
    simp only [handleEvent]
    split
    · exact .control rfl hseen nofun rfl
    · exact .control rfl (hseen.trans (control_beginDraining _ false)) nofun rfl
  | tcpOpened key =>
    simp only [handleEvent]
    cases hkey : s.tcp.lookup key with
    | none => exact .dropped nofun (fun k hk => Option.some.inj hk ▸ hkey) nofun
    | some entry => exact .opened hkey
  | tcpData key data accepted =>
    simp only [handleEvent]
    cases hkey : s.tcp.lookup key with
    | none => exact .dataDropped fun entry hentry => nomatch hkey.symm.trans hentry
    | some entry =>
      dsimp only
      split
      · exact .data hkey (Option.isNone_iff_eq_none.mp ‹_›)
      rename_i hpending
      refine .dataDropped fun _ hentry hnone => hpending ?_
      cases hkey.symm.trans hentry
      exact Option.isNone_iff_eq_none.mpr hnone
  | tcpRemoteFin key =>
    simp only [handleEvent]
    cases hkey : s.tcp.lookup key with
    | none => exact .dropped nofun (fun k hk => Option.some.inj hk ▸ hkey) nofun
    | some entry => exact .remoteFin hkey
  | tcpDone key failed =>
    simp only [handleEvent]
    cases hkey : s.tcp.lookup key with
    | none => exact .dropped nofun (fun k hk => Option.some.inj hk ▸ hkey) nofun
    | some entry =>
      cases failed with
      | false => exact .done hkey
      | true => exact .failed hkey
  | udpResponse key endpoint payload accepted =>
    simp only [handleEvent]
    split
    · rename_i hendpoint
      exact .responseDropped fun heq => absurd heq hendpoint
    rename_i hendpoint
    obtain rfl := not_not.mp hendpoint
    cases hkey : s.udpAssociations.lookup key with
    | none => exact .responseDropped fun _ entry hentry => nomatch hkey.symm.trans hentry
    | some entry =>
      dsimp only
      split
      · exact .response hkey (Option.isNone_iff_eq_none.mp ‹_›)
      rename_i hpending
      refine .responseDropped fun _ _ hentry hnone => hpending ?_
      cases hkey.symm.trans hentry
      exact Option.isNone_iff_eq_none.mpr hnone
  | udpDone key failed =>
    cases hkey : s.udpAssociations.lookup key with
    | none =>
      have heq : handleEvent config s (.udpDone key failed) = s := by
        simp [handleEvent, removeUdpAssociation, hkey]
      rw [heq]
      exact .dropped nofun nofun fun k hk => Option.some.inj hk ▸ hkey
    | some entry => exact .disassociated hkey
  | dnsResponse target app response =>
    simp only [handleEvent]
    split
    exacts [.dnsQueued ‹_›, .dnsDropped]

/-! ### Packets -/

theorem changes_ensureUdpTarget (s : Runtime) (target : SocketAddr) :
    Changes config cause s (s.ensureUdpTarget config target) := by
  unfold ensureUdpTarget
  split <;> (try split) <;> (try split) <;> try exact .refl
  · exact .single (.touched ‹_›)
  rename_i hkey hroom _ _ _
  simp only [Bool.or_eq_true, Bool.not_eq_true', decide_eq_true_eq, not_or, Bool.not_eq_false,
    not_le] at hroom
  exact .single (.bound hkey hroom.1 hroom.2 ‹_›)

theorem tryAdmit_eq_some {device device' : BoundedDevice}
    (h : device.tryAdmit packet = some device') :
    device.incoming.length < device.queueLimit ∧
      device' = { device with incoming := device.incoming ++ [packet] } := by
  obtain ⟨hfull, h⟩ := Option.ite_none_left_eq_some.mp h
  exact ⟨Nat.lt_of_not_le hfull, (Option.some.inj h).symm⟩

theorem admitPacket_none (hlength : packet.length ≤ config.mtu)
    (hsteps : steps ⊆ cause.action.polls) (h : s.admitPacket packet none steps = some s') :
    Changes config cause s s' := by
  unfold admitPacket at h
  split at h
  · cases h
    exact .refl
  rename_i device hadmit
  obtain ⟨hroom, rfl⟩ := tryAdmit_eq_some hadmit
  split at h <;> cases h
  exact .head (.admitted hlength hroom) (.single (.polled hsteps ‹_›))

/-- How a flow begins: a new listener has taken a SYN, and its socket becomes the
socket of a new entry. -/
inductive Started (config : PacketRuntimeConfig) (steps : List PollStep) (s : Runtime)
    (key : TcpFlowKey) : Runtime → Prop where
  | mk {packet : Packet} {rest : List Packet} {socket : TcpSocket} {engine : Engine} (depth : Nat)
      (phase : Phase) : s.ingress = packet :: rest → packet.length ≤ config.mtu →
      packet.syn = some (key.app, key.target) → s.tcp.lookup key = none → s.accepting →
      s.tcp.size < config.maxTcpFlows →
      TcpSocket.listen config.tcpBufferBytes key.target = some socket →
      s.engine.device.incoming.length < s.engine.device.queueLimit →
      Engine.poll
        ⟨{ s.engine.device with incoming := s.engine.device.incoming ++ [packet] },
          (s.engine.sockets.add (.tcp socket)).1⟩ steps = some engine →
      (∀ after, engine.sockets.tcp (s.engine.sockets.add (.tcp socket)).2 = some after →
        after.state ≠ .listen) →
      Started config steps s key
        ({ s with ingress := rest, ingressQueueDepth := depth, engine := engine, phase := phase }.startTcpWorker
          key (s.engine.sockets.add (.tcp socket)).2)

theorem syn_of_classifyPacket (h : classifyPacket packet = some (.tcp key true)) :
    packet.syn = some (key.app, key.target) := by
  unfold classifyPacket at h
  unfold Packet.syn
  -- only a TCP header with the flags of a first SYN gives a new flow
  have htransport : ∀ {source destination : IpAddr} {fragmented : Bool} {transport : Transport},
      classifyTransport source destination fragmented transport = some (.tcp key true) →
      ∃ header, transport = .tcp (some header) ∧ (header.syn && !header.ack && !header.rst) = true ∧
        key = ⟨⟨source, header.srcPort⟩, ⟨destination, header.dstPort⟩⟩ := by
    intro source destination fragmented transport h
    cases transport with
    | tcp header =>
      cases header with
      | none => cases h
      | some header =>
        simp only [classifyTransport, Option.some.injEq, PacketClass.tcp.injEq] at h
        exact ⟨header, rfl, h.2, h.1.symm⟩
    | udp length checked srcPort dstPort =>
      simp only [classifyTransport] at h
      split at h <;> split at h <;> cases h
    | other => cases h
  cases hheader : packet.header with
  | none =>
    rw [hheader] at h
    cases h
  | some header =>
    rw [hheader] at h
    cases header with
    | v4 source destination fragOffset moreFrags =>
      dsimp only at h
      by_cases hfrag : fragOffset = 0
      · subst hfrag
        obtain ⟨header, htcp, hflags, rfl⟩ := htransport h
        simp only [htcp]
        rw [if_pos hflags]
      · rw [if_pos hfrag] at h
        cases h
    | v6 source destination =>
      obtain ⟨header, htcp, hflags, rfl⟩ := htransport h
      simp only [htcp]
      rw [if_pos hflags]

/-- The conditions under which `handle_packet` adds a listener. -/
theorem prepareTcp_cases (config : PacketRuntimeConfig) (s : Runtime) (key : TcpFlowKey)
    (newSyn : Bool) :
    s.prepareTcp config key newSyn = (s, none) ∨
    newSyn = true ∧ s.tcp.lookup key = none ∧ s.accepting ∧ s.tcp.size < config.maxTcpFlows ∧
      ∃ socket, TcpSocket.listen config.tcpBufferBytes key.target = some socket ∧
      s.prepareTcp config key newSyn =
        ({ s with engine.sockets := (s.engine.sockets.add (.tcp socket)).1 },
          some (key, (s.engine.sockets.add (.tcp socket)).2)) := by
  unfold prepareTcp addTcpListener
  split
  · rename_i hnew
    simp only [Bool.and_eq_true, Option.isNone_iff_eq_none, decide_eq_true_eq] at hnew
    cases hlisten : TcpSocket.listen config.tcpBufferBytes key.target with
    | none => exact .inl rfl
    | some socket => exact .inr ⟨hnew.1.1.1, hnew.1.1.2, hnew.1.2, hnew.2, socket, rfl, rfl⟩
  · exact .inl rfl

/-- The listener is there while the packet is handled, and goes again or becomes the
socket of a flow. -/
theorem admitPacket_listener {socket : TcpSocket} (hlength : packet.length ≤ config.mtu)
    (hsteps : steps ⊆ cause.action.polls)
    (hlisten : TcpSocket.listen config.tcpBufferBytes key.target = some socket)
    (h : admitPacket { s with engine.sockets := (s.engine.sockets.add (.tcp socket)).1 } packet
      (some (key, (s.engine.sockets.add (.tcp socket)).2)) steps = some s') :
    Change config cause s s' ∨
      ∃ engine, s.engine.device.incoming.length < s.engine.device.queueLimit ∧
        Engine.poll
          ⟨{ s.engine.device with incoming := s.engine.device.incoming ++ [packet] },
            (s.engine.sockets.add (.tcp socket)).1⟩ steps = some engine ∧
        (∀ after, engine.sockets.tcp (s.engine.sockets.add (.tcp socket)).2 = some after →
          after.state ≠ .listen) ∧
        s' = { s with engine := engine }.startTcpWorker key
          (s.engine.sockets.add (.tcp socket)).2 := by
  unfold admitPacket at h
  split at h
  · cases h
    exact .inl (.unused hlisten (.inl rfl) (List.nil_subset _) rfl)
  rename_i device hadmit
  obtain ⟨hroom, rfl⟩ := tryAdmit_eq_some hadmit
  split at h
  · cases h
  rename_i engine hpoll
  dsimp only at h
  split at h <;> cases h
  · exact .inl (.unused hlisten (.inr ⟨packet, hlength, hroom, rfl⟩) hsteps hpoll)
  · rename_i hstate
    exact .inr ⟨engine, hroom, hpoll, fun _ hafter heq => hstate (by simp [hafter, heq]), rfl⟩

/-- **A packet makes changes or starts one flow.** -/
theorem handlePacket_changes {rest : List Packet} (hingress : s.ingress = packet :: rest)
    (hsteps : steps ⊆ cause.action.polls)
    (h : { s with ingress := rest }.handlePacket config packet steps = some s') (phase : Phase) :
    Changes config cause s (s'.goto phase) ∨ ∃ key, Started config steps s key (s'.goto phase) := by
  have htaken : Changes config cause s { s with ingress := rest } := .single (.taken hingress)
  have hcounted : Changes config cause s
      { s with ingress := rest, ingressQueueDepth := fetchSub s.ingressQueueDepth } :=
    htaken.tail (.control (by constructor <;> simp))
  unfold handlePacket at h
  dsimp only at h
  split at h
  · cases h
    exact .inl (hcounted.goto _)
  have hlength : packet.length ≤ config.mtu := by omega
  split at h
  · cases h
    exact .inl (hcounted.goto _)
  rename_i packetClass hclass
  split at h <;> (try split at h)
  · cases h
    exact .inl (hcounted.goto _)
  · rename_i key newSyn _
    rcases prepareTcp_cases config
        { s with ingress := rest, ingressQueueDepth := fetchSub s.ingressQueueDepth } key
        newSyn with heq | ⟨rfl, hkey, haccepting, hsize, socket, hlisten, heq⟩ <;> rw [heq] at h
    · exact .inl (.goto (hcounted.trans (admitPacket_none hlength hsteps h)) _)
    rcases admitPacket_listener hlength hsteps hlisten h with hchange |
      ⟨engine, hroom, hpoll, hstate, rfl⟩
    · exact .inl (.goto (hcounted.tail hchange) _)
    have hsyn := syn_of_classifyPacket hclass
    exact .inr ⟨key, .mk (fetchSub s.ingressQueueDepth) phase hingress hlength hsyn hkey
      haccepting hsize hlisten hroom hpoll hstate⟩
  · exact .inl (.goto ((hcounted.trans (changes_ensureUdpTarget _ _)).trans
      (admitPacket_none hlength hsteps h)) _)
  · exact .inl (.goto (hcounted.trans (admitPacket_none hlength hsteps h)) _)
  · cases h
    exact .inl (hcounted.goto _)

/-! ### TCP flows -/

theorem tcpWorker_eq_some {w : TcpWorker} (h : s.tcpWorker id = some w) :
    s.workers[id]? = some (.tcp w) := by
  unfold tcpWorker at h
  split at h <;> cases h
  assumption

/-- One turn of the loop of `drive_tcp`: nothing where the flow has gone. -/
theorem driveTcpKey_cases (config : PacketRuntimeConfig) (s : Runtime) (key : TcpFlowKey) :
    s.driveTcpKey config key = (s, none) ∨
    ∃ entry socket worker, s.tcp.lookup key = some entry ∧
      s.engine.sockets.tcp entry.handle = some socket ∧
      s.workers[entry.worker]? = some (.tcp worker) ∧
      let d := TcpDrive.drive config.tcpChannelDepth ⟨entry, socket, worker, none⟩
      s.driveTcpKey config key =
        (s.applyDrive key d, if d.finished then some d.entry.handle else none) := by
  unfold driveTcpKey
  split <;> (try split) <;> try exact .inl rfl
  rename_i entry hkey _ _ socket worker hsocket hworker
  exact .inr ⟨entry, socket, worker, hkey, hsocket, tcpWorker_eq_some hworker, rfl⟩

theorem changes_driveTcpKey (haction : cause.action = .actor .driveTcpKey)
    (config : PacketRuntimeConfig) (s : Runtime) (key : TcpFlowKey) :
    Changes config cause s (s.driveTcpKey config key).1 := by
  rcases driveTcpKey_cases config s key with heq | ⟨_, _, _, hkey, hsocket, hworker, heq⟩ <;>
    rw [heq]
  exact .single (.driven hkey hsocket hworker haction)

namespace TcpDrive

/-- The parts of a turn of the loop.  One brings bytes of the worker to the socket; the others,
which are `upward`, bring what the socket has received to the worker. -/
inductive Part (depth : Nat) (d : TcpDrive) : (upward : Bool) → TcpDrive → Prop where
  | same {upward : Bool} : Part depth d upward d
  | aborted {upward : Bool} (amount : Nat) :
      Part depth d upward { d with socket := (d.socket.recvSlice amount).1.abort }
  | placed {pending : PendingTcpData} (written : Nat) : d.entry.pendingRemote = some pending →
      written ≤ d.socket.capacity - d.socket.tx.length →
      Part depth d false
        { d with
          socket.tx := d.socket.tx ++ (pending.data.drop pending.offset).take written
          entry.pendingRemote := none
          accepted := pending.accepted }
  | placedSome {pending : PendingTcpData} (written : Nat) : d.entry.pendingRemote = some pending →
      written ≤ d.socket.capacity - d.socket.tx.length →
      Part depth d false
        { d with
          socket.tx := d.socket.tx ++ (pending.data.drop pending.offset).take written
          entry.pendingRemote := some { pending with offset := pending.offset + written } }
  | received (amount : Nat) : amount ≤ 16 * 1024 → d.socket.rx ≠ [] →
      d.worker.isEnded = false → d.worker.commands.length < depth →
      Part depth d true
        { d with
          socket := (d.socket.recvSlice amount).1
          worker := d.worker.push [.data (d.socket.recvSlice amount).2] }
  | finished : d.entry.localFinSent = false → d.socket.state = .closeWait → d.socket.rx = [] →
      d.worker.isEnded = false → d.worker.commands.length < depth →
      Part depth d true
        { d with worker := d.worker.push [.localFin], entry.localFinSent := true }

/-- A turn of the loop leaves alone which socket and which worker an entry has. -/
structure Same (d d' : TcpDrive) : Prop where
  handle : d'.entry.handle = d.entry.handle
  entryWorker : d'.entry.worker = d.entry.worker
  key : d'.worker.key = d.worker.key
  phase : d'.worker.phase = d.worker.phase

variable {depth : Nat} {d d' : TcpDrive}

theorem part_sendPending (d : TcpDrive) : Part depth d false d.sendPending := by
  unfold sendPending
  split
  · exact .same
  rename_i pending hpending
  split
  · split
    · exact .aborted 0
    rename_i hsend
    obtain ⟨-, hsend⟩ := Option.ite_none_right_eq_some.mp hsend
    cases hsend
    split
    · exact .placed _ hpending (Nat.min_le_right _ _)
    · exact .placedSome _ hpending (Nat.min_le_right _ _)
  · exact .same

theorem trySend_eq_some {command : TcpCommand} (h : d.trySend depth command = some d') :
    (d.worker.isEnded = false ∧ d.worker.commands.length < depth) ∧
      { d with worker := d.worker.push [command] } = d' := by
  obtain ⟨hroom, h⟩ := Option.ite_none_left_eq_some.mp h
  simp only [hasCapacity, Bool.or_eq_true, Bool.not_eq_true', decide_eq_false_iff_not, not_or,
    Bool.not_eq_true, not_not] at hroom
  exact ⟨hroom, Option.some.inj h⟩

theorem part_receive (d : TcpDrive) : Part depth d true (d.receive depth) := by
  unfold receive
  split
  · rename_i hready
    simp only [Bool.and_eq_true, TcpSocket.canRecv, Bool.not_eq_true',
      List.isEmpty_eq_false_iff] at hready
    dsimp only
    split
    · rename_i hsend
      obtain ⟨⟨hlive, hroom⟩, rfl⟩ := trySend_eq_some hsend
      exact .received _ (Nat.min_le_right _ _) hready.1.2 hlive hroom
    · exact .aborted _
  · exact .same

theorem part_sendLocalFin (d : TcpDrive) : Part depth d true (d.sendLocalFin depth) := by
  unfold sendLocalFin
  split
  · rename_i hready
    simp only [Bool.and_eq_true, Bool.not_eq_true', beq_iff_eq, TcpSocket.canRecv,
      Bool.not_eq_false', List.isEmpty_iff] at hready
    obtain ⟨⟨⟨⟨-, hfin⟩, hstate⟩, hempty⟩, -⟩ := hready
    split
    · rename_i hsend
      obtain ⟨⟨hlive, hroom⟩, rfl⟩ := trySend_eq_some hsend
      exact .finished hfin hstate hempty hlive hroom
    · exact .same
  · exact .same

/-- What every part keeps, a turn of the loop keeps. -/
theorem drive_invariant {I : TcpDrive → Prop}
    (hpart : ∀ {d d' upward}, Part depth d upward d' → I d → I d') (h : I d) : I (d.drive depth) :=
  hpart (part_sendLocalFin _) (hpart (part_receive _) (hpart (part_sendPending d) h))

theorem Same.trans {d'' : TcpDrive} (h : Same d d') (h' : Same d' d'') : Same d d'' :=
  ⟨h'.handle.trans h.handle, h'.entryWorker.trans h.entryWorker, h'.key.trans h.key,
    h'.phase.trans h.phase⟩

theorem same_drive (depth : Nat) (d : TcpDrive) : Same d (d.drive depth) := by
  refine drive_invariant (I := Same d) (fun hpart h => h.trans ?_) ⟨rfl, rfl, rfl, rfl⟩
  cases hpart <;> exact ⟨rfl, rfl, rfl, rfl⟩

end TcpDrive

/-- What the loop of `drive_tcp` has collected: entries with their handles, each
key once, and none that is still to come. -/
structure Collected (s : Runtime) (keys : List TcpFlowKey)
    (remove : List (TcpFlowKey × SocketHandle)) : Prop where
  handle : ∀ r ∈ remove, ∃ e, s.tcp.lookup r.1 = some e ∧ e.handle = r.2
  nodup : (remove.map Prod.fst ++ keys).Nodup

theorem Collected.tail {r : TcpFlowKey × SocketHandle} (h : s.Collected [] (r :: remove)) :
    (s.removeTcp r.1 r.2).Collected [] remove := by
  obtain ⟨entry, hkey, hhandle⟩ := h.handle r List.mem_cons_self
  have hnodup := h.nodup
  rw [List.map_cons, List.cons_append, List.nodup_cons] at hnodup
  refine ⟨fun r' hr' => ?_, hnodup.2⟩
  have hne : r'.1 ≠ r.1 := fun heq =>
    hnodup.1 (heq ▸ List.mem_append_left _ (List.mem_map_of_mem hr'))
  rw [← hhandle, removeTcp_eq hkey]
  show ∃ e, (s.tcp.erase r.1).lookup r'.1 = some e ∧ e.handle = r'.2
  rw [AList.lookup_erase_ne hne]
  exact h.handle r' (List.mem_cons_of_mem _ hr')

theorem changes_removeFinished (h : s.Collected [] remove) :
    Changes config cause s (s.removeFinished remove) := by
  induction remove generalizing s with
  | nil => exact .refl
  | cons r remove ih =>
    obtain ⟨entry, hkey, hhandle⟩ := h.handle r List.mem_cons_self
    have hfirst : Change config cause s (s.removeTcp r.1 r.2) := hhandle ▸ .removed hkey
    exact .head hfirst (ih h.tail)

/-- One turn of the loop adds its own entry at most. -/
theorem Collected.driveTcpKey (config : PacketRuntimeConfig) (h : s.Collected (key :: keys) remove) :
    (s.driveTcpKey config key).1.Collected keys
      (remove ++ ((s.driveTcpKey config key).2.map (key, ·)).toList) := by
  obtain ⟨hkeys, hnodup⟩ := List.nodup_cons.mp (List.nodup_middle.mp h.nodup)
  rcases driveTcpKey_cases config s key with heq | ⟨entry, socket, worker, hkey, _, _, heq⟩ <;>
    rw [heq]
  · exact ⟨by simpa using h.handle, by simpa using hnodup⟩
  generalize TcpDrive.drive config.tcpChannelDepth ⟨entry, socket, worker, none⟩ = d
  have htcp : (s.applyDrive key d).tcp = s.tcp.insert key d.entry := by rw [applyDrive_eq]
  have hold : ∀ r ∈ remove,
      ∃ e, (s.applyDrive key d).tcp.lookup r.1 = some e ∧ e.handle = r.2 := by
    intro r hr
    have hne : r.1 ≠ key := fun heq =>
      hkeys (heq ▸ List.mem_append_left _ (List.mem_map_of_mem hr))
    rw [htcp, AList.lookup_insert_ne hne]
    exact h.handle r hr
  by_cases hfinished : d.finished
  · refine ⟨fun r hr => ?_, by simpa [hfinished] using h.nodup⟩
    simp only [hfinished, if_true, Option.map_some, Option.toList_some, List.mem_append,
      List.mem_singleton] at hr
    rcases hr with hr | rfl
    exacts [hold r hr, ⟨d.entry, by rw [htcp, AList.lookup_insert], rfl⟩]
  · exact ⟨by simpa [hfinished] using hold, by simpa [hfinished] using hnodup⟩

/-! ### UDP -/

theorem changes_startDnsQuery (s : Runtime) {query : Bytes} (hport : target.port = 53)
    (hheard : (app, target, query) ∈ cause.heard) :
    Changes config cause s (s.startDnsQuery config app target query) := by
  unfold startDnsQuery
  split
  · exact .refl
  rename_i hroom
  simp only [Bool.or_eq_true, Bool.not_eq_true', decide_eq_true_eq, not_or, Bool.not_eq_false,
    not_le, gt_iff_lt, not_lt] at hroom
  exact .single (.queried hroom.1.1 hroom.1.2 hroom.2 hport hheard)

theorem changes_forwardUdp (s : Runtime) {key : UdpAssociationKey}
    (hlength : payload.length ≤ config.maxUdpPayloadBytes)
    (hheard : (key.app, key.target, payload) ∈ cause.heard) :
    Changes config cause s (s.forwardUdp config key payload) := by
  unfold forwardUdp
  split
  exacts [.refl, .single (.forwarded ‹_› hlength hheard)]

theorem changes_dispatchUdp (s : Runtime) (hlength : payload.length ≤ config.maxUdpPayloadBytes)
    (hheard : (app, target, payload) ∈ cause.heard) :
    Changes config cause s (s.dispatchUdp config app target payload) := by
  unfold dispatchUdp
  dsimp only
  split
  · exact changes_forwardUdp s hlength hheard
  rename_i hkey
  split
  · exact .refl
  rename_i hroom
  simp only [Bool.or_eq_true, Bool.not_eq_true', decide_eq_true_eq, not_or, Bool.not_eq_false,
    not_le] at hroom
  have hnone := Option.not_isSome_iff_eq_none.mp hkey
  exact .head (.associated hnone hroom.1 hroom.2 ⟨payload, hheard⟩)
    (changes_forwardUdp _ hlength hheard)

theorem changes_dispatchReceived (s : Runtime) {received : SocketAddr × SocketAddr × Bytes}
    (hheard : received ∈ cause.heard) :
    Changes config cause s (s.dispatchReceived config received) := by
  unfold dispatchReceived
  dsimp only
  split <;> (try split)
  · exact .refl
  · rename_i hdns
    exact changes_startDnsQuery s hdns.2 hheard
  · exact changes_dispatchUdp s (Nat.not_lt.mp ‹_›) hheard

theorem changes_receiveUdp (s : Runtime) (target : SocketAddr) :
    Changes config cause s (s.receiveUdp target).1 := by
  unfold receiveUdp
  split <;> (try split) <;> (try split) <;> try exact .refl
  exact .head (.received ‹_›) (.single (.touched ‹_›))

theorem changes_receiveAllUdp (s : Runtime) (targets : List SocketAddr) :
    Changes config cause s (s.receiveAllUdp targets).1 := by
  induction targets generalizing s with
  | nil => exact .refl
  | cons target targets ih => exact (changes_receiveUdp s target).trans (ih _)

theorem changes_drainUdpRequests (s : Runtime) (hheard : (s.receiveAllUdp targets).2 ⊆ cause.heard) :
    Changes config cause s (s.drainUdpRequests config targets) :=
  (changes_receiveAllUdp s targets).trans
    (Changes.foldl _ (fun s _ hr => changes_dispatchReceived s (hheard hr)) _)

theorem changes_sendUdpResponse (s : Runtime) (key : UdpAssociationKey) :
    Changes config cause s (s.sendUdpResponse key) := by
  unfold sendUdpResponse
  split <;> (try split) <;> (try split) <;> try exact .refl
  exact .single (.responded ‹_› ‹_› ‹_›)

theorem changes_sendDnsResponses (count : Nat) (s : Runtime) :
    Changes config cause s (sendDnsResponses count s) := by
  induction count generalizing s with
  | zero => exact .refl
  | succ count ih =>
    unfold sendDnsResponses
    split <;> (try split)
    exacts [.refl, .single (.dnsKept ‹_›), .head (.dnsSent ‹_› ‹_›) (ih _)]

theorem changes_sendUdpResponses (s : Runtime) (keys : List UdpAssociationKey) :
    Changes config cause s (s.sendUdpResponses keys) :=
  (Changes.foldl keys (fun s key _ => changes_sendUdpResponse s key) s).trans
    (changes_sendDnsResponses _ _)

/-- The targets that are removed are idle, and removing one of them does not change
that of the others. -/
theorem changes_removeUdpTargets (haction : cause.action = .actor .reapTargets)
    (hidle : ∀ target ∈ targets, ∀ entry,
      s.udpTargets.lookup target = some entry → s.isIdle config entry) :
    Changes config cause s (targets.foldl removeUdpTarget s) := by
  induction targets generalizing s with
  | nil => exact .refl
  | cons target targets ih =>
    obtain ⟨hfirst, hrest⟩ := List.forall_mem_cons.mp hidle
    rw [List.foldl_cons, removeUdpTarget]
    split
    · exact ih hrest
    rename_i entry hkey
    refine .head (.unbound hkey haction (hfirst entry hkey)) (ih fun t ht entry' hlookup => ?_)
    exact hrest t ht entry' (Table.lookup_erase_eq_some hlookup).2

theorem changes_reapUdpTargets (haction : cause.action = .actor .reapTargets) (s : Runtime) :
    Changes config cause s (s.reapUdpTargets config) := by
  unfold reapUdpTargets
  split
  · exact .refl
  refine .head (.control (by constructor <;> simp))
    (changes_removeUdpTargets haction ?_)
  intro target htarget entry hkey
  obtain ⟨listed, hlisted, hsome⟩ := List.mem_filterMap.mp htarget
  obtain ⟨hidle, heq⟩ := Option.ite_none_right_eq_some.mp hsome
  cases heq
  cases hkey.symm.trans (AList.mem_lookup_iff.mpr hlisted)
  exact hidle

/-! ### Output -/

theorem changes_flushDeviceOutput (count : Nat) (s : Runtime) :
    Changes config cause s (flushDeviceOutput config count s) := by
  induction count generalizing s with
  | zero => exact .refl
  | succ count ih =>
    unfold flushDeviceOutput BoundedDevice.takeOutgoing
    cases houtgoing : s.engine.device.outgoing with
    | nil => exact .refl
    | cons packet rest =>
      dsimp only
      split <;> (try split)
      · have htake : s.engine.device.takeOutgoing =
            some (packet, { s.engine.device with outgoing := rest }) := by
          rw [BoundedDevice.takeOutgoing, houtgoing]
        rw [BoundedDevice.putOutgoingFront_of_take htake]
      · exact .head (.lost houtgoing) (.single (.control (control_recordFailure _ _)))
      rename_i hroom hopen
      rw [not_or] at hopen
      exact .head (.flushed houtgoing (Nat.not_le.mp hroom) hopen.1 hopen.2) (ih _)

/-! ## Steps of the runtime -/

/-- Inside the loop of `drive_tcp` the flows to be removed have their entries. -/
def Collecting (s : Runtime) : Prop :=
  ∀ keys remove, s.phase = .drivingTcp keys remove → s.Collected keys remove

/-- A step of another task than the actor. -/
theorem Collecting.aside (h : s.Collecting) (htcp : s'.tcp = s.tcp) (hphase : s'.phase = s.phase) :
    s'.Collecting := by
  intro keys remove hdriving
  have hcollected := h keys remove (hphase ▸ hdriving)
  exact ⟨htcp ▸ hcollected.handle, hcollected.nodup⟩

/-- A phase that is not the loop of `drive_tcp`. -/
theorem Collecting.goto {phase : Phase} (hphase : ∀ keys remove, phase ≠ .drivingTcp keys remove) :
    (s.goto phase).Collecting := by
  intro keys remove hdriving
  exact absurd hdriving (hphase _ _)

/-- Inside the loop of `drive_tcp`. -/
theorem Collecting.driving (hcollected : s.Collected keys remove) :
    (s.goto (.drivingTcp keys remove)).Collecting := by
  intro keys' remove' hphase
  cases hphase
  exact ⟨hcollected.handle, hcollected.nodup⟩

theorem collecting_effect (h : s.Collecting) (heffect : Effect config s action s') :
    s'.Collecting := by
  cases heffect with
  | cancel | clock _ => exact h.aside rfl rfl
  | reader hreader => cases hreader <;> exact h.aside rfl rfl
  | writer hwriter =>
    rw [writer_eq hwriter]
    exact h.aside rfl rfl
  | worker hworker => cases hworker <;> exact h.aside rfl rfl
  | actor hactor =>
    cases hactor with
    | driveTcp _ hperm => exact .driving ⟨nofun, hperm.nodup_iff.mpr s.tcp.keys_nodup⟩
    | driveTcpKey hdriving => exact .driving ((h _ _ hdriving).driveTcpKey config)
    | _ => exact .goto nofun

theorem collecting_of_reach (h : (system config).ReachBy good s) : s.Collecting := by
  refine h.invariant (I := Collecting) (fun _ _ hphase => by cases hphase) ?_
  exact fun s a s' hs _ hnext => collecting_effect hs (next_effect hnext)

theorem select_changes (h : SelectEffect config s step s') (phase : Phase) :
    Changes config ⟨s, .actor step⟩ s (s'.goto phase) ∨
      ∃ steps key, step = .packet steps ∧ Started config steps s key (s'.goto phase) := by
  -- bookkeeping, then the next phase
  have hcontrol : ∀ {t : Runtime} {cause}, Control s t → Changes config cause s (t.goto phase) :=
    fun ht => .single (.control (ht.trans (control_goto _ _)))
  cases h with
  | cancelled _ _ => exact .inl (hcontrol (control_beginDraining s false))
  | event hevents =>
    exact .inl (.goto (.single (.event hevents (handled_handleEvent _ _))) _)
  | @packet _ _ steps _ hingress _ hpacket =>
    refine (handlePacket_changes hingress ?_ hpacket phase).imp_right fun ⟨key, hkey⟩ =>
      ⟨steps, key, rfl, hkey⟩
    exact List.Subset.refl steps
  | ingressClosed _ _ _ _ =>
    exact .inl (hcontrol (by constructor <;> simp))
  | ingressEnded _ _ _ _ =>
    have hclosed : Control s { s with ingressOpen := false } := by
      constructor <;> simp
    exact .inl (hcontrol (hclosed.trans (control_beginDraining _ false)))
  | join _ _ => exact .inl (hcontrol (control_joined s _))
  | tick => exact .inl (.goto .refl _)

theorem actor_changes (h : s.Collecting) (heffect : ActorEffect config s step s') :
    Changes config ⟨s, .actor step⟩ s s' ∨
      ∃ steps key, step = .packet steps ∧ Started config steps s key s' := by
  cases heffect with
  | select _ hselect => exact select_changes hselect _
  | reapTasks _ => exact .inl ((changes_reapCompletedTasks s).goto _)
  | firstPoll _ hpoll | secondPoll _ hpoll =>
    exact .inl (.goto (.single (.polled (List.Subset.refl _) hpoll)) _)
  | driveTcp _ _ => exact .inl (.goto .refl _)
  | driveTcpKey _ => exact .inl ((changes_driveTcpKey rfl config s _).goto _)
  | removeFinished hdriving => exact .inl ((changes_removeFinished (h _ _ hdriving)).goto _)
  | driveUdp _ _ _ =>
    exact .inl (.goto ((changes_drainUdpRequests s (List.Subset.refl _)).trans
      (changes_sendUdpResponses _ _)) _)
  | flush _ => exact .inl ((changes_flushDeviceOutput _ s).goto _)
  | reapTargets _ => exact .inl ((changes_reapUdpTargets rfl s).goto _)
  | goOn _ | stop _ _ _ => exact .inl (.goto (.single .refreshed) _)
  | force _ _ _ =>
    refine .inl (.head .refreshed (.single (.control ?_)))
    constructor <;> simp

/-- A step of a task: the task it leaves, and the event it puts into the queue. -/
theorem stepWorker_eq_some {step : WorkerStep} (h : s.stepWorker config id step = some s') :
    ∃ worker worker' event, s.workers[id]? = some worker ∧
      worker.step config id (s.udpDnsCancel || s.cancel) step = some (worker', event) ∧
      s' = { s.setWorker id worker' event with
        events := s.events ++ (event.map (Posted.mk (.worker id))).toList } := by
  unfold stepWorker at h
  split at h <;> (try split at h) <;> try cases h
  · exact ⟨_, _, none, ‹_›, ‹_›, by simp [setWorker]⟩
  · obtain ⟨-, rfl⟩ := post_eq_some.mp h
    exact ⟨_, _, some _, ‹_›, ‹_›, rfl⟩

/-- **Every step of a run** is a sequence of changes, starts a flow, or is a step of the
worker that it names. -/
theorem next_changes (hreach : (system config).ReachBy good s)
    (hnext : s.next config action = some s') :
    Changes config ⟨s, action⟩ s s' ∨
      (∃ steps key, action = .actor (.packet steps) ∧ Started config steps s key s') ∨
      ∃ id step, action = .worker id step ∧ s.stepWorker config id step = some s' := by
  cases next_effect hnext with
  | reader hreader => exact .inl (.single (.reader hreader))
  | writer hwriter => exact .inl (.single (.writer hwriter))
  | worker _ => exact .inr (.inr ⟨_, _, rfl, hnext⟩)
  | actor hactor =>
    rcases actor_changes (collecting_of_reach hreach) hactor with
      hchanges | ⟨steps, key, rfl, hstarted⟩
    exacts [.inl hchanges, .inr (.inl ⟨steps, key, rfl, hstarted⟩)]
  | _ =>
    exact .inl (.single (.control (by constructor <;> simp)))

/-- **The rule for runs under a condition.** -/
theorem reachBy_invariant (hstart : I (start config))
    (hchanges : ∀ {s a s'}, good s a → Changes config ⟨s, a⟩ s s' → I s → I s')
    (hstarted : ∀ {s steps key s'}, Started config steps s key s' → I s → I s')
    (hworker : ∀ {s id step s'}, good s (.worker id step) →
      s.stepWorker config id step = some s' → I s → I s') (h : (system config).ReachBy good s) :
    I s := by
  induction h with
  | start => exact hstart
  | @step s s' action hreach hgood hnext ih =>
    rcases next_changes hreach hnext with hmade | ⟨steps, key, -, hkey⟩ | ⟨id, step, rfl, hstep⟩
    exacts [hchanges hgood hmade ih, hstarted hkey ih, hworker hgood hstep ih]

/-- **The rule for all runs**: what elementary changes, the start of a flow and the steps
of the workers keep holds in every state reached. -/
theorem reach_invariant (hstart : I (start config))
    (hchange : ∀ {cause s s'}, Change config cause s s' → I s → I s')
    (hstarted : ∀ {steps s key s'}, Started config steps s key s' → I s → I s')
    (hworker : ∀ {s id s'}, WorkerEffect config s id s' → I s → I s')
    (h : (system config).ReachBy good s) : I s :=
  reachBy_invariant hstart (fun _ hchanges => hchanges.invariant hchange) hstarted
    (fun _ hstep => hworker (stepWorker_effect hstep)) h

end Runtime
end Tun
end Maverick
