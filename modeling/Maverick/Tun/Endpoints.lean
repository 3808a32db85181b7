import Maverick.Tun.Placement

/-!
# The endpoints of a flow

The key of a TCP entry is read from the SYN that is being handled.  The socket under
it takes the first SYN to its address that the device hands out.  The two need not be
the same packet.

* `queued_syn_takes_listener` — a run in which a SYN that had to stay in the device is
  taken by the listener of another application.
* `tcp_endpoints_agree` — in a run in which no SYN of another application to the same
  address and no fragment waits when a listener is added, and no half-open connection is
  reset, the socket of every entry connects the two addresses of its key.
-/

namespace Maverick
namespace Tun

open Lib

/-! ## One socket -/

/-- The socket has left Listen, and connects the two addresses of the key unless it is
closed and has forgotten the connection. -/
def TcpSocket.Joins (socket : TcpSocket) (key : TcpFlowKey) : Prop :=
  socket.state ≠ .listen ∧
    (socket.listenEndpoint = key.target ∧ socket.remote = some key.app ∨
      socket.state = .closed ∧ socket.remote = none)

namespace TcpSocket

variable {socket socket' : TcpSocket} {key : TcpFlowKey} {packet : Option Packet}

/-- The same ends, in a state that the runtime can bring about. -/
theorem Joins.of_ends (h : socket.Joins key) (hlocal : socket'.listenEndpoint = socket.listenEndpoint)
    (hremote : socket'.remote = socket.remote) (hlisten : socket'.state ≠ .listen)
    (hclosed : socket.state = .closed → socket'.state = .closed) : socket'.Joins key := by
  refine ⟨hlisten, ?_⟩
  rw [hlocal, hremote]
  exact h.2.imp_right fun hforgot => ⟨hclosed hforgot.1, hforgot.2⟩

theorem Joins.close (h : socket.Joins key) : socket.close.Joins key := by
  unfold TcpSocket.close
  split
  · exact absurd ‹_› h.1
  · exact h.of_ends rfl rfl nofun fun _ => rfl
  · exact h.of_ends rfl rfl nofun fun hclosed => by simp_all
  · exact h.of_ends rfl rfl nofun fun hclosed => by simp_all
  · exact h.of_ends rfl rfl nofun fun hclosed => by simp_all
  · exact h

theorem Joins.abort (h : socket.Joins key) : socket.abort.Joins key :=
  h.of_ends rfl rfl nofun fun _ => rfl

theorem state_of_polls (h : socket.polls packet socket') :
    socket'.state = socket.state ∨ socket'.state ∈ socket.state.successors := by
  simp only [polls, Bool.and_eq_true, Bool.or_eq_true, beq_iff_eq, List.contains_iff_mem] at h
  exact h.1.1.1.1.2

theorem endsKept_of_polls (h : socket.polls packet socket') : endsKept packet socket socket' := by
  simp only [polls, Bool.and_eq_true] at h
  exact h.1.1.1.2

/-- The ends of a connection stay while it lasts. -/
theorem Joins.polls (h : socket.Joins key) (hp : socket.polls packet socket')
    (hlisten : socket'.state ≠ .listen) : socket'.Joins key := by
  have hends := endsKept_of_polls hp
  unfold endsKept at hends
  split at hends
  · rename_i hclosed
    simp only [Bool.or_eq_true, Bool.and_eq_true, beq_iff_eq] at hends
    rcases hends with hnone | ⟨hremote, hlocal⟩
    exacts [⟨hlisten, .inr ⟨hclosed, hnone⟩⟩, h.of_ends hlocal hremote hlisten fun _ => hclosed]
  · exact absurd ‹_› h.1
  · exact absurd ‹_› hlisten
  · simp only [Bool.and_eq_true, beq_iff_eq] at hends
    refine h.of_ends hends.1 hends.2 hlisten fun hclosed => ?_
    -- a closed socket stays closed
    rcases state_of_polls hp with heq | hmem
    · rw [heq, hclosed]
    · rw [hclosed] at hmem
      cases hmem

/-- A listener that moves has taken a SYN to its address. -/
theorem joins_of_listen_polls (hstate : socket.state = .listen) (hp : socket.polls packet socket')
    (hlisten : socket'.state ≠ .listen) :
    ∃ p source, packet = some p ∧ p.mayCarry source socket.listenEndpoint ∧
      socket'.Joins ⟨source, socket.listenEndpoint⟩ := by
  have hreceived : socket'.state = .synReceived := by
    rcases state_of_polls hp with heq | hmem
    · exact absurd (heq.trans hstate) hlisten
    · rw [hstate] at hmem
      exact List.mem_singleton.mp hmem
  have hends := endsKept_of_polls hp
  simp only [endsKept, hstate, hreceived, Bool.and_eq_true, beq_iff_eq, Option.any_eq_true] at hends
  obtain ⟨hlocal, p, rfl, source, hremote, hcarry⟩ := hends
  exact ⟨p, source, rfl, hcarry, hlisten, .inl ⟨hlocal, hremote⟩⟩

end TcpSocket

namespace Runtime.TcpDrive

variable {key : TcpFlowKey} {depth : Nat} {d : TcpDrive}

theorem joins_drive (h : d.socket.Joins key) : (d.drive depth).socket.Joins key := by
  refine drive_invariant (I := fun d => d.socket.Joins key) (fun hpart h => ?_) h
  cases hpart with
  | aborted amount => exact h.abort
  | _ => exact h

end Runtime.TcpDrive

/-! ## The engine -/

/-- The move does not leave a TCP socket listening. -/
def PollStep.settles : PollStep → Bool
  | .receive (some (_, .tcp after)) | .socket _ (.tcp after) => after.state != .listen
  | _ => true

variable {handle : SocketHandle} {after : TcpSocket}

theorem PollStep.ne_listen_receive (h : settles (.receive (some (handle, .tcp after)))) :
    after.state ≠ .listen := by
  simpa [settles] using h

theorem PollStep.ne_listen_socket (h : settles (.socket handle (.tcp after))) :
    after.state ≠ .listen := by
  simpa [settles] using h

namespace Engine

/-- The socket behind the handle connects the two addresses of the key. -/
def Joined (engine : Engine) (handle : SocketHandle) (key : TcpFlowKey) : Prop :=
  ∃ socket, engine.sockets.tcp handle = some socket ∧ socket.Joins key

variable {engine engine' : Engine} {handle : SocketHandle} {key : TcpFlowKey}
  {steps : List PollStep}

variable {step : PollStep} {g : SocketHandle} {device : BoundedDevice}

theorem joined_pollEffect (hsettles : step.settles) (heffect : PollEffect engine step engine')
    (h : engine.Joined handle key) : engine'.Joined handle key := by
  obtain ⟨socket, hget, hjoins⟩ := h
  cases heffect with
  | receive _ _ hmoved =>
    rcases tcp_moved hmoved hget with hsame | ⟨after, rfl, hp, hafter⟩
    · exact ⟨socket, hsame, hjoins⟩
    · exact ⟨after, hafter, hjoins.polls hp (PollStep.ne_listen_receive hsettles)⟩
  | transmit _ _ => exact ⟨socket, hget, hjoins⟩
  | timer hmoved =>
    rcases tcp_moved hmoved hget with hsame | ⟨after, heq, hp, hafter⟩
    · exact ⟨socket, hsame, hjoins⟩
    · cases heq
      exact ⟨after, hafter, hjoins.polls hp (PollStep.ne_listen_socket hsettles)⟩

theorem joined_poll (hsettles : ∀ step ∈ steps, step.settles)
    (hpoll : engine.poll steps = some engine') (h : engine.Joined handle key) :
    engine'.Joined handle key := by
  refine poll_invariant (I := fun e => e.Joined handle key) ?_ hpoll h
  intro e step e' hmem heffect he
  exact joined_pollEffect (hsettles step hmem) heffect he

/-- A listener for the key, while the SYNs to its address that wait in the device are
from the application of the key. -/
structure Awaits (engine : Engine) (handle : SocketHandle) (key : TcpFlowKey) : Prop where
  socket : engine.Joined handle key ∨ ∃ socket, engine.sockets.tcp handle = some socket ∧
    socket.state = .listen ∧ socket.listenEndpoint = key.target
  waiting : ∀ p ∈ engine.device.incoming, ∀ source, p.mayCarry source key.target →
    source = key.app

theorem awaits_pollEffect (hsettles : step.settles) (heffect : PollEffect engine step engine')
    (h : engine.Awaits handle key) : engine'.Awaits handle key := by
  refine ⟨?_, ?_⟩
  · rcases h.socket with hjoined | ⟨socket, hget, hstate, hlocal⟩
    · exact .inl (joined_pollEffect hsettles heffect hjoined)
    cases heffect with
    | receive hincoming _ hmoved =>
      rcases tcp_moved hmoved hget with hsame | ⟨after, rfl, hp, hafter⟩
      · exact .inr ⟨socket, hsame, hstate, hlocal⟩
      -- the listener has taken the first packet of the device
      obtain ⟨p, source, hpacket, hcarry, hjoins⟩ :=
        TcpSocket.joins_of_listen_polls hstate hp (PollStep.ne_listen_receive hsettles)
      cases hpacket
      rw [hlocal] at hcarry hjoins
      obtain rfl := h.waiting _ (by rw [hincoming]; exact List.mem_cons_self) source hcarry
      exact .inl ⟨after, hafter, hjoins⟩
    | transmit _ _ => exact .inr ⟨socket, hget, hstate, hlocal⟩
    | timer hmoved =>
      rcases tcp_moved hmoved hget with hsame | ⟨after, heq, hp, -⟩
      · exact .inr ⟨socket, hsame, hstate, hlocal⟩
      cases heq
      obtain ⟨p, _, hpacket, -⟩ :=
        TcpSocket.joins_of_listen_polls hstate hp (PollStep.ne_listen_socket hsettles)
      cases hpacket
  · cases heffect with
    | receive hincoming _ _ =>
      intro p hp
      exact h.waiting p (by rw [hincoming]; exact List.mem_cons_of_mem _ hp)
    | transmit _ _ => exact h.waiting
    | timer _ => exact h.waiting

theorem awaits_poll (hsettles : ∀ step ∈ steps, step.settles)
    (hpoll : engine.poll steps = some engine') (h : engine.Awaits handle key) :
    engine'.Awaits handle key := by
  refine poll_invariant (I := fun e => e.Awaits handle key) ?_ hpoll h
  intro e step e' hmem heffect he
  exact awaits_pollEffect (hsettles step hmem) heffect he

theorem Joined.of_tcp (h : engine.Joined handle key)
    (hsockets : engine'.sockets.tcp handle = engine.sockets.tcp handle) :
    engine'.Joined handle key := by
  obtain ⟨socket, hget, hjoins⟩ := h
  exact ⟨socket, hsockets.trans hget, hjoins⟩

/-- An operation of the runtime on a socket. -/
theorem Joined.modifyTcp (h : engine.Joined handle key) {f : TcpSocket → TcpSocket}
    (hf : g = handle → ∀ socket, engine.sockets.tcp handle = some socket → socket.Joins key →
      (f socket).Joins key) : Joined ⟨device, engine.sockets.modifyTcp g f⟩ handle key := by
  obtain ⟨socket, hget, hjoins⟩ := h
  by_cases hg : handle = g
  · refine ⟨f socket, ?_, hf hg.symm socket hget hjoins⟩
    rw [SocketSet.tcp_modifyTcp, if_pos hg, hget]
    rfl
  · refine ⟨socket, ?_, hjoins⟩
    rw [SocketSet.tcp_modifyTcp, if_neg hg, hget]

theorem Joined.add (h : engine.Joined handle key) (socket : Socket) (device : BoundedDevice) :
    Joined ⟨device, (engine.sockets.add socket).1⟩ handle key := by
  obtain ⟨joined, hget, hjoins⟩ := h
  exact ⟨joined, SocketSet.tcp_add _ socket hget, hjoins⟩

theorem Joined.remove (h : engine.Joined handle key) (hne : handle ≠ g) :
    Joined ⟨device, engine.sockets.remove g⟩ handle key :=
  h.of_tcp (SocketSet.tcp_remove_of_ne hne)

end Engine

/-! ## Runs -/

namespace Runtime

variable {config : PacketRuntimeConfig} {cause : Cause} {steps : List PollStep} {s s' : Runtime}

/-- The socket of every entry connects the two addresses of its key. -/
def Agreed (s : Runtime) : Prop :=
  ∀ key entry, s.tcp.lookup key = some entry → s.engine.Joined entry.handle key

theorem joined_handled {event : EngineEvent} {handle : SocketHandle} {key : TcpFlowKey}
    (h : Handled config s event s') (hjoined : s.engine.Joined handle key) :
    s'.engine.Joined handle key := by
  cases h with
  | control _ hcontrol _ =>
    cases hcontrol
    exact hjoined
  | remoteFin _ => exact hjoined.modifyTcp fun _ _ _ hjoins => hjoins.close
  | failed _ => exact hjoined.modifyTcp fun _ _ _ hjoins => hjoins.abort
  | disassociated hkey =>
    rwa [removeUdpAssociation_eq hkey]
  | _ => exact hjoined

/-- A change keeps the ends of the socket of an entry that stays. -/
theorem joined_change (hplaced : s.Placed) (hsettles : ∀ step ∈ cause.action.polls, step.settles)
    (h : Change config cause s s') {key : TcpFlowKey} {entry entry' : TcpEntry}
    (hentry : s.tcp.lookup key = some entry) (hentry' : s'.tcp.lookup key = some entry')
    (hjoined : s.engine.Joined entry.handle key) : s'.engine.Joined entry.handle key := by
  cases h with
  | control hcontrol =>
    cases hcontrol
    exact hjoined
  | reader hreader => cases hreader <;> exact hjoined
  | writer hwriter =>
    rwa [writer_eq hwriter]
  | event _ hhandled => exact joined_handled hhandled hjoined
  | polled hsub hpoll =>
    exact Engine.joined_poll (fun step hmem => hsettles step (hsub hmem)) hpoll hjoined
  | @unused socket target incoming _ engine _ _ hsub hpoll =>
    have hadded := hjoined.add (.tcp socket) { s.engine.device with incoming := incoming }
    have hpolled := Engine.joined_poll (fun step hmem => hsettles step (hsub hmem)) hpoll hadded
    refine hpolled.remove ?_
    exact hplaced.tcp.ne_of_kind (by rw [SocketSet.kind_add_handle]; nofun) hentry
  | @bound target socket _ _ _ _ => exact hjoined.add (.udp socket) _
  | @driven key' entry₁ socket worker hkey hsocket hworker =>
    rw [applyDrive_eq]
    refine hjoined.modifyTcp fun hhandle found hfound hjoins => TcpDrive.joins_drive ?_
    have hsame := (TcpDrive.same_drive config.tcpChannelDepth
      ⟨entry₁, socket, worker, none⟩).handle
    rw [hsame] at hhandle
    rw [← hhandle, hsocket] at hfound
    cases hfound
    exact hjoins
  | @removed key' entry₁ hkey =>
    rw [removeTcp_eq hkey] at hentry' ⊢
    refine hjoined.remove fun hhandle => ?_
    exact (Table.lookup_erase_eq_some hentry').1 (hplaced.tcp.inj hentry hkey hhandle)
  | received _ => exact hjoined.of_tcp (SocketSet.tcp_modifyUdp _ _ _ _)
  | responded _ _ hsend =>
    rw [answer_eq]
    exact hjoined.of_tcp (tcp_trySendUdpResponse hsend _)
  | dnsSent _ hsend => exact hjoined.of_tcp (tcp_trySendUdpResponse hsend _)
  | @unbound target udp hkey =>
    refine hjoined.remove ?_
    exact hplaced.tcp.ne_of_kind (by rw [hplaced.udp.valid hkey]; nofun) hentry
  | _ => exact hjoined

theorem agreed_change (hplaced : s.Placed) (hsettles : ∀ step ∈ cause.action.polls, step.settles)
    (h : Change config cause s s') (hs : s.Agreed) : s'.Agreed := by
  intro key entry' hentry'
  obtain ⟨entry, hentry, -, hhandle⟩ := (keeps_change h).entry hentry'
  rw [hhandle]
  exact joined_change hplaced hsettles h hentry hentry' (hs key entry hentry)

theorem agreed_changes (hplaced : s.Placed) (hsettles : ∀ step ∈ cause.action.polls, step.settles)
    (h : Changes config cause s s') (hs : s.Agreed) : s'.Agreed := by
  have hboth : s'.Placed ∧ s'.Agreed := by
    refine Changes.invariant (I := fun s => s.Placed ∧ s.Agreed) ?_ h ⟨hplaced, hs⟩
    intro s s' hchange hs
    exact ⟨(keeps_change hchange).placed hs.1, agreed_change hs.1 hsettles hchange hs.2⟩
  exact hboth.2

/-- A packet that is being handled asks for a flow between these two addresses. -/
def asksFor (s : Runtime) : Action → Option TcpFlowKey
  | .actor (.packet _) =>
    (s.ingress.head?.bind Packet.syn).bind fun (app, target) =>
      if (s.tcp.lookup ⟨app, target⟩).isNone then some ⟨app, target⟩ else none
  | _ => none

/-- A SYN in the packet to the target of the key is from the application of the key, and the
packet is no fragment to that address. -/
def CarriesOnly (key : TcpFlowKey) (p : Packet) : Prop :=
  (∀ flow ∈ p.syn, flow.2 = key.target → flow.1 = key.app) ∧
    ∀ ends ∈ p.fragment, key.target.ip ≠ .v4 ends.2

instance (key : TcpFlowKey) (p : Packet) : Decidable (CarriesOnly key p) :=
  inferInstanceAs (Decidable (_ ∧ _))

theorem CarriesOnly.source {key : TcpFlowKey} {p : Packet} (h : CarriesOnly key p)
    {source : SocketAddr} (hcarry : p.mayCarry source key.target) : source = key.app := by
  unfold Packet.mayCarry at hcarry
  split at hcarry
  · exact h.1 _ (beq_iff_eq.mp hcarry) rfl
  · rename_i hfragment
    rw [Bool.and_eq_true, beq_iff_eq, beq_iff_eq] at hcarry
    exact absurd hcarry.2 (h.2 _ hfragment)

/-- No half-open connection is reset, and when a packet asks for a new flow, neither it nor a
packet that still waits in the device can bring the SYN of another application to the same
address. -/
def Undisturbed (s : Runtime) (action : Action) : Prop :=
  (∀ step ∈ action.polls, step.settles) ∧
    ∀ key ∈ s.asksFor action, ∀ p ∈ s.engine.device.incoming ++ s.ingress.head?.toList,
      CarriesOnly key p

instance (s : Runtime) (action : Action) : Decidable (s.Undisturbed action) :=
  inferInstanceAs (Decidable (_ ∧ _))

/-- A new flow has the socket that took its SYN. -/
theorem agreed_started {key : TcpFlowKey}
    (hsettles : ∀ step ∈ steps, step.settles)
    (honly : ∀ p ∈ s.engine.device.incoming ++ s.ingress.head?.toList, CarriesOnly key p)
    (h : Started config steps s key s') (hs : s.Agreed) : s'.Agreed := by
  cases h with
  | @mk packet rest socket engine _ _ hingress _ _ hkey _ _ hlisten _ hpoll hstate =>
    intro k e he
    rcases Table.lookup_insert_eq_some he with ⟨rfl, rfl⟩ | ⟨-, hold⟩
    · have hlistener : Engine.Awaits
          ⟨{ s.engine.device with incoming := s.engine.device.incoming ++ [packet] },
            (s.engine.sockets.add (.tcp socket)).1⟩ (s.engine.sockets.add (.tcp socket)).2 k := by
        unfold TcpSocket.listen at hlisten
        split at hlisten
        · cases hlisten
        cases hlisten
        refine ⟨.inr ⟨⟨k.target, none, .listen, [], [], config.tcpBufferBytes, []⟩, ?_, rfl, rfl⟩,
          ?_⟩
        · rw [SocketSet.tcp_eq_some, Slots.get_add, if_pos rfl]
        intro p hp source hcarry
        rw [hingress] at honly
        exact (honly p hp).source hcarry
      rcases (Engine.awaits_poll hsettles hpoll hlistener).socket with hjoined |
        ⟨after, hafter, hlistening, -⟩
      exacts [hjoined, absurd hlistening (hstate after hafter)]
    · exact Engine.joined_poll hsettles hpoll ((hs k e hold).add (.tcp socket) _)

theorem asksFor_started {key : TcpFlowKey} (h : Started config steps s key s') :
    s.asksFor (.actor (.packet steps)) = some key := by
  cases h with
  | mk _ _ hingress _ hsyn hkey _ _ _ _ _ _ => simp [asksFor, hingress, hsyn, hkey]

theorem agreed_next {action : Action} (hreach : (system config).ReachBy Undisturbed s)
    (hs : s.Agreed) (hgood : s.Undisturbed action) (hnext : s.next config action = some s') :
    s'.Agreed := by
  rcases next_changes hreach hnext with hchanges | ⟨steps, key, rfl, hstarted⟩ |
    ⟨id, step, -, hstep⟩
  · exact agreed_changes (placed_of_reach hreach) hgood.1 hchanges hs
  · exact agreed_started hgood.1 (hgood.2 key (asksFor_started hstarted)) hstarted hs
  · obtain ⟨_, _, _, -, -, rfl⟩ := stepWorker_eq_some hstep
    exact hs

theorem agreed_of_reach (h : (system config).ReachBy Undisturbed s) : s.Agreed := by
  induction h with
  | start =>
    intro key entry hentry
    simp [system, start] at hentry
  | step hreach hgood hnext ih =>
    exact agreed_next hreach ih hgood hnext

/-- **The socket of a flow connects the two addresses of its key**, in every state of
an undisturbed run. -/
theorem tcp_endpoints_agree (config : PacketRuntimeConfig) {s : Runtime}
    (hs : (system config).ReachBy Undisturbed s) {key : TcpFlowKey} {entry : TcpEntry}
    (hentry : s.tcp.lookup key = some entry) :
    ∃ socket, s.engine.sockets.tcp entry.handle = some socket ∧ socket.Joins key :=
  agreed_of_reach hs key entry hentry

/-! ## A SYN that stays in the device -/

namespace QueuedSyn

open Sample

/-- Two packets may wait in each queue. -/
def shallow : PacketRuntimeConfig := { PacketRuntimeConfig.default with packetQueueDepth := 2 }

def syn (source destination : UInt16) : Packet := segment source destination true false false

def synAck (source destination : UInt16) : Packet :=
  ⟨40, some (.v4 ⟨192, 0, 2, 1⟩ ⟨10, 0, 0, 2⟩ 0 false),
    .tcp (some ⟨destination, source, true, true, false⟩)⟩

/-- A socket that has taken the SYN of an application. -/
def half (source destination : UInt16) : Socket :=
  socket (64 * 1024) source destination .synReceived

/-- The socket takes the SYN from the first port, and the engine answers it. -/
def taken (handle : SocketHandle) (source destination : UInt16) : List PollStep :=
  [.receive (some (handle, half source destination)), .transmit (synAck source destination)]

/-- A flow is started: its SYN is taken by its own listener. -/
def opens (handle : SocketHandle) (source : UInt16) (open_ : List TcpFlowKey) : List Action :=
  arrival (syn source 80) (taken handle source 80) ++ turn (key source 80 :: open_)

/-- Four flows to port 80.  The writer has taken none of the four answers: two are on
their way to it, and the other two fill the outgoing queue of the device. -/
def four : List TcpFlowKey := [key 4 80, key 3 80, key 2 80, key 1 80]

def filled : List Action :=
  opens 0 1 [] ++ opens 1 2 [key 1 80] ++ opens 2 3 [key 2 80, key 1 80] ++
    opens 3 4 [key 3 80, key 2 80, key 1 80]

/-- The device hands out no packet, so the SYN from port 5 to port 443 stays in it and
its listener is removed.  Before the flush the writer sends two packets. -/
def left : List Action :=
  arrival (syn 5 443) [] ++ turnUntilFlush four ++
    [.writer .received, .writer (.wrote true), .writer .received, .writer (.wrote true)] ++
    [.actor .flush, .actor .reapTargets, .actor (.checkStop true)]

/-- The listener for the SYN from port 6 takes the SYN from port 5. -/
def confused : List Action := arrival (syn 6 443) (taken 4 5 443)

/-- The application on port 5 sends its SYN again, and the listener takes the first one. -/
def repeated : List Action := arrival (syn 5 443) (taken 4 5 443)

end QueuedSyn

/-- **A SYN that had to wait is taken by the listener of another application.**  The
entry for the application on port 6 has the socket that is connected to port 5. -/
theorem queued_syn_takes_listener : QueuedSyn.shallow.validate = .ok () ∧
    ∃ (s : Runtime) (key : TcpFlowKey) (entry : TcpEntry) (socket : TcpSocket) (peer : SocketAddr),
      (system QueuedSyn.shallow).Reach s ∧ s.tcp.lookup key = some entry ∧
      s.engine.sockets.tcp entry.handle = some socket ∧ socket.state = .synReceived ∧
      socket.listenEndpoint = key.target ∧ socket.remote = some peer ∧ peer ≠ key.app := by
  refine ⟨by decide, ?_⟩
  obtain ⟨s, hreach, hentry, hsocket⟩ := (system QueuedSyn.shallow).exists_reach
    (fun s => s.tcp.lookup (Sample.key 6 443) = some ⟨4, 4, false, false, false, none⟩ ∧
      s.engine.sockets.get 4 = some (QueuedSyn.half 5 443))
    (QueuedSyn.filled ++ QueuedSyn.left ++ QueuedSyn.confused) (by decide +kernel)
  exact ⟨s, Sample.key 6 443, _, _, Sample.app 5, hreach, hentry,
    SocketSet.tcp_eq_some.mpr hsocket, rfl, rfl, rfl, by decide⟩

/-- Behind four other flows a SYN had to wait, and the listener for its repetition takes it. -/
theorem tcp_endpoints_agree_repeated : ∃ (s : Runtime) (entry entry' : TcpEntry)
    (socket socket' : TcpSocket), (system QueuedSyn.shallow).ReachBy Undisturbed s ∧
    s.engine.device.incoming = [QueuedSyn.syn 5 443] ∧
    s.tcp.lookup (Sample.key 5 443) = some entry ∧ s.tcp.lookup (Sample.key 1 80) = some entry' ∧
    s.engine.sockets.tcp entry.handle = some socket ∧ socket.Joins (Sample.key 5 443) ∧
    s.engine.sockets.tcp entry'.handle = some socket' ∧ socket'.Joins (Sample.key 1 80) := by
  obtain ⟨s, hreach, hincoming, hs, hs'⟩ := (system QueuedSyn.shallow).exists_reachBy Undisturbed
    (fun s => s.engine.device.incoming = [QueuedSyn.syn 5 443] ∧
      s.tcp.lookup (Sample.key 5 443) = some ⟨4, 4, false, false, false, none⟩ ∧
      s.tcp.lookup (Sample.key 1 80) = some ⟨0, 0, false, false, false, none⟩)
    (QueuedSyn.filled ++ QueuedSyn.left ++ QueuedSyn.repeated) (by decide +kernel)
  obtain ⟨socket, hsocket, hjoins⟩ := tcp_endpoints_agree QueuedSyn.shallow hreach hs
  obtain ⟨socket', hsocket', hjoins'⟩ := tcp_endpoints_agree QueuedSyn.shallow hreach hs'
  exact ⟨s, _, _, socket, socket', hreach, hincoming, hs, hs', hsocket, hjoins, hsocket', hjoins'⟩

end Runtime
end Tun
end Maverick
