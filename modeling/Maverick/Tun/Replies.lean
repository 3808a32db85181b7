import Maverick.Tun.Backing

/-!
# Replies that can be sent

A response waits until the socket of its target takes it.  The socket takes what fits
its buffers, for an application that can be addressed; that the second holds is up to the
datagram that the application sent.

* `Addressed` — the condition on a step: the datagrams that the actor takes come from
  addresses that an answer can be sent to.
* `replies_clear` — where the condition holds, a socket that has sent everything takes the
  next response.
* `unaddressable_reply_blocks` — without it, a response can wait for good.
-/

namespace Maverick
namespace Tun

open Lib

/-- Whether a datagram can be sent to the address. -/
def addressable (addr : SocketAddr) : Bool := addr.port ≠ 0 && !addr.ip.isUnspecified

/-- The application that a task answers. -/
def Role.app : Role → Option SocketAddr
  | .tcp _ => none
  | .udp key => some key.app
  | .dns app _ _ => some app

/-- A socket that has sent everything takes what fits. -/
theorem UdpSocket.sendSlice_drained {socket : UdpSocket} {payload : Bytes}
    {destination : SocketAddr} (htx : socket.tx = []) (hdepth : 0 < socket.messageDepth)
    (hfits : payload.length ≤ socket.bufferBytes) (hdestination : addressable destination) :
    socket.canSend ∧ (socket.sendSlice payload destination).isSome := by
  have hcan : socket.canSend := by simp [canSend, htx, hdepth]
  simp only [addressable, Bool.and_eq_true, Bool.not_eq_true', decide_eq_true_eq] at hdestination
  simp [sendSlice, hcan, hdestination, htx, payloadBytes, hfits]

namespace Runtime

variable {config : PacketRuntimeConfig} {cause : Cause} {steps : List PollStep} {s s' : Runtime}
  {pending : PendingUdpResponse}

/-- The datagrams that the action takes come from addresses that can be answered. -/
def Addressed (s : Runtime) (action : Action) : Prop :=
  ∀ r ∈ Cause.heard ⟨s, action⟩, addressable r.1

instance (s : Runtime) (action : Action) : Decidable (s.Addressed action) :=
  inferInstanceAs (Decidable (∀ r ∈ Cause.heard ⟨s, action⟩, addressable r.1))

/-- What an attempt to send relies on. -/
structure Ready (config : PacketRuntimeConfig) (s : Runtime) : Prop where
  placed : s.Placed
  signed : s.Signed
  sized : Sized config s
  apps : ∀ id role, s.roleAt id = some role → ∀ app ∈ role.app, addressable app
  depth : ∀ target entry socket, s.udpTargets.lookup target = some entry →
    s.engine.sockets.udp entry.handle = some socket → socket.messageDepth = config.udpMessageDepth

theorem depth_targetChange {target : SocketAddr} {entry' : UdpTargetEntry} {found : UdpSocket}
    (hs : Ready config s) (h : TargetChange config steps s s' target entry')
    (hfound : s'.engine.sockets.udp entry'.handle = some found) :
    found.messageDepth = config.udpMessageDepth := by
  cases h with
  | kept hkey _ hget hget' hmoves =>
    cases hget'.symm.trans hfound
    exact (shape_socketMoves hmoves).2.trans (hs.depth _ _ _ hkey hget)
  | bound _ _ hbind hget =>
    cases hget.symm.trans hfound
    unfold UdpSocket.bind at hbind
    split at hbind <;> cases hbind
    rfl

theorem ready_change (hgood : ∀ r ∈ cause.heard, addressable r.1) (h : Change config cause s s')
    (hs : Ready config s) : Ready config s' where
  placed := (keeps_change h).placed hs.placed
  signed := signed_change h hs.signed
  sized := sized_change h hs.sized
  apps := by
    intro id role hrole app happ
    rcases role_change h hrole with hold | ⟨heard, target, payload, hmem, hnew⟩
    · exact hs.apps id role hold app happ
    have haddressable := hgood _ hmem
    rcases hnew with rfl | rfl
    all_goals
      cases happ
      exact haddressable
  depth := by
    intro target entry' found hentry' hfound
    exact depth_targetChange hs (target_change hs.placed h hentry') hfound

theorem ready_changes {action : Action} (hgood : s.Addressed action)
    (h : Changes config ⟨s, action⟩ s s') (hs : Ready config s) : Ready config s' :=
  Changes.invariant (I := Ready config) (fun hchange ht => ready_change hgood hchange ht) h hs

theorem ready_started {key : TcpFlowKey} (h : Started config steps s key s')
    (hs : Ready config s) : Ready config s' where
  placed := (starts_of_started h).placed hs.placed
  signed := signed_started h hs.signed
  sized := sized_started h hs.sized
  apps := by
    intro id role hrole app happ
    rcases role_started h hrole with hold | rfl
    · exact hs.apps id role hold app happ
    · cases happ
  depth := by
    intro target entry' found hentry' hfound
    exact depth_targetChange hs (target_started hs.placed h hentry') hfound

theorem ready_worker {id : WorkerId} {step : WorkerStep}
    (hstep : s.stepWorker config id step = some s') (hs : Ready config s) : Ready config s' := by
  have hworker := stepWorker_effect hstep
  have hsigned := signed_worker hworker hs.signed
  have hsized := sized_worker hworker hs.sized
  have happs : ∀ i role, s'.roleAt i = some role → ∀ app ∈ role.app, addressable app := by
    intro i role hrole
    rw [role_stepWorker hstep] at hrole
    exact hs.apps i role hrole
  obtain ⟨worker, worker', event, -, -, rfl⟩ := stepWorker_eq_some hstep
  exact ⟨⟨hs.placed.tcp, hs.placed.udp⟩, hsigned, hsized, happs, hs.depth⟩

theorem ready_of_reach (h : (system config).ReachBy Addressed s) : Ready config s := by
  refine reachBy_invariant (I := Ready config) ?_ ?_ ready_started ?_ h
  · exact ⟨⟨.empty, .empty⟩, signed_start config, sized_start config, nofun, nofun⟩
  · intro s a s' hgood hchanges hs
    exact ready_changes hgood hchanges hs
  · intro s id step s' _ hstep hs
    exact ready_worker hstep hs

/-! ## Attempts -/

/-- The socket of the target has nothing to send. -/
def Drained (s : Runtime) (target : SocketAddr) : Prop :=
  ∀ entry socket, s.udpTargets.lookup target = some entry →
    s.engine.sockets.udp entry.handle = some socket → socket.tx = []

/-- The application of a response that waits is the one of a task. -/
theorem Ready.app (h : Ready config s) (hwaits : s.Waits pending) : addressable pending.app := by
  rcases hwaits with ⟨key, entry, hentry, hpending⟩ | hpending
  · obtain ⟨happ, -, id, -, hrole⟩ := h.signed.response key entry pending hentry hpending
    exact h.apps id _ hrole pending.app (by rw [happ]; rfl)
  · obtain ⟨-, id, query, hrole⟩ := h.signed.dns pending hpending
    exact h.apps id _ hrole pending.app rfl

theorem Ready.payload (hdns : config.maxDnsPayloadBytes ≤ config.maxUdpPayloadBytes)
    (h : Ready config s) (hwaits : s.Waits pending) :
    pending.payload.length ≤ config.maxUdpPayloadBytes := by
  rcases hwaits with ⟨key, entry, hentry, hpending⟩ | hpending
  · exact h.sized.pendingResponse key entry hentry pending hpending
  · exact (h.sized.pendingDns pending hpending).trans hdns

/-- **An attempt to send through a socket that has sent everything succeeds.** -/
theorem Ready.sends (hvalid : config.validate = .ok ()) (h : Ready config s)
    (hwaits : s.Waits pending) (hdrained : s.Drained pending.target) :
    (s.trySendUdpResponse pending).isSome := by
  obtain ⟨hdepth, hbuffer⟩ := PacketRuntimeConfig.udp_limits_of_validate hvalid
  have hdns := (PacketRuntimeConfig.limits_of_validate hvalid).maxDnsPayloadBytes
  unfold trySendUdpResponse
  split
  · rfl
  rename_i entry hentry
  obtain ⟨socket, hsocket⟩ := h.placed.exists_udp hentry
  have hsize : socket.bufferBytes = config.udpBufferBytes :=
    (h.sized.sockets _ _ (SocketSet.udp_eq_some.mp hsocket)).1
  have hroom := h.depth _ _ _ hentry hsocket
  have hpayload := h.payload hdns hwaits
  have hfits : pending.payload.length ≤ socket.bufferBytes := by omega
  obtain ⟨hcan, hsent⟩ := UdpSocket.sendSlice_drained (hdrained entry socket hentry hsocket)
    (by omega) hfits (h.app hwaits)
  simp [hsocket, hcan, hsent]

/-- A response whose socket has sent everything is done with at the next attempt. -/
structure RepliesClear (s : Runtime) : Prop where
  attempt : ∀ pending, s.Waits pending → s.Drained pending.target →
    (s.trySendUdpResponse pending).isSome
  association : ∀ key entry pending, s.udpAssociations.lookup key = some entry →
    entry.pendingResponse = some pending → s.Drained pending.target →
    (s.sendUdpResponse key).udpAssociations.lookup key = some { entry with pendingResponse := none }
  dns : ∀ pending rest count, s.pendingDnsResponses = pending :: rest →
    s.Drained pending.target → ∃ sockets, sendDnsResponses (count + 1) s =
      sendDnsResponses count { s with pendingDnsResponses := rest, engine.sockets := sockets }

theorem Ready.replies (hvalid : config.validate = .ok ()) (h : Ready config s) :
    s.RepliesClear where
  attempt pending hwaits hdrained := h.sends hvalid hwaits hdrained
  association := by
    intro key entry pending hentry hpending hdrained
    have hsends := h.sends hvalid (.inl ⟨key, entry, hentry, hpending⟩) hdrained
    obtain ⟨sockets, hsockets⟩ := Option.isSome_iff_exists.mp hsends
    simp only [sendUdpResponse, hentry, hpending, hsockets]
    rw [answer_eq]
    exact AList.lookup_insert _
  dns := by
    intro pending rest count hqueue hdrained
    have hmem : pending ∈ s.pendingDnsResponses := by
      rw [hqueue]
      exact List.mem_cons_self
    obtain ⟨sockets, hsockets⟩ := Option.isSome_iff_exists.mp (h.sends hvalid (.inr hmem) hdrained)
    refine ⟨sockets, ?_⟩
    simp only [sendDnsResponses, hqueue, hsockets]

/-- **A response is sent as soon as its socket has sent everything**, in every run that
takes datagrams from addresses that can be answered only; also between the attempts of
one `send_udp_responses`. -/
theorem replies_clear (config : PacketRuntimeConfig) (hvalid : config.validate = .ok ())
    {s : Runtime} (h : (system config).ReachBy Addressed s) : s.RepliesClear ∧
      ∀ (targets : List SocketAddr) (keys : List UdpAssociationKey) (count : Nat),
        s.Addressed (.actor (.driveUdp targets keys)) → RepliesClear (sendDnsResponses count
          (keys.foldl sendUdpResponse (s.drainUdpRequests config targets))) := by
  have hready := ready_of_reach h
  refine ⟨hready.replies hvalid, ?_⟩
  intro targets keys count hgood
  have hattempts := changes_attempts config s targets keys count
  exact (ready_changes hgood hattempts hready).replies hvalid

/-! ## A response that cannot be sent -/

namespace PortZero

def target : SocketAddr := Sample.target 443

/-- The association of an application that sends from this port. -/
def key (port : UInt16) : UdpAssociationKey := ⟨Sample.app port, target⟩

def reply (port : UInt16) : PendingUdpResponse := ⟨(key port).app, target, [2], some 0⟩

/-- A datagram, its exchange with the target, and the response on its way back. -/
def exchange (port : UInt16) : List Action :=
  arrival (Sample.datagram port 443)
      [.receive (some (0, .udp ⟨target, [((key port).app, [1])], [], 32, 64 * 1024⟩))] ++
    udpTurn [target] [key port] ++
    [.worker 0 (.udp .opened), .worker 0 (.udp .received),
      .worker 0 (.udp (.exchanged (.ok (target, [2])))), .worker 0 (.udp .sent), .actor .event]

/-- Whether the response waits and its socket has nothing to send. -/
def waits (port : UInt16) (s : Runtime) : Bool :=
  s.udpAssociations.lookup (key port) == some ⟨0, some (reply port)⟩ &&
    s.udpTargets.lookup target == some ⟨0, target, 0⟩ &&
    s.engine.sockets.udp 0 == some ⟨target, [], [], 32, 64 * 1024⟩

end PortZero

/-- **The answer to a datagram from port 0 cannot be sent.**  It waits, its socket has
nothing else to send, and the attempt to send it fails. -/
theorem unaddressable_reply_blocks : PacketRuntimeConfig.validate .default = .ok () ∧
    ∃ s : Runtime, (system .default).Reach s ∧ s.Waits (PortZero.reply 0) ∧
      (∃ entry socket, s.udpTargets.lookup PortZero.target = some entry ∧
        s.engine.sockets.udp entry.handle = some socket ∧ socket.tx = []) ∧
      s.trySendUdpResponse (PortZero.reply 0) = none := by
  refine ⟨by decide, ?_⟩
  obtain ⟨s, hreach, hs, hblocked⟩ := (system .default).exists_reach
    (fun s => PortZero.waits 0 s ∧ s.trySendUdpResponse (PortZero.reply 0) = none)
    (PortZero.exchange 0) (by decide +kernel)
  simp only [PortZero.waits, Bool.and_eq_true, beq_iff_eq] at hs
  obtain ⟨⟨hentry, htarget⟩, hsocket⟩ := hs
  exact ⟨s, hreach, .inl ⟨_, _, hentry, rfl⟩, ⟨_, _, htarget, hsocket, rfl⟩, hblocked⟩

/-- The answer to a datagram from another port is sent at the next attempt. -/
theorem replies_clear_addressed : ∃ s : Runtime, (system .default).ReachBy Addressed s ∧
    s.Waits (PortZero.reply 40000) ∧ s.Drained PortZero.target ∧
    (s.trySendUdpResponse (PortZero.reply 40000)).isSome := by
  obtain ⟨s, hreach, hs⟩ := (system .default).exists_reachBy Addressed (PortZero.waits 40000 · = true)
    (PortZero.exchange 40000) (by decide +kernel)
  simp only [PortZero.waits, Bool.and_eq_true, beq_iff_eq] at hs
  obtain ⟨⟨hentry, htarget⟩, hsocket⟩ := hs
  have hwaits : s.Waits (PortZero.reply 40000) := .inl ⟨_, _, hentry, rfl⟩
  have hdrained : s.Drained PortZero.target := by
    intro entry socket hentry' hsocket'
    cases htarget.symm.trans hentry'
    cases hsocket.symm.trans hsocket'
    rfl
  have hclear := (replies_clear .default (by decide) hreach).1
  exact ⟨s, hreach, hwaits, hdrained, hclear.attempt _ hwaits hdrained⟩

end Runtime
end Tun
end Maverick
