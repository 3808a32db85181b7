import Maverick.Tun.Placement
import Maverick.Tun.Roles

/-!
# What happens to the socket of a UDP target

A target is an entry of the actor and the socket behind its handle.  The elementary
changes of the runtime are read off here for a single target.

* `SocketMove` — what can happen to the socket: the engine moves it, the actor takes the
  datagrams it received, or a response that waits is given to it.
* `TargetChange`, `target_change` — a change of the runtime is one of these, or the target
  is new; `target_gone` — a target goes only when it is idle.
* `heard_received` — the datagrams that the actor takes were in the sockets of targets.
-/

namespace Maverick
namespace Tun

open Lib

/-- The UDP socket that a step of a poll leaves behind, where it moves one. -/
def PollStep.udpAfter : PollStep → Option UdpSocket
  | .receive (some (_, .udp after)) | .socket _ (.udp after) => some after
  | _ => none

theorem udp_poll {steps : List PollStep} {engine engine' : Engine}
    (h : engine.poll steps = some engine') {handle : SocketHandle} {socket : UdpSocket}
    (hget : engine.sockets.udp handle = some socket) :
    ∃ socket', engine'.sockets.udp handle = some socket' ∧
      Relation.ReflTransGen (fun before after => (∃ step ∈ steps, step.udpAfter = some after) ∧
        before.polls after) socket socket' := by
  refine Engine.poll_invariant (I := fun e => ∃ socket', e.sockets.udp handle = some socket' ∧
    Relation.ReflTransGen (fun before after => (∃ step ∈ steps, step.udpAfter = some after) ∧
      before.polls after) socket socket') ?_ h ⟨socket, hget, .refl⟩
  rintro e step e' hmem heffect ⟨now, hnow, hmoves⟩
  cases heffect with
  | receive _ _ hmoved =>
    rcases Engine.udp_moved hmoved hnow with hsame | ⟨after, rfl, hp, hafter⟩
    exacts [⟨now, hsame, hmoves⟩, ⟨after, hafter, hmoves.tail ⟨⟨_, hmem, rfl⟩, hp⟩⟩]
  | transmit _ _ => exact ⟨now, hnow, hmoves⟩
  | timer hmoved =>
    rcases Engine.udp_moved hmoved hnow with hsame | ⟨after, hdelivered, hp, hafter⟩
    · exact ⟨now, hsame, hmoves⟩
    · cases hdelivered
      exact ⟨after, hafter, hmoves.tail ⟨⟨_, hmem, rfl⟩, hp⟩⟩

namespace Runtime

variable {config : PacketRuntimeConfig} {cause : Cause} {steps : List PollStep} {s s' : Runtime}

/-- A response that waits until it can be sent. -/
def Waits (s : Runtime) (pending : PendingUdpResponse) : Prop :=
  (∃ key entry, s.udpAssociations.lookup key = some entry ∧
    entry.pendingResponse = some pending) ∨ pending ∈ s.pendingDnsResponses

/-- A DNS response that waits after a change did so before, or was in the queue. -/
theorem pendingDns_change (h : Change config cause s s') :
    ∀ p ∈ s'.pendingDnsResponses, p ∈ s.pendingDnsResponses ∨
      ∃ q ∈ s.events, q.event = .dnsResponse p.target p.app p.payload := by
  have hsame : s'.pendingDnsResponses = s.pendingDnsResponses →
      ∀ p ∈ s'.pendingDnsResponses, p ∈ s.pendingDnsResponses ∨
        ∃ q ∈ s.events, q.event = .dnsResponse p.target p.app p.payload := by
    intro heq p hp
    exact .inl (heq ▸ hp)
  cases h with
  | control hcontrol =>
    cases hcontrol
    exact hsame rfl
  | reader hreader => cases hreader <;> exact hsame rfl
  | writer hwriter => exact hsame (by rw [writer_eq hwriter])
  | @event posted rest _ hevents hhandled =>
    generalize hevent : posted.event = event at hhandled
    cases hhandled with
    | control _ hcontrol =>
      cases hcontrol
      exact hsame rfl
    | dataDropped _ | responseDropped _ => exact hsame (by rw [answer_eq])
    | disassociated hkey => exact hsame (by rw [removeUdpAssociation_eq hkey])
    | @dnsQueued asked app response _ =>
      intro p hp
      rcases List.mem_append.mp hp with hp | hp
      · exact .inl hp
      obtain rfl := List.mem_singleton.mp hp
      have hmem : posted ∈ s.events := by
        rw [hevents]
        exact List.mem_cons_self
      exact .inr ⟨posted, hmem, hevent⟩
    | _ =>
      exact hsame rfl
  | driven _ _ _ => exact hsame (by rw [applyDrive_eq])
  | removed hkey => exact hsame (by rw [removeTcp_eq hkey])
  | responded _ _ _ => exact hsame (by rw [answer_eq])
  | dnsSent hpending _ =>
    intro p hp
    refine .inl ?_
    rw [hpending]
    exact List.mem_cons_of_mem _ hp
  | @dnsKept pending rest hpending =>
    intro p hp
    refine .inl ?_
    rw [hpending]
    exact (List.perm_append_singleton pending rest).mem_iff.mp hp
  | taken | admitted | polled | unused | touched | bound | received | queried | associated
  | forwarded | unbound | flushed | lost | refreshed => exact hsame rfl

/-! ## One socket -/

/-- What can happen to the socket of a target. -/
inductive SocketMove (steps : List PollStep) (s : Runtime) (target : SocketAddr)
    (socket : UdpSocket) : UdpSocket → Prop where
  | polled {after : UdpSocket} : (∃ step ∈ steps, step.udpAfter = some after) →
      socket.polls after → SocketMove steps s target socket after
  | emptied : SocketMove steps s target socket { socket with rx := [] }
  | sent {pending : PendingUdpResponse} {after : UdpSocket} : s.Waits pending →
      pending.target = target → socket.sendSlice pending.payload pending.app = some after →
      SocketMove steps s target socket after

abbrev SocketMoves (steps : List PollStep) (s : Runtime) (target : SocketAddr) :
    UdpSocket → UdpSocket → Prop :=
  Relation.ReflTransGen (SocketMove steps s target)

variable {socket : UdpSocket} {pending : PendingUdpResponse} {sockets : SocketSet}
  {first : SocketAddr} {r : SocketAddr × SocketAddr × Bytes}

/-- Neither the address nor the room of a socket changes. -/
theorem shape_socketMoves {target : SocketAddr} {socket' : UdpSocket}
    (h : SocketMoves steps s target socket socket') :
    socket'.endpoint = socket.endpoint ∧ socket'.messageDepth = socket.messageDepth := by
  induction h with
  | refl => exact ⟨rfl, rfl⟩
  | tail _ hlast ih =>
    obtain ⟨hendpoint, hdepth⟩ := ih
    cases hlast with
    | polled _ hp =>
      simp only [UdpSocket.polls, Bool.and_eq_true, beq_iff_eq] at hp
      obtain ⟨⟨⟨⟨⟨⟨hendpoint', hdepth'⟩, -⟩, -⟩, -⟩, -⟩, -⟩ := hp
      exact ⟨hendpoint'.trans hendpoint, hdepth'.trans hdepth⟩
    | emptied => exact ⟨hendpoint, hdepth⟩
    | sent _ _ hsend =>
      unfold UdpSocket.sendSlice at hsend
      split at hsend
      · cases hsend
      · split at hsend <;> cases hsend
        exact ⟨hendpoint, hdepth⟩

/-- What a change does to the target with this entry after it. -/
inductive TargetChange (config : PacketRuntimeConfig) (steps : List PollStep) (s s' : Runtime)
    (target : SocketAddr) (entry' : UdpTargetEntry) : Prop where
  | kept {entry : UdpTargetEntry} {socket socket' : UdpSocket} :
      s.udpTargets.lookup target = some entry → entry'.target = entry.target →
      s.engine.sockets.udp entry.handle = some socket →
      s'.engine.sockets.udp entry'.handle = some socket' →
      SocketMoves steps s target socket socket' → TargetChange config steps s s' target entry'
  | bound {socket : UdpSocket} : s.udpTargets.lookup target = none → entry'.target = target →
      UdpSocket.bind config.udpMessageDepth config.udpBufferBytes target = some socket →
      s'.engine.sockets.udp entry'.handle = some socket →
      TargetChange config steps s s' target entry'

variable {target : SocketAddr} {entry entry' : UdpTargetEntry}

theorem Placed.exists_udp (h : s.Placed) (hkey : s.udpTargets.lookup target = some entry) :
    ∃ socket, s.engine.sockets.udp entry.handle = some socket :=
  SocketSet.exists_udp (h.udp.valid hkey)

namespace TargetChange

/-- The entry and its socket are as before, but for the time of the last activity. -/
theorem same (hplaced : s.Placed) (hkey : s.udpTargets.lookup target = some entry)
    (htarget : entry'.target = entry.target) (hhandle : entry'.handle = entry.handle)
    (hsocket : s'.engine.sockets.udp entry.handle = s.engine.sockets.udp entry.handle) :
    TargetChange config steps s s' target entry' := by
  obtain ⟨socket, hget⟩ := hplaced.exists_udp hkey
  refine .kept hkey htarget hget ?_ .refl
  rw [hhandle, hsocket, hget]

/-- The engine polls its sockets. -/
theorem polled (hkey : s.udpTargets.lookup target = some entry') {engine engine' : Engine}
    {socket : UdpSocket} (hget : s.engine.sockets.udp entry'.handle = some socket)
    (hbefore : engine.sockets.udp entry'.handle = some socket)
    (hpoll : engine.poll steps = some engine')
    (hafter : s'.engine.sockets.udp entry'.handle = engine'.sockets.udp entry'.handle)
    {steps' : List PollStep} (hsteps : steps ⊆ steps') :
    TargetChange config steps' s s' target entry' := by
  obtain ⟨socket', hget', hmoves⟩ := udp_poll hpoll hbefore
  refine .kept hkey rfl hget (hafter.trans hget') (Relation.ReflTransGen.mono ?_ _ _ hmoves)
  rintro before after ⟨⟨step, hmem, hstep⟩, hp⟩
  exact .polled ⟨step, hsteps hmem, hstep⟩ hp

end TargetChange

/-- What a successful attempt to send a response does to the sockets. -/
theorem trySendUdpResponse_eq_some (h : s.trySendUdpResponse pending = some sockets) :
    s.udpTargets.lookup pending.target = none ∧ sockets = s.engine.sockets ∨
      ∃ entry socket after, s.udpTargets.lookup pending.target = some entry ∧
        s.engine.sockets.udp entry.handle = some socket ∧
        socket.sendSlice pending.payload pending.app = some after ∧
        sockets = s.engine.sockets.modifyUdp entry.handle fun _ => after := by
  unfold trySendUdpResponse at h
  split at h
  · rename_i hnone
    cases h
    exact .inl ⟨hnone, rfl⟩
  rename_i entry hentry
  split at h
  · cases h
  rename_i socket hsocket
  split at h
  · cases h
  · obtain ⟨after, hsend, rfl⟩ := Option.map_eq_some_iff.mp h
    exact .inr ⟨entry, socket, after, hentry, hsocket, hsend, rfl⟩

theorem target_sent (hplaced : s.Placed) (hwaits : s.Waits pending)
    (hsend : s.trySendUdpResponse pending = some sockets)
    (hkey : s.udpTargets.lookup target = some entry) (hsockets : s'.engine.sockets = sockets) :
    TargetChange config steps s s' target entry := by
  rcases trySendUdpResponse_eq_some hsend with ⟨-, rfl⟩ |
    ⟨sender, socket, after, hsender, hsocket, hslice, rfl⟩
  · exact .same hplaced hkey rfl rfl (by rw [hsockets])
  by_cases hhandle : entry.handle = sender.handle
  · obtain rfl := hplaced.udp.inj hkey hsender hhandle
    refine .kept hkey rfl (hhandle ▸ hsocket) ?_ (.single (.sent hwaits rfl hslice))
    rw [hsockets, SocketSet.udp_modifyUdp, if_pos hhandle, hhandle, hsocket]
    rfl
  · refine .same hplaced hkey rfl rfl ?_
    rw [hsockets, SocketSet.udp_modifyUdp, if_neg hhandle]

/-! ## What a change does to a target -/

/-- **What a change does to a target.** -/
theorem target_change (hplaced : s.Placed) (h : Change config cause s s')
    (hentry' : s'.udpTargets.lookup target = some entry') :
    TargetChange config cause.action.polls s s' target entry' := by
  -- neither the targets nor their sockets are touched
  have hsame : s'.udpTargets = s.udpTargets →
      (∀ g, s'.engine.sockets.udp g = s.engine.sockets.udp g) →
      TargetChange config cause.action.polls s s' target entry' := by
    intro htargets hsockets
    exact .same hplaced (htargets ▸ hentry') rfl rfl (hsockets _)
  cases h with
  | control hcontrol =>
    cases hcontrol
    exact hsame rfl fun _ => rfl
  | reader hreader => cases hreader <;> exact hsame rfl fun _ => rfl
  | writer hwriter =>
    rw [writer_eq hwriter] at hentry' ⊢
    exact .same hplaced hentry' rfl rfl rfl
  | event _ hhandled =>
    obtain ⟨-, -, htargets, hsockets⟩ := kept_handled hhandled
    exact hsame htargets hsockets
  | polled hsub hpoll =>
    have hkey : s.udpTargets.lookup target = some entry' := hentry'
    obtain ⟨socket, hget⟩ := hplaced.exists_udp hkey
    exact .polled hkey hget hget hpoll rfl hsub
  | @unused listener _ incoming _ engine _ _ hsub hpoll =>
    have hkey : s.udpTargets.lookup target = some entry' := hentry'
    obtain ⟨socket, hget⟩ := hplaced.exists_udp hkey
    have hne : entry'.handle ≠ (s.engine.sockets.add (.tcp listener)).2 :=
      hplaced.udp.ne_of_kind (by rw [SocketSet.kind_add_handle]; nofun) hkey
    exact .polled hkey hget (SocketSet.udp_add _ _ hget) hpoll
      (SocketSet.udp_remove_of_ne hne) hsub
  | @touched other old hold =>
    rcases Table.lookup_insert_eq_some hentry' with ⟨rfl, rfl⟩ | ⟨-, hkey⟩
    exacts [.same hplaced hold rfl rfl rfl, .same hplaced hkey rfl rfl rfl]
  | @bound other socket hnone _ _ hbind =>
    rcases Table.lookup_insert_eq_some hentry' with ⟨rfl, rfl⟩ | ⟨-, hkey⟩
    · refine .bound hnone rfl hbind ?_
      rw [SocketSet.udp_eq_some, Slots.get_add, if_pos rfl]
    obtain ⟨found, hget⟩ := hplaced.exists_udp hkey
    refine .same hplaced hkey rfl rfl ?_
    rw [hget]
    exact SocketSet.udp_add _ _ hget
  | driven _ _ _ =>
    rw [applyDrive_eq] at hentry' ⊢
    exact .same hplaced hentry' rfl rfl (SocketSet.udp_modifyTcp _ _ _ _)
  | removed hkey =>
    rw [removeTcp_eq hkey] at hentry' ⊢
    refine .same hplaced hentry' rfl rfl (SocketSet.udp_remove_of_ne ?_)
    exact hplaced.udp.ne_of_kind (by rw [hplaced.tcp.valid hkey]; nofun) hentry'
  | @received other old hold =>
    by_cases hhandle : entry'.handle = old.handle
    · obtain ⟨socket, hget⟩ := hplaced.exists_udp hentry'
      refine .kept hentry' rfl hget ?_ (.single .emptied)
      show (SocketSet.modifyUdp _ _ _).udp _ = _
      rw [SocketSet.udp_modifyUdp, if_pos hhandle, hget]
      rfl
    · refine .same hplaced hentry' rfl rfl ?_
      show (SocketSet.modifyUdp _ _ _).udp _ = _
      rw [SocketSet.udp_modifyUdp, if_neg hhandle]
  | responded hassociation hpending hsend =>
    rw [answer_eq] at hentry' ⊢
    exact target_sent hplaced (.inl ⟨_, _, hassociation, hpending⟩) hsend hentry' rfl
  | @dnsSent pending rest _ hpending hsend =>
    have hmem : pending ∈ s.pendingDnsResponses := by
      rw [hpending]
      exact List.mem_cons_self
    exact target_sent hplaced (.inr hmem) hsend hentry' rfl
  | @unbound other old hold =>
    obtain ⟨hne, hkey⟩ := Table.lookup_erase_eq_some hentry'
    refine .same hplaced hkey rfl rfl (SocketSet.udp_remove_of_ne fun hhandle => ?_)
    exact hne (hplaced.udp.inj hkey hold hhandle)
  | _ =>
    exact hsame rfl fun _ => rfl

/-- **A target goes only when it is idle.** -/
theorem target_gone (h : Change config cause s s') (hkey : s.udpTargets.lookup target = some entry)
    (hgone : s'.udpTargets.lookup target = none) :
    cause.action = .actor .reapTargets ∧ s.isIdle config entry := by
  -- a table with at least the old keys
  have hinserted : ∀ {other : SocketAddr} {e : UdpTargetEntry},
      (s.udpTargets.insert other e).lookup target ≠ none := by
    intro other e hnone
    cases hkey.symm.trans (Table.lookup_insert_eq_none.mp hnone).2
  have hsame : s'.udpTargets = s.udpTargets → False := by
    intro heq
    rw [heq, hkey] at hgone
    cases hgone
  cases h with
  | control hcontrol =>
    cases hcontrol
    exact (hsame rfl).elim
  | reader hreader => cases hreader <;> exact (hsame rfl).elim
  | writer hwriter => exact (hsame (by rw [writer_eq hwriter])).elim
  | event _ hhandled => exact (hsame (kept_handled hhandled).2.2.1).elim
  | touched _ | bound _ _ _ _ => exact absurd hgone hinserted
  | driven _ _ _ => exact (hsame (by rw [applyDrive_eq])).elim
  | removed hflow => exact (hsame (by rw [removeTcp_eq hflow])).elim
  | responded _ _ _ => exact (hsame (by rw [answer_eq])).elim
  | @unbound other old hold haction hidle =>
    by_cases heq : target = other
    · subst heq
      cases hkey.symm.trans hold
      exact ⟨haction, hidle⟩
    change (s.udpTargets.erase other).lookup target = none at hgone
    rw [AList.lookup_erase_ne heq, hkey] at hgone
    cases hgone
  | _ => exact (hsame rfl).elim

/-- The start of a flow polls the sockets. -/
theorem target_started (hplaced : s.Placed) {key : TcpFlowKey} (h : Started config steps s key s')
    (hentry' : s'.udpTargets.lookup target = some entry') :
    TargetChange config steps s s' target entry' := by
  cases h with
  | @mk _ _ _ engine _ _ _ _ _ _ _ _ _ _ hpoll _ =>
    have hkey : s.udpTargets.lookup target = some entry' := hentry'
    obtain ⟨socket, hget⟩ := hplaced.exists_udp hkey
    exact .polled hkey hget (SocketSet.udp_add _ _ hget) hpoll rfl (List.Subset.refl _)

/-! ## What is heard -/

/-- The datagram is in the socket of a target. -/
def Arrived (s : Runtime) (r : SocketAddr × SocketAddr × Bytes) : Prop :=
  ∃ k entry socket, s.udpTargets.lookup k = some entry ∧
    s.engine.sockets.udp entry.handle = some socket ∧ r.2.1 = entry.target ∧
    (r.1, r.2.2) ∈ socket.rx

theorem heard_receiveUdp (h : r ∈ (s.receiveUdp first).2) : s.Arrived r := by
  unfold receiveUdp at h
  split at h
  · cases h
  rename_i entry hentry
  split at h
  · cases h
  rename_i socket hsocket
  split at h
  · cases h
  · obtain ⟨d, hd, rfl⟩ := List.mem_map.mp h
    exact ⟨first, entry, socket, hentry, hsocket, rfl, hd⟩

/-- What is left in the sockets after one of them was emptied was there before. -/
theorem kept_receiveUdp {k : SocketAddr}
    (hentry : (s.receiveUdp first).1.udpTargets.lookup k = some entry)
    (hsocket : (s.receiveUdp first).1.engine.sockets.udp entry.handle = some socket) :
    ∃ entry₀ socket₀, s.udpTargets.lookup k = some entry₀ ∧ entry.target = entry₀.target ∧
      s.engine.sockets.udp entry₀.handle = some socket₀ ∧ socket.rx ⊆ socket₀.rx := by
  unfold receiveUdp at hentry hsocket
  split at hentry
  · exact ⟨entry, socket, hentry, rfl, by simpa [*] using hsocket, List.Subset.refl _⟩
  rename_i old hold
  simp only [hold] at hsocket
  split at hentry
  · rename_i hnone
    simp only [hnone] at hsocket
    exact ⟨entry, socket, hentry, rfl, hsocket, List.Subset.refl _⟩
  rename_i found hfound
  simp only [hfound] at hsocket
  split at hentry
  · rename_i hempty
    rw [if_pos hempty] at hsocket
    exact ⟨entry, socket, hentry, rfl, hsocket, List.Subset.refl _⟩
  rename_i hempty
  rw [if_neg hempty, SocketSet.udp_modifyUdp] at hsocket
  have hrx : ∃ socket₀, s.engine.sockets.udp entry.handle = some socket₀ ∧
      socket.rx ⊆ socket₀.rx := by
    split at hsocket
    · obtain ⟨socket₀, hsocket₀, rfl⟩ := Option.map_eq_some_iff.mp hsocket
      exact ⟨socket₀, hsocket₀, List.nil_subset _⟩
    · exact ⟨socket, hsocket, List.Subset.refl _⟩
  obtain ⟨socket₀, hsocket₀, hsub⟩ := hrx
  rcases Table.lookup_insert_eq_some hentry with ⟨rfl, rfl⟩ | ⟨-, hkey⟩
  exacts [⟨old, socket₀, hold, rfl, hsocket₀, hsub⟩, ⟨entry, socket₀, hkey, rfl, hsocket₀, hsub⟩]

/-- **A datagram that the actor takes was in the socket of a target.** -/
theorem heard_received {targets : List SocketAddr} (h : r ∈ (s.receiveAllUdp targets).2) :
    s.Arrived r := by
  induction targets generalizing s with
  | nil => cases h
  | cons first targets ih =>
    rcases List.mem_append.mp h with h | h
    · exact heard_receiveUdp h
    obtain ⟨k, entry, socket, hentry, hsocket, htarget, hmem⟩ := ih h
    obtain ⟨entry₀, socket₀, hentry₀, heq, hsocket₀, hsub⟩ := kept_receiveUdp hentry hsocket
    exact ⟨k, entry₀, socket₀, hentry₀, hsocket₀, htarget.trans heq, hsub hmem⟩

theorem heard_cause {action : Action} (h : r ∈ Cause.heard ⟨s, action⟩) : s.Arrived r := by
  unfold Cause.heard at h
  split at h
  · exact heard_received h
  · cases h

end Runtime
end Tun
end Maverick
