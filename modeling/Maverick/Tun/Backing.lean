import Maverick.Tun.Draining
import Maverick.Tun.Targets

/-!
# Replies and the sockets of their targets

A response goes back through the socket of its target, and is discarded where the target
is gone.  Targets are removed when they have been idle; whether a DNS query needs one is
seen from the number of queries and the port alone.

* `Guarded` — a query to the target is alive, in its task or in the event with its answer.
* `Backing` — every target that something needs is there, with a socket bound to it.
* `replies_keep_socket` — in every run no response is discarded for want of its target.
-/

namespace Maverick
namespace Tun

open Lib

/-- The target of a DNS task that has not ended. -/
def Worker.asks : Worker → Option SocketAddr
  | .dns w => if w.isEnded then none else some w.target
  | .tcp _ | .udp _ => none

variable {worker worker' : Worker}

theorem Worker.Unmoved.asks (h : worker.Unmoved worker') : worker'.asks = worker.asks :=
  h.cases (fun _ _ _ _ => rfl) (fun _ _ _ _ => rfl) fun _ => rfl

/-- **What a task asks, and what the event it sends answers, it asked before.** -/
theorem Worker.asks_step {config : PacketRuntimeConfig} {id : WorkerId} {shared : Bool}
    {step : WorkerStep} {event : Option EngineEvent} {target : SocketAddr}
    (h : worker.step config id shared step = some (worker', event))
    (hasks : worker'.asks = some target ∨
      ∃ app response, event = some (.dnsResponse target app response)) :
    worker.asks = some target := by
  obtain ⟨hrole, hsent⟩ := Worker.role_step h
  have hother : worker.asks = none → worker'.asks = none →
      (∀ app query, worker.role ≠ .dns app target query) → worker.asks = some target := by
    intro hnone hnone' hrole
    rcases hasks with hasks | ⟨app, response, hevent⟩
    · cases hnone'.symm.trans hasks
    · obtain ⟨query, heq⟩ := hsent _ hevent
      exact absurd heq (hrole app query)
  cases Worker.stepped h with
  | tcp _ => exact hother rfl rfl nofun
  | udp _ => exact hother rfl rfl nofun
  | @dns w w' _ _ hr =>
    have hlive := DnsWorker.not_isEnded_of_step hr
    have htarget : w.target = target := by
      rcases hasks with hasks | ⟨app, response, hevent⟩
      · obtain ⟨-, heq⟩ := Option.ite_none_left_eq_some.mp hasks
        simp only [Worker.role, Role.dns.injEq] at hrole
        exact hrole.2.1.symm.trans (Option.some.inj heq)
      obtain ⟨query, heq⟩ := hsent _ hevent
      simp only [Worker.role, Role.dns.injEq] at heq
      exact heq.2.1
    simp [Worker.asks, hlive, htarget]

namespace Runtime

variable {config : PacketRuntimeConfig} {cause : Cause} {steps : List PollStep} {s s' : Runtime}
  {target : SocketAddr}

/-- The guard of a query to the target is alive. -/
def Guarded (s : Runtime) (target : SocketAddr) : Prop :=
  (∃ i : WorkerId, s.workers[i]?.map Worker.asks = some (some target)) ∨
    ∃ p ∈ s.events, ∃ app response, p.event = .dnsResponse target app response

/-- The guards are counted. -/
theorem Guarded.pos (h : s.Guarded target) : 0 < s.dnsGuards := by
  unfold dnsGuards
  rcases h with ⟨i, hi⟩ | ⟨p, hp, app, response, hevent⟩
  · obtain ⟨worker, hget, hasks⟩ := Option.map_eq_some_iff.mp hi
    have hone : worker.guards = 1 := by
      cases worker with
      | dns w =>
        obtain ⟨hlive, -⟩ := Option.ite_none_left_eq_some.mp hasks
        simp [Worker.guards, hlive]
      | _ => cases hasks
    have hle := le_total Worker.guards (List.mem_of_getElem? hget)
    omega
  · have hone : p.event.guards = 1 := by
      rw [hevent]
      rfl
    have hle : p.event.guards ≤ _ := le_total (fun p : Posted => p.event.guards) hp
    omega

/-- A guard that is alive after a change was alive before it, or is of a new query. -/
theorem guarded_change (h : Change config cause s s') (hguarded : s'.Guarded target) :
    s.Guarded target ∨ target.port = 53 ∧ ∃ app query, (app, target, query) ∈ cause.heard := by
  rcases hguarded with ⟨i, hi⟩ | ⟨p, hp, app, response, hevent⟩
  · -- the task after the last one is the new one
    have hold : ∀ {worker : Worker}, s'.workers = s.workers ++ [worker] →
        s.Guarded target ∨ worker.asks = some target := by
      intro worker hworkers
      rw [hworkers, List.getElem?_append] at hi
      split at hi
      · exact .inl (.inl ⟨i, hi⟩)
      obtain ⟨found, hget, hasks⟩ := Option.map_eq_some_iff.mp hi
      obtain rfl := List.mem_singleton.mp (List.mem_of_getElem? hget)
      exact .inr hasks
    cases tasks_change h with
    | touched htouched =>
      rw [htouched.aside.view fun _ _ hmoved => hmoved.asks] at hi
      exact .inl (.inl ⟨i, hi⟩)
    | @queried app asked query hport hheard hworkers =>
      rcases hold hworkers with hguarded | hasks
      · exact .inl hguarded
      · cases hasks
        exact .inr ⟨hport, app, query, hheard⟩
    | associated _ hworkers =>
      rcases hold hworkers with hguarded | hasks
      · exact .inl hguarded
      · cases hasks
  · rcases events_change h p hp with hp | hpacket
    · exact .inl (.inr ⟨p, hp, app, response, hevent⟩)
    · rw [hevent] at hpacket
      cases hpacket

variable {id : WorkerId} {step : WorkerStep} {r : SocketAddr × SocketAddr × Bytes}

theorem guarded_worker (hstep : s.stepWorker config id step = some s')
    (hguarded : s'.Guarded target) : s.Guarded target := by
  obtain ⟨worker, worker', event, hget, hworker, rfl⟩ := stepWorker_eq_some hstep
  have hmoved : (worker'.asks = some target ∨
      ∃ app response, event = some (.dnsResponse target app response)) → s.Guarded target := by
    intro hasks
    refine .inl ⟨id, ?_⟩
    rw [hget]
    exact congrArg some (Worker.asks_step hworker hasks)
  rcases hguarded with ⟨i, hi⟩ | ⟨p, hp, app, response, hevent⟩
  · change (s.workers.set id worker')[i]?.map Worker.asks = _ at hi
    rw [List.getElem?_set] at hi
    split at hi
    · split at hi
      · exact hmoved (.inl (Option.some.inj hi))
      · cases hi
    · exact .inl ⟨i, hi⟩
  · rcases List.mem_append.mp hp with hp | hp
    · exact .inr ⟨p, hp, app, response, hevent⟩
    simp only [Option.mem_toList, Option.map_eq_some_iff] at hp
    obtain ⟨sent, rfl, rfl⟩ := hp
    exact hmoved (.inr ⟨app, response, congrArg some hevent⟩)

/-! ## The invariant -/

/-- Every target that something needs is there, and has a socket bound to it. -/
structure Backing (s : Runtime) : Prop where
  bound : ∀ target entry, s.udpTargets.lookup target = some entry → entry.target = target ∧
    ∃ socket, s.engine.sockets.udp entry.handle = some socket ∧ socket.endpoint = target
  associations : ∀ key entry, s.udpAssociations.lookup key = some entry →
    (s.udpTargets.lookup key.target).isSome
  guards : ∀ target, s.Guarded target → target.port = 53 ∧ (s.udpTargets.lookup target).isSome
  pending : ∀ p ∈ s.pendingDnsResponses, (s.udpTargets.lookup p.target).isSome

theorem bound_targetChange {entry' : UdpTargetEntry} (hs : s.Backing)
    (h : TargetChange config steps s s' target entry') : entry'.target = target ∧
      ∃ socket, s'.engine.sockets.udp entry'.handle = some socket ∧ socket.endpoint = target := by
  cases h with
  | kept hkey htarget hget hget' hmoves =>
    obtain ⟨hentry, socket, hsocket, hendpoint⟩ := hs.bound _ _ hkey
    cases hget.symm.trans hsocket
    exact ⟨htarget.trans hentry, _, hget', (shape_socketMoves hmoves).1.trans hendpoint⟩
  | bound _ htarget hbind hget =>
    refine ⟨htarget, _, hget, ?_⟩
    unfold UdpSocket.bind at hbind
    split at hbind <;> cases hbind
    rfl

/-- Something in the state needs the target. -/
def Needs (s : Runtime) (target : SocketAddr) : Prop :=
  (∃ key entry, s.udpAssociations.lookup key = some entry ∧ key.target = target) ∨
    (s.Guarded target ∧ target.port = 53) ∨ ∃ p ∈ s.pendingDnsResponses, p.target = target

/-- **A target that is needed is not idle.** -/
theorem not_isIdle (hbounded : Bounded config 0 s) {entry : UdpTargetEntry}
    (hneeds : s.Needs entry.target) : s.isIdle config entry = false := by
  have hinUse : (s.udpAssociations.keys.any (·.target == entry.target) ||
      ((decide (s.activeDnsQueries > 0) && entry.target.port == 53) ||
        s.pendingDnsResponses.any (·.target == entry.target))) = true := by
    rcases hneeds with ⟨key, e, hkey, htarget⟩ | ⟨hguarded, hport⟩ | ⟨p, hp, htarget⟩
    · have hmem : key ∈ s.udpAssociations.keys :=
        AList.mem_keys.mp (AList.lookup_isSome.mp (by rw [hkey]; rfl))
      simp only [Bool.or_eq_true, List.any_eq_true]
      exact .inl ⟨key, hmem, beq_iff_eq.mpr htarget⟩
    · have hcounts := hbounded.dns.counts
      have hpos := hguarded.pos
      have hactive : s.activeDnsQueries > 0 := by omega
      simp [hactive, hport]
    · simp only [Bool.or_eq_true, List.any_eq_true]
      exact .inr (.inr ⟨p, hp, beq_iff_eq.mpr htarget⟩)
  simp only [isIdle]
  rw [hinUse]
  rfl

/-- What is needed before a change is there after it. -/
theorem Backing.listed (hs : s.Backing) (hbounded : Bounded config 0 s)
    (h : Change config cause s s') (hneeds : s.Needs target)
    (hlisted : (s.udpTargets.lookup target).isSome) : (s'.udpTargets.lookup target).isSome := by
  obtain ⟨entry, hentry⟩ := Option.isSome_iff_exists.mp hlisted
  rw [Option.isSome_iff_ne_none]
  intro hgone
  obtain ⟨-, hidle⟩ := target_gone h hentry hgone
  have htarget := (hs.bound target entry hentry).1
  rw [not_isIdle hbounded (by rw [htarget]; exact hneeds)] at hidle
  cases hidle

theorem action_of_heard (h : r ∈ cause.heard) :
    ∃ targets keys, cause.action = .actor (.driveUdp targets keys) := by
  unfold Cause.heard at h
  split at h
  · rename_i targets keys haction
    exact ⟨targets, keys, haction⟩
  · cases h

/-- While datagrams are passed on, no target goes. -/
theorem heard_listed (h : Change config cause s s') (hr : r ∈ cause.heard)
    (hlisted : (s.udpTargets.lookup r.2.1).isSome) : (s'.udpTargets.lookup r.2.1).isSome := by
  obtain ⟨entry, hentry⟩ := Option.isSome_iff_exists.mp hlisted
  rw [Option.isSome_iff_ne_none]
  intro hgone
  obtain ⟨haction, -⟩ := target_gone h hentry hgone
  obtain ⟨targets, keys, hdrive⟩ := action_of_heard hr
  cases hdrive.symm.trans haction

theorem backing_change (hplaced : s.Placed) (hbounded : Bounded config 0 s)
    (hheard : ∀ r ∈ cause.heard, (s.udpTargets.lookup r.2.1).isSome)
    (h : Change config cause s s') (hs : s.Backing) : s'.Backing where
  bound target entry' hentry' := bound_targetChange hs (target_change hplaced h hentry')
  associations := by
    intro key entry' hentry'
    rcases association_change h hentry' with ⟨entry, hentry, -⟩ | ⟨⟨payload, hmem⟩, -⟩
    · exact hs.listed hbounded h (.inl ⟨key, entry, hentry, rfl⟩) (hs.associations key entry hentry)
    · exact heard_listed h hmem (hheard _ hmem)
  guards := by
    intro target hguarded
    rcases guarded_change h hguarded with hold | ⟨hport, app, query, hmem⟩
    · obtain ⟨hport, hlisted⟩ := hs.guards target hold
      exact ⟨hport, hs.listed hbounded h (.inr (.inl ⟨hold, hport⟩)) hlisted⟩
    · exact ⟨hport, heard_listed h hmem (hheard _ hmem)⟩
  pending := by
    intro p hp
    rcases pendingDns_change h p hp with hold | ⟨posted, hposted, hevent⟩
    · exact hs.listed hbounded h (.inr (.inr ⟨p, hold, rfl⟩)) (hs.pending p hold)
    have hguarded : s.Guarded p.target := .inr ⟨posted, hposted, p.app, p.payload, hevent⟩
    obtain ⟨hport, hlisted⟩ := hs.guards p.target hguarded
    exact hs.listed hbounded h (.inr (.inl ⟨hguarded, hport⟩)) hlisted

/-- The invariant together with what its proof needs. -/
structure Secured (config : PacketRuntimeConfig) (s : Runtime) : Prop where
  placed : s.Placed
  bounded : Bounded config 0 s
  backing : s.Backing

theorem secured_changes {action : Action} (h : Changes config ⟨s, action⟩ s s')
    (hs : Secured config s) : Secured config s' := by
  have hboth : Secured config s' ∧
      ∀ r ∈ Cause.heard ⟨s, action⟩, (s'.udpTargets.lookup r.2.1).isSome := by
    refine Changes.invariant (I := fun t => Secured config t ∧
      ∀ r ∈ Cause.heard ⟨s, action⟩, (t.udpTargets.lookup r.2.1).isSome) ?_ h ⟨hs, ?_⟩
    · rintro t t' hchange ⟨ht, hheard⟩
      refine ⟨⟨(keeps_change hchange).placed ht.placed, bounded_change hchange ht.bounded, ?_⟩, ?_⟩
      · exact backing_change ht.placed ht.bounded hheard hchange ht.backing
      · intro r hr
        exact heard_listed hchange hr (hheard r hr)
    · intro r hr
      obtain ⟨k, entry, socket, hentry, -, htarget, -⟩ := heard_cause hr
      have hk := (hs.backing.bound k entry hentry).1
      rw [htarget, hk, hentry]
      rfl
  exact hboth.1

theorem backing_started {key : TcpFlowKey} (hplaced : s.Placed)
    (h : Started config steps s key s') (hs : s.Backing) : s'.Backing := by
  have hbound : ∀ target entry', s'.udpTargets.lookup target = some entry' → entry'.target = target ∧
      ∃ socket, s'.engine.sockets.udp entry'.handle = some socket ∧ socket.endpoint = target := by
    intro target entry' hentry'
    exact bound_targetChange hs (target_started hplaced h hentry')
  cases h
  refine ⟨hbound, hs.associations, ?_, hs.pending⟩
  intro target hguarded
  refine hs.guards target ?_
  rcases hguarded with ⟨i, hi⟩ | hevent
  · change (s.workers ++ [_])[i]?.map Worker.asks = _ at hi
    rw [List.getElem?_append] at hi
    split at hi
    · exact .inl ⟨i, hi⟩
    obtain ⟨found, hget, hasks⟩ := Option.map_eq_some_iff.mp hi
    obtain rfl := List.mem_singleton.mp (List.mem_of_getElem? hget)
    cases hasks
  · exact .inr hevent

theorem backing_worker (hstep : s.stepWorker config id step = some s') (hs : s.Backing) :
    s'.Backing := by
  have hguards : ∀ target, s'.Guarded target →
      target.port = 53 ∧ (s.udpTargets.lookup target).isSome := by
    intro target hguarded
    exact hs.guards target (guarded_worker hstep hguarded)
  obtain ⟨worker, worker', event, -, -, rfl⟩ := stepWorker_eq_some hstep
  exact ⟨hs.bound, hs.associations, hguards, hs.pending⟩

theorem secured_of_reach {good : Runtime → Action → Prop} (h : (system config).ReachBy good s) :
    Secured config s := by
  refine reachBy_invariant (I := Secured config) ?_ ?_ ?_ ?_ h
  · refine ⟨⟨.empty, .empty⟩, bounded_start config, ⟨nofun, nofun, ?_, nofun⟩⟩
    rintro target (⟨i, hi⟩ | ⟨p, hp, -⟩)
    · cases hi
    · cases hp
  · intro s a s' _ hchanges hs
    exact secured_changes hchanges hs
  · intro s steps key s' hstarted hs
    exact ⟨(starts_of_started hstarted).placed hs.placed, bounded_started hstarted hs.bounded,
      backing_started hs.placed hstarted hs.backing⟩
  intro s id step s' _ hstep hs
  have hworker := stepWorker_effect hstep
  refine ⟨?_, bounded_worker hworker hs.bounded, backing_worker hstep hs.backing⟩
  cases hworker <;> exact ⟨hs.placed.tcp, hs.placed.udp⟩

/-! ## Replies -/

/-- The target is in the table, and its socket is bound to it. -/
def Backed (s : Runtime) (target : SocketAddr) : Prop :=
  ∃ entry socket, s.udpTargets.lookup target = some entry ∧
    s.engine.sockets.udp entry.handle = some socket ∧ socket.endpoint = target

/-- Everything for which a reply may come, or has come, has the socket for it. -/
structure RepliesBacked (s : Runtime) : Prop where
  association : ∀ key entry, s.udpAssociations.lookup key = some entry → s.Backed key.target
  query : ∀ target, s.Guarded target → s.Backed target
  dns : ∀ pending ∈ s.pendingDnsResponses, s.Backed pending.target
  /-- So no response that waits is discarded for want of its target. -/
  waits : ∀ pending, s.Waits pending → s.udpTargets.lookup pending.target ≠ none

theorem Backing.backed (h : s.Backing) (hlisted : (s.udpTargets.lookup target).isSome) :
    s.Backed target := by
  obtain ⟨entry, hentry⟩ := Option.isSome_iff_exists.mp hlisted
  obtain ⟨-, socket, hsocket, hendpoint⟩ := h.bound target entry hentry
  exact ⟨entry, socket, hentry, hsocket, hendpoint⟩

theorem Backing.replies (h : s.Backing) (hsigned : s.Signed) : s.RepliesBacked where
  association key entry hentry := h.backed (h.associations key entry hentry)
  query target hguarded := h.backed (h.guards target hguarded).2
  dns pending hpending := h.backed (h.pending pending hpending)
  waits := by
    rintro pending (⟨key, entry, hentry, hpending⟩ | hpending) hnone
    · obtain ⟨-, htarget, -⟩ := hsigned.response key entry pending hentry hpending
      have hlisted := h.associations key entry hentry
      rw [← htarget, hnone] at hlisted
      cases hlisted
    have hlisted := h.pending pending hpending
    rw [hnone] at hlisted
    cases hlisted

/-- The states that `send_udp_responses` goes through. -/
theorem changes_attempts (config : PacketRuntimeConfig) (s : Runtime) (targets : List SocketAddr)
    (keys : List UdpAssociationKey) (count : Nat) :
    Changes config ⟨s, .actor (.driveUdp targets keys)⟩ s
      (sendDnsResponses count (keys.foldl sendUdpResponse (s.drainUdpRequests config targets))) := by
  have hdrained : Changes config ⟨s, .actor (.driveUdp targets keys)⟩ s
      (s.drainUdpRequests config targets) :=
    changes_drainUdpRequests s (List.Subset.refl _)
  have hanswered := hdrained.trans (Changes.foldl keys (fun s key _ => changes_sendUdpResponse s key) _)
  exact hanswered.trans (changes_sendDnsResponses count _)

/-- **No reply loses its socket**, in every run; neither in the states that
`send_udp_responses` goes through, after any number of attempts to send. -/
theorem replies_keep_socket (config : PacketRuntimeConfig) {s : Runtime}
    (h : (system config).Reach s) : s.RepliesBacked ∧
      ∀ (targets : List SocketAddr) (keys : List UdpAssociationKey) (count : Nat),
        RepliesBacked (sendDnsResponses count
          (keys.foldl sendUdpResponse (s.drainUdpRequests config targets))) := by
  have hsecured := secured_of_reach h
  have hsigned := signed_of_reach h
  refine ⟨hsecured.backing.replies hsigned, ?_⟩
  intro targets keys count
  have hattempts := changes_attempts config s targets keys count
  have hsigned' := Changes.invariant (I := Signed) (fun hchange hs => signed_change hchange hs)
    hattempts hsigned
  exact (secured_changes hattempts hsecured).backing.replies hsigned'

/-! ## A query -/

namespace DnsQuery

def resolver : SocketAddr := ⟨.v4 ⟨192, 0, 2, 53⟩, 53⟩

def app : SocketAddr := ⟨.v4 ⟨10, 0, 0, 2⟩, 40000⟩

def datagram : Packet :=
  ⟨29, some (.v4 ⟨10, 0, 0, 2⟩ ⟨192, 0, 2, 53⟩ 0 false), .udp 9 true 40000 53⟩

/-- A query of one byte; the target has been idle for longer than the limit when the
targets are reaped. -/
def asked : List Action :=
  arrival datagram [.receive (some (0, .udp ⟨resolver, [(app, [1])], [], 32, 64 * 1024⟩))] ++
    udpTurn [resolver] [] ++ [.clock (seconds 100), .actor .tick] ++
    udpTurn [resolver] []

end DnsQuery

/-- A query that takes longer than a target may be idle has its socket. -/
theorem replies_keep_socket_asked : ∃ s : Runtime, (system .default).Reach s ∧
    s.workers = [.dns ⟨DnsQuery.resolver, DnsQuery.app, [1], .querying⟩] ∧ s.now = seconds 100 ∧
    s.Backed DnsQuery.resolver := by
  obtain ⟨s, hreach, hworkers, hnow⟩ := (system .default).exists_reach
    (fun s => s.workers = [.dns ⟨DnsQuery.resolver, DnsQuery.app, [1], .querying⟩] ∧
      s.now = seconds 100) DnsQuery.asked (by decide +kernel)
  have hreplies := (replies_keep_socket .default hreach).1
  refine ⟨s, hreach, hworkers, hnow, hreplies.query DnsQuery.resolver (.inl ⟨0, ?_⟩)⟩
  rw [hworkers]
  rfl

end Runtime
end Tun
end Maverick
