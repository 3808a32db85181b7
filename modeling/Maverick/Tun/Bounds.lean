import Maverick.Lib.Total
import Maverick.Tun.Endpoints
import Maverick.Tun.Roles

/-!
# Resource limits of the packet runtime

The limits are checked where a flow, a target, an association or a query is added;
entries go through events, socket states, timers and the end of tasks.  `Bounded` is
the joint invariant that every change keeps.

* `dnsGuards` — the guards that are alive, in tasks and in queued events; the counter
  of the runtime is that number.
* `bounded_change`, `bounded_started`, `bounded_worker` — what one step keeps.
* `tight_of_reach` — no socket is left behind.
* `noneAdded_next` — while the runtime drains, nothing is added.
* `resources_bounded` — all limits, in every run.
-/

namespace Maverick
namespace Tun

open Lib

/-! ## The device -/

/-- Neither queue of the device is longer than its limit. -/
structure BoundedDevice.Within (device : BoundedDevice) (depth : Nat) : Prop where
  limit : device.queueLimit = depth
  incoming : device.incoming.length ≤ depth
  outgoing : device.outgoing.length ≤ depth

theorem BoundedDevice.Within.push {device : BoundedDevice} {depth : Nat} (h : device.Within depth)
    (hroom : device.incoming.length < device.queueLimit) (packet : Packet) :
    BoundedDevice.Within { device with incoming := device.incoming ++ [packet] } depth := by
  have hlimit := h.limit
  refine ⟨hlimit, ?_, h.outgoing⟩
  simp only [List.length_append, List.length_singleton]
  omega

namespace Engine

variable {engine engine' : Engine} {depth : Nat}

theorem within_pollEffect {step : PollStep} (heffect : PollEffect engine step engine')
    (h : engine.device.Within depth) : engine'.device.Within depth := by
  cases heffect with
  | receive hincoming _ _ =>
    have hlength := h.incoming
    rw [hincoming, List.length_cons] at hlength
    exact ⟨h.limit, by dsimp only; omega, h.outgoing⟩
  | transmit hroom _ =>
    have hlimit := h.limit
    refine ⟨h.limit, h.incoming, ?_⟩
    simp only [List.length_append, List.length_singleton]
    omega
  | timer _ => exact h

theorem within_poll {steps : List PollStep} (hpoll : engine.poll steps = some engine')
    (h : engine.device.Within depth) : engine'.device.Within depth :=
  poll_invariant (I := fun e => e.device.Within depth)
    (fun _ heffect he => within_pollEffect heffect he) hpoll h

end Engine

/-! ## Counters of tables -/

theorem fetchSub_of_pos {n : Nat} (h : 0 < n) : fetchSub n = n - 1 := by
  unfold fetchSub
  rw [if_neg (by omega)]

/-- A table within its limit, and a counter that is its size. -/
structure Counted (limit size active : Nat) : Prop where
  bound : size ≤ limit
  counts : active = size

namespace Counted

variable {κ α : Type} [DecidableEq κ] {t : Table κ α} {limit active : Nat} {k : κ} {a : α}

theorem insert (h : Counted limit t.size active) (hk : t.lookup k = none) (hroom : t.size < limit)
    (a : α) : Counted limit (Table.size (t.insert k a)) (active + 1) := by
  rw [Table.size_insert_of_not_mem hk]
  exact ⟨hroom, by rw [h.counts]⟩

theorem update (h : Counted limit t.size active) (hk : t.lookup k = some a) (b : α) :
    Counted limit (Table.size (t.insert k b)) active := by
  rwa [Table.size_insert_of_mem hk]

/-- The counter of a table with an entry does not wrap around. -/
theorem erase (h : Counted limit t.size active) (hk : t.lookup k = some a) :
    Counted limit (Table.size (t.erase k)) (fetchSub active) := by
  have hsize := Table.size_erase hk
  have hbound := h.bound
  have hactive := h.counts
  exact ⟨by omega, by rw [fetchSub_of_pos (by omega)]; omega⟩

end Counted

/-! ## DNS guards -/

/-- The guards in an event. -/
def EngineEvent.guards : EngineEvent → Nat
  | .dnsResponse _ _ _ => 1
  | _ => 0

/-- The guards in a task. -/
def Worker.guards : Worker → Nat
  | .dns w => if w.isEnded then 0 else 1
  | _ => 0

theorem EngineEvent.guards_of_tcpKey {event : EngineEvent} {key : TcpFlowKey}
    (h : event.tcpKey = some key) : event.guards = 0 := by
  cases event <;> first | rfl | cases h

variable {id : WorkerId}

/-- **A DNS task gives its guard away with its event or releases it.** -/
theorem Worker.guards_step {config : PacketRuntimeConfig} {shared : Bool} {worker worker' : Worker}
    {step : WorkerStep} {event : Option EngineEvent}
    (h : worker.step config id shared step = some (worker', event)) :
    worker'.guards + (event.map EngineEvent.guards).getD 0 +
      (if Runtime.releasesGuard worker' event then 1 else 0) = worker.guards := by
  cases Worker.stepped h with
  | tcp hr =>
    cases event with
    | none => rfl
    | some event =>
      have hguards := EngineEvent.guards_of_tcpKey ((TcpWorker.keepsKey_step hr).2 event rfl)
      simp [Worker.guards, Runtime.releasesGuard, hguards]
  | udp hr =>
    unfold UdpWorker.step at hr
    split at hr <;> (try split at hr) <;> (try split at hr) <;> cases hr <;> rfl
  | dns hr =>
    unfold DnsWorker.step at hr
    split at hr <;> (try split at hr) <;> cases hr <;>
      simp_all [Worker.guards, Runtime.releasesGuard, DnsWorker.isEnded, DnsWorker.enter,
        EngineEvent.guards]

namespace Runtime

variable {config : PacketRuntimeConfig} {cause : Cause} {steps : List PollStep} {s s' : Runtime}

/-- The guards that are alive. -/
def dnsGuards (s : Runtime) : Nat :=
  total Worker.guards s.workers + total (fun p => p.event.guards) s.events

theorem guards_aside {workers workers' : List Worker} (h : Aside workers workers') :
    total Worker.guards workers' = total Worker.guards workers :=
  congrArg List.sum (h.map_eq fun _ _ hmoved =>
    hmoved.cases (fun _ _ _ _ => rfl) (fun _ _ _ _ => rfl) fun _ => rfl)

/-- The counter of the queries is the number of guards. -/
structure DnsCounted (limit guards active pending : Nat) : Prop where
  counts : active = guards
  bound : active ≤ limit
  room : pending ≤ limit

/-- The guard of the event that was handled is released. -/
theorem DnsCounted.release {limit guards active pending : Nat}
    (h : DnsCounted limit (guards + 1) active pending) :
    DnsCounted limit guards (fetchSub active) pending := by
  have hcounts := h.counts
  have hbound := h.bound
  rw [fetchSub_of_pos (by omega)]
  exact ⟨by omega, by omega, h.room⟩

/-! ## The joint invariant -/

/-- Every resource is within its limit; `held` is the number of guards in the event
that is being handled. -/
structure Bounded (config : PacketRuntimeConfig) (held : Nat) (s : Runtime) : Prop where
  device : s.engine.device.Within config.packetQueueDepth
  inFlight : s.inFlight ≤ config.packetQueueDepth
  tcp : Counted config.maxTcpFlows s.tcp.size s.activeTcpFlows
  targets : s.udpTargets.size ≤ config.maxUdpTargets
  associations :
    Counted config.maxUdpAssociations s.udpAssociations.size s.activeUdpAssociations
  dns : DnsCounted config.maxDnsQueries (s.dnsGuards + held) s.activeDnsQueries
    s.pendingDnsResponses.length
  draining : s.drainingDeadline.isSome → s.accepting = false

theorem bounded_start (config : PacketRuntimeConfig) : Bounded config 0 (start config) where
  device := ⟨rfl, Nat.zero_le _, Nat.zero_le _⟩
  inFlight := Nat.zero_le _
  tcp := ⟨Nat.zero_le _, rfl⟩
  targets := Nat.zero_le _
  associations := ⟨Nat.zero_le _, rfl⟩
  dns := ⟨rfl, Nat.zero_le _, Nat.zero_le _⟩
  draining := nofun

theorem bounded_control {held : Nat} (hcontrol : Control s s') (h : Bounded config held s) :
    Bounded config held s' := by
  cases hcontrol with
  | mk _ _ _ _ accepting deadline _ _ _ _ _ _ _ _ haccepting =>
    refine { h with draining := ?_ }
    intro hdraining
    rcases haccepting with hfalse | ⟨hsame, hdeadline⟩
    exacts [hfalse, hsame.trans (h.draining (hdeadline ▸ hdraining))]

variable {event : EngineEvent} {key : TcpFlowKey} {id : WorkerId} {good : Runtime → Action → Prop}

/-- An event that carries no guard joins the queue. -/
theorem Bounded.posted (h : Bounded config 0 s) (sender : Sender) (hevent : event.guards = 0) :
    Bounded config 0 (s.posted sender event) := by
  have hguards : (s.posted sender event).dnsGuards = s.dnsGuards := by
    simp [dnsGuards, Runtime.posted, hevent]
  exact { h with dns := hguards.symm ▸ h.dns }

theorem bounded_reader (hreader : ReaderEffect config s s') (h : Bounded config 0 s) :
    Bounded config 0 s' := by
  cases hreader with
  | reported event hevent _ =>
    have hended : Bounded config 0 { s with reader := .ended } := { h with }
    exact hended.posted .reader (by rcases hevent with rfl | rfl <;> rfl)
  | _ => exact { h with }

theorem bounded_writer (hwriter : WriterEffect config s s') (h : Bounded config 0 s) :
    Bounded config 0 s' := by
  have hflight := h.inFlight
  induction hwriter with
  | panicked | emptied _ => exact { h with inFlight := Nat.zero_le _ }
  | received hphase hegress =>
    refine { h with inFlight := ?_ }
    simp only [inFlight, hphase, hegress, List.length_cons] at hflight ⊢
    omega
  | ended hphase | wrote hphase | failed hphase =>
    refine { h with inFlight := ?_ }
    simp only [inFlight, hphase] at hflight ⊢
    omega
  | reported _ _ _ ih => exact ih.posted .writer rfl

theorem bounded_handled (hhandled : Handled config s event s') (h : Bounded config event.guards s) :
    Bounded config 0 s' := by
  have hguards : s'.dnsGuards = s.dnsGuards := by
    rw [dnsGuards, guards_aside (touched_handled hhandled).aside, (kept_handled hhandled).1,
      dnsGuards]
  -- an event without a guard leaves the count of the guards alone
  have hkept : event.guards = 0 → DnsCounted config.maxDnsQueries (s'.dnsGuards + 0)
      s.activeDnsQueries s.pendingDnsResponses.length := by
    intro hnone
    rw [hguards, ← hnone]
    exact h.dns
  have hnone : (∀ target app response, event ≠ .dnsResponse target app response) →
      event.guards = 0 := by
    intro hother
    cases event <;> first | rfl | exact absurd rfl (hother _ _ _)
  cases hhandled with
  | control _ hcontrol hother =>
    have hsame : Bounded config 0 s := { h with dns := hguards ▸ hkept (hnone hother) }
    exact bounded_control hcontrol hsame
  | dropped hother _ => exact { h with dns := hkept (hnone hother) }
  | opened hkey | data hkey _ | done hkey | failed hkey =>
    exact { h with tcp := h.tcp.update hkey _ }
  | dataDropped _ | responseDropped => exact { h with dns := hkept rfl }
  | remoteFin _ => exact { h with }
  | response hkey _ => exact { h with associations := h.associations.update hkey _ }
  | disassociated hkey =>
    have hdns := hkept rfl
    rw [removeUdpAssociation_eq hkey] at hdns ⊢
    exact { h with associations := h.associations.erase hkey, dns := hdns }
  | dnsQueued hroom =>
    refine { h with dns := { h.dns.release with room := ?_ } }
    simp only [List.length_append, List.length_singleton]
    exact hroom
  | dnsDropped => exact { h with dns := h.dns.release }

theorem Bounded.taken (h : Bounded config 0 s) {posted : Posted} {rest : List Posted}
    (hevents : s.events = posted :: rest) :
    Bounded config posted.event.guards { s with events := rest } := by
  have hguards : s.dnsGuards =
      ({ s with events := rest } : Runtime).dnsGuards + posted.event.guards := by
    simp only [dnsGuards, hevents, total_cons]
    omega
  exact { h with dns := hguards ▸ h.dns }

/-- **Every change keeps every resource within its limit.** -/
theorem bounded_change (hchange : Change config cause s s') (h : Bounded config 0 s) :
    Bounded config 0 s' := by
  -- the actor does not change the guards of the tasks
  have hguards : Touched s.workers s'.workers → s'.events = s.events →
      DnsCounted config.maxDnsQueries (s'.dnsGuards + 0) s.activeDnsQueries
        s.pendingDnsResponses.length := by
    intro htouched hevents
    rw [dnsGuards, guards_aside htouched.aside, hevents]
    exact h.dns
  cases hchange with
  | control hcontrol => exact bounded_control hcontrol h
  | reader hreader => exact bounded_reader hreader h
  | writer hwriter => exact bounded_writer hwriter h
  | event hevents hhandled => exact bounded_handled hhandled (h.taken hevents)
  | admitted _ hroom => exact { h with device := h.device.push hroom _ }
  | polled _ hpoll => exact { h with device := Engine.within_poll hpoll h.device }
  | unused _ hincoming _ hpoll =>
    have hdevice : _ → BoundedDevice.Within _ config.packetQueueDepth := Engine.within_poll hpoll
    refine { h with device := hdevice ?_ }
    rcases hincoming with rfl | ⟨packet, _, hroom, rfl⟩
    exacts [h.device, h.device.push hroom packet]
  | touched hkey =>
    refine { h with targets := ?_ }
    rw [Table.size_insert_of_mem hkey]
    exact h.targets
  | bound hkey _ hroom _ =>
    refine { h with targets := ?_ }
    rwa [Table.size_insert_of_not_mem hkey]
  | driven hkey _ hworker =>
    have hdns := hguards (touched_driven hworker _) (by rw [applyDrive_eq])
    rw [applyDrive_eq] at hdns ⊢
    exact { h with tcp := h.tcp.update hkey _, dns := hdns }
  | removed hkey =>
    have hdns := hguards (touched_removeTcp hkey) (by rw [removeTcp_eq hkey])
    rw [removeTcp_eq hkey] at hdns ⊢
    exact { h with tcp := h.tcp.erase hkey, dns := hdns }
  | queried _ _ hroom =>
    refine { h with dns := ⟨?_, hroom, h.dns.room⟩ }
    have hactive : s.activeDnsQueries = s.dnsGuards := h.dns.counts
    simp only [dnsGuards, spawn, total_append, total_cons, total_nil, Worker.guards,
      DnsWorker.isEnded, hactive]
    simp
    omega
  | @associated key hkey _ hroom =>
    refine { h with associations := h.associations.insert hkey hroom _, dns := ?_ }
    have hguards : (s.startUdpWorker key).dnsGuards = s.dnsGuards := by
      simp [dnsGuards, startUdpWorker, spawn, Worker.guards]
    rw [hguards]
    exact h.dns
  | forwarded _ _ => exact { h with dns := hguards (touched_forward s _ _ _) rfl }
  | responded hkey _ _ =>
    have hdns := hguards (.answered _ _) (by rw [answer_eq])
    rw [answer_eq] at hdns ⊢
    exact { h with associations := h.associations.update hkey _, dns := hdns }
  | dnsSent hpending _ =>
    have hlength := h.dns.room
    rw [hpending, List.length_cons] at hlength
    exact { h with dns := ⟨h.dns.counts, h.dns.bound, by dsimp only; omega⟩ }
  | dnsKept hpending =>
    have hlength := h.dns.room
    rw [hpending, List.length_cons] at hlength
    refine { h with dns := ⟨h.dns.counts, h.dns.bound, ?_⟩ }
    simp only [List.length_append, List.length_singleton]
    exact hlength
  | unbound hkey =>
    have hsize := Table.size_erase hkey
    have htargets := h.targets
    refine { h with targets := ?_ }
    dsimp only
    omega
  | flushed houtgoing hroom _ _ =>
    have hlength := h.device.outgoing
    rw [houtgoing, List.length_cons] at hlength
    refine { h with device := ⟨h.device.limit, h.device.incoming, ?_⟩, inFlight := ?_ }
    · dsimp only
      omega
    · simp only [inFlight, List.length_append, List.length_singleton] at hroom ⊢
      omega
  | lost houtgoing =>
    have hlength := h.device.outgoing
    rw [houtgoing, List.length_cons] at hlength
    exact { h with device := ⟨h.device.limit, h.device.incoming, by dsimp only; omega⟩ }
  | _ => exact { h with }

theorem bounded_started (hstarted : Started config steps s key s') (h : Bounded config 0 s) :
    Bounded config 0 s' := by
  cases hstarted with
  | mk _ _ _ _ _ hkey _ hsize _ hroom hpoll _ =>
    refine { h with
      device := Engine.within_poll hpoll (h.device.push hroom _)
      tcp := h.tcp.insert hkey hsize _
      dns := ?_ }
    have hguards : total Worker.guards (s.workers ++ [.tcp (.start key)]) =
        total Worker.guards s.workers := by
      simp [Worker.guards]
    simp only [dnsGuards, startTcpWorker, spawn, hguards]
    exact h.dns

/-- The counter follows the guard of a DNS task. -/
theorem DnsCounted.worker {limit : Nat} {worker worker' : Worker} {step : WorkerStep}
    {event : Option EngineEvent}
    (h : DnsCounted limit s.dnsGuards s.activeDnsQueries s.pendingDnsResponses.length)
    (hget : s.workers[id]? = some worker)
    (hstep : worker.step config id (s.udpDnsCancel || s.cancel) step = some (worker', event)) :
    DnsCounted limit
      ((s.setWorker id worker' event).dnsGuards + (event.map EngineEvent.guards).getD 0)
      (s.setWorker id worker' event).activeDnsQueries s.pendingDnsResponses.length := by
  have hguards := Worker.guards_step hstep
  have hset := total_set Worker.guards hget worker'
  have hle := le_total Worker.guards (List.mem_of_getElem? hget)
  have hcounts := h.counts
  have hbound := h.bound
  simp only [dnsGuards] at hcounts
  cases hrelease : releasesGuard worker' event with
  | true =>
    rw [hrelease, if_pos rfl] at hguards
    have hsub := fetchSub_of_pos (n := s.activeDnsQueries) (by omega)
    refine ⟨?_, ?_, h.room⟩
    · simp only [dnsGuards, setWorker, hrelease, if_true, hsub]
      omega
    · simp only [setWorker, hrelease, if_true, hsub]
      omega
  | false =>
    rw [hrelease, if_neg Bool.false_ne_true] at hguards
    refine ⟨?_, ?_, h.room⟩
    · simp only [dnsGuards, setWorker, hrelease, if_neg Bool.false_ne_true]
      omega
    · simp only [setWorker, hrelease, if_neg Bool.false_ne_true]
      exact hbound

theorem bounded_worker (hworker : WorkerEffect config s id s') (h : Bounded config 0 s) :
    Bounded config 0 s' := by
  cases hworker with
  | quiet hget hstep => exact { h with dns := h.dns.worker hget hstep }
  | @sent worker worker' _ event hget hstep _ =>
    have hdns := h.dns.worker hget hstep
    refine { h with dns := ?_ }
    have hguards : ((s.setWorker id worker' (some event)).posted (.worker id) event).dnsGuards =
        (s.setWorker id worker' (some event)).dnsGuards + event.guards := by
      simp only [dnsGuards, posted, total_append, total_cons, total_nil]
      omega
    rwa [hguards]

theorem bounded_of_reach (h : (system config).ReachBy good s) : Bounded config 0 s :=
  reach_invariant (bounded_start config) bounded_change bounded_started bounded_worker h

/-! ## The socket set -/

section Listed

variable {κ α : Type} [DecidableEq κ] {t : Table κ α} {handle : α → SocketHandle}
  {g : SocketHandle} {k : κ} {a : α}

/-- An entry of the table holds the socket. -/
def Listed (t : Table κ α) (handle : α → SocketHandle) (g : SocketHandle) : Prop :=
  ∃ k a, t.lookup k = some a ∧ handle a = g

theorem Listed.update (h : Listed t handle g) (hk : t.lookup k = some a) {a' : α}
    (hhandle : handle a' = handle a) : Listed (t.insert k a') handle g := by
  obtain ⟨k', b, hb, rfl⟩ := h
  by_cases heq : k' = k
  · subst heq
    cases hk.symm.trans hb
    exact ⟨k', a', AList.lookup_insert t, hhandle⟩
  · exact ⟨k', b, (AList.lookup_insert_ne heq).trans hb, rfl⟩

theorem Listed.insert (h : Listed t handle g) (hk : t.lookup k = none) (a : α) :
    Listed (t.insert k a) handle g := by
  obtain ⟨k', b, hb, rfl⟩ := h
  have hne : k' ≠ k := by
    rintro rfl
    cases hk.symm.trans hb
  exact ⟨k', b, (AList.lookup_insert_ne hne).trans hb, rfl⟩

theorem listed_insert (t : Table κ α) (handle : α → SocketHandle) (k : κ) (a : α) :
    Listed (t.insert k a) handle (handle a) :=
  ⟨k, a, AList.lookup_insert t, rfl⟩

theorem Listed.erase (h : Listed t handle g) (hk : t.lookup k = some a) (hne : g ≠ handle a) :
    Listed (t.erase k) handle g := by
  obtain ⟨k', b, hb, rfl⟩ := h
  have hkey : k' ≠ k := by
    rintro rfl
    cases hk.symm.trans hb
    exact hne rfl
  exact ⟨k', b, (AList.lookup_erase_ne hkey).trans hb, rfl⟩

end Listed

/-- A flow or a target holds the socket. -/
def Referenced (s : Runtime) (g : SocketHandle) : Prop :=
  Listed s.tcp TcpEntry.handle g ∨ Listed s.udpTargets UdpTargetEntry.handle g

/-- No socket is left behind. -/
def Tight (s : Runtime) : Prop := ∀ g, (s.engine.sockets.kind g).isSome → s.Referenced g

theorem Tight.of_eq (h : s.Tight) (hkind : s'.engine.sockets.kind = s.engine.sockets.kind)
    (htcp : s'.tcp = s.tcp) (hudp : s'.udpTargets = s.udpTargets) : s'.Tight := by
  intro g hg
  rw [Referenced, htcp, hudp]
  exact h g (hkind ▸ hg)

theorem Tight.updateTcp {entry entry' : TcpEntry} (h : s.Tight)
    (hkind : s'.engine.sockets.kind = s.engine.sockets.kind)
    (htcp : s'.tcp = s.tcp.insert key entry') (hudp : s'.udpTargets = s.udpTargets)
    (hkey : s.tcp.lookup key = some entry) (hhandle : entry'.handle = entry.handle) : s'.Tight := by
  intro g hg
  rw [Referenced, htcp, hudp]
  rcases h g (hkind ▸ hg) with hlisted | hlisted
  exacts [.inl (hlisted.update hkey hhandle), .inr hlisted]

theorem tight_handled (hhandled : Handled config s event s') (h : s.Tight) : s'.Tight := by
  cases hhandled with
  | control _ hcontrol _ =>
    cases hcontrol
    exact h.of_eq rfl rfl rfl
  | opened hkey | data hkey _ | done hkey => exact h.updateTcp rfl rfl rfl hkey rfl
  | dataDropped _ | responseDropped =>
    rw [answer_eq]
    exact h.of_eq rfl rfl rfl
  | remoteFin _ => exact h.of_eq (SocketSet.kind_modifyTcp _ _ _) rfl rfl
  | failed hkey => exact h.updateTcp (SocketSet.kind_modifyTcp _ _ _) rfl rfl hkey rfl
  | disassociated hkey =>
    rw [removeUdpAssociation_eq hkey]
    exact h.of_eq rfl rfl rfl
  | _ => exact h.of_eq rfl rfl rfl

/-- **A socket goes where its entry goes.** -/
theorem tight_change (hchange : Change config cause s s') (h : s.Tight) : s'.Tight := by
  cases hchange with
  | control hcontrol =>
    cases hcontrol
    exact h.of_eq rfl rfl rfl
  | reader hreader => cases hreader <;> exact h.of_eq rfl rfl rfl
  | writer hwriter =>
    rw [writer_eq hwriter]
    exact h.of_eq rfl rfl rfl
  | @event _ rest _ _ hhandled =>
    have htaken : Tight { s with events := rest } := h.of_eq rfl rfl rfl
    exact tight_handled hhandled htaken
  | polled _ hpoll => exact h.of_eq (Engine.kind_poll hpoll) rfl rfl
  | unused _ _ _ hpoll => exact h.of_eq (kind_unused hpoll) rfl rfl
  | touched hkey =>
    intro g hg
    rcases h g hg with hlisted | hlisted
    exacts [.inl hlisted, .inr (hlisted.update hkey rfl)]
  | @bound target socket hkey _ _ _ =>
    intro g hg
    by_cases hnew : g = (s.engine.sockets.add (.udp socket)).2
    · exact .inr (hnew ▸ listed_insert _ UdpTargetEntry.handle _ _)
    dsimp only at hg
    rw [SocketSet.kind_add, if_neg hnew] at hg
    rcases h g hg with hlisted | hlisted
    exacts [.inl hlisted, .inr (hlisted.insert hkey _)]
  | @driven _ entry socket worker hkey _ _ =>
    have hsame := (TcpDrive.same_drive config.tcpChannelDepth
      ⟨entry, socket, worker, none⟩).handle
    rw [applyDrive_eq]
    exact h.updateTcp (SocketSet.kind_modifyTcp _ _ _) rfl rfl hkey hsame
  | @removed _ entry hkey =>
    rw [removeTcp_eq hkey]
    intro g hg
    dsimp only at hg
    rw [SocketSet.kind_remove] at hg
    split at hg
    · cases hg
    rename_i hne
    rcases h g hg with hlisted | hlisted
    exacts [.inl (hlisted.erase hkey hne), .inr hlisted]
  | received _ => exact h.of_eq (SocketSet.kind_modifyUdp _ _ _) rfl rfl
  | responded _ _ hsend =>
    rw [answer_eq]
    exact h.of_eq (kind_trySendUdpResponse hsend) rfl rfl
  | dnsSent _ hsend => exact h.of_eq (kind_trySendUdpResponse hsend) rfl rfl
  | unbound hkey =>
    intro g hg
    simp only [removeSocket] at hg
    rw [SocketSet.kind_remove] at hg
    split at hg
    · cases hg
    rename_i hne
    rcases h g hg with hlisted | hlisted
    exacts [.inl hlisted, .inr (hlisted.erase hkey hne)]
  | _ =>
    exact h.of_eq rfl rfl rfl

theorem tight_started (hstarted : Started config steps s key s') (h : s.Tight) : s'.Tight := by
  cases hstarted with
  | @mk _ _ socket engine _ _ _ _ _ hkey _ _ _ _ hpoll _ =>
    intro g hg
    by_cases hnew : g = (s.engine.sockets.add (.tcp socket)).2
    · exact .inl (hnew ▸ listed_insert _ TcpEntry.handle _ _)
    have hkind : engine.sockets.kind = SocketSet.kind (s.engine.sockets.add (.tcp socket)).1 :=
      Engine.kind_poll hpoll
    simp only [startTcpWorker, spawn] at hg
    rw [hkind, SocketSet.kind_add, if_neg hnew] at hg
    rcases h g hg with hlisted | hlisted
    exacts [.inl (hlisted.insert hkey _), .inr hlisted]

theorem tight_of_reach (h : (system config).ReachBy good s) : s.Tight := by
  refine reach_invariant (I := Tight) nofun tight_change tight_started ?_ h
  intro s id s' hworker hs
  cases hworker <;> exact hs.of_eq rfl rfl rfl

/-- The sockets are those of the flows and of the targets. -/
theorem kind_isSome_iff (h : (system config).ReachBy good s) (g : SocketHandle) :
    (s.engine.sockets.kind g).isSome ↔ s.Referenced g := by
  have hplaced := placed_of_reach h
  constructor
  · exact tight_of_reach h g
  rintro (⟨k, e, he, rfl⟩ | ⟨k, e, he, rfl⟩)
  · rw [hplaced.tcp.valid he]
    rfl
  · rw [hplaced.udp.valid he]
    rfl

/-- Inside `handle_packet` there is at most one more, the listener. -/
theorem kind_prepareTcp (config : PacketRuntimeConfig) (s : Runtime) (key : TcpFlowKey)
    (newSyn : Bool) (g : SocketHandle) :
    ((s.prepareTcp config key newSyn).1.engine.sockets.kind g).isSome ↔
      (s.engine.sockets.kind g).isSome ∨ (s.prepareTcp config key newSyn).2 = some (key, g) := by
  unfold prepareTcp addTcpListener
  split
  · cases TcpSocket.listen config.tcpBufferBytes key.target with
    | none => simp
    | some socket =>
      dsimp only
      rw [SocketSet.kind_add]
      by_cases hg : g = (s.engine.sockets.add (.tcp socket)).2
      · simp [hg]
      rw [if_neg hg]
      have hne : ¬ (s.engine.sockets.add (.tcp socket)).2 = g := fun h => hg h.symm
      simp [hne]
  · simp

/-! ## Draining -/

section

variable {κ α : Type} [DecidableEq κ] {t t' : Table κ α}

/-- Every key of the one table is a key of the other. -/
def KeysWithin (t' t : Table κ α) : Prop := ∀ k, (t'.lookup k).isSome → (t.lookup k).isSome

theorem KeysWithin.of_eq (h : t' = t) : KeysWithin t' t := by
  intro k hk
  exact h ▸ hk

theorem keysWithin_insert {k : κ} {a : α} (hk : t.lookup k = some a) (a' : α) :
    KeysWithin (t.insert k a') t := by
  intro k' hk'
  obtain ⟨b, hb⟩ := Option.isSome_iff_exists.mp hk'
  rcases Table.lookup_insert_eq_some hb with ⟨rfl, -⟩ | ⟨-, hb⟩
  · rw [hk]
    rfl
  · rw [hb]
    rfl

theorem keysWithin_erase (t : Table κ α) (k : κ) : KeysWithin (t.erase k) t := by
  intro k' hk'
  obtain ⟨b, hb⟩ := Option.isSome_iff_exists.mp hk'
  rw [(Table.lookup_erase_eq_some hb).2]
  rfl

end

/-- The runtime has begun to drain. -/
def Draining (s : Runtime) : Prop := s.accepting = false ∧ s.drainingDeadline.isSome

/-- No flow, target, association or query is new: each of them but a target comes with
a task of its own. -/
structure NoneAdded (s s' : Runtime) : Prop where
  tcp : KeysWithin s'.tcp s.tcp
  targets : KeysWithin s'.udpTargets s.udpTargets
  associations : KeysWithin s'.udpAssociations s.udpAssociations
  workers : s'.workers.length = s.workers.length
  draining : s.Draining → s'.Draining

namespace NoneAdded

theorem of_eq (htcp : s'.tcp = s.tcp) (hudp : s'.udpTargets = s.udpTargets)
    (hassociations : s'.udpAssociations = s.udpAssociations)
    (hworkers : s'.workers.length = s.workers.length) (hdraining : s.Draining → s'.Draining) :
    NoneAdded s s' :=
  ⟨.of_eq htcp, .of_eq hudp, .of_eq hassociations, hworkers, hdraining⟩

theorem refl (s : Runtime) : NoneAdded s s := of_eq rfl rfl rfl rfl id

theorem trans {s'' : Runtime} (h : NoneAdded s s') (h' : NoneAdded s' s'') : NoneAdded s s'' where
  tcp k hk := h.tcp k (h'.tcp k hk)
  targets k hk := h.targets k (h'.targets k hk)
  associations k hk := h.associations k (h'.associations k hk)
  workers := h'.workers.trans h.workers
  draining hs := h'.draining (h.draining hs)

end NoneAdded

theorem noneAdded_answer (s : Runtime) (accepted : Option WorkerId) (ok : Bool) :
    NoneAdded s (s.answer accepted ok) := by
  have hworkers := (Touched.answer s accepted ok).aside.length_eq
  rw [answer_eq]
  exact .of_eq rfl rfl rfl hworkers id

theorem noneAdded_control (h : Control s s') : NoneAdded s s' := by
  cases h with
  | mk _ _ _ _ _ _ _ _ _ _ _ _ _ hdraining haccepting =>
    refine .of_eq rfl rfl rfl rfl ?_
    rintro ⟨hrefused, hdeadline⟩
    refine ⟨?_, hdraining hdeadline⟩
    rcases haccepting with hfalse | ⟨hsame, -⟩
    exacts [hfalse, hsame.trans hrefused]

theorem noneAdded_handled (h : Handled config s event s') : NoneAdded s s' := by
  cases h with
  | control _ hcontrol _ => exact noneAdded_control hcontrol
  | opened hkey | data hkey _ | done hkey | failed hkey =>
    exact { NoneAdded.refl s with tcp := keysWithin_insert hkey _ }
  | dataDropped _ | responseDropped => exact noneAdded_answer s _ _
  | response hkey _ => exact { NoneAdded.refl s with associations := keysWithin_insert hkey _ }
  | disassociated hkey =>
    have hworkers := (touched_removeUdpAssociation hkey).aside.length_eq
    rw [removeUdpAssociation_eq hkey]
    exact ⟨.of_eq rfl, .of_eq rfl, keysWithin_erase _ _, hworkers, id⟩
  | dropped | remoteFin | dnsQueued | dnsDropped => exact .of_eq rfl rfl rfl rfl id

/-- **A runtime that does not accept adds nothing.** -/
theorem noneAdded_change (hdraining : s.Draining) (h : Change config cause s s') :
    NoneAdded s s' := by
  have hrefused : s.accepting ≠ true := by simp [hdraining.1]
  cases h with
  | control hcontrol => exact noneAdded_control hcontrol
  | reader hreader => cases hreader <;> exact .of_eq rfl rfl rfl rfl id
  | writer hwriter =>
    rw [writer_eq hwriter]
    exact .of_eq rfl rfl rfl rfl id
  | @event _ rest _ _ hhandled =>
    have htaken : NoneAdded s { s with events := rest } := .of_eq rfl rfl rfl rfl id
    exact htaken.trans (noneAdded_handled hhandled)
  | touched hkey => exact { NoneAdded.refl s with targets := keysWithin_insert hkey _ }
  | bound _ hopen _ _ | queried hopen _ _ | associated _ hopen _ => exact absurd hopen hrefused
  | @driven key entry socket worker hkey _ hworker =>
    have hworkers := (@touched_driven s key entry socket worker hworker
      config.tcpChannelDepth).aside.length_eq
    rw [applyDrive_eq]
    exact ⟨keysWithin_insert hkey _, .of_eq rfl, .of_eq rfl, hworkers, id⟩
  | removed hkey =>
    have hworkers := (touched_removeTcp hkey).aside.length_eq
    rw [removeTcp_eq hkey]
    exact ⟨keysWithin_erase _ _, .of_eq rfl, .of_eq rfl, hworkers, id⟩
  | forwarded _ _ => exact .of_eq rfl rfl rfl (List.length_modify _ _ _) id
  | responded hkey _ _ =>
    refine NoneAdded.trans ?_ (noneAdded_answer _ _ true)
    exact ⟨.of_eq rfl, .of_eq rfl, keysWithin_insert hkey _, rfl, id⟩
  | unbound _ => exact ⟨.of_eq rfl, keysWithin_erase _ _, .of_eq rfl, rfl, id⟩
  | _ => exact .of_eq rfl rfl rfl rfl id

theorem noneAdded_changes (hdraining : s.Draining) (h : Changes config cause s s') :
    NoneAdded s s' := by
  induction h with
  | refl => exact .refl s
  | tail _ hlast ih => exact ih.trans (noneAdded_change (ih.draining hdraining) hlast)

/-- **While the runtime drains, no step adds anything.** -/
theorem noneAdded_next {action : Action} (hreach : (system config).Reach s)
    (hdraining : s.drainingDeadline.isSome) (hnext : next config s action = some s') :
    NoneAdded s s' := by
  have hrefused := (bounded_of_reach hreach).draining hdraining
  rcases next_changes hreach hnext with hchanges | ⟨steps, key, -, hstarted⟩ | ⟨id, step, -, hstep⟩
  · exact noneAdded_changes ⟨hrefused, hdraining⟩ hchanges
  · cases hstarted with
    | mk _ _ _ _ _ _ hopen _ _ _ _ _ =>
      cases hrefused.symm.trans hopen
  · obtain ⟨_, _, _, -, -, rfl⟩ := stepWorker_eq_some hstep
    exact .of_eq rfl rfl rfl List.length_set (fun h => h)

/-! ## All limits -/

/-- The limits of the packet runtime in one state. -/
structure WithinLimits (config : PacketRuntimeConfig) (s : Runtime) : Prop where
  tcpFlows : s.tcp.size ≤ config.maxTcpFlows
  udpTargets : s.udpTargets.size ≤ config.maxUdpTargets
  udpAssociations : s.udpAssociations.size ≤ config.maxUdpAssociations
  pendingDns : s.pendingDnsResponses.length ≤ config.maxDnsQueries
  dnsGuards : s.dnsGuards ≤ config.maxDnsQueries
  /-- The counters wrap around at zero, so none of them has underflowed. -/
  activeDns : s.activeDnsQueries = s.dnsGuards
  activeTcp : s.activeTcpFlows = s.tcp.size
  activeUdp : s.activeUdpAssociations = s.udpAssociations.size
  incoming : s.engine.device.incoming.length ≤ config.packetQueueDepth
  outgoing : s.engine.device.outgoing.length ≤ config.packetQueueDepth
  inFlight : s.inFlight ≤ config.packetQueueDepth
  sockets : ∀ g, (s.engine.sockets.kind g).isSome ↔ s.Referenced g
  /-- The sockets inside `handle_packet`, before and after its poll. -/
  listener : ∀ (key : TcpFlowKey) (newSyn : Bool) (device : BoundedDevice) (steps : List PollStep)
    (engine : Engine),
    Engine.poll ⟨device, (s.prepareTcp config key newSyn).1.engine.sockets⟩ steps = some engine →
    ∀ g, (engine.sockets.kind g).isSome ↔
      s.Referenced g ∨ (s.prepareTcp config key newSyn).2 = some (key, g)
  draining : s.drainingDeadline.isSome → ∀ action s', next config s action = some s' →
    s'.drainingDeadline.isSome ∧ NoneAdded s s'

/-- **Every resource of the packet runtime stays within its limit**, in every run. -/
theorem resources_bounded (h : (system config).Reach s) : s.WithinLimits config := by
  have hbounded := bounded_of_reach h
  have hdns : s.activeDnsQueries = s.dnsGuards := hbounded.dns.counts
  refine {
    tcpFlows := hbounded.tcp.bound
    udpTargets := hbounded.targets
    udpAssociations := hbounded.associations.bound
    pendingDns := hbounded.dns.room
    dnsGuards := hdns ▸ hbounded.dns.bound
    activeDns := hdns
    activeTcp := hbounded.tcp.counts
    activeUdp := hbounded.associations.counts
    incoming := hbounded.device.incoming
    outgoing := hbounded.device.outgoing
    inFlight := hbounded.inFlight
    sockets := kind_isSome_iff h
    listener := ?_
    draining := ?_ }
  · intro key newSyn device steps engine hpoll g
    have hkind := Engine.kind_poll hpoll
    rw [hkind, kind_prepareTcp, kind_isSome_iff h]
  intro hdraining action s' hnext
  have hnone := noneAdded_next h hdraining hnext
  exact ⟨(hnone.draining ⟨hbounded.draining hdraining, hdraining⟩).2, hnone⟩

/-- Four flows whose answers fill the queue of the device and the way to the writer. -/
theorem resources_bounded_filled : ∃ s : Runtime, (system QueuedSyn.shallow).Reach s ∧
    s.tcp.size = 4 ∧ s.inFlight = QueuedSyn.shallow.packetQueueDepth ∧
    s.engine.device.outgoing.length = QueuedSyn.shallow.packetQueueDepth ∧
    s.WithinLimits QueuedSyn.shallow := by
  obtain ⟨s, hreach, hsize, hflight, hqueue⟩ := (system QueuedSyn.shallow).exists_reach
    (fun s => s.tcp.size = 4 ∧ s.inFlight = 2 ∧ s.engine.device.outgoing.length = 2)
    QueuedSyn.filled (by decide +kernel)
  exact ⟨s, hreach, hsize, hflight, hqueue, resources_bounded hreach⟩

end Runtime
end Tun
end Maverick
