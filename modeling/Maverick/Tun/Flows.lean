import Maverick.Tun.Tending

/-!
# What happens to one TCP flow

A TCP flow is an entry of the actor, the socket behind its handle and the worker at
the other end of its channels.  The elementary changes of the runtime are read off
here for a single flow.

* `FlowChange` — what one change can do to a flow: the engine moves its socket, the
  actor closes or aborts it, updates the entry, answers the worker or drives the flow.
* `Attached` — every entry has a worker of its own key, which it has not released.
* `flow_change` — every change of the runtime is one of these.
* `attached_of_reach` — in every run, every flow has its socket and its worker.
-/

namespace Maverick
namespace Tun

open Lib

/-! ## Flows -/

/-- One TCP flow. -/
structure Flow where
  entry : TcpEntry
  socket : TcpSocket
  worker : TcpWorker

namespace Flow

/-- One turn of the loop of `drive_tcp` for the flow. -/
def drive (depth : Nat) (f : Flow) : Flow :=
  let d := Runtime.TcpDrive.drive depth ⟨f.entry, f.socket, f.worker, none⟩
  ⟨d.entry, d.socket, { d.worker with cancelled := d.worker.cancelled || d.finished }⟩

end Flow

/-- What one change does to a flow. -/
inductive FlowChange (depth : Nat) (f : Flow) : Flow → Prop where
  | updated {entry : TcpEntry} : entry.localFinSent = f.entry.localFinSent →
      FlowChange depth f { f with entry := entry }
  | moved {packet : Option Packet} {socket : TcpSocket} : f.socket.polls packet socket →
      FlowChange depth f { f with socket := socket }
  | closed : FlowChange depth f { f with socket := f.socket.close }
  | aborted : FlowChange depth f { f with socket := f.socket.abort }
  | answered (ok : Bool) : FlowChange depth f { f with worker := f.worker.answer ok }
  | driven : FlowChange depth f (f.drive depth)

abbrev FlowChanges (depth : Nat) : Flow → Flow → Prop := Relation.ReflTransGen (FlowChange depth)

namespace Runtime

variable {config : PacketRuntimeConfig} {cause : Cause} {steps : List PollStep} {s s' : Runtime}

/-- The flow with the given key. -/
def flow (s : Runtime) (key : TcpFlowKey) : Option Flow :=
  match s.tcp.lookup key with
  | none => none
  | some entry =>
    match s.engine.sockets.tcp entry.handle, s.tcpWorker entry.worker with
    | some socket, some worker => some ⟨entry, socket, worker⟩
    | _, _ => none

variable {key : TcpFlowKey} {f : Flow} {entry entry' : TcpEntry} {socket : TcpSocket} {depth : Nat}

theorem flow_eq_some :
    s.flow key = some f ↔ s.tcp.lookup key = some f.entry ∧
      s.engine.sockets.tcp f.entry.handle = some f.socket ∧
      s.tcpWorker f.entry.worker = some f.worker := by
  unfold flow
  constructor
  · intro h
    split at h
    · cases h
    split at h
    · rename_i hkey _ _ _ _ hsocket hworker
      cases h
      exact ⟨hkey, hsocket, hworker⟩
    · cases h
  · rintro ⟨hkey, hsocket, hworker⟩
    simp only [hkey, hsocket, hworker]

/-! ### The entries and their workers -/

/-- Every TCP entry has a worker of its key which it has not released, and no
association has a TCP worker. -/
structure Attached (s : Runtime) : Prop where
  tcp : ∀ {key entry}, s.tcp.lookup key = some entry →
    ∃ w, s.tcpWorker entry.worker = some w ∧ w.key = key ∧ w.senderAlive = true
  udp : ∀ {key entry}, s.udpAssociations.lookup key = some entry →
    s.tcpWorker entry.worker = none ∧ entry.worker < s.workers.length

/-- Two flows have two workers. -/
theorem Attached.key_unique (h : s.Attached) {key' : TcpFlowKey}
    (hkey : s.tcp.lookup key = some entry) (hkey' : s.tcp.lookup key' = some entry')
    (hworker : entry.worker = entry'.worker) : key = key' := by
  obtain ⟨w, hw, rfl, -⟩ := h.tcp hkey
  obtain ⟨w', hw', rfl, -⟩ := h.tcp hkey'
  rw [hworker, hw'] at hw
  cases hw
  rfl

/-! ### What a change does to a flow -/

theorem tcp_poll {engine engine' : Engine} (h : engine.poll steps = some engine')
    {handle : SocketHandle} (hget : engine.sockets.tcp handle = some socket) :
    ∃ socket', engine'.sockets.tcp handle = some socket' ∧
      Relation.ReflTransGen (fun a b => ∃ packet, TcpSocket.polls packet a b) socket socket' := by
  refine Engine.poll_invariant (I := fun e => ∃ socket', e.sockets.tcp handle = some socket' ∧
    Relation.ReflTransGen (fun a b => ∃ packet, TcpSocket.polls packet a b) socket socket') ?_ h
    ⟨socket, hget, .refl⟩
  rintro e step e' _ heffect ⟨now, hnow, hmoves⟩
  cases heffect with
  | transmit _ _ => exact ⟨now, hnow, hmoves⟩
  | receive _ _ hmoved | timer hmoved =>
    rcases Engine.tcp_moved hmoved hnow with hsame | ⟨after, -, hp, hafter⟩
    exacts [⟨now, hsame, hmoves⟩, ⟨after, hafter, hmoves.tail ⟨_, hp⟩⟩]

theorem flowChanges_of_moves (depth : Nat)
    (h : Relation.ReflTransGen (fun a b => ∃ packet, TcpSocket.polls packet a b) f.socket socket) :
    FlowChanges depth f { f with socket := socket } := by
  induction h with
  | refl => exact .refl
  | tail _ hlast ih =>
    obtain ⟨packet, hp⟩ := hlast
    exact ih.tail (.moved hp)

theorem Placed.exists_tcp (h : s.Placed) (hkey : s.tcp.lookup key = some entry) :
    ∃ socket, s.engine.sockets.tcp entry.handle = some socket := by
  have hkind := h.tcp.valid hkey
  unfold SocketSet.kind at hkind
  obtain ⟨found, hfound, hfoundKind⟩ := Option.map_eq_some_iff.mp hkind
  cases found with
  | udp socket => cases hfoundKind
  | tcp socket => exact ⟨socket, SocketSet.tcp_eq_some.mpr hfound⟩

theorem exists_flow (hplaced : s.Placed) (hattached : s.Attached)
    (hkey : s.tcp.lookup key = some entry) :
    ∃ socket worker, s.flow key = some ⟨entry, socket, worker⟩ := by
  obtain ⟨worker, hworker, -⟩ := hattached.tcp hkey
  obtain ⟨socket, hsocket⟩ := hplaced.exists_tcp hkey
  exact ⟨socket, worker, flow_eq_some.mpr ⟨hkey, hsocket, hworker⟩⟩

theorem flowChanges_answer (depth : Nat) (accepted : Option WorkerId) (ok : Bool)
    (hf : s.tcpWorker f.entry.worker = some f.worker) :
    ∃ worker, (s.answer accepted ok).tcpWorker f.entry.worker = some worker ∧
      FlowChanges depth f { f with worker := worker } := by
  rw [tcpWorker_answer, hf]
  split
  exacts [⟨_, rfl, .single (.answered ok)⟩, ⟨_, rfl, .refl⟩]

section

variable {key key' : TcpFlowKey} {f f' : Flow} {entry : TcpEntry} {socket : TcpSocket} {depth : Nat}

/-- The entry of a flow, its socket and its worker. -/
theorem flow_unique {worker : TcpWorker} (hf : s.flow key = some f)
    (hentry : s.tcp.lookup key = some entry)
    (hsocket : s.engine.sockets.tcp entry.handle = some socket)
    (hworker : s.tcpWorker entry.worker = some worker) : f = ⟨entry, socket, worker⟩ :=
  Option.some.inj (hf.symm.trans (flow_eq_some.mpr ⟨hentry, hsocket, hworker⟩))

/-- A change that leaves the flow alone. -/
theorem flowChanges_of_eq (hf : s.flow key = some f) (hf' : s'.flow key = some f')
    (htcp : s'.tcp.lookup key = s.tcp.lookup key)
    (hsocket : s'.engine.sockets.tcp f.entry.handle = s.engine.sockets.tcp f.entry.handle)
    (hworker : s'.tcpWorker f.entry.worker = s.tcpWorker f.entry.worker) :
    FlowChanges depth f f' := by
  obtain ⟨he, hk, hw⟩ := flow_eq_some.mp hf
  obtain rfl := flow_unique hf' (htcp.trans he) (hsocket.trans hk) (hworker.trans hw)
  exact .refl

/-- A change that only answers workers. -/
theorem flowChanges_answered (t : Runtime) (accepted : Option WorkerId) (ok : Bool)
    (hf : s.flow key = some f) (hf' : s'.flow key = some f')
    (htcp : s'.tcp.lookup key = s.tcp.lookup key)
    (hsocket : s'.engine.sockets.tcp f.entry.handle = s.engine.sockets.tcp f.entry.handle)
    (ht : t.tcpWorker f.entry.worker = s.tcpWorker f.entry.worker)
    (hworker : s'.tcpWorker f.entry.worker = (t.answer accepted ok).tcpWorker f.entry.worker) :
    FlowChanges depth f f' := by
  obtain ⟨he, hk, hw⟩ := flow_eq_some.mp hf
  obtain ⟨worker, hanswered, hchanges⟩ := flowChanges_answer depth accepted ok (ht.trans hw)
  obtain rfl := flow_unique hf' (htcp.trans he) (hsocket.trans hk) (hworker.trans hanswered)
  exact hchanges

/-- A change that updates an entry, in something else than whether its end was
passed on. -/
theorem flowChanges_update {entry' : TcpEntry} (hf : s.flow key = some f)
    (hf' : s'.flow key = some f') (hkey : s.tcp.lookup key' = some entry)
    (htcp : s'.tcp = s.tcp.insert key' entry') (hhandle : entry'.handle = entry.handle)
    (hentry : entry'.worker = entry.worker) (hfin : entry'.localFinSent = entry.localFinSent)
    (hsocket : s'.engine.sockets.tcp f.entry.handle = s.engine.sockets.tcp f.entry.handle)
    (hworker : s'.tcpWorker f.entry.worker = s.tcpWorker f.entry.worker) :
    FlowChanges depth f f' := by
  by_cases hne : key = key'
  · subst hne
    obtain ⟨he, hk, hw⟩ := flow_eq_some.mp hf
    cases hkey.symm.trans he
    obtain rfl := flow_unique hf' (by rw [htcp, AList.lookup_insert]) (by rw [hhandle, hsocket, hk])
      (by rw [hentry, hworker, hw])
    exact .single (.updated hfin)
  · refine flowChanges_of_eq hf hf' ?_ hsocket hworker
    rw [htcp, AList.lookup_insert_ne hne]

/-- A change of one socket by the actor. -/
theorem flowChanges_modify {g : SocketHandle} {op : TcpSocket → TcpSocket}
    (hf : s.flow key = some f) (hf' : s'.flow key = some f')
    (htcp : s'.tcp.lookup key = s.tcp.lookup key)
    (hsockets : s'.engine.sockets = s.engine.sockets.modifyTcp g op)
    (hworker : s'.tcpWorker f.entry.worker = s.tcpWorker f.entry.worker)
    (hop : FlowChange depth f { f with socket := op f.socket }) : FlowChanges depth f f' := by
  obtain ⟨he, hk, hw⟩ := flow_eq_some.mp hf
  by_cases hg : f.entry.handle = g
  · obtain rfl := flow_unique hf' (htcp.trans he)
      (by rw [hsockets, SocketSet.tcp_modifyTcp, if_pos hg, hk]; rfl) (hworker.trans hw)
    exact .single hop
  · refine flowChanges_of_eq hf hf' htcp ?_ hworker
    rw [hsockets, SocketSet.tcp_modifyTcp, if_neg hg]

/-- A change of the sockets by the engine. -/
theorem flowChanges_moves (hf : s.flow key = some f) (hf' : s'.flow key = some f')
    (htcp : s'.tcp.lookup key = s.tcp.lookup key)
    (hsocket : s'.engine.sockets.tcp f.entry.handle = some socket)
    (hmoves : Relation.ReflTransGen (fun a b => ∃ packet, TcpSocket.polls packet a b) f.socket
      socket) (hworker : s'.tcpWorker f.entry.worker = s.tcpWorker f.entry.worker) :
    FlowChanges depth f f' := by
  obtain ⟨he, hk, hw⟩ := flow_eq_some.mp hf
  obtain rfl := flow_unique hf' (htcp.trans he) hsocket (hworker.trans hw)
  exact flowChanges_of_moves _ hmoves

theorem flow_handled {event : EngineEvent} (hattached : s.Attached)
    (h : Handled config s event s') (hf : s.flow key = some f) (hf' : s'.flow key = some f') :
    FlowChanges depth f f' := by
  cases h with
  | control _ hcontrol _ =>
    cases hcontrol
    exact flowChanges_of_eq hf hf' rfl rfl rfl
  | opened hkey | data hkey _ | done hkey =>
    exact flowChanges_update hf hf' hkey rfl rfl rfl rfl rfl rfl
  | dataDropped _ => exact flowChanges_answered s _ false hf hf' rfl rfl rfl rfl
  | remoteFin _ => exact flowChanges_modify hf hf' rfl rfl rfl .closed
  | @failed key' entry hkey =>
    obtain ⟨he, hk, hw⟩ := flow_eq_some.mp hf
    -- first the entry is updated, then its socket aborted
    obtain ⟨g, hg⟩ : ∃ g, { s with
        tcp := s.tcp.insert key' { entry with workerDone := true } }.flow key = some g := by
      by_cases hne : key = key'
      · subst hne
        cases hkey.symm.trans he
        exact ⟨⟨_, f.socket, f.worker⟩, flow_eq_some.mpr ⟨AList.lookup_insert _, hk, hw⟩⟩
      · exact ⟨f, flow_eq_some.mpr ⟨(AList.lookup_insert_ne hne).trans he, hk, hw⟩⟩
    have hupdated : FlowChanges depth f g :=
      flowChanges_update hf hg hkey rfl rfl rfl rfl rfl rfl
    exact hupdated.trans (flowChanges_modify hg hf' rfl rfl rfl .aborted)
  | responseDropped => exact flowChanges_answered s _ _ hf hf' rfl rfl rfl rfl
  | @disassociated key' failed entry hkey =>
    obtain ⟨he, hk, hw⟩ := flow_eq_some.mp hf
    have hne : entry.worker ≠ f.entry.worker := by
      intro heq
      have hnone := (hattached.udp hkey).1
      rw [heq, hw] at hnone
      cases hnone
    refine flowChanges_answered s (entry.pendingResponse.bind (·.accepted)) false hf hf' ?_ ?_
      rfl ?_
    · rw [removeUdpAssociation_eq hkey]
    · rw [removeUdpAssociation_eq hkey]
    · rw [tcpWorker_removeUdpAssociation hkey, tcpWorker_release, if_neg hne]
  | _ =>
    exact flowChanges_of_eq hf hf' rfl rfl rfl

/-- The flow that is driven, and the others beside it. -/
theorem flow_driven {worker : TcpWorker} (hplaced : s.Placed) (hattached : s.Attached)
    (hkey : s.tcp.lookup key' = some entry)
    (hsocket : s.engine.sockets.tcp entry.handle = some socket)
    (hworker : s.tcpWorker entry.worker = some worker) (hf : s.flow key = some f)
    (hf' : (s.applyDrive key' (TcpDrive.drive depth ⟨entry, socket, worker, none⟩)).flow key =
      some f') : FlowChanges depth f f' := by
  obtain ⟨d, hd⟩ : ∃ d, TcpDrive.drive depth ⟨entry, socket, worker, none⟩ = d := ⟨_, rfl⟩
  have hsame := TcpDrive.same_drive depth ⟨entry, socket, worker, none⟩
  rw [hd] at hsame hf'
  have hdworker : d.entry.worker = entry.worker := hsame.entryWorker
  have hdhandle : d.entry.handle = entry.handle := hsame.handle
  obtain ⟨he, hk, hw⟩ := flow_eq_some.mp hf
  -- the state in which the worker is not yet answered
  let worker' : TcpWorker := { d.worker with cancelled := d.worker.cancelled || d.finished }
  let s₀ : Runtime := { s with
    tcp := s.tcp.insert key' d.entry
    engine.sockets := s.engine.sockets.modifyTcp d.entry.handle fun _ => d.socket }
  let t : Runtime := s₀.modifyWorker d.entry.worker fun _ => .tcp worker'
  have hworkers : ∀ i, t.tcpWorker i = if d.entry.worker = i then some worker' else s.tcpWorker i :=
    tcpWorker_replace (s := s₀) (hdworker ▸ hworker) worker'
  suffices hdriven : ∃ g, t.flow key = some g ∧ FlowChanges depth f g by
    obtain ⟨g, hg, hchanges⟩ := hdriven
    have hanswer : s.applyDrive key' d = t.answer d.accepted true := rfl
    rw [hanswer] at hf'
    refine hchanges.trans (flowChanges_answered t d.accepted true hg hf' ?_ ?_ rfl rfl) <;>
      rw [answer_eq]
  by_cases hne : key = key'
  · subst hne
    obtain rfl := flow_unique hf hkey hsocket hworker
    have hdrive : Flow.drive depth ⟨entry, socket, worker⟩ = ⟨d.entry, d.socket, worker'⟩ := by
      rw [Flow.drive, hd]
    refine ⟨_, ?_, .single .driven⟩
    rw [hdrive]
    refine flow_eq_some.mpr ⟨AList.lookup_insert _, ?_, (hworkers _).trans (if_pos rfl)⟩
    show (SocketSet.modifyTcp _ _ _).tcp _ = _
    rw [SocketSet.tcp_modifyTcp, if_pos rfl, hdhandle, hsocket]
    rfl
  · -- another flow has another socket and another worker
    have hhandle : f.entry.handle ≠ d.entry.handle := by
      rw [hdhandle]
      exact fun heq => hne (hplaced.tcp.inj he hkey heq)
    have hother : d.entry.worker ≠ f.entry.worker := by
      rw [hdworker]
      exact fun heq => hne (hattached.key_unique hkey he heq).symm
    refine ⟨f, flow_eq_some.mpr ⟨(AList.lookup_insert_ne hne).trans he, ?_, ?_⟩, .refl⟩
    · show (SocketSet.modifyTcp _ _ _).tcp _ = _
      rw [SocketSet.tcp_modifyTcp, if_neg hhandle, hk]
    · rw [hworkers, if_neg hother, hw]

/-- The flows that stay when one is removed. -/
theorem flow_removed (hplaced : s.Placed) (hattached : s.Attached)
    (hkey : s.tcp.lookup key' = some entry) (hf : s.flow key = some f)
    (hf' : (s.removeTcp key' entry.handle).flow key = some f') : FlowChanges depth f f' := by
  obtain ⟨he, hk, hw⟩ := flow_eq_some.mp hf
  have hne : key ≠ key' := by
    intro heq
    have he' := (flow_eq_some.mp hf').1
    rw [removeTcp_eq hkey] at he'
    exact (Table.lookup_erase_eq_some he').1 heq
  have hhandle : f.entry.handle ≠ entry.handle := fun heq => hne (hplaced.tcp.inj he hkey heq)
  have hother : entry.worker ≠ f.entry.worker :=
    fun heq => hne (hattached.key_unique hkey he heq).symm
  refine flowChanges_answered s (entry.pendingRemote.bind (·.accepted)) false hf hf' ?_ ?_ rfl ?_
  · rw [removeTcp_eq hkey]
    exact AList.lookup_erase_ne hne
  · rw [removeTcp_eq hkey]
    exact SocketSet.tcp_remove_of_ne hhandle
  · rw [tcpWorker_removeTcp hkey, tcpWorker_release, if_neg hother]

/-- **What a change does to a flow.** -/
theorem flow_change (hplaced : s.Placed) (hattached : s.Attached) (h : Change config cause s s')
    (hf : s.flow key = some f) (hf' : s'.flow key = some f') :
    FlowChanges config.tcpChannelDepth f f' := by
  obtain ⟨he, hk, hw⟩ := flow_eq_some.mp hf
  cases h with
  | control hcontrol =>
    cases hcontrol
    exact flowChanges_of_eq hf hf' rfl rfl rfl
  | reader hreader => cases hreader <;> exact flowChanges_of_eq hf hf' rfl rfl rfl
  | writer hwriter =>
    rw [writer_eq hwriter] at hf'
    exact flowChanges_of_eq hf hf' rfl rfl rfl
  | @event posted rest _ _ hhandled =>
    have hf₀ : { s with events := rest }.flow key = some f := hf
    have hattached₀ : { s with events := rest }.Attached := ⟨hattached.tcp, hattached.udp⟩
    exact flow_handled hattached₀ hhandled hf₀ hf'
  | polled _ hpoll =>
    obtain ⟨socket, hsocket, hmoves⟩ := tcp_poll hpoll hk
    exact flowChanges_moves hf hf' rfl hsocket hmoves rfl
  | @unused socket _ _ _ engine _ _ _ hpoll =>
    obtain ⟨moved, hmoved, hmoves⟩ := tcp_poll hpoll (SocketSet.tcp_add _ (.tcp socket) hk)
    have hne : f.entry.handle ≠ (s.engine.sockets.add (.tcp socket)).2 :=
      hplaced.tcp.ne_of_kind (by rw [SocketSet.kind_add_handle]; nofun) he
    exact flowChanges_moves hf hf' rfl ((SocketSet.tcp_remove_of_ne hne).trans hmoved) hmoves rfl
  | @bound _ socket _ _ _ _ =>
    exact flowChanges_of_eq hf hf' rfl ((SocketSet.tcp_add _ (.udp socket) hk).trans hk.symm) rfl
  | driven hkey hsocket hworker =>
    exact flow_driven hplaced hattached hkey hsocket (tcpWorker_of_getElem? hworker) hf hf'
  | removed hkey => exact flow_removed hplaced hattached hkey hf hf'
  | received _ => exact flowChanges_of_eq hf hf' rfl (SocketSet.tcp_modifyUdp _ _ _ _) rfl
  | queried _ _ _ | associated _ _ _ =>
    exact flowChanges_of_eq hf hf' rfl rfl (tcpWorker_spawn s rfl _)
  | forwarded _ _ => exact flowChanges_of_eq hf hf' rfl rfl (tcpWorker_forward s _ _ _ _)
  | @responded key' entry pending sockets _ _ hsend =>
    refine flowChanges_answered { s with
        engine.sockets := sockets
        udpAssociations := s.udpAssociations.insert key' { entry with pendingResponse := none } }
      pending.accepted true hf hf' ?_ ?_ rfl rfl
    · rw [answer_eq]
    · rw [answer_eq]
      exact tcp_trySendUdpResponse hsend _
  | dnsSent _ hsend =>
    exact flowChanges_of_eq hf hf' rfl (tcp_trySendUdpResponse hsend _) rfl
  | unbound hkey =>
    have hne := hplaced.tcp.ne_of_kind (by rw [hplaced.udp.valid hkey]; nofun) he
    exact flowChanges_of_eq hf hf' rfl (SocketSet.tcp_remove_of_ne hne) rfl
  | _ =>
    exact flowChanges_of_eq hf hf' rfl rfl rfl

end

/-! ### The workers stay attached -/

/-- A change of a flow leaves alone whose worker it is, and does not release it. -/
theorem senderAlive_flowChanges {f' : Flow} (h : FlowChanges depth f f') :
    f'.worker.key = f.worker.key ∧ f'.worker.senderAlive = f.worker.senderAlive := by
  induction h with
  | refl => exact ⟨rfl, rfl⟩
  | @tail g g' _ hlast ih =>
    suffices hstep : g'.worker.key = g.worker.key ∧
        g'.worker.senderAlive = g.worker.senderAlive from
      ⟨hstep.1.trans ih.1, hstep.2.trans ih.2⟩
    cases hlast with
    | answered ok => exact ⟨TcpWorker.key_answer ok _, TcpWorker.senderAlive_answer ok _⟩
    | driven =>
      obtain ⟨commands, -, hpush⟩ := TcpDrive.pushes_drive depth ⟨g.entry, g.socket, g.worker, none⟩
      simp only [Flow.drive, hpush]
      exact ⟨rfl, rfl⟩
    | _ => exact ⟨rfl, rfl⟩

/-- A flow that a change leaves is there before it, and changes as flows do. -/
theorem flow_of_change (hplaced : s.Placed) (hattached : s.Attached) (h : Change config cause s s')
    (hkey : s'.tcp.lookup key = some entry') :
    ∃ f f', s.flow key = some f ∧ s'.flow key = some f' ∧ f'.entry = entry' ∧
      FlowChanges config.tcpChannelDepth f f' := by
  have hkeeps := keeps_change h
  obtain ⟨entry, hentry, hworker, -⟩ := hkeeps.entry hkey
  obtain ⟨socket, worker, hf⟩ := exists_flow hplaced hattached hentry
  obtain ⟨socket', hsocket'⟩ := (hkeeps.placed hplaced).exists_tcp hkey
  obtain ⟨worker', hworker', -⟩ := (workers_change h).forward (flow_eq_some.mp hf).2.2
  have hf' : s'.flow key = some ⟨entry', socket', worker'⟩ :=
    flow_eq_some.mpr ⟨hkey, hsocket', by rw [hworker]; exact hworker'⟩
  exact ⟨_, _, hf, hf', rfl, flow_change hplaced hattached h hf hf'⟩

theorem attached_change (hplaced : s.Placed) (h : Change config cause s s') (hs : s.Attached) :
    s'.Attached where
  tcp := by
    intro key entry' hkey
    obtain ⟨f, f', hf, hf', rfl, hchanges⟩ := flow_of_change hplaced hs h hkey
    obtain ⟨w, hw, hwkey, halive⟩ := hs.tcp (flow_eq_some.mp hf).1
    rw [(flow_eq_some.mp hf).2.2] at hw
    cases hw
    obtain ⟨hsame, hsender⟩ := senderAlive_flowChanges hchanges
    exact ⟨_, (flow_eq_some.mp hf').2.2, hsame.trans hwkey, hsender.trans halive⟩
  udp := by
    intro key entry' hkey
    have htended := workers_change h
    rcases association_change h hkey with ⟨entry, hentry, hworker⟩ | ⟨-, hnew, hworkers⟩
    · obtain ⟨hnone, hold⟩ := hs.udp hentry
      rw [hworker]
      exact ⟨htended.none hnone, hold.trans_le (tasks_change h).length_le⟩
    · rw [hnew, hworkers, List.length_append]
      exact ⟨htended.none (tcpWorker_of_ge (Nat.le_refl _)), Nat.lt_succ_self _⟩

theorem attached_worker {id : WorkerId} (h : WorkerEffect config s id s') (hs : s.Attached) :
    s'.Attached := by
  have hworked := worked_worker h
  have htcp : s'.tcp = s.tcp := by cases h <;> rfl
  have hudp : s'.udpAssociations = s.udpAssociations := by cases h <;> rfl
  have hlength : s'.workers.length = s.workers.length := by
    cases h <;> exact List.length_set
  constructor
  · intro key entry hkey
    rw [htcp] at hkey
    obtain ⟨w, hw, hwkey, halive⟩ := hs.tcp hkey
    obtain ⟨w', hw', rfl | ⟨event, hsteps⟩⟩ := rel_forward (hworked.rel _) hw
    · exact ⟨w', hw', hwkey, halive⟩
    · obtain ⟨hsame, hsender, -⟩ := hsteps.ends
      exact ⟨w', hw', hsame.trans hwkey, hsender.trans halive⟩
  · intro key entry hkey
    rw [hudp] at hkey
    obtain ⟨hnone, hlt⟩ := hs.udp hkey
    refine ⟨?_, hlength ▸ hlt⟩
    cases hworked with
    | tcp hold _ hset _ =>
      rw [hset]
      split
      · rename_i hi
        rw [hi, hnone] at hold
        cases hold
      · exact hnone
    | other hsame _ _ => exact (hsame _).trans hnone

theorem attached_started (h : Started config steps s key s') (hs : s.Attached) : s'.Attached := by
  have hstarts := starts_of_started h
  have hworkers := tcpWorker_append hstarts.workers
  have hassociations : s'.udpAssociations = s.udpAssociations := by cases h; rfl
  constructor
  · intro k entry hkey
    rcases hstarts.entry hkey with ⟨rfl, hnew⟩ | hold
    · refine ⟨.start k, ?_, rfl, rfl⟩
      rw [hworkers, if_pos hnew]
    obtain ⟨w, hw, hwkey, halive⟩ := hs.tcp hold
    refine ⟨w, ?_, hwkey, halive⟩
    have hne : entry.worker ≠ s.workers.length := by
      intro heq
      rw [heq, tcpWorker_of_ge (Nat.le_refl _)] at hw
      cases hw
    rw [hworkers, if_neg hne, hw]
  · intro k entry hkey
    rw [hassociations] at hkey
    obtain ⟨hnone, hlt⟩ := hs.udp hkey
    rw [hworkers, if_neg hlt.ne, hstarts.workers, List.length_append]
    exact ⟨hnone, Nat.lt_add_right _ hlt⟩

theorem attached_start (config : PacketRuntimeConfig) :
    (start config).Placed ∧ (start config).Attached := by
  refine ⟨⟨.empty, .empty⟩, ⟨?_, ?_⟩⟩
  · intro key entry hkey
    simp [start] at hkey
  · intro key entry hkey
    simp [start] at hkey

/-- **Every flow of a reachable state has its socket and its worker.** -/
theorem attached_of_reach {good : Runtime → Action → Prop} (h : (system config).ReachBy good s) :
    s.Placed ∧ s.Attached := by
  refine reach_invariant (I := fun s => s.Placed ∧ s.Attached) (attached_start config) ?_ ?_ ?_ h
  · rintro steps s s' hchange ⟨hplaced, hattached⟩
    exact ⟨(keeps_change hchange).placed hplaced, attached_change hplaced hchange hattached⟩
  · rintro steps s key s' hstarted ⟨hplaced, hattached⟩
    exact ⟨(starts_of_started hstarted).placed hplaced, attached_started hstarted hattached⟩
  rintro s id s' hworker ⟨hplaced, hattached⟩
  refine ⟨?_, attached_worker hworker hattached⟩
  cases hworker <;> exact ⟨hplaced.tcp, hplaced.udp⟩

end Runtime
end Tun
end Maverick
