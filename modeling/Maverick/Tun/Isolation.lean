import Maverick.Tun.Placement

/-!
# TCP events and the flows they reach

Events of a TCP worker name their flow by the pair of addresses alone, and stay in
the queue when the entry of the flow is removed.  A new flow between the same two
addresses is then taken for the old one.

* `stale_event_changes_entry` — a run in which data of an ended flow is handed to
  the flow that was started after it under the same key.
* `tcp_events_isolated` — in a run that starts a flow only where no worker of an
  earlier flow with its key is left, nor an event of one, an event changes no entry
  but that of its sender, and no socket but the one of that entry.
-/

namespace Maverick
namespace Tun

open Lib

namespace Runtime

variable {config : PacketRuntimeConfig} {s s' : Runtime}

/-! ## Orderly runs -/

/-- Nothing of an earlier flow with this key is left: no worker of it is running and
no event of it is queued. -/
def Quiet (s : Runtime) (key : TcpFlowKey) : Prop :=
  (∀ w ∈ s.workers, w.liveKey ≠ some key) ∧ ∀ p ∈ s.events, p.event.tcpKey ≠ some key

instance (s : Runtime) (key : TcpFlowKey) : Decidable (s.Quiet key) :=
  inferInstanceAs (Decidable (_ ∧ _))

/-- The step starts a flow only where nothing of an earlier one is left. -/
def Orderly (config : PacketRuntimeConfig) (s : Runtime) (action : Action) : Prop :=
  ∀ s' ∈ s.next config action, ∀ key ∈ s'.tcp.keys, s.tcp.lookup key = none → s.Quiet key

instance (config : PacketRuntimeConfig) (s : Runtime) (action : Action) :
    Decidable (Orderly config s action) :=
  inferInstanceAs (Decidable (∀ s' ∈ s.next config action, _))

/-- In an orderly run what is left of a flow belongs to the worker of its entry. -/
structure Isolated (s : Runtime) : Prop where
  live : ∀ {k e} {i : WorkerId} {w : Worker}, s.tcp.lookup k = some e → s.workers[i]? = some w →
    w.liveKey = some k → i = e.worker
  sent : ∀ {k e} {p : Posted}, s.tcp.lookup k = some e → p ∈ s.events →
    p.event.tcpKey = some k → p.sender = .worker e.worker

/-! ## Steps -/

theorem Isolated.of_keeps (h : s.Isolated) (hkeeps : Keeps s s') : s'.Isolated where
  live := by
    intro k e' i w' he' hw' hk
    obtain ⟨e, he, hworker, -⟩ := hkeeps.entry he'
    obtain ⟨w, hw, hlive⟩ := hkeeps.worker hw' hk
    rw [hworker, h.live he hw hlive]
  sent := by
    intro k e' p he' hp hk
    obtain ⟨e, he, hworker, -⟩ := hkeeps.entry he'
    rw [hworker, h.sent he (hkeeps.event hp (by rw [hk]; rfl)) hk]

variable {id : WorkerId} {event : EngineEvent} {action : Action}

theorem Isolated.setWorker (h : s.Isolated) {worker worker' : Worker}
    (hget : s.workers[id]? = some worker) (hlive : worker.liveKey = worker.tcpKey)
    (hkey : worker'.tcpKey = worker.tcpKey) (event : Option EngineEvent) :
    (s.setWorker id worker' event).Isolated := by
  refine h.of_keeps ⟨fun hs => ⟨hs.tcp, hs.udp⟩, fun he => ⟨_, he, rfl, rfl⟩, ?_, fun hp _ => hp⟩
  intro i w' k hw' hk
  change (s.workers.set id worker')[i]? = some w' at hw'
  rw [List.getElem?_set] at hw'
  by_cases hi : id = i
  · subst hi
    rw [if_pos rfl] at hw'
    have hw : w' = worker' := by
      split at hw'
      · exact (Option.some.inj hw').symm
      · cases hw'
    refine ⟨worker, hget, ?_⟩
    rw [hlive, ← hkey, ← hw, Worker.tcpKey_of_liveKey hk]
  · rw [if_neg hi] at hw'
    exact ⟨w', hw', hk⟩

/-- An event that the worker of the entry sends may join the queue. -/
theorem Isolated.posted (h : s.Isolated)
    (hevent : ∀ {k e}, s.tcp.lookup k = some e → event.tcpKey = some k → id = e.worker) :
    (s.posted (.worker id) event).Isolated := by
  refine ⟨h.live, ?_⟩
  intro k e p he hp hk
  rcases List.mem_append.mp hp with hp | hp
  · exact h.sent he hp hk
  · obtain rfl := List.mem_singleton.mp hp
    exact congrArg Sender.worker (hevent he hk)

/-- **A worker sends events of the flow it was started for**, and it is the worker
of the entry if that flow still has one. -/
theorem Isolated.worker (h : s.Isolated) (hworker : WorkerEffect config s id s') : s'.Isolated := by
  cases hworker with
  | quiet hget hstep =>
    exact h.setWorker hget (Worker.liveKey_of_step hstep) (Worker.tcpKey_step hstep).1 _
  | sent hget hstep _ =>
    obtain ⟨hkey, hevent⟩ := Worker.tcpKey_step hstep
    have hlive := Worker.liveKey_of_step hstep
    refine (h.setWorker hget hlive hkey _).posted ?_
    intro k e he hk
    refine h.live he hget ?_
    rw [hlive, ← hevent _ rfl, hk]

/-- A new flow under a key of which nothing is left. -/
theorem Isolated.starts (h : s.Isolated) {key : TcpFlowKey} (hstarts : s.Starts key s')
    (hquiet : s.Quiet key) : s'.Isolated := by
  have hlive : ∀ {i : WorkerId} {w : Worker} {k}, s'.workers[i]? = some w → w.liveKey = some k →
      s.workers[i]? = some w ∨ i = s.workers.length ∧ k = key := by
    intro i w k hw hk
    rw [hstarts.workers, List.getElem?_append] at hw
    split at hw
    · exact .inl hw
    rename_i hi
    obtain rfl := List.mem_singleton.mp (List.mem_of_getElem? hw)
    have hlt := (List.getElem?_eq_some_iff.mp hw).1
    simp only [List.length_singleton] at hlt
    have hle : i ≤ s.workers.length := Nat.le_of_sub_eq_zero (Nat.lt_one_iff.mp hlt)
    exact .inr ⟨Nat.le_antisymm hle (Nat.not_lt.mp hi), (Option.some.inj hk).symm⟩
  refine ⟨?_, ?_⟩
  · intro k e i w he hw hk
    rcases hstarts.entry he with ⟨rfl, hworker⟩ | hold
    · rcases hlive hw hk with hw | ⟨hi, -⟩
      · exact absurd hk (hquiet.1 w (List.mem_of_getElem? hw))
      · rw [hworker, hi]
    rcases hlive hw hk with hw | ⟨-, rfl⟩
    · exact h.live hold hw hk
    · cases hstarts.fresh.symm.trans hold
  · intro k e p he hp hk
    rw [hstarts.events] at hp
    rcases hstarts.entry he with ⟨rfl, -⟩ | hold
    exacts [absurd hk (hquiet.2 p hp), h.sent hold hp hk]

theorem quiet_of_orderly {key : TcpFlowKey} (horderly : Orderly config s action)
    (hnext : s.next config action = some s') (hstarts : s.Starts key s') : s.Quiet key :=
  horderly s' hnext key (AList.mem_keys.mp (AList.lookup_isSome.mp hstarts.added)) hstarts.fresh

theorem isolated_next (hreach : (system config).ReachBy (Orderly config) s) (h : s.Isolated)
    (horderly : Orderly config s action) (hnext : s.next config action = some s') :
    s'.Isolated := by
  rcases next_cases hreach hnext with hkeeps | ⟨key, hstarts⟩ | ⟨id, hworker⟩
  · exact h.of_keeps hkeeps
  · exact h.starts hstarts (quiet_of_orderly horderly hnext hstarts)
  · exact h.worker hworker

theorem isolated_of_reach (h : (system config).ReachBy (Orderly config) s) : s.Isolated := by
  induction h with
  | start => exact ⟨nofun, nofun⟩
  | step hreach horderly hnext ih => exact isolated_next hreach ih horderly hnext

/-! ## Handling one event -/

theorem handleEvent_of_no_key (hkey : event.tcpKey = none) :
    (s.handleEvent config event).tcp = s.tcp ∧
      (s.handleEvent config event).engine.sockets = s.engine.sockets := by
  have hdraining : ∀ (t : Runtime) immediate, (t.beginDraining config immediate).tcp = t.tcp ∧
      (t.beginDraining config immediate).engine.sockets = t.engine.sockets := by
    intro t immediate
    unfold beginDraining
    split
    · split <;> exact ⟨rfl, rfl⟩
    · exact ⟨rfl, rfl⟩
  have hanswer : ∀ accepted ok, (s.answer accepted ok).tcp = s.tcp ∧
      (s.answer accepted ok).engine.sockets = s.engine.sockets := by
    intro accepted ok
    cases accepted <;> exact ⟨rfl, rfl⟩
  cases event with
  | packetReadFailed => exact hdraining _ true
  | packetWriteFailed => exact hdraining _ true
  | packetEof =>
    simp only [handleEvent]
    split
    exacts [⟨rfl, rfl⟩, hdraining _ false]
  | tcpOpened key => cases hkey
  | tcpData key data accepted => cases hkey
  | tcpRemoteFin key => cases hkey
  | tcpDone key failed => cases hkey
  | udpResponse key endpoint payload accepted =>
    simp only [handleEvent]
    split
    · exact hanswer _ _
    split
    · exact hanswer _ _
    split
    exacts [⟨rfl, rfl⟩, hanswer _ _]
  | udpDone key failed =>
    simp only [handleEvent, removeUdpAssociation]
    split
    exacts [⟨rfl, rfl⟩, hanswer _ _]
  | dnsResponse target app response =>
    simp only [handleEvent]
    split <;> exact ⟨rfl, rfl⟩

/-- A TCP event reaches the entry of its key and the socket of that entry, and
nothing else of the TCP flows. -/
theorem handleEvent_of_key {key : TcpFlowKey} (hkey : event.tcpKey = some key) {k : TcpFlowKey}
    (hne : k ≠ key) :
    (s.handleEvent config event).tcp.lookup k = s.tcp.lookup k ∧
      ∀ g, (∀ e, s.tcp.lookup key = some e → g ≠ e.handle) →
        (s.handleEvent config event).engine.sockets.get g = s.engine.sockets.get g := by
  cases event with
  | packetReadFailed | packetWriteFailed | packetEof => cases hkey
  | tcpOpened key' =>
    cases hkey
    simp only [handleEvent]
    cases s.tcp.lookup key with
    | none => exact ⟨rfl, fun _ _ => rfl⟩
    | some entry => exact ⟨AList.lookup_insert_ne hne, fun _ _ => rfl⟩
  | tcpData key' data accepted =>
    cases hkey
    simp only [handleEvent]
    cases s.tcp.lookup key with
    | none => exact ⟨rfl, fun _ _ => rfl⟩
    | some entry =>
      dsimp only
      split
      exacts [⟨AList.lookup_insert_ne hne, fun _ _ => rfl⟩, ⟨rfl, fun _ _ => rfl⟩]
  | tcpRemoteFin key' =>
    cases hkey
    simp only [handleEvent]
    cases hlookup : s.tcp.lookup key with
    | none => exact ⟨rfl, fun _ _ => rfl⟩
    | some entry =>
      exact ⟨rfl, fun g hg => SocketSet.get_modifyTcp_of_ne (hg entry rfl) _⟩
  | tcpDone key' failed =>
    cases hkey
    simp only [handleEvent]
    cases hlookup : s.tcp.lookup key with
    | none => exact ⟨rfl, fun _ _ => rfl⟩
    | some entry =>
      refine ⟨AList.lookup_insert_ne hne, fun g hg => ?_⟩
      cases failed with
      | false => rfl
      | true => exact SocketSet.get_modifyTcp_of_ne (hg entry rfl) _
  | _ => cases hkey

/-- An event that is not from the worker of an entry leaves the entry and its socket
as they are. -/
theorem handleEvent_other (hplaced : s.Placed) {key : TcpFlowKey} {entry : TcpEntry}
    (hentry : s.tcp.lookup key = some entry) (hother : event.tcpKey ≠ some key) :
    (s.handleEvent config event).tcp.lookup key = some entry ∧
      (s.handleEvent config event).engine.sockets.get entry.handle =
        s.engine.sockets.get entry.handle := by
  cases hkey : event.tcpKey with
  | none =>
    obtain ⟨htcp, hsockets⟩ := handleEvent_of_no_key hkey
    rw [htcp, hsockets]
    exact ⟨hentry, rfl⟩
  | some k =>
    have hne : key ≠ k := by
      rintro rfl
      exact hother hkey
    obtain ⟨htcp, hsockets⟩ := handleEvent_of_key hkey hne
    rw [htcp]
    refine ⟨hentry, hsockets _ fun e he heq => ?_⟩
    exact hne (hplaced.tcp.inj hentry he heq)

theorem stepActor_event (h : s.stepActor config .event = some s') :
    ∃ posted rest, s.events = posted :: rest ∧
      s' = ({ s with events := rest }.handleEvent config posted.event).goto .reapTasks := by
  cases stepActor_effect h with
  | select _ hselect =>
    cases hselect with
    | event hevents => exact ⟨_, _, hevents, rfl⟩

/-- **TCP events stay with their flow.**  In an orderly run, the event that the actor
takes from the queue changes neither an entry whose worker did not send it nor the
socket of that entry. -/
theorem tcp_events_isolated (config : PacketRuntimeConfig) {s s' : Runtime}
    (hs : (system config).ReachBy (Orderly config) s) {posted : Posted} {rest : List Posted}
    (hevents : s.events = posted :: rest)
    (hnext : (system config).next s (.actor .event) = some s') {key : TcpFlowKey} {entry : TcpEntry}
    (hentry : s.tcp.lookup key = some entry) (hother : posted.sender ≠ .worker entry.worker) :
    s'.tcp.lookup key = some entry ∧
      s'.engine.sockets.get entry.handle = s.engine.sockets.get entry.handle := by
  have h := isolated_of_reach hs
  obtain ⟨posted', rest', hevents', rfl⟩ := stepActor_event hnext
  obtain ⟨rfl, rfl⟩ : posted = posted' ∧ rest = rest' := by
    rw [hevents] at hevents'
    exact List.cons.inj hevents'
  have hkey : posted.event.tcpKey ≠ some key := by
    intro hkey
    exact hother (h.sent hentry (by rw [hevents]; exact List.mem_cons_self) hkey)
  have hplaced : Placed { s with events := rest } :=
    ⟨(placed_of_reach hs).tcp, (placed_of_reach hs).udp⟩
  exact handleEvent_other hplaced hentry hkey

/-! ## A key that is used again -/

namespace ReusedKey

open Sample

/-- The flow from a port of the application. -/
def key (port : UInt16) : TcpFlowKey := Sample.key port 443

def socket (port : UInt16) (state : TcpState) : Socket := Sample.socket (64 * 1024) port 443 state

/-- A SYN from a port: the next free socket takes it. -/
def syn (port : UInt16) (handle : SocketHandle) : List Action :=
  arrival (segment port 443 true false false)
    [.receive (some (handle, socket port .synReceived))]

/-- The application opens a flow, and the worker has a connection for it. -/
def opened : List Action :=
  syn 40000 0 ++ turn [key 40000] ++
    arrival (segment 40000 443 false true false) [.receive (some (0, socket 40000 .established))] ++
    turn [key 40000] ++
    [.worker 0 (.tcp .opened), .worker 0 (.tcp .sent)]

/-- The application resets the flow, and its entry is removed. -/
def reset : List Action :=
  arrival (segment 40000 443 false true true) [.receive (some (0, socket 40000 .closed))] ++
    turn [key 40000]

/-- The worker has data for the application.  The application resets the flow and
opens another one from the same port. -/
def reopened : List Action :=
  [.actor .event] ++ turn [key 40000] ++
    [.worker 0 (.tcp (.read (some [1]))), .worker 0 (.tcp .sent)] ++ reset ++
    syn 40000 0 ++ turn [key 40000]

/-- The worker of the flow has ended and its last event is handled when the application opens a
flow from another port and then one from the same port again. -/
def reopenedLater : List Action :=
  [.actor .event] ++ turn [key 40000] ++ reset ++
    [.worker 0 (.tcp .cancelled), .worker 0 (.tcp .sent), .actor .event] ++ turn [] ++
    syn 40001 0 ++ turn [key 40001] ++ [.worker 1 (.tcp .opened), .worker 1 (.tcp .sent)] ++
    syn 40000 1 ++ turn [key 40000, key 40001]

end ReusedKey

/-- **An event of a flow that is gone reaches the next one.**  Data that the worker of
a removed flow had sent becomes the pending data of a flow that was started after it
with the same key. -/
theorem stale_event_changes_entry : ∃ (s s' : Runtime) (posted : Posted) (rest : List Posted)
    (key : TcpFlowKey) (entry : TcpEntry),
    (system .default).Reach s ∧ s.events = posted :: rest ∧ posted.event.tcpKey = some key ∧
    (system .default).next s (.actor .event) = some s' ∧
    s.tcp.lookup key = some entry ∧ posted.sender ≠ .worker entry.worker ∧
    s'.tcp.lookup key = some { entry with pendingRemote := some ⟨[1], 0, some 0⟩ } := by
  obtain ⟨s, hreach, hevents, hentry, s', hnext, hentry'⟩ := (system .default).exists_reach
    (fun s => s.events = [⟨.worker 0, .tcpData (ReusedKey.key 40000) [1] 0⟩] ∧
      s.tcp.lookup (ReusedKey.key 40000) = some ⟨0, 1, false, false, false, none⟩ ∧
      ∃ s' ∈ (system .default).next s (.actor .event), s'.tcp.lookup (ReusedKey.key 40000) =
        some ⟨0, 1, false, false, false, some ⟨[1], 0, some 0⟩⟩)
    (ReusedKey.opened ++ ReusedKey.reopened) (by decide +kernel)
  exact ⟨s, s', _, _, _, _, hreach, hevents, rfl, hnext, hentry, by decide, hentry'⟩

/-- The entry under the key that is used again, and an event of another worker. -/
theorem tcp_events_isolated_reused : ∃ (s s' : Runtime) (entry : TcpEntry),
    (system .default).ReachBy (Orderly .default) s ∧ entry.worker = 2 ∧
    (∃ w ∈ s.tcpWorker 0, w.key = ReusedKey.key 40000 ∧ w.isEnded) ∧
    s.events = [⟨.worker 1, .tcpOpened (ReusedKey.key 40001)⟩] ∧
    (system .default).next s (.actor .event) = some s' ∧
    s.tcp.lookup (ReusedKey.key 40000) = some entry ∧
    s'.tcp.lookup (ReusedKey.key 40000) = some entry ∧
    s'.engine.sockets.get entry.handle = s.engine.sockets.get entry.handle := by
  obtain ⟨s, hreach, hended, hevents, hentry, hsome⟩ :=
    (system .default).exists_reachBy (Orderly .default)
      (fun s => (∃ w ∈ s.tcpWorker 0, w.key = ReusedKey.key 40000 ∧ w.isEnded) ∧
        s.events = [⟨.worker 1, .tcpOpened (ReusedKey.key 40001)⟩] ∧
        s.tcp.lookup (ReusedKey.key 40000) = some ⟨1, 2, false, false, false, none⟩ ∧
        ((system .default).next s (.actor .event)).isSome)
      (ReusedKey.opened ++ ReusedKey.reopenedLater) (by decide +kernel)
  obtain ⟨s', hnext⟩ := Option.isSome_iff_exists.mp hsome
  have hsame := tcp_events_isolated .default hreach hevents hnext hentry (by decide)
  exact ⟨s, s', _, hreach, rfl, hended, hevents, hnext, hentry, hsame⟩

end Runtime
end Tun
end Maverick
