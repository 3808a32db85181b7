import Maverick.Tun.Changes

/-!
# Sockets and their entries

Every TCP entry and every UDP target holds a socket of its own kind, and no two of
them hold the same one.  A change keeps that, starts no worker for a TCP flow and
brings no TCP event into the queue: `Keeps`.

* `Holds` — the entries of a table hold distinct sockets of one kind, with one lemma
  for each thing that happens to tables and sockets.
* `keeps_change` — what the changes have in common; it composes, and so a sequence of
  changes keeps what each of them keeps.
* `starts_of_started` — the one exception: a flow under a key that has no entry.
* `next_cases` — so a step of the runtime keeps everything, starts one flow, or is
  a step of a worker; `placed_of_reach` — the sockets are placed in every run.
-/

namespace Maverick
namespace Tun

open Lib

/-! ## Tables of handles -/

section Holds

variable {κ α : Type} [DecidableEq κ]

/-- Each entry of the table has a socket of the given kind for itself. -/
structure Holds (t : Table κ α) (handle : α → SocketHandle) (kind : SocketKind)
    (sockets : SocketSet) : Prop where
  valid : ∀ {k a}, t.lookup k = some a → sockets.kind (handle a) = some kind
  inj : ∀ {k k' a a'}, t.lookup k = some a → t.lookup k' = some a' → handle a = handle a' → k = k'

variable {t : Table κ α} {handle : α → SocketHandle} {kind : SocketKind} {sockets : SocketSet}

namespace Holds

theorem empty : Holds (∅ : Table κ α) handle kind sockets where
  valid := by
    intro k a h
    simp at h
  inj := by
    intro k k' a a' h
    simp at h

theorem of_kind (h : Holds t handle kind sockets) {sockets' : SocketSet}
    (hkind : sockets'.kind = sockets.kind) : Holds t handle kind sockets' where
  valid hk := by rw [hkind, h.valid hk]
  inj := h.inj

variable {k : κ} {a : α} {g : SocketHandle}

/-- An entry may change in everything but its handle. -/
theorem update (h : Holds t handle kind sockets) {a' : α} (hk : t.lookup k = some a)
    (hhandle : handle a' = handle a) : Holds (t.insert k a') handle kind sockets := by
  -- under each key the handle is the one that was there
  have hold : ∀ {k' b}, (t.insert k a').lookup k' = some b →
      ∃ b', t.lookup k' = some b' ∧ handle b = handle b' := by
    intro k' b hb
    rcases Table.lookup_insert_eq_some hb with ⟨rfl, rfl⟩ | ⟨-, hb⟩
    exacts [⟨a, hk, hhandle⟩, ⟨b, hb, rfl⟩]
  constructor
  · intro k' b hb
    obtain ⟨b', hb', heq⟩ := hold hb
    rw [heq, h.valid hb']
  intro k₁ k₂ b₁ b₂ hb₁ hb₂ heq
  obtain ⟨b₁', hb₁', heq₁⟩ := hold hb₁
  obtain ⟨b₂', hb₂', heq₂⟩ := hold hb₂
  exact h.inj hb₁' hb₂' (by rw [← heq₁, ← heq₂, heq])

theorem ne_of_kind (h : Holds t handle kind sockets) (hg : sockets.kind g ≠ some kind)
    (hk : t.lookup k = some a) : handle a ≠ g := by
  intro heq
  exact hg (heq ▸ h.valid hk)

theorem add (h : Holds t handle kind sockets) (socket : Socket) :
    Holds t handle kind (sockets.add socket).1 where
  valid := by
    intro k a hk
    have hnew := SocketSet.kind_add_handle sockets socket
    have hne := h.ne_of_kind (g := (sockets.add socket).2) (by rw [hnew]; nofun) hk
    rw [SocketSet.kind_add, if_neg hne, h.valid hk]
  inj := h.inj

/-- A new entry takes a handle that no other entry has. -/
theorem insert (h : Holds t handle kind sockets) (hkind : sockets.kind (handle a) = some kind)
    (hfree : ∀ {k' a'}, t.lookup k' = some a' → handle a' ≠ handle a) :
    Holds (t.insert k a) handle kind sockets where
  valid := by
    intro k' b hb
    rcases Table.lookup_insert_eq_some hb with ⟨rfl, rfl⟩ | ⟨-, hb⟩
    exacts [hkind, h.valid hb]
  inj := by
    intro k₁ k₂ b₁ b₂ hb₁ hb₂ heq
    rcases Table.lookup_insert_eq_some hb₁ with ⟨hk₁, rfl⟩ | ⟨-, hold₁⟩
    · rcases Table.lookup_insert_eq_some hb₂ with ⟨hk₂, -⟩ | ⟨-, hold₂⟩
      · rw [hk₁, hk₂]
      · exact absurd heq.symm (hfree hold₂)
    rcases Table.lookup_insert_eq_some hb₂ with ⟨-, rfl⟩ | ⟨-, hold₂⟩
    exacts [absurd heq (hfree hold₁), h.inj hold₁ hold₂ heq]

/-- An entry goes together with its socket. -/
theorem erase (h : Holds t handle kind sockets) (hk : t.lookup k = some a) :
    Holds (t.erase k) handle kind (sockets.remove (handle a)) where
  valid := by
    intro k' b hb
    obtain ⟨hne, hb⟩ := Table.lookup_erase_eq_some hb
    have hhandle : handle b ≠ handle a := fun heq => hne (h.inj hb hk heq)
    rw [SocketSet.kind_remove, if_neg hhandle, h.valid hb]
  inj := by
    intro k₁ k₂ b₁ b₂ hb₁ hb₂ heq
    exact h.inj (Table.lookup_erase_eq_some hb₁).2 (Table.lookup_erase_eq_some hb₂).2 heq

/-- A socket of another kind, or none, may go. -/
theorem remove_other (h : Holds t handle kind sockets) (hg : sockets.kind g ≠ some kind) :
    Holds t handle kind (sockets.remove g) where
  valid := by
    intro k a hk
    rw [SocketSet.kind_remove, if_neg (h.ne_of_kind hg hk), h.valid hk]
  inj := h.inj

end Holds
end Holds

namespace Runtime

/-- The sockets of the TCP entries and of the UDP targets. -/
structure Placed (s : Runtime) : Prop where
  tcp : Holds s.tcp TcpEntry.handle .tcp s.engine.sockets
  udp : Holds s.udpTargets UdpTargetEntry.handle .udp s.engine.sockets

/-! ## What a change keeps -/

/-- The sockets stay placed; no entry, no live TCP worker and no TCP event is new. -/
structure Keeps (s s' : Runtime) : Prop where
  placed : s.Placed → s'.Placed
  entry : ∀ {k e'}, s'.tcp.lookup k = some e' →
    ∃ e, s.tcp.lookup k = some e ∧ e'.worker = e.worker ∧ e'.handle = e.handle
  worker : ∀ {i : WorkerId} {w' : Worker} {k}, s'.workers[i]? = some w' → w'.liveKey = some k →
    ∃ w : Worker, s.workers[i]? = some w ∧ w.liveKey = some k
  event : ∀ {p : Posted}, p ∈ s'.events → p.event.tcpKey.isSome → p ∈ s.events

namespace Keeps

variable {s s' s'' : Runtime}

theorem of_eq (htcp : s'.tcp = s.tcp) (hudp : s'.udpTargets = s.udpTargets)
    (hkind : s'.engine.sockets.kind = s.engine.sockets.kind) (hworkers : s'.workers = s.workers)
    (hevents : s'.events = s.events) : Keeps s s' where
  placed hs := ⟨htcp ▸ hs.tcp.of_kind hkind, hudp ▸ hs.udp.of_kind hkind⟩
  entry := by
    intro k e' he
    exact ⟨e', htcp ▸ he, rfl, rfl⟩
  worker := by
    intro i w' k hw hk
    exact ⟨w', hworkers ▸ hw, hk⟩
  event := by
    intro p hp _
    exact hevents ▸ hp

theorem refl (s : Runtime) : Keeps s s := of_eq rfl rfl rfl rfl rfl

theorem trans (h : Keeps s s') (h' : Keeps s' s'') : Keeps s s'' where
  placed hs := h'.placed (h.placed hs)
  entry := by
    intro k e'' he''
    obtain ⟨e', he', hw', hh'⟩ := h'.entry he''
    obtain ⟨e, he, hw, hh⟩ := h.entry he'
    exact ⟨e, he, hw'.trans hw, hh'.trans hh⟩
  worker := by
    intro i w'' k hw'' hk
    obtain ⟨w', hw', hk'⟩ := h'.worker hw'' hk
    exact h.worker hw' hk'
  event := by
    intro p hp hkey
    exact h.event (h'.event hp hkey) hkey

end Keeps

variable {config : PacketRuntimeConfig} {cause : Cause} {steps : List PollStep} {s s' : Runtime}

variable {key : TcpFlowKey} {entry : TcpEntry} {event : EngineEvent} {socket : TcpSocket}
  {target : SocketAddr} {pending : PendingUdpResponse} {sockets : SocketSet}

/-- An entry may change in everything but its handle and its worker. -/
theorem keeps_updateTcp {entry' : TcpEntry} (hkey : s.tcp.lookup key = some entry)
    (hhandle : entry'.handle = entry.handle) (hworker : entry'.worker = entry.worker) :
    Keeps s { s with tcp := s.tcp.insert key entry' } where
  placed hs := ⟨hs.tcp.update hkey hhandle, hs.udp⟩
  entry := by
    intro k e' he'
    rcases Table.lookup_insert_eq_some he' with ⟨rfl, rfl⟩ | ⟨-, he⟩
    exacts [⟨entry, hkey, hworker, hhandle⟩, ⟨e', he, rfl, rfl⟩]
  worker hw hk := ⟨_, hw, hk⟩
  event hp _ := hp

/-- A worker may change in everything but its flow. -/
theorem keeps_modifyWorker (s : Runtime) {id : WorkerId} {f : Worker → Worker}
    (hf : ∀ w, s.workers[id]? = some w → (f w).liveKey = w.liveKey) :
    Keeps s (s.modifyWorker id f) where
  placed hs := ⟨hs.tcp, hs.udp⟩
  entry he := ⟨_, he, rfl, rfl⟩
  worker := by
    intro i w' k hw' hk
    change (s.workers.modify id f)[i]? = some w' at hw'
    rw [List.getElem?_modify] at hw'
    obtain ⟨w, hw, rfl⟩ := Option.map_eq_some_iff.mp hw'
    by_cases hi : id = i
    · subst hi
      rw [if_pos rfl, hf w hw] at hk
      exact ⟨w, hw, hk⟩
    · rw [if_neg hi] at hk
      exact ⟨w, hw, hk⟩
  event hp _ := hp

theorem keeps_answer (s : Runtime) (accepted : Option WorkerId) (ok : Bool) :
    Keeps s (s.answer accepted ok) := by
  cases accepted with
  | none => exact .refl s
  | some id => exact keeps_modifyWorker s fun w _ => Worker.liveKey_answer ok w

theorem liveKey_release (worker : Worker) : (release worker).liveKey = worker.liveKey := by
  cases worker <;> rfl

theorem keeps_release (s : Runtime) (id : WorkerId) : Keeps s (s.modifyWorker id release) :=
  keeps_modifyWorker s fun w _ => liveKey_release w

/-- The tasks of UDP associations and DNS queries. -/
theorem keeps_spawn (s : Runtime) {worker : Worker} (hkey : worker.liveKey = none) :
    Keeps s (s.spawn worker) where
  placed hs := ⟨hs.tcp, hs.udp⟩
  entry he := ⟨_, he, rfl, rfl⟩
  worker := by
    intro i w' k hw' hk
    simp only [spawn, List.getElem?_append] at hw'
    split at hw'
    · exact ⟨w', hw', hk⟩
    · obtain rfl := List.mem_singleton.mp (List.mem_of_getElem? hw')
      cases hkey.symm.trans hk
  event hp _ := hp

theorem keeps_posted {t : Runtime} {sender : Sender} (h : Keeps s t) (hevent : event.tcpKey = none) :
    Keeps s (t.posted sender event) := by
  refine h.trans ⟨fun hs => ⟨hs.tcp, hs.udp⟩, fun he => ⟨_, he, rfl, rfl⟩,
    fun hw hk => ⟨_, hw, hk⟩, ?_⟩
  intro p hp hkey
  rcases List.mem_append.mp hp with hp | hp
  · exact hp
  obtain rfl := List.mem_singleton.mp hp
  rw [hevent] at hkey
  cases hkey

theorem keeps_control (h : Control s s') : Keeps s s' := by
  cases h
  exact .of_eq rfl rfl rfl rfl rfl

theorem keeps_reader (h : ReaderEffect config s s') : Keeps s s' := by
  cases h with
  | quiet reader _ => exact .of_eq rfl rfl rfl rfl rfl
  | queued _ _ => exact .of_eq rfl rfl rfl rfl rfl
  | reported event hevent _ =>
    refine keeps_posted (.of_eq rfl rfl rfl rfl rfl) ?_
    rcases hevent with rfl | rfl <;> rfl

theorem keeps_writer (h : WriterEffect config s s') : Keeps s s' := by
  induction h with
  | ended _ => exact .of_eq rfl rfl rfl rfl rfl
  | panicked => exact .of_eq rfl rfl rfl rfl rfl
  | emptied depth => exact .of_eq rfl rfl rfl rfl rfl
  | received _ _ => exact .of_eq rfl rfl rfl rfl rfl
  | wrote _ => exact .of_eq rfl rfl rfl rfl rfl
  | failed _ => exact .of_eq rfl rfl rfl rfl rfl
  | reported _ _ _ ih => exact keeps_posted ih rfl

theorem keeps_removeUdpAssociation {key : UdpAssociationKey} {entry : UdpAssociationEntry}
    (hkey : s.udpAssociations.lookup key = some entry) : Keeps s (s.removeUdpAssociation key) := by
  simp only [removeUdpAssociation, hkey]
  exact ((keeps_answer s _ false).trans (keeps_release _ entry.worker)).trans
    (.of_eq rfl rfl rfl rfl rfl)

theorem keeps_handled (h : Handled config s event s') : Keeps s s' := by
  cases h with
  | control _ hcontrol _ => exact keeps_control hcontrol
  | dropped _ _ => exact .refl s
  | opened hkey => exact keeps_updateTcp hkey rfl rfl
  | data hkey _ => exact keeps_updateTcp hkey rfl rfl
  | dataDropped _ => exact keeps_answer s _ false
  | remoteFin _ => exact .of_eq rfl rfl (SocketSet.kind_modifyTcp _ _ _) rfl rfl
  | done hkey => exact keeps_updateTcp hkey rfl rfl
  | @failed key entry hkey =>
    have hdone : Keeps s { s with tcp := s.tcp.insert key { entry with workerDone := true } } :=
      keeps_updateTcp hkey rfl rfl
    exact hdone.trans (.of_eq rfl rfl (SocketSet.kind_modifyTcp _ _ _) rfl rfl)
  | response _ _ => exact .of_eq rfl rfl rfl rfl rfl
  | responseDropped => exact keeps_answer s _ _
  | disassociated hkey => exact keeps_removeUdpAssociation hkey
  | dnsQueued _ => exact .of_eq rfl rfl rfl rfl rfl
  | dnsDropped => exact .of_eq rfl rfl rfl rfl rfl

theorem keeps_applyDrive {worker : TcpWorker} {d : TcpDrive} (hkey : s.tcp.lookup key = some entry)
    (hworker : s.workers[entry.worker]? = some (.tcp worker))
    (hsame : TcpDrive.Same ⟨entry, socket, worker, none⟩ d) : Keeps s (s.applyDrive key d) := by
  have hentry : Keeps s { s with tcp := s.tcp.insert key d.entry } :=
    keeps_updateTcp hkey hsame.handle hsame.entryWorker
  have hsockets : Keeps { s with tcp := s.tcp.insert key d.entry }
      { s with
        tcp := s.tcp.insert key d.entry
        engine.sockets := s.engine.sockets.modifyTcp d.entry.handle fun _ => d.socket } :=
    .of_eq rfl rfl (SocketSet.kind_modifyTcp _ _ _) rfl rfl
  refine ((hentry.trans hsockets).trans (keeps_modifyWorker _ ?_)).trans (keeps_answer _ _ true)
  intro w hw
  rw [hsame.entryWorker] at hw
  obtain rfl : w = .tcp worker := by
    rw [hworker] at hw
    exact (Option.some.inj hw).symm
  exact Worker.liveKey_tcp_congr hsame.key hsame.phase

/-- An entry goes together with its socket. -/
theorem keeps_eraseTcp (hkey : s.tcp.lookup key = some entry) :
    Keeps s
      { s.removeSocket entry.handle with
        tcp := s.tcp.erase key
        activeTcpFlows := fetchSub s.activeTcpFlows } := by
  refine ⟨fun hs => ⟨hs.tcp.erase hkey, hs.udp.remove_other ?_⟩, ?_, ?_, ?_⟩
  · rw [hs.tcp.valid hkey]
    nofun
  · intro k e he
    exact ⟨e, (Table.lookup_erase_eq_some he).2, rfl, rfl⟩
  · intro i w k hw hk
    exact ⟨w, hw, hk⟩
  · intro p hp _
    exact hp

theorem keeps_removeTcp (hkey : s.tcp.lookup key = some entry) :
    Keeps s (s.removeTcp key entry.handle) := by
  unfold removeTcp
  rw [hkey]
  have hchannels := (keeps_answer s (entry.pendingRemote.bind (·.accepted)) false).trans
    (keeps_release _ entry.worker)
  refine hchannels.trans (keeps_eraseTcp ?_)
  rwa [answer_eq]

theorem keeps_updateUdp {entry entry' : UdpTargetEntry}
    (hkey : s.udpTargets.lookup target = some entry) (hhandle : entry'.handle = entry.handle) :
    Keeps s { s with udpTargets := s.udpTargets.insert target entry' } where
  placed hs := ⟨hs.tcp, hs.udp.update hkey hhandle⟩
  entry he := ⟨_, he, rfl, rfl⟩
  worker hw hk := ⟨_, hw, hk⟩
  event hp _ := hp

theorem liveKey_sendUdpCommand (depth : Nat) (command : UdpCommand) (worker : Worker) :
    (sendUdpCommand depth command worker).liveKey = worker.liveKey := by
  cases worker with
  | tcp w => rfl
  | udp w =>
    simp only [sendUdpCommand]
    split <;> rfl
  | dns w => rfl

theorem kind_trySendUdpResponse (h : s.trySendUdpResponse pending = some sockets) :
    sockets.kind = s.engine.sockets.kind := by
  unfold trySendUdpResponse at h
  split at h
  · cases h
    rfl
  split at h
  · cases h
  split at h
  · cases h
  · obtain ⟨socket, -, rfl⟩ := Option.map_eq_some_iff.mp h
    exact SocketSet.kind_modifyUdp _ _ _

theorem tcp_trySendUdpResponse (h : s.trySendUdpResponse pending = some sockets) (g : SocketHandle) :
    sockets.tcp g = s.engine.sockets.tcp g := by
  unfold trySendUdpResponse at h
  split at h
  · cases h
    rfl
  split at h
  · cases h
  split at h
  · cases h
  · obtain ⟨socket, -, rfl⟩ := Option.map_eq_some_iff.mp h
    exact SocketSet.tcp_modifyUdp _ _ _ _

/-- A listener that goes again leaves the sockets as they were. -/
theorem kind_unused {device : BoundedDevice} {engine : Engine}
    (h : Engine.poll ⟨device, (s.engine.sockets.add (.tcp socket)).1⟩ steps = some engine) :
    SocketSet.kind (engine.sockets.remove (s.engine.sockets.add (.tcp socket)).2) =
      s.engine.sockets.kind := by
  have hkind := Engine.kind_poll h
  funext g
  rw [SocketSet.kind_remove]
  by_cases hg : g = (s.engine.sockets.add (.tcp socket)).2
  · rw [if_pos hg, hg, SocketSet.kind_add_handle]
  · rw [if_neg hg, hkind, SocketSet.kind_add, if_neg hg]

/-- A new target takes a handle that was not in use. -/
theorem keeps_bound (s : Runtime) (target : SocketAddr) (socket : UdpSocket) :
    Keeps s
      { s with
        engine.sockets := (s.engine.sockets.add (.udp socket)).1
        udpTargets := s.udpTargets.insert target
          ⟨(s.engine.sockets.add (.udp socket)).2, target, s.now⟩ } := by
  have hfree := SocketSet.kind_add_handle s.engine.sockets (.udp socket)
  refine ⟨fun hs => ⟨hs.tcp.add _, (hs.udp.add _).insert ?_ ?_⟩, ?_, ?_, ?_⟩
  · rw [SocketSet.kind_add, if_pos rfl]
    rfl
  · intro k' a' ha'
    exact hs.udp.ne_of_kind (by rw [hfree]; nofun) ha'
  · intro k e he
    exact ⟨e, he, rfl, rfl⟩
  · intro i w k hw hk
    exact ⟨w, hw, hk⟩
  · intro p hp _
    exact hp

theorem keeps_unbound {entry : UdpTargetEntry} (hkey : s.udpTargets.lookup target = some entry) :
    Keeps s { s.removeSocket entry.handle with udpTargets := s.udpTargets.erase target } := by
  refine ⟨fun hs => ⟨hs.tcp.remove_other ?_, hs.udp.erase hkey⟩, ?_, ?_, ?_⟩
  · rw [hs.udp.valid hkey]
    nofun
  · intro k e he
    exact ⟨e, he, rfl, rfl⟩
  · intro i w k hw hk
    exact ⟨w, hw, hk⟩
  · intro p hp _
    exact hp

/-- **Every change keeps the sockets placed and starts no TCP flow.** -/
theorem keeps_change (h : Change config cause s s') : Keeps s s' := by
  cases h with
  | control hcontrol => exact keeps_control hcontrol
  | reader hreader => exact keeps_reader hreader
  | writer hwriter => exact keeps_writer hwriter
  | @event posted rest _ hevents hhandled =>
    have htaken : Keeps s { s with events := rest } := by
      refine ⟨fun hs => ⟨hs.tcp, hs.udp⟩, fun he => ⟨_, he, rfl, rfl⟩, fun hw hk => ⟨_, hw, hk⟩, ?_⟩
      intro p hp _
      rw [hevents]
      exact List.mem_cons_of_mem _ hp
    exact htaken.trans (keeps_handled hhandled)
  | taken _ => exact .of_eq rfl rfl rfl rfl rfl
  | admitted _ _ => exact .of_eq rfl rfl rfl rfl rfl
  | polled _ hpoll => exact .of_eq rfl rfl (Engine.kind_poll hpoll) rfl rfl
  | unused _ _ _ hpoll => exact .of_eq rfl rfl (kind_unused hpoll) rfl rfl
  | touched hkey => exact keeps_updateUdp hkey rfl
  | bound _ _ _ _ => exact keeps_bound s _ _
  | driven hkey _ hworker => exact keeps_applyDrive hkey hworker (TcpDrive.same_drive _ _)
  | removed hkey => exact keeps_removeTcp hkey
  | received _ => exact .of_eq rfl rfl (SocketSet.kind_modifyUdp _ _ _) rfl rfl
  | queried _ _ _ | associated _ _ _ =>
    exact (keeps_spawn s rfl).trans (.of_eq rfl rfl rfl rfl rfl)
  | forwarded _ _ => exact keeps_modifyWorker s fun w _ => liveKey_sendUdpCommand _ _ w
  | responded _ _ hsend =>
    refine .trans ?_ (keeps_answer _ _ true)
    exact .of_eq rfl rfl (kind_trySendUdpResponse hsend) rfl rfl
  | dnsSent _ hsend => exact .of_eq rfl rfl (kind_trySendUdpResponse hsend) rfl rfl
  | dnsKept _ => exact .of_eq rfl rfl rfl rfl rfl
  | unbound hkey => exact keeps_unbound hkey
  | flushed _ _ _ _ => exact .of_eq rfl rfl rfl rfl rfl
  | lost _ => exact .of_eq rfl rfl rfl rfl rfl
  | refreshed => exact .of_eq rfl rfl rfl rfl rfl

theorem keeps_changes (h : Changes config cause s s') : Keeps s s' :=
  Changes.invariant (I := Keeps s) (fun hchange hs => hs.trans (keeps_change hchange)) h (.refl s)

/-! ## The start of a flow -/

/-- What the start of a flow does to entries, workers and events. -/
structure Starts (s : Runtime) (key : TcpFlowKey) (s' : Runtime) : Prop where
  placed : s.Placed → s'.Placed
  fresh : s.tcp.lookup key = none
  entry : ∀ {k e'}, s'.tcp.lookup k = some e' →
    (k = key ∧ e'.worker = s.workers.length) ∨ s.tcp.lookup k = some e'
  added : (s'.tcp.lookup key).isSome
  workers : s'.workers = s.workers ++ [.tcp (.start key)]
  events : s'.events = s.events

theorem starts_of_started (h : Started config steps s key s') : s.Starts key s' := by
  cases h with
  | @mk _ _ socket engine _ _ _ _ _ hkey _ _ _ _ hpoll _ =>
    have hkind : engine.sockets.kind = SocketSet.kind (s.engine.sockets.add (.tcp socket)).1 :=
      Engine.kind_poll hpoll
    refine ⟨fun hs => ⟨?_, (hs.udp.add _).of_kind hkind⟩, hkey, ?_, ?_, rfl, rfl⟩
    · refine ((hs.tcp.add (.tcp socket)).of_kind hkind).insert ?_ ?_
      · show engine.sockets.kind _ = some .tcp
        rw [hkind, SocketSet.kind_add, if_pos rfl]
        rfl
      · intro k' e' he'
        exact hs.tcp.ne_of_kind (by rw [SocketSet.kind_add_handle]; nofun) he'
    · intro k e' he'
      rcases Table.lookup_insert_eq_some he' with ⟨rfl, rfl⟩ | ⟨-, he⟩
      exacts [.inl ⟨rfl, rfl⟩, .inr he]
    · show ((s.tcp.insert key _).lookup key).isSome
      rw [AList.lookup_insert]
      rfl

/-- **What a step does to the TCP flows**: it keeps everything, starts one flow, or is
a step of a worker. -/
theorem next_cases {action : Action} {good : Runtime → Action → Prop}
    (hreach : (system config).ReachBy good s) (hnext : s.next config action = some s') :
    Keeps s s' ∨ (∃ key, s.Starts key s') ∨ ∃ id, WorkerEffect config s id s' := by
  rcases next_changes hreach hnext with hchanges | ⟨steps, key, -, hstarted⟩ | ⟨id, _, -, hstep⟩
  · exact .inl (keeps_changes hchanges)
  · exact .inr (.inl ⟨key, starts_of_started hstarted⟩)
  · exact .inr (.inr ⟨id, stepWorker_effect hstep⟩)

theorem placed_of_reach {good : Runtime → Action → Prop} (h : (system config).ReachBy good s) :
    s.Placed := by
  refine reach_invariant ⟨.empty, .empty⟩ ?_ ?_ ?_ h
  · intro steps s s' hchange hs
    exact (keeps_change hchange).placed hs
  · intro steps s key s' hstarted hs
    exact (starts_of_started hstarted).placed hs
  · intro s id s' hworker hs
    cases hworker <;> exact ⟨hs.tcp, hs.udp⟩

end Runtime
end Tun
end Maverick
