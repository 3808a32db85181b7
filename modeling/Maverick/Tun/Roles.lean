import Maverick.Lib.Total
import Maverick.Lib.Views
import Maverick.Tun.Changes

/-!
# What the tasks were started for

A task keeps its role for as long as it is in the list, and the roles say where an event
can come from and whom an answer goes to.  The actor gives answers and commands to a task
and cancels its token; everything else is done by the task itself.

* `Role` — a TCP flow, a UDP association or a DNS query.
* `WorkerChange`, `Worker.Unmoved` — what the actor can do to a TCP worker and to any task
  from outside.
* `tasks_change` — a change of the runtime does no more, or starts one task for a
  datagram that was heard.
* `queue_change`, `association_change` — what a change does to the queue and the associations.
* `Signed` — every event, and every response that waits, comes from a task of the right
  role; `signed_of_reach` — in every run.
-/

namespace Maverick
namespace Tun

open Lib

/-! ## Roles -/

inductive Role where
  | tcp (key : TcpFlowKey)
  | udp (key : UdpAssociationKey)
  | dns (app target : SocketAddr) (query : Bytes)
  deriving DecidableEq, Repr

def Worker.role : Worker → Role
  | .tcp w => .tcp w.key
  | .udp w => .udp w.key
  | .dns w => .dns w.app w.target w.query

/-- A task of this role sends the event, and gets the answer to it. -/
def EngineEvent.SentBy (id : WorkerId) (role : Role) : EngineEvent → Prop
  | .tcpOpened key | .tcpRemoteFin key | .tcpDone key _ => role = .tcp key
  | .tcpData key _ accepted => role = .tcp key ∧ accepted = id
  | .udpResponse key _ _ accepted => role = .udp key ∧ accepted = id
  | .udpDone key _ => role = .udp key
  | .dnsResponse target app _ => ∃ query, role = .dns app target query
  | .packetReadFailed | .packetWriteFailed | .packetEof => False

variable {id : WorkerId} {event : Option EngineEvent} {maxPayloadBytes : Nat} {cancelled : Bool}

theorem TcpWorker.Effect.sentBy {w w' : TcpWorker} {step : TcpWorkerStep}
    (h : Effect id w step w' event) : ∀ e ∈ event, e.SentBy id (.tcp w.key) := by
  cases h with
  | remote _ hremote => cases hremote <;> simp [EngineEvent.SentBy]
  | _ => simp [EngineEvent.SentBy]

theorem UdpWorker.sentBy_step {w : UdpWorker} {step : UdpWorkerStep}
    {r : UdpWorker × Option EngineEvent} (h : w.step maxPayloadBytes id cancelled step = some r) :
    r.1.key = w.key ∧ ∀ event ∈ r.2, event.SentBy id (.udp w.key) := by
  unfold UdpWorker.step at h
  split at h <;> (try split at h) <;> (try split at h) <;> cases h <;>
    simp [enter, finish, EngineEvent.SentBy]

theorem DnsWorker.sentBy_step {w : DnsWorker} {step : DnsWorkerStep}
    {r : DnsWorker × Option EngineEvent} (h : w.step maxPayloadBytes cancelled step = some r) :
    (Worker.dns r.1).role = (Worker.dns w).role ∧
      ∀ event ∈ r.2, event.SentBy id (.dns w.app w.target w.query) := by
  unfold DnsWorker.step at h
  split at h <;> (try split at h) <;> cases h <;> simp [enter, EngineEvent.SentBy, Worker.role]

/-- **A step keeps the role of a task, and an event it sends is of that role.** -/
theorem Worker.role_step {config : PacketRuntimeConfig} {shared : Bool} {worker worker' : Worker}
    {step : WorkerStep} (h : worker.step config id shared step = some (worker', event)) :
    worker'.role = worker.role ∧ ∀ e ∈ event, e.SentBy id worker.role := by
  cases Worker.stepped h with
  | tcp hr =>
    have hkey := (TcpWorker.keepsKey_step hr).1
    exact ⟨congrArg Role.tcp hkey, (TcpWorker.effect_step hr).sentBy⟩
  | udp hr =>
    obtain ⟨hkey, hsent⟩ := UdpWorker.sentBy_step hr
    exact ⟨congrArg Role.udp hkey, hsent⟩
  | dns hr => exact DnsWorker.sentBy_step hr

/-! ## What the actor does to a task -/

def Worker.asTcp : Worker → Option TcpWorker
  | .tcp w => some w
  | .udp _ | .dns _ => none

/-- What the actor does to a TCP worker. -/
inductive WorkerChange (w : TcpWorker) : TcpWorker → Prop where
  | answered (ok : Bool) : WorkerChange w (w.answer ok)
  | released : WorkerChange w { w with cancelled := true, senderAlive := false }
  | pushed (commands : List TcpCommand) : w.isEnded = false → WorkerChange w (w.push commands)
  | cancelled : WorkerChange w { w with cancelled := true }

abbrev WorkerChanges : TcpWorker → TcpWorker → Prop := Relation.ReflTransGen WorkerChange

/-- The task as the actor may leave it: it is where it was, or has an answer that it
was waiting for. -/
def Worker.Unmoved : Worker → Worker → Prop
  | .tcp w, .tcp w' => w'.key = w.key ∧ (w'.phase = w.phase ∨ ∃ here ok,
      w.phase = .relaying here (.waiting none) ∧ w'.phase = .relaying here (.waiting (some ok)))
  | .udp w, .udp w' => w'.key = w.key ∧ (w'.phase = w.phase ∨ ∃ lease ok,
      w.phase = .waiting lease none ∧ w'.phase = .waiting lease (some ok))
  | .dns w, .dns w' => w' = w
  | _, _ => False

namespace Worker.Unmoved

theorem refl (worker : Worker) : worker.Unmoved worker := by
  cases worker with
  | tcp w => exact ⟨rfl, .inl rfl⟩
  | udp w => exact ⟨rfl, .inl rfl⟩
  | dns w => exact rfl

variable {worker worker' worker'' : Worker}

/-- The three kinds of tasks. -/
@[elab_as_elim]
theorem cases {motive : Worker → Worker → Prop} (h : worker.Unmoved worker')
    (tcp : ∀ w w' : TcpWorker, w'.key = w.key → (w'.phase = w.phase ∨ ∃ here ok,
      w.phase = .relaying here (.waiting none) ∧
        w'.phase = .relaying here (.waiting (some ok))) → motive (.tcp w) (.tcp w'))
    (udp : ∀ w w' : UdpWorker, w'.key = w.key → (w'.phase = w.phase ∨ ∃ lease ok,
      w.phase = .waiting lease none ∧ w'.phase = .waiting lease (some ok)) →
      motive (.udp w) (.udp w'))
    (dns : ∀ w : DnsWorker, motive (.dns w) (.dns w)) : motive worker worker' := by
  cases worker with
  | tcp w =>
    cases worker' with
    | tcp w' => exact tcp w w' h.1 h.2
    | _ => exact h.elim
  | udp w =>
    cases worker' with
    | udp w' => exact udp w w' h.1 h.2
    | _ => exact h.elim
  | dns w =>
    cases worker' with
    | dns w' =>
      obtain rfl : w' = w := h
      exact dns w'
    | _ => exact h.elim

/-- An answer that has arrived stays. -/
theorem answered_trans {α β : Type} (asked : β → α) (heard : β → Bool → α) {p p' p'' : α}
    (hne : ∀ b ok b', heard b ok ≠ asked b')
    (h : p' = p ∨ ∃ b ok, p = asked b ∧ p' = heard b ok)
    (h' : p'' = p' ∨ ∃ b ok, p' = asked b ∧ p'' = heard b ok) :
    p'' = p ∨ ∃ b ok, p = asked b ∧ p'' = heard b ok := by
  rcases h with rfl | ⟨b, ok, hbefore, rfl⟩
  · exact h'
  rcases h' with rfl | ⟨b', ok', hbefore', -⟩
  exacts [.inr ⟨b, ok, hbefore, rfl⟩, absurd hbefore' (hne b ok b')]

theorem trans (h : worker.Unmoved worker') : worker'.Unmoved worker'' → worker.Unmoved worker'' := by
  refine cases h (fun w w' hkey hphase h' => ?_) (fun w w' hkey hphase h' => ?_) fun _ h' => h'
  · cases worker'' with
    | tcp w'' =>
      exact ⟨h'.1.trans hkey, answered_trans (TcpWorkerPhase.relaying · (.waiting none))
        (fun here ok => .relaying here (.waiting (some ok))) (by simp) hphase h'.2⟩
    | _ => exact h'.elim
  · cases worker'' with
    | udp w'' =>
      exact ⟨h'.1.trans hkey, answered_trans (UdpWorkerPhase.waiting · none)
        (fun lease ok => .waiting lease (some ok)) (by simp) hphase h'.2⟩
    | _ => exact h'.elim

theorem role (h : worker.Unmoved worker') : worker'.role = worker.role := by
  refine cases h (fun w w' hkey _ => ?_) (fun w w' hkey _ => ?_) fun _ => rfl
  exacts [congrArg Role.tcp hkey, congrArg Role.udp hkey]

theorem answer (ok : Bool) (worker : Worker) : worker.Unmoved (worker.answer ok) := by
  cases worker with
  | tcp w =>
    refine ⟨TcpWorker.key_answer ok w, ?_⟩
    unfold TcpWorker.answer
    split
    exacts [.inr ⟨_, ok, ‹_›, rfl⟩, .inl rfl]
  | udp w =>
    have hkey : (w.answer ok).key = w.key := by
      unfold UdpWorker.answer
      split <;> rfl
    refine ⟨hkey, ?_⟩
    unfold UdpWorker.answer
    split
    exacts [.inr ⟨_, ok, ‹_›, rfl⟩, .inl rfl]
  | dns w => exact rfl

end Worker.Unmoved

/-- What the actor does to a task, and to a TCP worker among them. -/
structure Worker.Touch (worker worker' : Worker) : Prop where
  unmoved : worker.Unmoved worker'
  changes : Option.Rel WorkerChanges worker.asTcp worker'.asTcp

namespace Worker.Touch

theorem refl (worker : Worker) : worker.Touch worker := ⟨.refl worker, rel_refl (fun _ => .refl) _⟩

theorem trans {worker worker' worker'' : Worker} (h : worker.Touch worker')
    (h' : worker'.Touch worker'') : worker.Touch worker'' :=
  ⟨h.unmoved.trans h'.unmoved, rel_trans .trans h.changes h'.changes⟩

theorem answer (ok : Bool) (worker : Worker) : worker.Touch (worker.answer ok) := by
  refine ⟨.answer ok worker, ?_⟩
  cases worker with
  | tcp w => exact .some (.single (.answered ok))
  | _ => exact .none

theorem release (worker : Worker) : worker.Touch (Runtime.release worker) := by
  cases worker with
  | tcp w => exact ⟨⟨rfl, .inl rfl⟩, .some (.single .released)⟩
  | udp w => exact ⟨⟨rfl, .inl rfl⟩, .none⟩
  | dns w => exact ⟨rfl, .none⟩

theorem sendUdpCommand (depth : Nat) (command : UdpCommand) (worker : Worker) :
    worker.Touch (Runtime.sendUdpCommand depth command worker) := by
  cases worker with
  | udp w =>
    simp only [Runtime.sendUdpCommand]
    split
    exacts [.refl _, ⟨⟨rfl, .inl rfl⟩, .none⟩]
  | _ => exact .refl _

end Worker.Touch

namespace Runtime

variable {config : PacketRuntimeConfig} {cause : Cause} {steps : List PollStep} {s s' : Runtime}

/-- The tasks after the actor has been at them: none has made a step. -/
def Aside (workers workers' : List Worker) : Prop :=
  ∀ i : WorkerId, Option.Rel Worker.Unmoved workers[i]? workers'[i]?

namespace Aside

variable {workers workers' : List Worker} {i : WorkerId} {α : Type} {f : Worker → α}

/-- What does not depend on the answers is as before. -/
theorem view (h : Aside workers workers') (hf : ∀ w w' : Worker, w.Unmoved w' → f w' = f w)
    (i : WorkerId) : workers'[i]?.map f = workers[i]?.map f :=
  rel_map_eq hf (h i)

theorem map_eq (h : Aside workers workers') (hf : ∀ w w' : Worker, w.Unmoved w' → f w' = f w) :
    workers'.map f = workers.map f := by
  refine List.ext_getElem? fun i => ?_
  rw [List.getElem?_map, List.getElem?_map]
  exact h.view hf i

theorem length_eq (h : Aside workers workers') : workers'.length = workers.length := by
  have hmap := h.map_eq (f := fun _ => ()) fun _ _ _ => rfl
  simpa using congrArg List.length hmap

end Aside

/-- The same, with what was done to the TCP workers. -/
def Touched (workers workers' : List Worker) : Prop :=
  ∀ i : WorkerId, Option.Rel Worker.Touch workers[i]? workers'[i]?

namespace Touched

variable {workers workers' workers'' : List Worker}

theorem aside (h : Touched workers workers') : Aside workers workers' :=
  fun i => rel_mono (·.unmoved) (h i)

theorem refl (workers : List Worker) : Touched workers workers := fun _ => rel_refl .refl _

theorem trans (h : Touched workers workers') (h' : Touched workers' workers'') :
    Touched workers workers'' :=
  fun i => rel_trans .trans (h i) (h' i)

theorem modify {id : WorkerId} {f : Worker → Worker}
    (hf : ∀ w, workers[id]? = some w → w.Touch (f w)) : Touched workers (workers.modify id f) :=
  rel_modify .refl hf

theorem answer (s : Runtime) (accepted : Option WorkerId) (ok : Bool) :
    Touched s.workers (s.answer accepted ok).workers := by
  cases accepted with
  | none => exact .refl _
  | some id => exact modify fun w _ => .answer ok w

theorem answered {t : Runtime} (accepted : Option WorkerId) (ok : Bool)
    (h : t.workers = workers := by rfl) : Touched workers (t.answer accepted ok).workers :=
  h ▸ answer t accepted ok

end Touched

variable {key : TcpFlowKey} {entry : TcpEntry} {event : EngineEvent} {worker : Worker}
  {id : WorkerId}

theorem touched_removeTcp (hkey : s.tcp.lookup key = some entry) :
    Touched s.workers (s.removeTcp key entry.handle).workers := by
  simp only [removeTcp, hkey]
  exact (Touched.answer s _ false).trans (.modify fun w _ => .release w)

theorem touched_removeUdpAssociation {key : UdpAssociationKey} {entry : UdpAssociationEntry}
    (hkey : s.udpAssociations.lookup key = some entry) :
    Touched s.workers (s.removeUdpAssociation key).workers := by
  simp only [removeUdpAssociation, hkey]
  exact (Touched.answer s _ false).trans (.modify fun w _ => .release w)

namespace TcpDrive

variable {d d' : TcpDrive}

/-- Commands are put into the channel of a task that has not ended, and nothing else is
done to it. -/
def Pushes (d d' : TcpDrive) : Prop :=
  ∃ commands, (commands ≠ [] → d.worker.isEnded = false) ∧ d'.worker = d.worker.push commands

theorem Pushes.of_eq (h : d'.worker = d.worker) : Pushes d d' :=
  ⟨[], fun hne => absurd rfl hne, by simp [h, TcpWorker.push]⟩

theorem Pushes.trans {d'' : TcpDrive} (h : Pushes d d') (h' : Pushes d' d'') : Pushes d d'' := by
  obtain ⟨commands, hlive, hpush⟩ := h
  obtain ⟨commands', hlive', hpush'⟩ := h'
  refine ⟨commands ++ commands', fun hne => ?_, by simp [hpush', hpush, TcpWorker.push]⟩
  by_cases hcommands : commands = []
  · have hended : d'.worker.isEnded = d.worker.isEnded := by rw [hpush]; rfl
    rw [hcommands, List.nil_append] at hne
    exact hended.symm.trans (hlive' hne)
  · exact hlive hcommands

/-- Driving a flow puts commands into the channel of its worker. -/
theorem pushes_drive (depth : Nat) (d : TcpDrive) : Pushes d (d.drive depth) := by
  refine drive_invariant (I := Pushes d) (fun hpart h => h.trans ?_) (.of_eq rfl)
  cases hpart with
  | received _ _ _ hlive _ | finished _ _ _ hlive _ => exact ⟨_, fun _ => hlive, rfl⟩
  | _ => exact .of_eq rfl

theorem Pushes.changes (h : Pushes d d') : WorkerChanges d.worker d'.worker := by
  obtain ⟨commands, hlive, hpush⟩ := h
  by_cases hcommands : commands = []
  · have hsame : d'.worker = d.worker := by simp [hpush, hcommands, TcpWorker.push]
    rw [hsame]
  · rw [hpush]
    exact .single (.pushed commands (hlive hcommands))

end TcpDrive

theorem changes_cancelled (w : TcpWorker) (finished : Bool) :
    WorkerChanges w { w with cancelled := w.cancelled || finished } := by
  cases finished with
  | false => rw [Bool.or_false]
  | true =>
    rw [Bool.or_true]
    exact .single .cancelled

theorem touched_driven {socket : TcpSocket} {worker : TcpWorker}
    (hworker : s.workers[entry.worker]? = some (.tcp worker)) (depth : Nat) :
    Touched s.workers
      (s.applyDrive key (TcpDrive.drive depth ⟨entry, socket, worker, none⟩)).workers := by
  have hsame := TcpDrive.same_drive depth ⟨entry, socket, worker, none⟩
  have hchanges := (TcpDrive.pushes_drive depth ⟨entry, socket, worker, none⟩).changes
  generalize TcpDrive.drive depth ⟨entry, socket, worker, none⟩ = d at hsame hchanges ⊢
  unfold applyDrive
  refine Touched.trans ?_ (.answer _ _ true)
  refine .modify fun w hw => ?_
  have hget : s.workers[entry.worker]? = some w := hsame.entryWorker ▸ hw
  cases hworker.symm.trans hget
  exact ⟨⟨hsame.key, .inl hsame.phase⟩, .some (hchanges.trans (changes_cancelled _ _))⟩

theorem touched_forward (s : Runtime) (id : WorkerId) (depth : Nat) (command : UdpCommand) :
    Touched s.workers (s.modifyWorker id (sendUdpCommand depth command)).workers :=
  .modify fun w _ => .sendUdpCommand depth command w

theorem touched_handled (h : Handled config s event s') : Touched s.workers s'.workers := by
  cases h with
  | control _ hcontrol =>
    cases hcontrol
    exact .refl _
  | dataDropped _ | responseDropped _ => exact .answer s _ _
  | disassociated hkey => exact touched_removeUdpAssociation hkey
  | _ =>
    exact .refl _

/-- What an event leaves alone. -/
theorem kept_handled (h : Handled config s event s') :
    s'.events = s.events ∧ s'.actorBufferedBytes = s.actorBufferedBytes ∧
      s'.udpTargets = s.udpTargets ∧ ∀ g, s'.engine.sockets.udp g = s.engine.sockets.udp g := by
  cases h with
  | control _ hcontrol =>
    cases hcontrol
    exact ⟨rfl, rfl, rfl, fun _ => rfl⟩
  | dataDropped _ | responseDropped _ =>
    rw [answer_eq]
    exact ⟨rfl, rfl, rfl, fun _ => rfl⟩
  | remoteFin _ | failed _ => exact ⟨rfl, rfl, rfl, SocketSet.udp_modifyTcp _ _ _⟩
  | disassociated hkey =>
    rw [removeUdpAssociation_eq hkey]
    exact ⟨rfl, rfl, rfl, fun _ => rfl⟩
  | _ => exact ⟨rfl, rfl, rfl, fun _ => rfl⟩

/-- What a change does to the tasks. -/
inductive Tasks (cause : Cause) (s s' : Runtime) : Prop where
  | touched : Touched s.workers s'.workers → Tasks cause s s'
  | queried {app target : SocketAddr} {query : Bytes} : target.port = 53 →
      (app, target, query) ∈ cause.heard →
      s'.workers = s.workers ++ [.dns ⟨target, app, query, .querying⟩] → Tasks cause s s'
  | associated {key : UdpAssociationKey} : (∃ payload, (key.app, key.target, payload) ∈ cause.heard) →
      s'.workers = s.workers ++ [.udp (.start key)] → Tasks cause s s'

/-- **What a change does to the tasks**: it leaves them where they are, or starts one for
a datagram that was heard. -/
theorem tasks_change (h : Change config cause s s') : Tasks cause s s' := by
  cases h with
  | control hcontrol =>
    cases hcontrol
    exact .touched (.refl _)
  | reader hreader => cases hreader <;> exact .touched (.refl _)
  | writer hwriter =>
    rw [writer_eq hwriter]
    exact .touched (.refl _)
  | event _ hhandled =>
    have htouched := touched_handled hhandled
    exact .touched htouched
  | driven _ _ hworker => exact .touched (touched_driven hworker _)
  | removed hkey => exact .touched (touched_removeTcp hkey)
  | queried _ _ _ hport hheard => exact .queried hport hheard rfl
  | associated _ _ _ hheard => exact .associated hheard rfl
  | forwarded _ _ => exact .touched (touched_forward s _ _ _)
  | responded _ _ _ => exact .touched (.answered _ true)
  | _ => exact .touched (.refl _)

theorem view_append {workers workers' : List Worker} {worker : Worker} {α : Type} {f : Worker → α}
    {a : α} {i : WorkerId} (h : workers' = workers ++ [worker])
    (ha : workers[i]?.map f = some a) : workers'[i]?.map f = some a := by
  obtain ⟨w, hw, rfl⟩ := Option.map_eq_some_iff.mp ha
  rw [h, List.getElem?_append_left (List.getElem?_eq_some_iff.mp hw).1, hw]
  rfl

/-- A task that is there stays, and shows what the actor cannot change. -/
theorem Tasks.view {α : Type} {f : Worker → α} {a : α} {i : WorkerId} (h : Tasks cause s s')
    (hf : ∀ w w' : Worker, w.Unmoved w' → f w' = f w) (ha : s.workers[i]?.map f = some a) :
    s'.workers[i]?.map f = some a := by
  cases h with
  | touched htouched => exact (htouched.aside.view hf i).trans ha
  | queried _ _ hworkers | associated _ hworkers => exact view_append hworkers ha

theorem Tasks.length_le (h : Tasks cause s s') : s.workers.length ≤ s'.workers.length := by
  cases h with
  | touched htouched => exact htouched.aside.length_eq.ge
  | queried _ _ hworkers | associated _ hworkers => simp [hworkers]

/-! ## What a change does to the queue -/

/-- **What a change does to the queue**: it puts events of the reader and the writer behind
it, or handles the first event. -/
theorem queue_change (h : Change config cause s s') :
    (∃ added, s'.events = s.events ++ added ∧ ∀ p ∈ added, p.event.isPacket) ∨
      ∃ p, s.events = p :: s'.events ∧ Handled config { s with events := s'.events } p.event s' := by
  have hnone : ∃ added, s.events = s.events ++ added ∧ ∀ p ∈ added, p.event.isPacket :=
    ⟨[], (List.append_nil _).symm, List.forall_mem_nil _⟩
  cases h with
  | control hcontrol =>
    cases hcontrol
    exact .inl hnone
  | reader hreader =>
    cases hreader with
    | reported event hevent _ =>
      refine .inl ⟨_, rfl, List.forall_mem_singleton.mpr ?_⟩
      rcases hevent with rfl | rfl <;> rfl
    | _ => exact .inl hnone
  | writer hwriter =>
    refine .inl ?_
    induction hwriter with
    | reported _ _ _ ih =>
      obtain ⟨added, hevents, hpackets⟩ := ih
      refine ⟨added ++ [⟨.writer, .packetWriteFailed⟩], ?_, forall_mem_snoc hpackets rfl⟩
      rw [← List.append_assoc, ← hevents]
      rfl
    | _ => exact hnone
  | event hevents hhandled =>
    have hrest := (kept_handled hhandled).1
    exact .inr ⟨_, by rw [hrest]; exact hevents, by rw [hrest]; exact hhandled⟩
  | driven _ _ _ =>
    rw [applyDrive_eq]
    exact .inl hnone
  | removed hkey =>
    rw [removeTcp_eq hkey]
    exact .inl hnone
  | responded _ _ _ =>
    rw [answer_eq]
    exact .inl hnone
  | taken | admitted | polled | unused | touched | bound | received | queried | associated
  | forwarded | dnsSent | dnsKept | unbound | flushed | lost | refreshed => exact .inl hnone

/-- A change brings no event of a task into the queue. -/
theorem events_change (h : Change config cause s s') :
    ∀ p ∈ s'.events, p ∈ s.events ∨ p.event.isPacket := by
  intro p hp
  rcases queue_change h with ⟨added, hevents, hpackets⟩ | ⟨q, hevents, -⟩
  · rw [hevents] at hp
    exact (List.mem_append.mp hp).imp_right (hpackets p)
  · exact .inl (hevents ▸ List.mem_cons_of_mem _ hp)

/-! ## What a change does to the associations -/

section
variable {key : UdpAssociationKey} {entry' : UdpAssociationEntry}

theorem association_updated {k : UdpAssociationKey} {entry new : UdpAssociationEntry}
    (hkey : s.udpAssociations.lookup k = some entry)
    (hentry' : (s.udpAssociations.insert k new).lookup key = some entry')
    (hworker : new.worker = entry.worker) :
    ∃ entry, s.udpAssociations.lookup key = some entry ∧ entry'.worker = entry.worker := by
  rcases Table.lookup_insert_eq_some hentry' with ⟨rfl, rfl⟩ | ⟨-, hold⟩
  exacts [⟨entry, hkey, hworker⟩, ⟨entry', hold, rfl⟩]

theorem association_handled (h : Handled config s event s')
    (hentry' : s'.udpAssociations.lookup key = some entry') :
    ∃ entry, s.udpAssociations.lookup key = some entry ∧ entry'.worker = entry.worker := by
  cases h with
  | control _ hcontrol =>
    cases hcontrol
    exact ⟨entry', hentry', rfl⟩
  | dataDropped _ | responseDropped _ =>
    rw [answer_eq] at hentry'
    exact ⟨entry', hentry', rfl⟩
  | response hkey _ => exact association_updated hkey hentry' rfl
  | disassociated hkey =>
    rw [removeUdpAssociation_eq hkey] at hentry'
    exact ⟨entry', (Table.lookup_erase_eq_some hentry').2, rfl⟩
  | _ => exact ⟨entry', hentry', rfl⟩

/-- **What a change does to the associations**: one that is there after it was there before, with
the same task, or is for a datagram that was heard, with a task that is started for it. -/
theorem association_change (h : Change config cause s s')
    (hentry' : s'.udpAssociations.lookup key = some entry') :
    (∃ entry, s.udpAssociations.lookup key = some entry ∧ entry'.worker = entry.worker) ∨
      (∃ payload, (key.app, key.target, payload) ∈ cause.heard) ∧
        entry'.worker = s.workers.length ∧ s'.workers = s.workers ++ [.udp (.start key)] := by
  have hsame : s'.udpAssociations = s.udpAssociations →
      ∃ entry, s.udpAssociations.lookup key = some entry ∧ entry'.worker = entry.worker := by
    intro heq
    exact ⟨entry', heq ▸ hentry', rfl⟩
  cases h with
  | control hcontrol =>
    cases hcontrol
    exact .inl (hsame rfl)
  | reader hreader => cases hreader <;> exact .inl (hsame rfl)
  | writer hwriter => exact .inl (hsame (by rw [writer_eq hwriter]))
  | event _ hhandled =>
    have hold := association_handled hhandled hentry'
    exact .inl hold
  | driven _ _ _ => exact .inl (hsame (by rw [applyDrive_eq]))
  | removed hkey => exact .inl (hsame (by rw [removeTcp_eq hkey]))
  | associated _ _ _ hheard =>
    rcases Table.lookup_insert_eq_some hentry' with ⟨rfl, rfl⟩ | ⟨-, hold⟩
    exacts [.inr ⟨hheard, rfl, rfl⟩, .inl ⟨entry', hold, rfl⟩]
  | responded hkey _ _ =>
    rw [answer_eq] at hentry'
    exact .inl (association_updated hkey hentry' rfl)
  | taken | admitted | polled | unused | touched | bound | received | queried | forwarded | dnsSent
  | dnsKept | unbound | flushed | lost | refreshed => exact .inl (hsame rfl)

end

/-! ## Roles in a run -/

def roleAt (s : Runtime) (id : WorkerId) : Option Role := s.workers[id]?.map Worker.role

/-- Every task keeps its role. -/
def RolesKept (s s' : Runtime) : Prop :=
  ∀ (id : WorkerId) (role : Role), s.roleAt id = some role → s'.roleAt id = some role

theorem RolesKept.of_aside (h : Aside s.workers s'.workers) : RolesKept s s' := by
  intro id role hrole
  exact (h.view (fun _ _ hmoved => hmoved.role) id).trans hrole

theorem RolesKept.of_append (h : s'.workers = s.workers ++ [worker]) : RolesKept s s' :=
  fun _ _ => view_append h

/-- The roles that there are when a task is started. -/
theorem roleAt_append (h : s'.workers = s.workers ++ [worker]) {role : Role}
    (hrole : s'.roleAt id = some role) : s.roleAt id = some role ∨ role = worker.role := by
  unfold roleAt at hrole ⊢
  rw [h, List.getElem?_append] at hrole
  split at hrole
  · exact .inl hrole
  obtain ⟨found, hget, rfl⟩ := Option.map_eq_some_iff.mp hrole
  obtain rfl := List.mem_singleton.mp (List.mem_of_getElem? hget)
  exact .inr rfl

/-- **A role that is new is for a datagram that was heard.** -/
theorem role_change (h : Change config cause s s') {role : Role} (hrole : s'.roleAt id = some role) :
    s.roleAt id = some role ∨ ∃ app target payload, (app, target, payload) ∈ cause.heard ∧
      (role = .udp ⟨app, target⟩ ∨ role = .dns app target payload) := by
  cases tasks_change h with
  | touched h => exact .inl ((h.aside.view (fun _ _ hmoved => hmoved.role) id).symm.trans hrole)
  | queried _ hheard hworkers =>
    rcases roleAt_append hworkers hrole with hold | rfl
    exacts [.inl hold, .inr ⟨_, _, _, hheard, .inr rfl⟩]
  | associated hheard hworkers =>
    obtain ⟨payload, hheard⟩ := hheard
    rcases roleAt_append hworkers hrole with hold | rfl
    exacts [.inl hold, .inr ⟨_, _, payload, hheard, .inl rfl⟩]

theorem role_started (h : Started config steps s key s') {role : Role}
    (hrole : s'.roleAt id = some role) : s.roleAt id = some role ∨ role = .tcp key := by
  cases h
  exact roleAt_append rfl hrole

theorem roleAt_set {worker' : Worker} (hget : s.workers[id]? = some worker)
    (hrole : worker'.role = worker.role) (hworkers : s'.workers = s.workers.set id worker')
    (i : WorkerId) : s'.roleAt i = s.roleAt i := by
  unfold roleAt
  rw [hworkers, List.getElem?_set]
  split
  · rename_i heq
    subst heq
    have hlt := (List.getElem?_eq_some_iff.mp hget).1
    rw [if_pos hlt, hget]
    exact congrArg some hrole
  · rfl

theorem role_stepWorker {step : WorkerStep} (hstep : s.stepWorker config id step = some s')
    (i : WorkerId) : s'.roleAt i = s.roleAt i := by
  obtain ⟨worker, worker', event, hget, hworker, rfl⟩ := stepWorker_eq_some hstep
  exact roleAt_set hget (Worker.role_step hworker).1 rfl i

theorem rolesKept_change (h : Change config cause s s') : RolesKept s s' :=
  fun _ _ => (tasks_change h).view fun _ _ hmoved => hmoved.role

theorem rolesKept_started (h : Started config steps s key s') : RolesKept s s' := by
  cases h
  exact .of_append rfl

theorem rolesKept_set {worker' : Worker} (hget : s.workers[id]? = some worker)
    (hrole : worker'.role = worker.role) (hworkers : s'.workers = s.workers.set id worker') :
    RolesKept s s' :=
  fun i _ hi => (roleAt_set hget hrole hworkers i).trans hi

theorem rolesKept_worker (h : WorkerEffect config s id s') : RolesKept s s' := by
  cases h with
  | quiet hget hstep | sent hget hstep _ => exact rolesKept_set hget (Worker.role_step hstep).1 rfl

/-- Where events and responses come from: from a task of the right role, which is the one
that waits for the answer. -/
structure Signed (s : Runtime) : Prop where
  event : ∀ p ∈ s.events, p.event.isPacket ∨ ∃ id role, p.sender = .worker id ∧
    s.roleAt id = some role ∧ p.event.SentBy id role
  data : ∀ key entry pending, s.tcp.lookup key = some entry →
    entry.pendingRemote = some pending →
    ∃ id, pending.accepted = some id ∧ s.roleAt id = some (.tcp key)
  response : ∀ key entry pending, s.udpAssociations.lookup key = some entry →
    entry.pendingResponse = some pending → pending.app = key.app ∧ pending.target = key.target ∧
      ∃ id, pending.accepted = some id ∧ s.roleAt id = some (.udp key)
  dns : ∀ pending ∈ s.pendingDnsResponses, pending.accepted = none ∧
    ∃ id query, s.roleAt id = some (.dns pending.app pending.target query)

namespace Signed

/-- The tasks keep their roles; of the rest, nothing is new. -/
theorem kept (h : s.Signed) (hroles : RolesKept s s') (hevents : s'.events ⊆ s.events)
    (htcp : ∀ key entry' pending', s'.tcp.lookup key = some entry' →
      entry'.pendingRemote = some pending' → ∃ entry pending, s.tcp.lookup key = some entry ∧
        entry.pendingRemote = some pending ∧ pending'.accepted = pending.accepted)
    (hudp : ∀ key entry' pending, s'.udpAssociations.lookup key = some entry' →
      entry'.pendingResponse = some pending → ∃ entry, s.udpAssociations.lookup key = some entry ∧
        entry.pendingResponse = some pending)
    (hdns : s'.pendingDnsResponses ⊆ s.pendingDnsResponses) : s'.Signed where
  event := by
    intro p hp
    rcases h.event p (hevents hp) with hpacket | ⟨id, role, hsender, hrole, hsent⟩
    exacts [.inl hpacket, .inr ⟨id, role, hsender, hroles _ _ hrole, hsent⟩]
  data := by
    intro key entry' pending' hentry' hpending'
    obtain ⟨entry, pending, hentry, hpending, haccepted⟩ := htcp key entry' pending' hentry' hpending'
    obtain ⟨id, hid, hrole⟩ := h.data key entry pending hentry hpending
    exact ⟨id, haccepted.trans hid, hroles _ _ hrole⟩
  response := by
    intro key entry' pending hentry' hpending'
    obtain ⟨entry, hentry, hpending⟩ := hudp key entry' pending hentry' hpending'
    obtain ⟨happ, htarget, id, hid, hrole⟩ := h.response key entry pending hentry hpending
    exact ⟨happ, htarget, id, hid, hroles _ _ hrole⟩
  dns := by
    intro pending hpending
    obtain ⟨haccepted, id, query, hrole⟩ := h.dns pending (hdns hpending)
    exact ⟨haccepted, id, query, hroles _ _ hrole⟩

/-- Nothing but the tasks and the engine is touched. -/
theorem of_eq (h : s.Signed) (hroles : RolesKept s s') (hevents : s'.events = s.events)
    (htcp : s'.tcp = s.tcp) (hudp : s'.udpAssociations = s.udpAssociations)
    (hdns : s'.pendingDnsResponses = s.pendingDnsResponses) : s'.Signed := by
  refine h.kept hroles (hevents ▸ List.Subset.refl _) ?_ ?_ (hdns ▸ List.Subset.refl _)
  · intro key entry' pending' hentry' hpending'
    exact ⟨entry', pending', htcp ▸ hentry', hpending', rfl⟩
  · intro key entry' pending hentry' hpending
    exact ⟨entry', hudp ▸ hentry', hpending⟩

theorem posted (h : s.Signed) {sender : Sender} {event : EngineEvent}
    (hevent : event.isPacket ∨ ∃ id role, sender = .worker id ∧ s.roleAt id = some role ∧
      event.SentBy id role) : (s.posted sender event).Signed := by
  exact { h with event := forall_mem_snoc h.event hevent }

end Signed

/-- An entry may change in everything but whom its pending data comes from. -/
theorem pendingRemote_insert {entry' : TcpEntry} (hkey : s.tcp.lookup key = some entry)
    (hpending : ∀ pending', entry'.pendingRemote = some pending' →
      ∃ pending, entry.pendingRemote = some pending ∧ pending'.accepted = pending.accepted)
    (k : TcpFlowKey) (e' : TcpEntry) (p' : PendingTcpData)
    (he' : (s.tcp.insert key entry').lookup k = some e') (hp' : e'.pendingRemote = some p') :
    ∃ e p, s.tcp.lookup k = some e ∧ e.pendingRemote = some p ∧ p'.accepted = p.accepted := by
  rcases Table.lookup_insert_eq_some he' with ⟨rfl, rfl⟩ | ⟨-, he⟩
  · obtain ⟨pending, hold, haccepted⟩ := hpending p' hp'
    exact ⟨entry, pending, hkey, hold, haccepted⟩
  · exact ⟨e', p', he, hp', rfl⟩

/-- What comes after `sendPending` does not concern the remote bytes. -/
theorem TcpDrive.remote_drive (depth : Nat) (d : TcpDrive) :
    (d.drive depth).entry.pendingRemote = d.sendPending.entry.pendingRemote ∧
      (d.drive depth).accepted = d.sendPending.accepted := by
  have hpart : ∀ {d d' : TcpDrive}, d.Part depth true d' →
      d'.entry.pendingRemote = d.entry.pendingRemote ∧ d'.accepted = d.accepted := by
    intro d d' hpart
    cases hpart <;> exact ⟨rfl, rfl⟩
  obtain ⟨hentry, haccepted⟩ := hpart (part_sendLocalFin (d.sendPending.receive depth))
  obtain ⟨hentry', haccepted'⟩ := hpart (part_receive d.sendPending)
  exact ⟨hentry.trans hentry', haccepted.trans haccepted'⟩

/-- Pending data stays the same worker's, and only that worker is answered. -/
theorem TcpDrive.accepted_drive (depth : Nat) (d : TcpDrive) :
    (∀ pending', (d.drive depth).entry.pendingRemote = some pending' →
      ∃ pending, d.entry.pendingRemote = some pending ∧ pending'.accepted = pending.accepted) ∧
    ((d.drive depth).accepted = d.accepted ∨
      ∃ pending, d.entry.pendingRemote = some pending ∧
        (d.drive depth).accepted = pending.accepted) := by
  obtain ⟨hentry, haccepted⟩ := remote_drive depth d
  rw [hentry, haccepted]
  have hpart := @part_sendPending depth d
  generalize d.sendPending = d' at hpart ⊢
  cases hpart with
  | placed _ hpending _ => exact ⟨nofun, .inr ⟨_, hpending, rfl⟩⟩
  | placedSome _ hpending _ =>
    refine ⟨?_, .inl rfl⟩
    intro pending' heq
    cases heq
    exact ⟨_, hpending, rfl⟩
  | _ => exact ⟨fun pending' h => ⟨pending', h, rfl⟩, .inl rfl⟩

/-- An association that waits for no response. -/
theorem pendingResponse_insert {key : UdpAssociationKey} {entry' : UdpAssociationEntry}
    (hnone : entry'.pendingResponse = none) (k : UdpAssociationKey) (e : UdpAssociationEntry)
    (p : PendingUdpResponse) (he : (s.udpAssociations.insert key entry').lookup k = some e)
    (hp : e.pendingResponse = some p) :
    ∃ e, s.udpAssociations.lookup k = some e ∧ e.pendingResponse = some p := by
  rcases Table.lookup_insert_eq_some he with ⟨rfl, rfl⟩ | ⟨-, hold⟩
  · cases hnone.symm.trans hp
  · exact ⟨e, hold, hp⟩

theorem signed_handled (hhandled : Handled config s event s')
    (hevent : event.isPacket ∨ ∃ id role, s.roleAt id = some role ∧ event.SentBy id role)
    (h : s.Signed) : s'.Signed := by
  have hroles := RolesKept.of_aside (touched_handled hhandled).aside
  -- the entry of a flow is replaced by one with the same pending data
  have hflow : ∀ {key entry entry' engine}, s.tcp.lookup key = some entry →
      entry'.pendingRemote = entry.pendingRemote →
      Signed { s with tcp := s.tcp.insert key entry', engine := engine } := by
    intro key entry entry' engine hkey hpending
    exact h.kept (fun _ _ hrole => hrole) (List.Subset.refl _)
      (pendingRemote_insert hkey fun pending hp => ⟨pending, hpending ▸ hp, rfl⟩)
      (fun _ e _ he hp => ⟨e, he, hp⟩) (List.Subset.refl _)
  cases hhandled with
  | control _ hcontrol =>
    cases hcontrol
    exact { h with }
  | dropped => exact h
  | opened hkey | done hkey | failed hkey => exact hflow hkey rfl
  | @data key data accepted entry hkey _ =>
    refine { h with data := ?_ }
    intro k e p he hp
    rcases Table.lookup_insert_eq_some he with ⟨rfl, rfl⟩ | ⟨-, hold⟩
    · cases hp
      rcases hevent with hpacket | ⟨id, role, hrole, rfl, rfl⟩
      · cases hpacket
      · exact ⟨accepted, rfl, hrole⟩
    · exact h.data k e p hold hp
  | dataDropped _ | responseDropped _ =>
    rw [answer_eq] at hroles ⊢
    exact h.of_eq hroles rfl rfl rfl rfl
  | remoteFin _ => exact { h with }
  | @response key payload accepted entry hkey _ =>
    refine { h with response := ?_ }
    intro k e p he hp
    rcases Table.lookup_insert_eq_some he with ⟨rfl, rfl⟩ | ⟨-, hold⟩
    · cases hp
      rcases hevent with hpacket | ⟨id, role, hrole, rfl, rfl⟩
      · cases hpacket
      · exact ⟨rfl, rfl, accepted, rfl, hrole⟩
    · exact h.response k e p hold hp
  | disassociated hkey =>
    rw [removeUdpAssociation_eq hkey] at hroles ⊢
    exact h.kept hroles (List.Subset.refl _) (fun _ e p he hp => ⟨e, p, he, hp, rfl⟩)
      (fun _ e _ he hp => ⟨e, (Table.lookup_erase_eq_some he).2, hp⟩)
      (List.Subset.refl _)
  | @dnsQueued target app response _ =>
    refine { h with dns := forall_mem_snoc h.dns ?_ }
    rcases hevent with hpacket | ⟨id, role, hrole, query, rfl⟩
    · cases hpacket
    · exact ⟨rfl, id, query, hrole⟩
  | dnsDropped => exact { h with }

theorem signed_change (hchange : Change config cause s s') (h : s.Signed) : s'.Signed := by
  have hroles := rolesKept_change hchange
  cases hchange with
  | control hcontrol =>
    cases hcontrol
    exact { h with }
  | reader hreader =>
    cases hreader with
    | reported event hevent _ =>
      have hended : Signed { s with reader := .ended } := { h with }
      refine hended.posted (.inl ?_)
      rcases hevent with rfl | rfl <;> rfl
    | _ => exact { h with }
  | writer hwriter =>
    clear hroles
    induction hwriter with
    | reported _ _ _ ih => exact ih.posted (.inl rfl)
    | _ => exact { h with }
  | @event posted rest _ hevents hhandled =>
    refine signed_handled hhandled ?_ { h with event := forall_mem_tail h.event hevents }
    rcases h.event posted (hevents ▸ List.mem_cons_self) with hpacket | ⟨id, role, -, hrole, hsent⟩
    exacts [.inl hpacket, .inr ⟨id, role, hrole, hsent⟩]
  | driven hkey _ hworker =>
    rw [applyDrive_eq] at hroles ⊢
    exact h.kept hroles (List.Subset.refl _)
      (pendingRemote_insert hkey (TcpDrive.accepted_drive _ _).1)
      (fun _ e _ he hp => ⟨e, he, hp⟩) (List.Subset.refl _)
  | removed hkey =>
    rw [removeTcp_eq hkey] at hroles ⊢
    exact h.kept hroles (List.Subset.refl _)
      (fun _ e p he hp => ⟨e, p, (Table.lookup_erase_eq_some he).2, hp, rfl⟩)
      (fun _ e _ he hp => ⟨e, he, hp⟩) (List.Subset.refl _)
  | queried | forwarded => exact h.of_eq hroles rfl rfl rfl rfl
  | associated =>
    exact h.kept hroles (List.Subset.refl _) (fun _ e p he hp => ⟨e, p, he, hp, rfl⟩)
      (pendingResponse_insert rfl) (List.Subset.refl _)
  | responded hkey _ _ =>
    rw [answer_eq] at hroles ⊢
    exact h.kept hroles (List.Subset.refl _) (fun _ e p he hp => ⟨e, p, he, hp, rfl⟩)
      (pendingResponse_insert rfl) (List.Subset.refl _)
  | dnsSent hpending _ => exact { h with dns := forall_mem_tail h.dns hpending }
  | dnsKept hpending =>
    have hfirst := h.dns _ (hpending ▸ List.mem_cons_self)
    exact { h with dns := forall_mem_snoc (forall_mem_tail h.dns hpending) hfirst }
  | taken | admitted | polled | unused | touched | bound | received | unbound | flushed | lost
  | refreshed => exact { h with }

theorem signed_started (hstarted : Started config steps s key s') (h : s.Signed) : s'.Signed := by
  have hroles := rolesKept_started hstarted
  cases hstarted
  refine h.kept hroles (List.Subset.refl _) ?_ (fun _ e _ he hp => ⟨e, he, hp⟩)
    (List.Subset.refl _)
  intro k e p he hp
  rcases Table.lookup_insert_eq_some he with ⟨rfl, rfl⟩ | ⟨-, hold⟩
  · cases hp
  · exact ⟨e, p, hold, hp, rfl⟩

theorem signed_worker (hworker : WorkerEffect config s id s') (h : s.Signed) : s'.Signed := by
  have hroles := rolesKept_worker hworker
  cases hworker with
  | quiet => exact h.of_eq hroles rfl rfl rfl rfl
  | @sent worker worker' _ event hget hstep _ =>
    have hset : Signed (s.setWorker id worker' (some event)) := h.of_eq hroles rfl rfl rfl rfl
    have hrole : s.roleAt id = some worker.role := by
      rw [roleAt, hget]
      rfl
    have hsent := (Worker.role_step hstep).2 event rfl
    exact hset.posted (.inr ⟨id, worker.role, rfl, hroles _ _ hrole, hsent⟩)

theorem signed_start (config : PacketRuntimeConfig) : (start config).Signed where
  event := List.forall_mem_nil _
  data _ _ _ hentry := by cases hentry
  response _ _ _ hentry := by cases hentry
  dns := List.forall_mem_nil _

/-- **Every event comes from a task of the role that it speaks of**, in every run. -/
theorem signed_of_reach {good : Runtime → Action → Prop} (h : (system config).ReachBy good s) :
    s.Signed :=
  reach_invariant (I := Signed) (signed_start config) signed_change signed_started signed_worker h

end Runtime
end Tun
end Maverick
