import Maverick.Tun.Bounds

/-!
# The lifecycle of the actor

Input ends on two channels, failures come from four tasks, and a shutdown can be asked for
at any time.  The lifecycle is a small machine of its own: `Life` is the part of the
runtime that it is about, `Move` what can happen to it, and every step of the runtime is
a sequence of moves.

* `Mark` — what a run is recorded by: failures as they are observed, packets as they are
  queued and as they are handled.
* `Lived` — what the record and the lifecycle have to do with each other, kept by every
  move (`lived_move`).
* `moves_next` — every step of the runtime is a sequence of moves with its marks.
* `lifecycle_holds` — the lifecycle in every run.
-/

namespace Maverick
namespace Tun

open Lib

/-! ## The lifecycle on its own -/

/-- The part of the runtime that its lifecycle is about. -/
structure Life where
  reader : ReaderPhase
  ingress : List Packet
  ingressOpen : Bool
  readerEofSeen : Bool
  accepting : Bool
  drainingDeadline : Option Nat
  fatalFailure : Option PacketRuntimeFailure
  cancel : Bool

/-- What is recorded of a run. -/
inductive Mark where
  /-- A call of `record_failure`. -/
  | failed (failure : PacketRuntimeFailure)
  | queued (packet : Packet)
  /-- `accepting` is the flag at that time. -/
  | handled (packet : Packet) (accepting : Bool)
  deriving DecidableEq, Repr

namespace Mark

def failure : Mark → Option PacketRuntimeFailure
  | failed failure => some failure
  | _ => none

def queuedPacket : Mark → Option Packet
  | queued packet => some packet
  | _ => none

def handledPacket : Mark → Option Packet
  | handled packet _ => some packet
  | _ => none

end Mark

def ReaderPhase.isGone : ReaderPhase → Bool
  | .panicked | .ended => true
  | _ => false

namespace Life

/-- What can happen to the lifecycle, and how it is recorded. -/
inductive Move (l : Life) : List Mark → Life → Prop where
  | cancel : Move l [] { l with cancel := true }
  | reader (reader : ReaderPhase) : (l.reader.isGone → reader.isGone) →
      Move l [] { l with reader := reader }
  | queued {packet : Packet} : l.reader = .queueing packet →
      Move l [.queued packet] { l with reader := .reading, ingress := l.ingress ++ [packet] }
  | handled {packet : Packet} {rest : List Packet} : l.ingress = packet :: rest → l.ingressOpen →
      Move l [.handled packet l.accepting] { l with ingress := rest }
  | closed : l.ingress = [] → l.reader.isGone → Move l [] { l with ingressOpen := false }
  | eof : Move l [] { l with readerEofSeen := true }
  | drain (deadline : Nat) : l.drainingDeadline = none →
      l.cancel ∨ l.ingressOpen = false ∧ l.readerEofSeen →
      Move l [] { l with accepting := false, drainingDeadline := some deadline }
  | fail (failure : PacketRuntimeFailure) (now : Nat) :
      Move l [.failed failure]
        { l with
          fatalFailure := l.fatalFailure.or (some failure)
          accepting := if l.drainingDeadline.isSome then l.accepting else false
          drainingDeadline := some now }

/-- A sequence of moves. -/
inductive Moves (l : Life) : List Mark → Life → Prop where
  | refl : Moves l [] l
  | tail {marks marks' : List Mark} {l' l'' : Life} : Moves l marks l' → Move l' marks' l'' →
      Moves l (marks ++ marks') l''

variable {l l' : Life}

theorem Moves.single {marks : List Mark} (h : Move l marks l') : Moves l marks l' :=
  .tail .refl h

theorem Moves.trans {l'' : Life} {marks marks' : List Mark} (h : Moves l marks l')
    (h' : Moves l' marks' l'') : Moves l (marks ++ marks') l'' := by
  induction h' with
  | refl => rwa [List.append_nil]
  | tail _ hlast ih =>
    rw [← List.append_assoc]
    exact ih.tail hlast

variable {l l' : Life} {log marks : List Mark}

/-- **The first failure stays.** -/
theorem failure_moves (h : Moves l marks l') {failure : PacketRuntimeFailure}
    (hfailed : l.fatalFailure = some failure) : l'.fatalFailure = some failure := by
  induction h with
  | refl => exact hfailed
  | tail _ hlast ih =>
    cases hlast with
    | fail _ _ =>
      show Option.or _ _ = _
      rw [ih]
      rfl
    | _ => exact ih

/-- A failure that is observed leaves one behind. -/
theorem failed_moves (h : Moves l marks l') {failure : PacketRuntimeFailure}
    (hmark : .failed failure ∈ marks) : l'.fatalFailure.isSome := by
  induction h with
  | refl => cases hmark
  | tail _ hlast ih =>
    rcases List.mem_append.mp hmark with hmark | hmark
    · obtain ⟨first, hfirst⟩ := Option.isSome_iff_exists.mp (ih hmark)
      rw [failure_moves (.single hlast) hfirst]
      rfl
    cases hlast with
    | fail failure' _ =>
      show (Option.or _ _).isSome
      simp
    | queued | handled => cases List.mem_singleton.mp hmark
    | _ => cases hmark

/-- **Draining does not end.** -/
theorem draining_moves (h : Moves l marks l') (hdraining : l.drainingDeadline.isSome) :
    l'.drainingDeadline.isSome := by
  induction h with
  | refl => exact hdraining
  | tail _ hlast ih =>
    cases hlast with
    | drain _ _ _ | fail _ _ => rfl
    | _ => exact ih

/-- The lifecycle and its record. -/
structure Lived (log : List Mark) (l : Life) : Prop where
  failure : l.fatalFailure = (log.filterMap Mark.failure).head?
  packets : log.filterMap Mark.queuedPacket = log.filterMap Mark.handledPacket ++ l.ingress
  closed : l.ingressOpen = false → l.ingress = [] ∧ l.reader.isGone
  /-- Why the runtime drains. -/
  reason : l.drainingDeadline.isSome → l.fatalFailure.isSome ∨ l.cancel ∨ l.ingressOpen = false
  accepting : l.accepting = l.drainingDeadline.isNone
  accepted : l.fatalFailure = none → l.cancel = false →
    ∀ packet flag, Mark.handled packet flag ∈ log → flag = true

/-- While nothing has failed and no shutdown is asked for, packets that are handled are
accepted. -/
theorem Lived.accepts (h : Lived log l) (hopen : l.ingressOpen) (hfailure : l.fatalFailure = none)
    (hcancel : l.cancel = false) : l.accepting = true := by
  rw [h.accepting, Option.isNone_iff_eq_none]
  cases hdeadline : l.drainingDeadline with
  | none => rfl
  | some deadline =>
    have hreason := h.reason (by rw [hdeadline]; rfl)
    rw [hfailure, hcancel, hopen] at hreason
    simp at hreason

/-- **Every move keeps the record and the lifecycle together.** -/
theorem lived_move (h : Lived log l) (hmove : Move l marks l') : Lived (log ++ marks) l' := by
  cases hmove with
  | cancel =>
    rw [List.append_nil]
    exact { h with
      reason := fun _ => .inr (.inl rfl)
      accepted := nofun }
  | reader reader hgone =>
    rw [List.append_nil]
    exact { h with
      closed := fun hclosed => ⟨(h.closed hclosed).1, hgone (h.closed hclosed).2⟩ }
  | @queued packet hreader =>
    refine { h with failure := ?_, packets := ?_, closed := ?_, accepted := ?_ }
    · simpa [Mark.failure] using h.failure
    · simp [Mark.queuedPacket, Mark.handledPacket, h.packets]
    · intro hclosed
      -- a reader that is gone queues nothing
      have hgone := (h.closed hclosed).2
      rw [hreader] at hgone
      cases hgone
    · intro hfailure hcancel p flag hmem
      simp only [List.mem_append, List.mem_singleton, reduceCtorEq, or_false] at hmem
      exact h.accepted hfailure hcancel p flag hmem
  | @handled packet rest hingress hopen =>
    refine { h with failure := ?_, packets := ?_, closed := ?_, accepted := ?_ }
    · simpa [Mark.failure] using h.failure
    · simp [Mark.queuedPacket, Mark.handledPacket, h.packets, hingress]
    · intro hclosed
      rw [hopen] at hclosed
      cases hclosed
    · intro hfailure hcancel p flag hmem
      rcases List.mem_append.mp hmem with hmem | hmem
      · exact h.accepted hfailure hcancel p flag hmem
      · cases List.mem_singleton.mp hmem
        exact h.accepts hopen hfailure hcancel
  | closed hempty hgone =>
    rw [List.append_nil]
    exact { h with
      closed := fun _ => ⟨hempty, hgone⟩
      reason := fun _ => .inr (.inr rfl) }
  | eof =>
    rw [List.append_nil]
    exact { h with }
  | drain deadline _ hreason =>
    rw [List.append_nil]
    refine { h with reason := fun _ => ?_, accepting := rfl }
    rcases hreason with hcancel | ⟨hclosed, -⟩
    exacts [.inr (.inl hcancel), .inr (.inr hclosed)]
  | fail failure now =>
    refine ⟨?_, ?_, h.closed, ?_, ?_, ?_⟩
    · simp [Mark.failure, h.failure, List.head?_append]
    · have hqueued : [Mark.failed failure].filterMap Mark.queuedPacket = [] := rfl
      have hhandled : [Mark.failed failure].filterMap Mark.handledPacket = [] := rfl
      rw [List.filterMap_append, List.filterMap_append, hqueued, hhandled, List.append_nil,
        List.append_nil]
      exact h.packets
    · intro _
      exact .inl (by cases l.fatalFailure <;> rfl)
    · show (if _ then _ else _) = _
      rw [h.accepting]
      cases l.drainingDeadline <;> rfl
    · intro hnone
      cases hfailure : l.fatalFailure with
      | none => simp [hfailure] at hnone
      | some f => simp [hfailure] at hnone

theorem lived_moves (hmoves : Moves l marks l') (h : Lived log l) : Lived (log ++ marks) l' := by
  induction hmoves with
  | refl => rwa [List.append_nil]
  | tail _ hlast ih =>
    rw [← List.append_assoc]
    exact lived_move ih hlast

end Life

/-! ## The runtime -/

/-- The failure that an event reports. -/
def EngineEvent.failure : EngineEvent → Option PacketRuntimeFailure
  | .packetReadFailed => some .packetRead
  | .packetWriteFailed => some .packetWrite
  | _ => none

namespace Runtime

variable {config : PacketRuntimeConfig} {s s' : Runtime}

def life (s : Runtime) : Life where
  reader := s.reader
  ingress := s.ingress
  ingressOpen := s.ingressOpen
  readerEofSeen := s.readerEofSeen
  accepting := s.accepting
  drainingDeadline := s.drainingDeadline
  fatalFailure := s.fatalFailure
  cancel := s.cancel

/-- Whether `flush_device_output` finds the channel to the writer closed. -/
def flushFails (config : PacketRuntimeConfig) (s : Runtime) : Bool :=
  decide (s.writer = .panicked ∨ s.writer = .ended) && !s.engine.device.outgoing.isEmpty &&
    decide (s.inFlight < config.packetQueueDepth)

/-- What is recorded of a step. -/
def marks (config : PacketRuntimeConfig) (s : Runtime) : Action → List Mark
  | .reader .queued =>
    match s.reader with
    | .queueing packet => [.queued packet]
    | _ => []
  | .actor .event => (s.events.head?.bind (·.event.failure)).toList.map .failed
  | .actor (.packet _) => s.ingress.head?.toList.map (.handled · s.accepting)
  | .actor (.join id) => if s.workerPanicked id then [.failed .task] else []
  | .actor .reapTasks =>
    ((s.tasks.filter s.workerEnded).filter s.workerPanicked).map fun _ => .failed .task
  | .actor .flush => if s.flushFails config then [.failed .packetWrite] else []
  | _ => []

/-! ### What leaves the lifecycle alone -/

@[simp] theorem life_answer (s : Runtime) (accepted : Option WorkerId) (ok : Bool) :
    (s.answer accepted ok).life = s.life := by
  cases accepted <;> rfl

@[simp] theorem life_applyDrive (s : Runtime) (key : TcpFlowKey) (d : TcpDrive) :
    (s.applyDrive key d).life = s.life := by
  rw [applyDrive_eq]
  rfl

@[simp] theorem life_removeUdpAssociation (s : Runtime) (key : UdpAssociationKey) :
    (s.removeUdpAssociation key).life = s.life := by
  cases hkey : s.udpAssociations.lookup key with
  | none => simp only [removeUdpAssociation, hkey]
  | some entry =>
    rw [removeUdpAssociation_eq hkey]
    rfl

/-- An event of a task other than the reader and the writer. -/
theorem life_handleEvent {event : EngineEvent} (h : event.isPacket = false) :
    (s.handleEvent config event).life = s.life := by
  cases event with
  | udpDone key failed => exact life_removeUdpAssociation s key
  | tcpOpened | tcpRemoteFin | tcpDone =>
    simp only [handleEvent]
    split <;> rfl
  | tcpData key data accepted =>
    simp only [handleEvent]
    split
    · exact life_answer _ _ _
    split
    · rfl
    · exact life_answer _ _ _
  | udpResponse key endpoint payload accepted =>
    simp only [handleEvent]
    split
    · exact life_answer _ _ _
    split
    · exact life_answer _ _ _
    split
    · rfl
    · exact life_answer _ _ _
  | dnsResponse target app response =>
    simp only [handleEvent]
    split <;> rfl
  | _ => cases h

theorem life_ensureUdpTarget (s : Runtime) (target : SocketAddr) :
    (s.ensureUdpTarget config target).life = s.life := by
  unfold ensureUdpTarget
  split
  · rfl
  split
  · rfl
  · split <;> rfl

theorem life_prepareTcp (s : Runtime) (key : TcpFlowKey) (newSyn : Bool) :
    (s.prepareTcp config key newSyn).1.life = s.life := by
  unfold prepareTcp addTcpListener
  split
  · cases TcpSocket.listen config.tcpBufferBytes key.target <;> rfl
  · rfl

variable {steps : List PollStep} {posted : Posted} {rest : List Posted} {step : ActorStep}
  {action : Action} {actions : List Action}

theorem life_admitPacket {packet : Packet} {pendingTcp : Option (TcpFlowKey × SocketHandle)}
    (h : s.admitPacket packet pendingTcp steps = some s') : s'.life = s.life := by
  unfold admitPacket at h
  split at h
  · split at h <;> cases h <;> rfl
  split at h
  · cases h
  split at h
  · cases h
    rfl
  · split at h <;> cases h <;> rfl

theorem life_handlePacket {packet : Packet} (h : s.handlePacket config packet steps = some s') :
    s'.life = s.life := by
  unfold handlePacket at h
  dsimp only at h
  split at h
  · cases h
    rfl
  split at h
  · cases h
    rfl
  split at h
  · cases h
    rfl
  split at h
  · exact (life_admitPacket h).trans (life_prepareTcp _ _ _)
  · exact (life_admitPacket h).trans (life_ensureUdpTarget _ _)
  · exact (life_admitPacket h).trans rfl
  · cases h
    rfl

theorem life_driveTcpKey (s : Runtime) (key : TcpFlowKey) :
    (s.driveTcpKey config key).1.life = s.life := by
  rcases driveTcpKey_cases config s key with heq | ⟨entry, socket, worker, -, -, -, heq⟩
  · rw [heq]
  · rw [heq]
    exact life_applyDrive _ _ _

theorem life_removeTcp (s : Runtime) (key : TcpFlowKey) (handle : SocketHandle) :
    (s.removeTcp key handle).life = s.life := by
  unfold removeTcp
  cases s.tcp.lookup key with
  | none => rfl
  | some entry => exact life_answer _ _ _

/-- What every element of a list leaves alone, going through the list does. -/
theorem life_foldl {α : Type} {f : Runtime → α → Runtime} (hf : ∀ s a, (f s a).life = s.life)
    (l : List α) (s : Runtime) : (l.foldl f s).life = s.life := by
  induction l generalizing s with
  | nil => rfl
  | cons a l ih => exact (ih (f s a)).trans (hf s a)

theorem life_dispatchReceived (s : Runtime) (received : SocketAddr × SocketAddr × Bytes) :
    (s.dispatchReceived config received).life = s.life := by
  have hforward : ∀ (s : Runtime) key payload, (s.forwardUdp config key payload).life = s.life := by
    intro s key payload
    unfold forwardUdp
    split <;> rfl
  unfold dispatchReceived startDnsQuery dispatchUdp
  dsimp only
  split
  · rfl
  split
  · split <;> rfl
  split
  · exact hforward _ _ _
  split
  · rfl
  · exact hforward _ _ _

theorem life_receiveAllUdp (s : Runtime) (targets : List SocketAddr) :
    (s.receiveAllUdp targets).1.life = s.life := by
  induction targets generalizing s with
  | nil => rfl
  | cons target targets ih =>
    refine (ih (s.receiveUdp target).1).trans ?_
    unfold receiveUdp
    split
    · rfl
    split
    · rfl
    · split <;> rfl

theorem life_drainUdpRequests (s : Runtime) (targets : List SocketAddr) :
    (s.drainUdpRequests config targets).life = s.life :=
  (life_foldl life_dispatchReceived _ _).trans (life_receiveAllUdp s targets)

theorem life_sendUdpResponse (s : Runtime) (key : UdpAssociationKey) :
    (s.sendUdpResponse key).life = s.life := by
  unfold sendUdpResponse
  split
  · rfl
  split
  · rfl
  split
  · rfl
  · exact life_answer _ _ _

theorem life_sendDnsResponses (count : Nat) (s : Runtime) :
    (sendDnsResponses count s).life = s.life := by
  induction count generalizing s with
  | zero => rfl
  | succ count ih =>
    unfold sendDnsResponses
    split
    · rfl
    split
    · rfl
    · exact ih _

theorem life_sendUdpResponses (s : Runtime) (keys : List UdpAssociationKey) :
    (s.sendUdpResponses keys).life = s.life :=
  (life_sendDnsResponses _ _).trans (life_foldl life_sendUdpResponse keys s)

theorem life_reapUdpTargets (s : Runtime) : (s.reapUdpTargets config).life = s.life := by
  unfold reapUdpTargets
  split
  · rfl
  refine (life_foldl (fun s target => ?_) _ _).trans rfl
  unfold removeUdpTarget
  split <;> rfl

/-! ### Draining and failing -/

open Life

theorem moves_beginDraining (s : Runtime)
    (hreason : s.cancel ∨ s.ingressOpen = false ∧ s.readerEofSeen) :
    Moves s.life [] (s.beginDraining config false).life := by
  unfold beginDraining
  split
  · exact .refl
  · rename_i hdeadline
    exact .single (.drain _ (Option.not_isSome_iff_eq_none.mp hdeadline) hreason)

theorem moves_recordFailure (s : Runtime) (failure : PacketRuntimeFailure) :
    Moves s.life [.failed failure] (s.recordFailure config failure).life := by
  have hlife : (s.recordFailure config failure).life =
      { s.life with
        fatalFailure := s.life.fatalFailure.or (some failure)
        accepting := if s.life.drainingDeadline.isSome then s.life.accepting else false
        drainingDeadline := some s.now } := by
    unfold recordFailure beginDraining
    cases hdeadline : s.drainingDeadline <;> cases hfailure : s.fatalFailure <;>
      simp [life, hdeadline, hfailure]
  rw [hlife]
  exact .single (.fail failure s.now)

theorem moves_joined (s : Runtime) (id : WorkerId) :
    Moves s.life (if s.workerPanicked id then [.failed .task] else [])
      (s.joined config id).life := by
  unfold joined
  dsimp only
  split
  exacts [moves_recordFailure { s with tasks := s.tasks.filter (· != id) } .task, .refl]

/-- The tasks are as they were, also after a failure was recorded. -/
theorem workers_joined (s : Runtime) (id : WorkerId) :
    (s.joined config id).workers = s.workers := by
  unfold joined recordFailure beginDraining
  dsimp only
  split
  · split <;> rfl
  · rfl

theorem moves_reapCompletedTasks (ids : List WorkerId) (s : Runtime) :
    Moves s.life ((ids.filter s.workerPanicked).map fun _ => .failed .task)
      (ids.foldl (joined config) s).life := by
  induction ids generalizing s with
  | nil => exact .refl
  | cons id ids ih =>
    have hpanicked : (s.joined config id).workerPanicked = s.workerPanicked := by
      funext other
      unfold workerPanicked
      rw [workers_joined]
    have hjoined : Moves s.life (if s.workerPanicked id then [.failed .task] else [])
        (s.joined config id).life := moves_joined s id
    have hmoves := hjoined.trans (ih (s.joined config id))
    rw [hpanicked] at hmoves
    rw [List.filter_cons]
    split
    · rename_i hid
      rwa [if_pos hid] at hmoves
    · rename_i hid
      rwa [if_neg hid] at hmoves

theorem life_flush {count : Nat} (hwriter : ¬(s.writer = .panicked ∨ s.writer = .ended)) :
    (flushDeviceOutput config count s).life = s.life := by
  induction count generalizing s with
  | zero => rfl
  | succ count ih =>
    unfold flushDeviceOutput
    split
    · rfl
    split
    · rfl
    · refine (ih ?_).trans rfl
      exact hwriter

/-- The writer does not change during a flush, so the first packet decides. -/
theorem moves_flush (s : Runtime) :
    Moves s.life (if s.flushFails config then [.failed .packetWrite] else [])
      (s.flushDeviceOutput config s.engine.device.outgoing.length).life := by
  by_cases hwriter : s.writer = .panicked ∨ s.writer = .ended
  · cases houtgoing : s.engine.device.outgoing with
    | nil =>
      rw [if_neg (by simp [flushFails, houtgoing])]
      exact .refl
    | cons packet rest =>
      simp only [List.length_cons, flushDeviceOutput, BoundedDevice.takeOutgoing, houtgoing]
      by_cases hfull : s.inFlight ≥ config.packetQueueDepth
      · rw [if_pos hfull, if_neg (by simp [flushFails, hfull])]
        exact .refl
      have hroom : s.inFlight < config.packetQueueDepth := Nat.lt_of_not_le hfull
      rw [if_neg hfull, if_pos hwriter, if_pos (by simp [flushFails, hwriter, houtgoing, hroom])]
      exact moves_recordFailure
        { s with engine.device := { s.engine.device with outgoing := rest } } .packetWrite
  · rw [life_flush hwriter, if_neg (by simp [flushFails, hwriter])]
    exact .refl

/-! ### Every step -/

theorem moves_phase {reader : ReaderPhase} (hgone : s.reader.isGone → reader.isGone) :
    Moves s.life [] { s.life with reader := reader } :=
  .single (.reader reader hgone)

theorem moves_reader {step : ReaderStep} (h : s.stepReader config step = some s') :
    Moves s.life (marks config s (.reader step)) s'.life := by
  unfold stepReader at h
  split at h
  · cases h
  · obtain ⟨-, rfl⟩ := post_eq_some.mp h
    exact moves_phase fun _ => rfl
  · obtain ⟨-, rfl⟩ := post_eq_some.mp h
    exact moves_phase fun _ => rfl
  · split at h <;> cases h
    exact moves_phase fun _ => rfl
  · cases h
  · cases h
    exact moves_phase fun _ => rfl
  · rename_i hreader
    split at h <;> cases h <;> exact moves_phase (by rw [hreader]; nofun)
  · rename_i hreader
    cases h
    exact moves_phase (by rw [hreader]; nofun)
  · rename_i hreader
    cases h
    exact moves_phase (by rw [hreader]; nofun)
  · rename_i hreader
    split at h <;> cases h
    simp only [marks, hreader]
    exact .single (.queued hreader)
  · cases h

theorem moves_event (hevents : s.events = posted :: rest) :
    Moves s.life (marks config s (.actor .event))
      ({ s with events := rest }.handleEvent config posted.event).life := by
  have hmarks : marks config s (.actor .event) = posted.event.failure.toList.map .failed := by
    simp [marks, hevents]
  rw [hmarks]
  cases hevent : posted.event with
  | packetReadFailed => exact moves_recordFailure { s with events := rest } .packetRead
  | packetWriteFailed => exact moves_recordFailure { s with events := rest } .packetWrite
  | packetEof =>
    have heof : Moves s.life [] { s.life with readerEofSeen := true } := .single .eof
    simp only [handleEvent]
    split
    · exact heof
    rename_i hclosed
    exact heof.trans (moves_beginDraining
      { s with events := rest, readerEofSeen := true }
      (.inr ⟨Bool.eq_false_iff.mpr hclosed, rfl⟩))
  | _ =>
    rw [life_handleEvent rfl]
    exact .refl

theorem moves_select (h : SelectEffect config s step s') :
    Moves s.life (marks config s (.actor step)) s'.life := by
  cases h with
  | cancelled hcancel _ => exact moves_beginDraining s (.inl hcancel)
  | event hevents => exact moves_event hevents
  | @packet packet rest steps _ hingress hopen hhandle =>
    have hmarks : marks config s (.actor (.packet steps)) = [.handled packet s.accepting] := by
      simp [marks, hingress]
    rw [hmarks, life_handlePacket hhandle]
    exact .single (.handled hingress hopen)
  | ingressClosed _ hempty hgone _ => exact .single (.closed hempty hgone)
  | ingressEnded _ hempty hgone heof =>
    have hclosed : Moves s.life [] { s.life with ingressOpen := false } :=
      .single (.closed hempty hgone)
    exact hclosed.trans (moves_beginDraining { s with ingressOpen := false } (.inr ⟨rfl, heof⟩))
  | join _ _ => exact moves_joined s _
  | tick => exact .refl

theorem moves_actor (h : ActorEffect config s step s') :
    Moves s.life (marks config s (.actor step)) s'.life := by
  -- the steps that are not recorded and leave the lifecycle alone
  have hstill : marks config s (.actor step) = [] → s'.life = s.life →
      Moves s.life (marks config s (.actor step)) s'.life := by
    intro hmarks hlife
    rw [hmarks, hlife]
    exact .refl
  cases h with
  | select _ heffect =>
    have hmoves := moves_select heffect
    exact hmoves
  | reapTasks _ => exact moves_reapCompletedTasks _ s
  | flush _ => exact moves_flush s
  | driveTcpKey _ => exact hstill rfl (life_driveTcpKey s _)
  | @removeFinished remove _ =>
    have hlife := life_foldl
      (fun s (r : TcpFlowKey × SocketHandle) => life_removeTcp s r.1 r.2) remove s
    exact hstill rfl hlife
  | driveUdp _ _ _ =>
    exact hstill rfl ((life_sendUdpResponses _ _).trans (life_drainUdpRequests s _))
  | reapTargets _ => exact hstill rfl (life_reapUdpTargets s)
  | _ => exact hstill rfl rfl

/-- **Every step of the runtime is a sequence of moves of its lifecycle.** -/
theorem moves_next (h : s.next config action = some s') :
    Moves s.life (marks config s action) s'.life := by
  cases action with
  | cancel =>
    cases h
    exact .single .cancel
  | clock now =>
    rw [next] at h
    split at h <;> cases h
    exact .refl
  | reader step => exact moves_reader h
  | writer step =>
    have heq := writer_eq (stepWriter_effect h)
    rw [heq]
    exact .refl
  | worker id step =>
    obtain ⟨worker, worker', event, -, -, rfl⟩ := stepWorker_eq_some h
    exact .refl
  | actor step => exact moves_actor (stepActor_effect h)

/-! ## The lifecycle in every run -/

/-- What `run_runtime` returns after the loop has ended. -/
def outcome (s : Runtime) : Except PacketRuntimeFailure Unit :=
  match s.fatalFailure with
  | some failure => .error failure
  | none => .ok ()

/-- Everything that `should_stop` looks at. -/
structure Emptied (s : Runtime) : Prop where
  tcp : s.tcp.entries = []
  associations : s.udpAssociations.entries = []
  dns : s.activeDnsQueries = 0
  ingress : s.ingressQueueDepth = 0
  egress : s.egressQueueDepth = 0
  events : s.events = []
  pendingDns : s.pendingDnsResponses = []
  incoming : s.engine.device.incoming = []
  outgoing : s.engine.device.outgoing = []
  tasks : s.tasks = []

theorem emptied_of_quiescent {quiet : Bool} (h : s.quiescent quiet) :
    quiet = true ∧ s.Emptied := by
  simp only [quiescent, BoundedDevice.isEmpty, Bool.and_eq_true, List.isEmpty_iff,
    beq_iff_eq] at h
  obtain ⟨⟨⟨⟨⟨⟨⟨⟨⟨htcp, hudp⟩, hdns⟩, hingress⟩, hegress⟩, hevents⟩, htasks⟩, hpending⟩,
    hincoming, houtgoing⟩, hquiet⟩ := h
  exact ⟨hquiet, htcp, hudp, hdns, hingress, hegress, hevents, hpending, hincoming, houtgoing,
    htasks⟩

/-- The phase after a step, but for the check at the end of a turn. -/
theorem stopped_of_next (h : s.next config action = some s') (hrunning : s.phase ≠ .stopped)
    (hstopped : s'.phase = .stopped) :
    ∃ quiet, action = .actor (.checkStop quiet) ∧ (s'.forced = true ∨ quiet = true ∧ s'.Emptied) := by
  cases action with
  | cancel =>
    cases h
    exact absurd hstopped hrunning
  | clock now =>
    rw [next] at h
    split at h <;> cases h
    exact absurd hstopped hrunning
  | reader step =>
    cases stepReader_effect h <;> exact absurd hstopped hrunning
  | writer step =>
    have heq := writer_eq (stepWriter_effect h)
    rw [heq] at hstopped
    exact absurd hstopped hrunning
  | worker id step =>
    obtain ⟨worker, worker', event, -, -, rfl⟩ := stepWorker_eq_some h
    exact absurd hstopped hrunning
  | actor step =>
    cases stepActor_effect h with
    | @stop quiet _ _ _ hquiescent =>
      obtain ⟨hquiet, hemptied⟩ := emptied_of_quiescent hquiescent
      exact ⟨quiet, rfl, .inr ⟨hquiet, { hemptied with }⟩⟩
    | @force quiet => exact ⟨quiet, rfl, .inl rfl⟩
    | select | reapTasks | firstPoll | driveTcp | driveTcpKey | removeFinished | driveUdp
    | secondPoll | flush | reapTargets | goOn => cases hstopped

theorem failure_run (hrun : (system config).run s actions = some s')
    {failure : PacketRuntimeFailure} (hfailed : s.fatalFailure = some failure) :
    s'.fatalFailure = some failure :=
  System.run_invariant (I := fun s => s.fatalFailure = some failure)
    (fun _ _ _ hs hnext => failure_moves (moves_next hnext) hs) hfailed hrun

theorem draining_run (hrun : (system config).run s actions = some s')
    (hdraining : s.drainingDeadline.isSome) : s'.drainingDeadline.isSome :=
  System.run_invariant (I := fun s => s.drainingDeadline.isSome)
    (fun _ _ _ hs hnext => draining_moves (moves_next hnext) hs) hdraining hrun

/-- The lifecycle of the actor, in a state and with the record of the run that led to it. -/
structure Lifecycle (config : PacketRuntimeConfig) (log : List Mark) (s : Runtime) : Prop where
  /-- The failure that is recorded is the first one that was observed, -/
  firstFailure : s.fatalFailure = (log.filterMap Mark.failure).head?
  /-- and it stays. -/
  failureKept : ∀ failure, s.fatalFailure = some failure → ∀ actions s',
    (system config).run s actions = some s' → s'.fatalFailure = some failure
  /-- If nothing has failed and no shutdown was asked for, draining begins after the last
  packet was handled, -/
  drainsAfterInput : s.fatalFailure = none → s.cancel = false → s.drainingDeadline.isSome →
    log.filterMap Mark.handledPacket = log.filterMap Mark.queuedPacket ∧ s.ingress = [] ∧
      s.ingressOpen = false ∧ s.readerGone
  /-- and all packets were handled while they were accepted. -/
  handledAccepting : s.fatalFailure = none → s.cancel = false →
    ∀ packet accepting, .handled packet accepting ∈ log → accepting = true
  drainingKept : s.drainingDeadline.isSome → ∀ actions s',
    (system config).run s actions = some s' → s'.drainingDeadline.isSome ∧ s'.accepting = false
  acceptingLost : s.accepting = false → ∀ actions s',
    (system config).run s actions = some s' → s'.accepting = false
  /-- A reader that has panicked or failed reports a failure, -/
  readerReports : s.reader = .panicked ∨ s.reader = .reporting false → ∀ s',
    s.next config (.reader .sent) = some s' → s'.events = s.events ++ [⟨.reader, .packetReadFailed⟩]
  writerReports : (s.writer = .panicked ∨ ∃ packet, s.writer = .reporting packet) → ∀ s',
    s.next config (.writer .sent) = some s' → s'.events = s.events ++ [⟨.writer, .packetWriteFailed⟩]
  /-- and once the report is handled, the runtime ends with a failure. -/
  reportFails : ∀ posted rest s', s.events = posted :: rest →
    posted.event = .packetReadFailed ∨ posted.event = .packetWriteFailed →
    s.next config (.actor .event) = some s' → ∀ actions s'',
    (system config).run s' actions = some s'' → ∃ failure, s''.outcome = .error failure
  /-- The loop ends when there is nothing left, or it is forced. -/
  stops : ∀ action s', s.phase ≠ .stopped → s.next config action = some s' →
    s'.phase = .stopped →
    ∃ quiet, action = .actor (.checkStop quiet) ∧ (s'.forced = true ∨ quiet = true ∧ s'.Emptied)

/-- A step that handles the report of a failure leaves one behind. -/
theorem failure_of_report (hevents : s.events = posted :: rest)
    (hreport : posted.event = .packetReadFailed ∨ posted.event = .packetWriteFailed)
    (hnext : s.next config (.actor .event) = some s') :
    ∃ failure, s'.fatalFailure = some failure := by
  have hmarks : ∃ failure, .failed failure ∈ marks config s (.actor .event) := by
    rcases hreport with hreport | hreport <;>
      simp [marks, hevents, hreport, EngineEvent.failure]
  obtain ⟨failure, hmark⟩ := hmarks
  exact Option.isSome_iff_exists.mp (failed_moves (moves_next hnext) hmark)

/-- The states of a run and its record. -/
theorem lived_of_recording {r : List Mark × Runtime}
    (h : ((system config).recording (marks config)).Reach r) :
    (system config).Reach r.2 ∧ Lived r.1 r.2.life := by
  refine System.ReachBy.recorded (I := fun log (s : Runtime) => Lived log s.life) ?_ ?_ h
  · exact ⟨rfl, rfl, nofun, nofun, rfl, nofun⟩
  · intro log s action s' _ hlived _ hnext
    exact lived_moves (moves_next hnext) hlived

/-- **The lifecycle of the actor holds**, in every run. -/
theorem lifecycle_holds (config : PacketRuntimeConfig) {log : List Mark} {s : Runtime}
    (h : ((system config).recording (marks config)).Reach (log, s)) : s.Lifecycle config log := by
  obtain ⟨hreach, hlived⟩ := lived_of_recording h
  have hdraining : s.accepting = false ↔ s.drainingDeadline.isSome := by
    have haccepting : s.accepting = s.drainingDeadline.isNone := hlived.accepting
    rw [haccepting]
    cases s.drainingDeadline <;> simp
  have hlater : s.drainingDeadline.isSome → ∀ actions s',
      (system config).run s actions = some s' →
      s'.drainingDeadline.isSome ∧ s'.accepting = false := by
    intro hs actions s' hrun
    have hs' := draining_run hrun hs
    exact ⟨hs', (bounded_of_reach (System.reach_of_run hreach hrun)).draining hs'⟩
  constructor
  case firstFailure => exact hlived.failure
  case failureKept =>
    intro failure hfailed actions s' hrun
    exact failure_run hrun hfailed
  case drainsAfterInput =>
    intro hfailure hcancel hdeadline
    have hclosed : s.ingressOpen = false := by
      rcases hlived.reason hdeadline with hfailed | hcancelled | hclosed
      · have hnone : s.life.fatalFailure = none := hfailure
        rw [hnone] at hfailed
        cases hfailed
      · have hnone : s.life.cancel = false := hcancel
        rw [hnone] at hcancelled
        cases hcancelled
      · exact hclosed
    obtain ⟨hempty, hgone⟩ := hlived.closed hclosed
    have hpackets := hlived.packets
    rw [hempty, List.append_nil] at hpackets
    exact ⟨hpackets.symm, hempty, hclosed, hgone⟩
  case handledAccepting => exact hlived.accepted
  case drainingKept => exact hlater
  case acceptingLost =>
    intro hrefused actions s' hrun
    exact (hlater (hdraining.mp hrefused) actions s' hrun).2
  case readerReports =>
    rintro (hreader | hreader) s' hnext <;>
    · simp only [next, stepReader, hreader] at hnext
      obtain ⟨-, rfl⟩ := post_eq_some.mp hnext
      rfl
  case writerReports =>
    rintro (hwriter | ⟨packet, hwriter⟩) s' hnext <;>
    · simp only [next, stepWriter, hwriter] at hnext
      obtain ⟨-, rfl⟩ := post_eq_some.mp hnext
      rfl
  case reportFails =>
    intro posted rest s' hevents hreport hnext actions s'' hrun
    obtain ⟨failure, hfailed⟩ := failure_of_report hevents hreport hnext
    refine ⟨failure, ?_⟩
    rw [outcome, failure_run hrun hfailed]
  case stops =>
    intro action s' hrunning hnext hstopped
    exact stopped_of_next hnext hrunning hstopped

/-! ## A clean stop -/

namespace EndOfInput

def packet : Packet := Sample.packet 20 .other

/-- One packet, and the end of the input, whose event comes before the ingress queue is
found closed. -/
def trace : List Action :=
  arrival packet [] ++ turn [] ++ [.reader .eof, .reader .sent, .actor .event] ++ turn [] ++
    [.actor .ingressClosed] ++ turn []

end EndOfInput

/-- A runtime that stops at the end of its input has handled all of it. -/
theorem lifecycle_holds_at_end : ∃ (log : List Mark) (s : Runtime),
    ((system .default).recording (marks .default)).Reach (log, s) ∧
    log = [.queued EndOfInput.packet, .handled EndOfInput.packet true] ∧ s.phase = .stopped ∧
    s.outcome = .ok () ∧ s.forced = false ∧
    log.filterMap Mark.handledPacket = log.filterMap Mark.queuedPacket ∧ s.ingress = [] := by
  obtain ⟨⟨log, s⟩, hreach, hlog, hphase, hdraining, hfailure, hcancel, hforced⟩ :=
    ((system .default).recording (marks .default)).exists_reach
      (fun r => r.1 = [.queued EndOfInput.packet, .handled EndOfInput.packet true] ∧
        r.2.phase = .stopped ∧ r.2.drainingDeadline.isSome ∧ r.2.fatalFailure = none ∧
        r.2.cancel = false ∧ r.2.forced = false) EndOfInput.trace (by decide +kernel)
  have hlife := lifecycle_holds .default hreach
  obtain ⟨hpackets, hempty, -, -⟩ := hlife.drainsAfterInput hfailure hcancel hdraining
  refine ⟨log, s, hreach, hlog, hphase, ?_, hforced, hpackets, hempty⟩
  rw [outcome, hfailure]

end Runtime
end Tun
end Maverick
