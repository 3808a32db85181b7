import Maverick.Tun.Flows
import Maverick.Tun.Isolation

/-!
# The upload of a TCP flow

The bytes of the application go from the socket of its flow through the command
channel to the worker, which writes them to the remote flow.  The end of them goes the
same way, as `LocalFin`, but only from a socket in CLOSE-WAIT.

* `Flow.Carrying` — what the actor has taken from the socket, it has sent to the worker.
* `TcpWorker.Uploading` — what the worker has taken from its channel, it has written.
* `upload_complete` — so when the worker of an entry has reported its end, everything
  the application sent has been written, and the remote flow was shut down.
* `remote_fin_first_drops_upload` — a flow may be removed before that: where the remote
  side closes first, the socket never comes to CLOSE-WAIT.
-/

namespace Maverick
namespace Tun

open Lib

/-! ## The worker -/

/-- The bytes in the commands. -/
def dataOf (commands : List TcpCommand) : Bytes :=
  commands.flatMap fun
    | .data data => data
    | .localFin => []

@[simp] theorem dataOf_nil : dataOf [] = [] := rfl

theorem dataOf_append (commands commands' : List TcpCommand) :
    dataOf (commands ++ commands') = dataOf commands ++ dataOf commands' :=
  List.flatMap_append

theorem dataOf_snoc_data (commands : List TcpCommand) (data : Bytes) :
    dataOf (commands ++ [.data data]) = dataOf commands ++ data := by
  rw [dataOf_append]
  simp [dataOf]

theorem dataOf_map_data (chunks : List Bytes) : dataOf (chunks.map .data) = chunks.flatten := by
  rw [dataOf, List.flatMap_map, List.flatMap_id']

namespace TcpWorker

variable {id : WorkerId} {w w' : TcpWorker} {event : Option EngineEvent}

/-- What was taken from the channel has been written, except for `held`. -/
def Taken (w : TcpWorker) (held : Bytes) : Prop :=
  ∃ taken, w.sent = taken ++ w.commands ∧ dataOf taken = w.written ++ held

/-- Everything before a `LocalFin` has been written. -/
def Finished (w : TcpWorker) : Prop :=
  ∃ taken rest, w.sent = taken ++ .localFin :: rest ∧ dataOf taken = w.written

/-- How far the upload is, by the place where the worker waits. -/
def Carries (w : TcpWorker) : Prop :=
  match w.phase with
  | .connecting | .sendingOpened | .relaying .receiving _ => w.Taken []
  | .relaying (.writing data) _ => w.Taken data
  | .relaying .shuttingDown _ => w.Finished
  | .relaying .returned _ | .sendingDone false _ => w.Finished ∧ w.shutDown = true
  | .sendingDone true _ => True
  | .ended _ => w.reported = some false → w.Finished ∧ w.shutDown = true

theorem phase_of_isEnded (h : w.isEnded = true) : ∃ panicked, w.phase = .ended panicked := by
  unfold isEnded at h
  split at h
  · exact ⟨_, ‹_›⟩
  · cases h

/-- The upload, as long as the actor lets the worker go on. -/
structure Uploading (w : TcpWorker) : Prop where
  unreported : w.isEnded = false → w.reported = none
  carries : w.cancelled = false → w.senderAlive = true → w.Carries

theorem uploading_start (key : TcpFlowKey) : (start key).Uploading :=
  ⟨fun _ => rfl, fun _ _ => ⟨[], rfl, rfl⟩⟩

theorem Taken.push {held : Bytes} (h : w.Taken held) (commands : List TcpCommand) :
    (w.push commands).Taken held := by
  obtain ⟨taken, hsent, hdata⟩ := h
  refine ⟨taken, ?_, hdata⟩
  show w.sent ++ commands = taken ++ (w.commands ++ commands)
  rw [hsent, List.append_assoc]

theorem Finished.push (h : w.Finished) (commands : List TcpCommand) :
    (w.push commands).Finished := by
  obtain ⟨taken, rest, hsent, hdata⟩ := h
  refine ⟨taken, rest ++ commands, ?_, hdata⟩
  show w.sent ++ commands = taken ++ .localFin :: (rest ++ commands)
  rw [hsent, List.append_assoc, List.cons_append]

theorem Carries.push (h : w.Carries) (hlive : w.isEnded = false) (commands : List TcpCommand) :
    (w.push commands).Carries := by
  unfold Carries at h ⊢
  have hphase : (w.push commands).phase = w.phase := rfl
  rw [hphase]
  split at h
  · exact h.push commands
  · exact h.push commands
  · exact h.push commands
  · exact h.push commands
  · exact h.push commands
  · exact ⟨h.1.push commands, h.2⟩
  · exact ⟨h.1.push commands, h.2⟩
  · trivial
  · rename_i hended
    simp [isEnded, hended] at hlive

theorem Carries.answer (h : w.Carries) (ok : Bool) : (w.answer ok).Carries := by
  unfold TcpWorker.answer
  split
  · rename_i here hphase
    unfold Carries at h ⊢
    simp only [hphase] at h
    cases here <;> exact h
  · exact h

/-- What the actor does keeps the upload in order. -/
theorem Uploading.change (h : w.Uploading) (hchange : WorkerChange w w') : w'.Uploading := by
  cases hchange with
  | answered ok =>
    have hsame : (w.answer ok).reported = w.reported ∧ (w.answer ok).cancelled = w.cancelled := by
      unfold TcpWorker.answer
      split <;> exact ⟨rfl, rfl⟩
    constructor
    · intro hlive
      rw [isEnded_answer] at hlive
      rw [hsame.1, h.unreported hlive]
    intro hcancelled halive
    rw [hsame.2] at hcancelled
    rw [senderAlive_answer] at halive
    exact (h.carries hcancelled halive).answer ok
  | released => exact ⟨h.unreported, nofun⟩
  | pushed commands hlive =>
    exact ⟨h.unreported, fun hcancelled halive =>
      (h.carries hcancelled halive).push hlive commands⟩
  | cancelled => exact ⟨h.unreported, nofun⟩

theorem Uploading.changes (h : w.Uploading) (hchanges : WorkerChanges w w') : w'.Uploading := by
  induction hchanges with
  | refl => exact h
  | tail _ hlast ih => exact ih.change hlast

/-- The loop of the worker, after one of its halves has gone on. -/
theorem carries_relay {here : LocalHalf} {there : RemoteHalf}
    (h : (w.enter (.relaying here there)).Carries) : (w.relay here there).Carries := by
  unfold relay
  split
  · rename_i hboth
    rwa [hboth.1] at h
  · exact h

/-- **The worker writes what it takes, in order.** -/
theorem carries_step (hcancelled : w.cancelled = false) (halive : w.senderAlive = true)
    (hunreported : w.isEnded = false → w.reported = none) (h : w.Carries)
    (hstep : Steps id w w' event) : w'.Carries := by
  obtain ⟨hlive, step, hstep⟩ := hstep
  cases hstep with
  | gone panicked =>
    intro hreported
    have hnone : (w.finish panicked).reported = none := hunreported hlive
    cases hnone.symm.trans hreported
  | connected hphase | opened hphase =>
    simp only [Carries, hphase] at h
    exact h
  | refused => trivial
  | @took data rest there hphase hcommands =>
    simp only [Carries, hphase] at h
    obtain ⟨taken, hsent, hdata⟩ := h
    refine ⟨taken ++ [.data data], ?_, ?_⟩
    · show w.sent = taken ++ [.data data] ++ rest
      rw [List.append_assoc, List.singleton_append, ← hcommands, hsent]
    rw [List.append_nil] at hdata
    rw [dataOf_snoc_data, hdata]
    rfl
  | @tookFin rest there hphase hcommands =>
    simp only [Carries, hphase] at h
    obtain ⟨taken, hsent, hdata⟩ := h
    rw [List.append_nil] at hdata
    rw [hcommands] at hsent
    exact ⟨taken, rest, hsent, hdata⟩
  | orphaned hphase horphaned =>
    cases horphaned.symm.trans halive
  | @wrote data there hphase =>
    simp only [Carries, hphase] at h
    obtain ⟨taken, hsent, hdata⟩ := h
    exact ⟨taken, hsent, hdata.trans (List.append_nil _).symm⟩
  | shutDown hphase =>
    simp only [Carries, hphase] at h
    exact carries_relay ⟨h, rfl⟩
  | @remote _ here _ _ _ hphase _ =>
    refine carries_relay ?_
    simp only [Carries, hphase] at h
    cases here <;> exact h
  | cancelled _ hyes | localCancelled _ hyes =>
    cases hyes.symm.trans hcancelled
  | failed =>
    rw [hcancelled]
    trivial
  | @reported failed held hphase =>
    intro hreported
    obtain rfl : failed = false := Option.some.inj hreported
    simp only [Carries, hphase] at h
    exact h

/-- A worker that has not ended has not reported. -/
theorem unreported_step (h : w.isEnded = false → w.reported = none) (hstep : Steps id w w' event)
    (hlive : w'.isEnded = false) : w'.reported = none := by
  obtain ⟨hbefore, step, hstep⟩ := hstep
  cases hstep with
  | gone | reported => cases hlive
  | shutDown | remote | localCancelled =>
    rw [relay_eq]
    exact h hbefore
  | _ => exact h hbefore

theorem Uploading.step (h : w.Uploading) (hstep : Steps id w w' event) : w'.Uploading := by
  obtain ⟨-, halive, hcancelled, -⟩ := hstep.ends
  refine ⟨unreported_step h.unreported hstep, ?_⟩
  rw [halive, hcancelled]
  intro hnot hyes
  exact carries_step hnot hyes h.unreported (h.carries hnot hyes) hstep

/-- A report is not taken back. -/
theorem Steps.reported_isSome (h : Steps id w w' event) (hreported : w.reported.isSome) :
    w'.reported.isSome := by
  obtain ⟨-, step, h⟩ := h
  cases h with
  | shutDown | remote | localCancelled =>
    rwa [relay_eq]
  | reported => rfl
  | _ => exact hreported

/-- A worker that sends its report is the worker of that flow. -/
theorem Steps.reported_of_done {key : TcpFlowKey} {failed : Bool}
    (h : Steps id w w' (some (.tcpDone key failed))) :
    w'.key = key ∧ w'.reported = some failed := by
  obtain ⟨-, step, h⟩ := h
  cases h with
  | remote _ hremote => cases hremote
  | reported => exact ⟨rfl, rfl⟩

end TcpWorker

/-! ## The flow -/

/-- The chunks of an upload, and its end. -/
def commandsOf (chunks : List Bytes) (fin : Bool) : List TcpCommand :=
  chunks.map .data ++ if fin then [.localFin] else []

/-- What the socket has received is in the channel or still in the socket, and nothing
comes after the end. -/
structure Flow.Carrying (f : Flow) (chunks : List Bytes) : Prop where
  order : f.worker.sent = commandsOf chunks f.entry.localFinSent
  passed : f.socket.state ≠ .closed → chunks.flatten ++ f.socket.rx = f.socket.received
  fin : f.entry.localFinSent = true → f.socket.rx = [] ∧
    f.socket.state ∈ [.closeWait, .lastAck, .closed] ∧ chunks.flatten = f.socket.received

namespace Flow

variable {f f' : Flow} {chunks : List Bytes}

/-- A socket that stays as it is, or is closed in an orderly way. -/
theorem Carrying.close (h : f.Carrying chunks) :
    Carrying { f with socket := f.socket.close } chunks := by
  have hclosed : f.socket.close.state ≠ .closed → f.socket.state ≠ .closed := by
    intro hstate heq
    apply hstate
    simp [TcpSocket.close, heq]
  have hsame : f.socket.close.rx = f.socket.rx ∧ f.socket.close.received = f.socket.received := by
    unfold TcpSocket.close
    split <;> exact ⟨rfl, rfl⟩
  refine ⟨h.order, ?_, ?_⟩
  · intro hstate
    rw [hsame.1, hsame.2]
    exact h.passed (hclosed hstate)
  intro hfin
  obtain ⟨hrx, hstate, hall⟩ := h.fin hfin
  rw [hsame.1, hsame.2]
  refine ⟨hrx, ?_, hall⟩
  simp only [List.mem_cons, List.not_mem_nil, or_false] at hstate
  rcases hstate with hstate | hstate | hstate <;> simp [TcpSocket.close, hstate]

theorem Carrying.abort (h : f.Carrying chunks) :
    Carrying { f with socket := f.socket.abort } chunks := by
  refine ⟨h.order, fun hstate => absurd rfl hstate, ?_⟩
  intro hfin
  obtain ⟨hrx, -, hall⟩ := h.fin hfin
  exact ⟨hrx, by simp [TcpSocket.abort], hall⟩

theorem Carrying.congr (h : f.Carrying chunks) (hsent : f'.worker.sent = f.worker.sent)
    (hfin : f'.entry.localFinSent = f.entry.localFinSent)
    (hstate : f'.socket.state = f.socket.state) (hrx : f'.socket.rx = f.socket.rx)
    (hreceived : f'.socket.received = f.socket.received) : f'.Carrying chunks where
  order := by rw [hsent, hfin, h.order]
  passed := by
    rw [hstate, hrx, hreceived]
    exact h.passed
  fin := by
    rw [hfin, hstate, hrx, hreceived]
    exact h.fin

variable {packet : Option Packet} {socket : TcpSocket}

/-- What a move of the engine does to the bytes received. -/
theorem received_of_polls {socket' : TcpSocket} (h : socket.polls packet socket') :
    ∃ new, socket'.received = socket.received ++ new ∧
      (socket.state.takesData = true ∨ new = []) ∧
      (socket'.rx = socket.rx ++ new ∨
        socket.state = .timeWait ∧ socket'.state = .closed ∧ socket'.rx = []) := by
  simp only [TcpSocket.polls, TcpSocket.receivedKept, Bool.and_eq_true, Bool.or_eq_true,
    beq_iff_eq, List.isPrefixOf_iff_prefix, List.isEmpty_iff] at h
  obtain ⟨⟨⟨-, ⟨⟨new, hnew⟩, htakes⟩, hrx⟩, -⟩, -⟩ := h
  have hdrop : socket'.received.drop socket.received.length = new := by
    rw [← hnew, List.drop_left]
  refine ⟨new, hnew.symm, ?_, ?_⟩
  · rcases htakes with htakes | hsame
    · exact .inl htakes
    · rw [← hnew] at hsame
      exact .inr (List.append_right_eq_self.mp hsame)
  rw [hdrop] at hrx
  rcases hrx with hrx | ⟨⟨htime, hclosed⟩, hempty⟩
  exacts [.inl hrx, .inr ⟨htime, hclosed, hempty⟩]

theorem Carrying.moved (h : f.Carrying chunks) (hpolls : f.socket.polls packet socket) :
    Carrying { f with socket := socket } chunks := by
  obtain ⟨new, hreceived, htakes, hrx⟩ := received_of_polls hpolls
  have hstate := TcpSocket.state_of_polls hpolls
  refine ⟨h.order, ?_, ?_⟩
  · intro hopen
    have hbefore : f.socket.state ≠ .closed := by
      intro hclosed
      rcases hstate with hsame | hmem
      · exact hopen (hsame.trans hclosed)
      · rw [hclosed] at hmem
        cases hmem
    rcases hrx with hrx | ⟨-, hclosed, -⟩
    · show chunks.flatten ++ socket.rx = socket.received
      rw [hrx, hreceived, ← List.append_assoc, h.passed hbefore]
    · exact absurd hclosed hopen
  · intro hfin
    obtain ⟨hempty, hstates, hall⟩ := h.fin hfin
    simp only [List.mem_cons, List.not_mem_nil, or_false] at hstates
    -- after the FIN of the application the engine takes nothing more
    have hnew : new = [] := by
      refine htakes.resolve_left ?_
      rcases hstates with heq | heq | heq <;> rw [heq] <;> nofun
    refine ⟨?_, ?_, ?_⟩
    · rcases hrx with hrx | ⟨-, -, hrx⟩
      · rw [show Flow.socket ⟨f.entry, socket, f.worker⟩ = socket from rfl, hrx, hempty, hnew]
        rfl
      · exact hrx
    · show socket.state ∈ [.closeWait, .lastAck, .closed]
      rcases hstate with hsame | hmem
      · rw [hsame]
        rcases hstates with heq | heq | heq <;> simp [heq]
      · rcases hstates with heq | heq | heq <;> rw [heq] at hmem <;>
          simp [TcpState.successors] at hmem <;> simp [hmem]
    · show chunks.flatten = socket.received
      rw [hreceived, hnew, List.append_nil, hall]

end Flow

/-! ### Driving the flow -/

namespace Runtime.TcpDrive

variable {depth : Nat} {d : TcpDrive}

/-- The flow that is driven. -/
def flow (d : TcpDrive) : Flow := ⟨d.entry, d.socket, d.worker⟩

/-- A turn of the loop brings bytes of the socket into the channel, and their end after all of
them. -/
theorem carrying_drive (depth : Nat) (h : ∃ chunks, d.flow.Carrying chunks) :
    ∃ chunks, (d.drive depth).flow.Carrying chunks := by
  refine drive_invariant (I := fun d => ∃ chunks, d.flow.Carrying chunks) ?_ h
  rintro d _ _ hpart ⟨chunks, h⟩
  cases hpart with
  | same => exact ⟨chunks, h⟩
  | aborted amount =>
    refine ⟨chunks, h.order, fun hopen => absurd rfl hopen, fun hsent => ?_⟩
    obtain ⟨hempty, -, hall⟩ := h.fin hsent
    have hrx : d.socket.rx = [] := hempty
    refine ⟨?_, by simp [flow, TcpSocket.abort], hall⟩
    show d.socket.rx.drop amount = []
    rw [hrx, List.drop_nil]
  | received amount _ hrx =>
    have hfin : d.entry.localFinSent = false := by
      rw [← Bool.not_eq_true]
      intro hsent
      exact hrx (h.fin hsent).1
    refine ⟨chunks ++ [d.socket.rx.take amount], ?_, ?_, fun hsent => absurd (h.fin hsent).1 hrx⟩
    · have horder : d.worker.sent = commandsOf chunks d.entry.localFinSent := h.order
      show d.worker.sent ++ [.data (d.socket.rx.take amount)] = commandsOf _ d.entry.localFinSent
      rw [horder, hfin]
      simp [commandsOf]
    intro hopen
    have hpassed : chunks.flatten ++ d.socket.rx = d.socket.received := h.passed hopen
    show (chunks ++ [d.socket.rx.take amount]).flatten ++ d.socket.rx.drop amount =
      d.socket.received
    rw [List.flatten_append, List.flatten_singleton, List.append_assoc,
      List.take_append_drop, hpassed]
  | finished hfin hstate hempty =>
    have hpassed : chunks.flatten ++ d.socket.rx = d.socket.received := by
      refine h.passed ?_
      show d.socket.state ≠ .closed
      rw [hstate]
      nofun
    refine ⟨chunks, ?_, h.passed, fun _ => ⟨hempty, ?_, ?_⟩⟩
    · have horder : d.worker.sent = commandsOf chunks d.entry.localFinSent := h.order
      show d.worker.sent ++ [.localFin] = commandsOf chunks true
      rw [horder, hfin]
      simp [commandsOf]
    · show d.socket.state ∈ _
      rw [hstate]
      exact List.mem_cons_self
    · show chunks.flatten = d.socket.received
      rwa [hempty, List.append_nil] at hpassed
  | _ => exact ⟨chunks, h.congr rfl rfl rfl rfl rfl⟩

end Runtime.TcpDrive

namespace Flow

variable {depth : Nat} {f f' : Flow}

/-- **A change of a flow loses nothing of the upload.** -/
theorem carrying_change (h : ∃ chunks, f.Carrying chunks) (hchange : FlowChange depth f f') :
    ∃ chunks, f'.Carrying chunks := by
  obtain ⟨chunks, h⟩ := h
  cases hchange with
  | updated hfin => exact ⟨chunks, h.congr rfl hfin rfl rfl rfl⟩
  | moved hpolls => exact ⟨chunks, h.moved hpolls⟩
  | closed => exact ⟨chunks, h.close⟩
  | aborted => exact ⟨chunks, h.abort⟩
  | answered ok =>
    refine ⟨chunks, h.congr ?_ rfl rfl rfl rfl⟩
    show (f.worker.answer ok).sent = f.worker.sent
    unfold TcpWorker.answer
    split <;> rfl
  | driven =>
    have hflow : Runtime.TcpDrive.flow ⟨f.entry, f.socket, f.worker, none⟩ = f := rfl
    obtain ⟨chunks', h'⟩ := Runtime.TcpDrive.carrying_drive depth ⟨chunks, hflow.symm ▸ h⟩
    exact ⟨chunks', h'.congr rfl rfl rfl rfl rfl⟩

theorem carrying_changes (h : ∃ chunks, f.Carrying chunks) (hchanges : FlowChanges depth f f') :
    ∃ chunks, f'.Carrying chunks := by
  induction hchanges with
  | refl => exact h
  | tail _ hlast ih => exact carrying_change ih hlast

end Flow

/-! ## The runtime -/

namespace Runtime

variable {config : PacketRuntimeConfig} {cause : Cause} {steps : List PollStep} {s s' : Runtime}

/-- A worker of the flow has reported its end. -/
def Reported (s : Runtime) (key : TcpFlowKey) : Prop :=
  ∃ i w, s.tcpWorker i = some w ∧ w.key = key ∧ w.reported.isSome

/-- The uploads of all flows, and the reports of their ends. -/
structure Delivering (s : Runtime) : Prop where
  workers : ∀ {i w}, s.tcpWorker i = some w → w.Uploading
  flows : ∀ {key f}, s.flow key = some f → ∃ chunks, f.Carrying chunks
  events : ∀ {p key failed}, p ∈ s.events → p.event = .tcpDone key failed → s.Reported key
  done : ∀ {key entry}, s.tcp.lookup key = some entry → entry.workerDone = true → s.Reported key

theorem reported_change {w w' : TcpWorker} (h : WorkerChanges w w') :
    w'.key = w.key ∧ w'.reported = w.reported := by
  induction h with
  | refl => exact ⟨rfl, rfl⟩
  | @tail v v' _ hlast ih =>
    have hstep : v'.key = v.key ∧ v'.reported = v.reported := by
      cases hlast with
      | answered ok =>
        refine ⟨TcpWorker.key_answer ok v, ?_⟩
        unfold TcpWorker.answer
        split <;> rfl
      | _ => exact ⟨rfl, rfl⟩
    exact ⟨hstep.1.trans ih.1, hstep.2.trans ih.2⟩

variable {key k : TcpFlowKey} {entry' : TcpEntry} {id : WorkerId}

theorem Reported.tended (h : s.Reported key) (htended : Tended s s') : s'.Reported key := by
  obtain ⟨i, w, hw, hkey, hreported⟩ := h
  obtain ⟨w', hw', hchanges⟩ := htended.forward hw
  obtain ⟨hsame, hreport⟩ := reported_change hchanges
  exact ⟨i, w', hw', hsame.trans hkey, by rw [hreport]; exact hreported⟩

theorem workerDone_drive (depth : Nat) (d : TcpDrive) :
    (d.drive depth).entry.workerDone = d.entry.workerDone := by
  refine TcpDrive.drive_invariant (I := fun d' => d'.entry.workerDone = d.entry.workerDone)
    (fun hpart h => ?_) rfl
  cases hpart <;> exact h

/-- An entry is done because it was, or because a report is being handled. -/
theorem workerDone_handled {event : EngineEvent} (h : Handled config s event s')
    (hkey : s'.tcp.lookup key = some entry') (hdone : entry'.workerDone = true) :
    (∃ entry, s.tcp.lookup key = some entry ∧ entry.workerDone = true) ∨
      ∃ failed, event = .tcpDone key failed := by
  -- an entry that is updated in something else
  have hupdate : ∀ {k : TcpFlowKey} {old new : TcpEntry}, s.tcp.lookup k = some old →
      (s.tcp.insert k new).lookup key = some entry' → new.workerDone = old.workerDone →
      ∃ entry, s.tcp.lookup key = some entry ∧ entry.workerDone = true := by
    intro k old new hk hlookup hsame
    rcases Table.lookup_insert_eq_some hlookup with ⟨rfl, rfl⟩ | ⟨-, hold⟩
    exacts [⟨old, hk, hsame ▸ hdone⟩, ⟨entry', hold, hdone⟩]
  cases h with
  | control _ hcontrol _ =>
    cases hcontrol
    exact .inl ⟨entry', hkey, hdone⟩
  | opened hold | data hold _ => exact .inl (hupdate hold hkey rfl)
  | done hold =>
    rcases Table.lookup_insert_eq_some hkey with ⟨rfl, -⟩ | ⟨-, hold⟩
    exacts [.inr ⟨false, rfl⟩, .inl ⟨entry', hold, hdone⟩]
  | failed hold =>
    rcases Table.lookup_insert_eq_some hkey with ⟨rfl, -⟩ | ⟨-, hold⟩
    exacts [.inr ⟨true, rfl⟩, .inl ⟨entry', hold, hdone⟩]
  | dataDropped _ | responseDropped =>
    rw [answer_eq] at hkey
    exact .inl ⟨entry', hkey, hdone⟩
  | disassociated hold =>
    rw [removeUdpAssociation_eq hold] at hkey
    exact .inl ⟨entry', hkey, hdone⟩
  | _ =>
    exact .inl ⟨entry', hkey, hdone⟩

theorem workerDone_change (h : Change config cause s s') (hkey : s'.tcp.lookup key = some entry')
    (hdone : entry'.workerDone = true) :
    (∃ entry, s.tcp.lookup key = some entry ∧ entry.workerDone = true) ∨
      ∃ p ∈ s.events, ∃ failed, p.event = .tcpDone key failed := by
  cases h with
  | control hcontrol =>
    cases hcontrol
    exact .inl ⟨entry', hkey, hdone⟩
  | reader hreader => cases hreader <;> exact .inl ⟨entry', hkey, hdone⟩
  | writer hwriter =>
    rw [writer_eq hwriter] at hkey
    exact .inl ⟨entry', hkey, hdone⟩
  | @event posted rest _ hevents hhandled =>
    rcases workerDone_handled hhandled hkey hdone with hold | ⟨failed, hevent⟩
    exacts [.inl hold, .inr ⟨posted, by rw [hevents]; exact List.mem_cons_self, failed, hevent⟩]
  | @driven key' entry socket worker hold _ _ =>
    rw [applyDrive_eq] at hkey
    rcases Table.lookup_insert_eq_some hkey with ⟨rfl, rfl⟩ | ⟨-, hother⟩
    · rw [workerDone_drive] at hdone
      exact .inl ⟨entry, hold, hdone⟩
    · exact .inl ⟨entry', hother, hdone⟩
  | removed hold =>
    rw [removeTcp_eq hold] at hkey
    exact .inl ⟨entry', (Table.lookup_erase_eq_some hkey).2, hdone⟩
  | responded _ _ _ =>
    rw [answer_eq] at hkey
    exact .inl ⟨entry', hkey, hdone⟩
  | _ => exact .inl ⟨entry', hkey, hdone⟩

theorem delivering_change (hplaced : s.Placed) (hattached : s.Attached)
    (h : Change config cause s s') (hs : s.Delivering) : s'.Delivering := by
  have htended := workers_change h
  refine ⟨?_, ?_, ?_, ?_⟩
  · intro i w' hw'
    obtain ⟨w, hw, hchanges⟩ := htended.backward hw'
    exact (hs.workers hw).changes hchanges
  · intro key f' hf'
    obtain ⟨f, g, hf, hg, -, hchanges⟩ :=
      flow_of_change hplaced hattached h (flow_eq_some.mp hf').1
    cases hf'.symm.trans hg
    exact Flow.carrying_changes (hs.flows hf) hchanges
  · intro p key failed hp hevent
    have hold := (keeps_change h).event hp (by rw [hevent]; rfl)
    exact (hs.events hold hevent).tended htended
  · intro key entry' hkey hdone
    rcases workerDone_change h hkey hdone with ⟨entry, hold, hdone⟩ | ⟨p, hp, failed, hevent⟩
    exacts [(hs.done hold hdone).tended htended, (hs.events hp hevent).tended htended]

theorem carrying_start {capacity : Nat} {endpoint : SocketAddr} {socket : TcpSocket}
    (h : TcpSocket.listen capacity endpoint = some socket) (key : TcpFlowKey)
    (handle : SocketHandle) (id : WorkerId) :
    Flow.Carrying ⟨⟨handle, id, false, false, false, none⟩, socket, .start key⟩ [] := by
  unfold TcpSocket.listen at h
  split at h
  · cases h
  · cases h
    exact ⟨rfl, fun _ => rfl, nofun⟩

/-- A new flow has sent nothing to its worker, and the others go on. -/
theorem carrying_started {f' : Flow} (hplaced : s.Placed) (hattached : s.Attached)
    (h : Started config steps s key s')
    (hold : ∀ {f}, s.flow k = some f → ∃ chunks, f.Carrying chunks) (hf' : s'.flow k = some f') :
    ∃ chunks, f'.Carrying chunks := by
  have hworkers := tcpWorker_append (starts_of_started h).workers
  obtain ⟨he', hk', hw'⟩ := flow_eq_some.mp hf'
  rw [hworkers] at hw'
  cases h with
  | @mk packet rest socket engine _ _ _ _ _ hkey _ _ hlisten _ hpoll _ =>
    have hk' : engine.sockets.tcp f'.entry.handle = some f'.socket := hk'
    obtain ⟨entry', socket', worker'⟩ := f'
    rcases Table.lookup_insert_eq_some he' with ⟨rfl, rfl⟩ | ⟨-, he⟩
    · have hadded : SocketSet.tcp (s.engine.sockets.add (.tcp socket)).1
          (s.engine.sockets.add (.tcp socket)).2 = some socket := by
        rw [SocketSet.tcp_eq_some, Slots.get_add, if_pos rfl]
      obtain ⟨moved, hmoved, hmoves⟩ := tcp_poll hpoll hadded
      cases hmoved.symm.trans hk'
      rw [if_pos rfl] at hw'
      cases hw'
      have hstart := carrying_start hlisten k (s.engine.sockets.add (.tcp socket)).2
        s.workers.length
      exact Flow.carrying_changes ⟨[], hstart⟩
        (flowChanges_of_moves config.tcpChannelDepth hmoves)
    · obtain ⟨found, worker, hf⟩ := exists_flow hplaced hattached he
      obtain ⟨-, hk, hw⟩ := flow_eq_some.mp hf
      obtain ⟨moved, hmoved, hmoves⟩ := tcp_poll hpoll (SocketSet.tcp_add _ (.tcp socket) hk)
      cases hmoved.symm.trans hk'
      have hne : entry'.worker ≠ s.workers.length := by
        intro heq
        rw [heq, tcpWorker_of_ge (Nat.le_refl _)] at hw
        cases hw
      rw [if_neg hne, hw] at hw'
      cases hw'
      exact Flow.carrying_changes (hold hf)
        (flowChanges_of_moves config.tcpChannelDepth hmoves)

theorem Reported.starts (h : s.Reported k) (hstarts : s.Starts key s') : s'.Reported k := by
  obtain ⟨i, w, hw, hkey, hreported⟩ := h
  refine ⟨i, w, ?_, hkey, hreported⟩
  have hne : i ≠ s.workers.length := by
    intro heq
    rw [heq, tcpWorker_of_ge (Nat.le_refl _)] at hw
    cases hw
  rw [tcpWorker_append hstarts.workers, if_neg hne, hw]

theorem delivering_started (hplaced : s.Placed) (hattached : s.Attached)
    (h : Started config steps s key s') (hs : s.Delivering) : s'.Delivering := by
  have hstarts := starts_of_started h
  refine ⟨?_, ?_, ?_, ?_⟩
  · intro i w hw
    rw [tcpWorker_append hstarts.workers] at hw
    split at hw
    · cases hw
      exact TcpWorker.uploading_start key
    · exact hs.workers hw
  · intro k f hf
    exact carrying_started hplaced hattached h hs.flows hf
  · intro p k failed hp hevent
    rw [hstarts.events] at hp
    exact (hs.events hp hevent).starts hstarts
  · intro k entry hkey hdone
    have hold : s.tcp.lookup k = some entry := by
      cases h with
      | mk _ _ _ _ _ _ _ _ _ _ _ _ =>
        rcases Table.lookup_insert_eq_some hkey with ⟨-, rfl⟩ | ⟨-, hold⟩
        · cases hdone
        · exact hold
    exact (hs.done hold hdone).starts hstarts

theorem Reported.worked (h : s.Reported key) (hworked : Worked s id s') : s'.Reported key := by
  obtain ⟨i, w, hw, hkey, hreported⟩ := h
  obtain ⟨w', hw', rfl | ⟨event, hsteps⟩⟩ := rel_forward (hworked.rel _) hw
  · exact ⟨i, w', hw', hkey, hreported⟩
  · exact ⟨i, w', hw', hsteps.ends.1.trans hkey, hsteps.reported_isSome hreported⟩

theorem delivering_worker (h : WorkerEffect config s id s') (hs : s.Delivering) :
    s'.Delivering := by
  have hworked := worked_worker h
  have htcp : s'.tcp = s.tcp := by cases h <;> rfl
  have hengine : s'.engine = s.engine := by cases h <;> rfl
  refine ⟨?_, ?_, ?_, ?_⟩
  · intro i w' hw'
    obtain ⟨w, hw, rfl | ⟨event, hsteps⟩⟩ := rel_backward (hworked.rel _) hw'
    exacts [hs.workers hw, (hs.workers hw).step hsteps]
  · intro key f' hf'
    obtain ⟨he, hk, hw'⟩ := flow_eq_some.mp hf'
    rw [htcp] at he
    rw [hengine] at hk
    obtain ⟨w, hw, hstep⟩ := rel_backward (hworked.rel _) hw'
    have hf : s.flow key = some ⟨f'.entry, f'.socket, w⟩ := flow_eq_some.mpr ⟨he, hk, hw⟩
    obtain ⟨chunks, hcarrying⟩ := hs.flows hf
    refine ⟨chunks, hcarrying.congr ?_ rfl rfl rfl rfl⟩
    rcases hstep with hsame | ⟨event, hsteps⟩
    · rw [hsame]
    · exact hsteps.ends.2.2.2
  · intro p key failed hp hevent
    cases hworked with
    | @tcp w w' event hw hsteps hset hevents =>
      rw [hevents] at hp
      rcases List.mem_append.mp hp with hold | hnew
      · exact (hs.events hold hevent).worked (.tcp hw hsteps hset hevents)
      rw [Option.mem_toList] at hnew
      obtain ⟨sent, hsent, rfl⟩ := Option.map_eq_some_iff.mp hnew
      obtain rfl : sent = .tcpDone key failed := hevent
      subst hsent
      obtain ⟨hkey, hreported⟩ := hsteps.reported_of_done
      refine ⟨id, w', by rw [hset, if_pos rfl], hkey, by rw [hreported]; rfl⟩
    | @other event hsame hnone hevents =>
      rw [hevents] at hp
      rcases List.mem_append.mp hp with hold | hnew
      · exact (hs.events hold hevent).worked (.other hsame hnone hevents)
      rw [Option.mem_toList] at hnew
      obtain ⟨sent, hsent, rfl⟩ := Option.map_eq_some_iff.mp hnew
      have hkey := hnone sent hsent
      rw [show sent = .tcpDone key failed from hevent] at hkey
      cases hkey
  · intro key entry hkey hdone
    rw [htcp] at hkey
    exact (hs.done hkey hdone).worked hworked

theorem delivering_of_reach {good : Runtime → Action → Prop} (h : (system config).ReachBy good s) :
    s.Delivering := by
  refine (reach_invariant (I := fun s => (s.Placed ∧ s.Attached) ∧ s.Delivering) ?_ ?_ ?_ ?_ h).2
  · refine ⟨attached_start config, ?_, ?_, ?_, ?_⟩
    · intro i w hw
      simp [tcpWorker_eq, start] at hw
    · intro key f hf
      have he := (flow_eq_some.mp hf).1
      simp [start] at he
    · intro p key failed hp
      simp [start] at hp
    · intro key entry hkey
      simp [start] at hkey
  · rintro steps s s' hchange ⟨⟨hplaced, hattached⟩, hs⟩
    exact ⟨⟨(keeps_change hchange).placed hplaced, attached_change hplaced hchange hattached⟩,
      delivering_change hplaced hattached hchange hs⟩
  · rintro steps s key s' hstarted ⟨⟨hplaced, hattached⟩, hs⟩
    exact ⟨⟨(starts_of_started hstarted).placed hplaced, attached_started hstarted hattached⟩,
      delivering_started hplaced hattached hstarted hs⟩
  · rintro s id s' hworker ⟨⟨hplaced, hattached⟩, hs⟩
    refine ⟨⟨?_, attached_worker hworker hattached⟩, delivering_worker hworker hs⟩
    cases hworker <;> exact ⟨hplaced.tcp, hplaced.udp⟩

/-! ## The whole upload -/

/-- No other flow was started under the key of a flow. -/
def Sole (s : Runtime) (key : TcpFlowKey) (id : WorkerId) : Prop :=
  ∀ i w, s.tcpWorker i = some w → w.key = key → i = id

end Runtime

/-- Everything the application has sent was sent to the worker, in order and followed by
one `LocalFin`, and the worker has written it and shut the remote flow down. -/
def Flow.Uploaded (f : Flow) : Prop :=
  ∃ chunks : List Bytes, f.worker.sent = chunks.map .data ++ [.localFin] ∧
    chunks.flatten = f.socket.received ∧ f.worker.written = f.socket.received ∧
    f.worker.shutDown = true

/-- The two ends of the channel agree on the upload. -/
theorem Flow.uploaded_of_finished {f : Flow} {chunks : List Bytes} (h : f.Carrying chunks)
    (hfinished : f.worker.Finished) (hshut : f.worker.shutDown = true) : f.Uploaded := by
  obtain ⟨taken, rest, hsent, hdata⟩ := hfinished
  have horder := h.order
  rw [hsent] at horder
  have hfin : f.entry.localFinSent = true := by
    rw [← Bool.not_eq_false]
    intro hnot
    have hmem : TcpCommand.localFin ∈ commandsOf chunks f.entry.localFinSent := by
      rw [← horder]
      simp
    simp [commandsOf, hnot] at hmem
  have hdata' : TcpCommand.localFin ∉ chunks.map .data := by simp
  rw [hfin, commandsOf, if_pos rfl] at horder
  obtain ⟨rfl, -, rfl⟩ :=
    (List.append_cons_inj_of_notMem hdata' List.not_mem_nil).mp horder.symm
  obtain ⟨-, -, hall⟩ := h.fin hfin
  rw [dataOf_map_data] at hdata
  exact ⟨chunks, hsent, hall, hdata.symm.trans hall, hshut⟩

namespace Runtime

variable {config : PacketRuntimeConfig} {s : Runtime}

/-- **When the worker of an entry has reported its end, the upload is complete.** -/
theorem upload_complete (config : PacketRuntimeConfig) {s : Runtime} {key : TcpFlowKey} {f : Flow}
    (h : (system config).Reach s) (hf : s.flow key = some f) (hdone : f.entry.workerDone = true)
    (hreport : f.worker.reported ≠ some true) (hcancelled : f.worker.cancelled = false)
    (hsole : s.Sole key f.entry.worker) : f.Uploaded := by
  have hs := delivering_of_reach h
  obtain ⟨hentry, -, hworker⟩ := flow_eq_some.mp hf
  obtain ⟨chunks, hcarrying⟩ := hs.flows hf
  have huploading := hs.workers hworker
  -- the report that the entry has seen is that of its worker
  obtain ⟨i, w, hw, hkey, hreported⟩ := hs.done hentry hdone
  obtain rfl := hsole i w hw hkey
  obtain rfl := Option.some.inj (hworker.symm.trans hw)
  have hfalse : f.worker.reported = some false := by
    cases hvalue : f.worker.reported with
    | none =>
      rw [hvalue] at hreported
      cases hreported
    | some failed =>
      cases failed with
      | false => rfl
      | true => exact absurd hvalue hreport
  -- and it sent that report at its end, with the channel still open
  have hended : f.worker.isEnded = true := by
    rw [← Bool.not_eq_false]
    intro hlive
    rw [huploading.unreported hlive] at hfalse
    cases hfalse
  obtain ⟨v, hv, -, halive⟩ := (attached_of_reach h).2.tcp hentry
  obtain rfl := Option.some.inj (hworker.symm.trans hv)
  have hcarries := huploading.carries hcancelled halive
  obtain ⟨panicked, hphase⟩ := TcpWorker.phase_of_isEnded hended
  simp only [TcpWorker.Carries, hphase] at hcarries
  obtain ⟨hfinished, hshut⟩ := hcarries hfalse
  exact Flow.uploaded_of_finished hcarrying hfinished hshut

/-! ## Closing orders -/

/-- A step outside a shutdown after which the socket of the flow is neither reset nor
aborted: it is closed only at the end of LAST-ACK or TIME-WAIT. -/
def Calm (config : PacketRuntimeConfig) (key : TcpFlowKey) (s : Runtime) (action : Action) : Prop :=
  s.drainingDeadline = none ∧ s.cancel = false ∧
    ∀ s' ∈ s.next config action, ∀ f ∈ s.flow key, ∀ f' ∈ s'.flow key,
      f'.socket.state ≠ .listen ∧
        (f'.socket.state = .closed → f.socket.state ∈ [.closed, .lastAck, .timeWait])

instance (config : PacketRuntimeConfig) (key : TcpFlowKey) (s : Runtime) (action : Action) :
    Decidable (Calm config key s action) :=
  inferInstanceAs (Decidable (_ ∧ _))

theorem sole_of_length {key : TcpFlowKey} (h : s.workers.length = 1) : s.Sole key 0 := by
  intro i w hw _
  by_contra hi
  rw [tcpWorker_of_ge (h.trans_le (Nat.one_le_iff_ne_zero.mpr hi))] at hw
  cases hw

namespace Closing

open ReusedKey

def flowKey : TcpFlowKey := key 40000

/-- The socket after the application has sent these bytes. -/
def sent (state : TcpState) (rx received : Bytes) : Socket :=
  .tcp ⟨flowKey.target, some flowKey.app, state, rx, [], 64 * 1024, received⟩

/-- A segment of the application. -/
def arrives (after : Socket) : List Action :=
  arrival (Sample.segment 40000 443 false true false) [.receive (some (0, after))]

/-- The worker takes a chunk from its channel and writes it. -/
def writes : List Action := [.worker 0 (.tcp .received), .worker 0 (.tcp (.wrote true))]

/-- The remote side closes. -/
def remoteCloses : List Action :=
  [.worker 0 (.tcp (.read (some []))), .worker 0 (.tcp .sent), .actor .event]

/-- The phases before the socket of the flow is looked at. -/
def untilDrive : List Action := [.actor .reapTasks, .actor (.poll []), .actor (.driveTcp [flowKey])]

/-- The remote side closes, then the application sends a byte and closes, and TIME-WAIT
is over. -/
def remoteFirst : List Action :=
  opened ++ [.actor .event] ++ turn [flowKey] ++ remoteCloses ++ turn [flowKey] ++
    arrives (sent .finWait2 [1] [1]) ++ turn [flowKey] ++ writes ++
    arrives (sent .timeWait [] [1]) ++ turn [flowKey] ++ [.actor .tick] ++
    [.actor .reapTasks, .actor (.poll [.socket 0 (sent .closed [] [1])]),
      .actor (.driveTcp [flowKey])]

/-- The application sends three bytes in two segments and closes, then the remote side closes,
and the worker reports before the last acknowledgement arrives. -/
def applicationFirst : List Action :=
  opened ++ [.actor .event] ++ turn [flowKey] ++
    arrives (sent .established [1, 2] [1, 2]) ++ turn [flowKey] ++ [.worker 0 (.tcp .received)] ++
    arrives (sent .closeWait [3] [1, 2, 3]) ++ turn [flowKey] ++ [.worker 0 (.tcp (.wrote true))] ++
    writes ++ writes ++ remoteCloses ++
    turn [flowKey] ++ [.worker 0 (.tcp .sent), .actor .event] ++ turn [flowKey] ++
    arrives (sent .closed [] [1, 2, 3]) ++ untilDrive

end Closing

/-- **A flow whose remote side closes first is removed before its upload has ended.**
Both sides have closed in an orderly way, TIME-WAIT is over and the worker has reported
no failure; `drive_tcp` cancels the token and removes the entry although the end of the
application's bytes was never passed on and the remote flow is not shut down. -/
theorem remote_fin_first_drops_upload : ∃ (s s' s'' : Runtime) (f f' : Flow),
    (system .default).ReachBy (Calm .default Closing.flowKey) s ∧
    s.Sole Closing.flowKey f.entry.worker ∧ s.flow Closing.flowKey = some f ∧
    f.worker.reported = none ∧ f.worker.cancelled = false ∧ f.socket.state = .closed ∧
    (system .default).next s (.actor .driveTcpKey) = some s' ∧
    s'.flow Closing.flowKey = some f' ∧ f'.worker.cancelled = true ∧
    f'.worker.sent = [.data [1]] ∧ f'.worker.shutDown = false ∧ ¬ f'.Uploaded ∧
    (system .default).next s' (.actor .driveTcpKey) = some s'' ∧
    s''.tcp.lookup Closing.flowKey = none := by
  obtain ⟨s, hreach, hlength, ⟨f, hf, hworker, hreport, hnot, hstate⟩, s', hnext, ⟨f', hf',
      hcancelled, hsent, hshut⟩, s'', hnext', hgone⟩ :=
    (system .default).exists_reachBy (Calm .default Closing.flowKey)
      (fun s => s.workers.length = 1 ∧
        (∃ f ∈ s.flow Closing.flowKey, f.entry.worker = 0 ∧ f.worker.reported = none ∧
          f.worker.cancelled = false ∧ f.socket.state = .closed) ∧
        ∃ s' ∈ (system .default).next s (.actor .driveTcpKey),
          (∃ f' ∈ s'.flow Closing.flowKey, f'.worker.cancelled = true ∧
            f'.worker.sent = [.data [1]] ∧ f'.worker.shutDown = false) ∧
          ∃ s'' ∈ (system .default).next s' (.actor .driveTcpKey),
            s''.tcp.lookup Closing.flowKey = none) Closing.remoteFirst (by decide +kernel)
  refine ⟨s, s', s'', f, f', hreach, ?_, hf, hreport, hnot, hstate, hnext, hf', hcancelled, hsent,
    hshut, ?_, hnext', hgone⟩
  · rw [hworker]
    exact sole_of_length hlength
  · rintro ⟨-, -, -, -, hdown⟩
    cases hshut.symm.trans hdown

/-- The application closes first, and the last acknowledgement comes after the report. -/
theorem upload_complete_application_first : ∃ (s : Runtime) (f : Flow),
    (system .default).Reach s ∧ s.flow Closing.flowKey = some f ∧
    f.entry.workerDone = true ∧ f.worker.reported = some false ∧ f.worker.cancelled = false ∧
    f.socket.state = .closed ∧ f.socket.received = [1, 2, 3] ∧
    f.worker.sent = [.data [1, 2], .data [3], .localFin] ∧
    s.Sole Closing.flowKey f.entry.worker ∧ f.Uploaded := by
  obtain ⟨s, hreach, hlength, f, hf, hworker, hdone, hreport, hnot, hstate, hreceived, hsent⟩ :=
    (system .default).exists_reach (fun s => s.workers.length = 1 ∧
      ∃ f ∈ s.flow Closing.flowKey, f.entry.worker = 0 ∧ f.entry.workerDone = true ∧
        f.worker.reported = some false ∧ f.worker.cancelled = false ∧
        f.socket.state = .closed ∧ f.socket.received = [1, 2, 3] ∧
        f.worker.sent = [.data [1, 2], .data [3], .localFin]) Closing.applicationFirst
      (by decide +kernel)
  have hsole : s.Sole Closing.flowKey f.entry.worker := by
    rw [hworker]
    exact sole_of_length hlength
  have hfailed : f.worker.reported ≠ some true := by
    rw [hreport]
    nofun
  exact ⟨s, f, hreach, hf, hdone, hreport, hnot, hstate, hreceived, hsent, hsole,
    upload_complete .default hreach hf hdone hfailed hnot hsole⟩

end Runtime

end Tun
end Maverick
