import Maverick.Tun.Bounds

/-!
# What happens to the TCP workers

A worker takes steps of its own, and the actor answers it, puts commands into its
channel, cancels its token and releases its channel.  Here every step of the runtime
is read off for the workers of the TCP flows.

* `TcpWorker.Steps` — what a worker does by itself.
* `workers_change` — a change of the runtime does to the workers what the actor can do.
* `worked_worker` — a step of a task, seen from the TCP workers and the event queue.
-/

namespace Maverick
namespace Tun

open Lib

/-! ## Steps of a worker -/

namespace TcpWorker

variable {id : WorkerId} {w w' : TcpWorker} {event : Option EngineEvent}

/-- What a worker that has not ended does by itself. -/
def Steps (id : WorkerId) (w w' : TcpWorker) (event : Option EngineEvent) : Prop :=
  w.isEnded = false ∧ ∃ step, Effect id w step w' event

/-- A worker does not touch its token, nor the other end of its channel. -/
theorem Steps.ends (h : Steps id w w' event) :
    w'.key = w.key ∧ w'.senderAlive = w.senderAlive ∧ w'.cancelled = w.cancelled ∧
      w'.sent = w.sent := by
  obtain ⟨-, step, h⟩ := h
  cases h with
  | shutDown | remote | localCancelled =>
    rw [relay_eq]
    exact ⟨rfl, rfl, rfl, rfl⟩
  | _ => exact ⟨rfl, rfl, rfl, rfl⟩

end TcpWorker

theorem Worker.tcp_step {config : PacketRuntimeConfig} {id : WorkerId} {shared : Bool}
    {worker worker' : Worker} {step : WorkerStep} {event : Option EngineEvent}
    (h : worker.step config id shared step = some (worker', event)) :
    (∃ w w', worker.asTcp = some w ∧ worker'.asTcp = some w' ∧ TcpWorker.Steps id w w' event) ∨
      (worker.asTcp = none ∧ worker'.asTcp = none ∧ ∀ e ∈ event, e.tcpKey = none) := by
  have hkey := (Worker.tcpKey_step h).2
  cases Worker.stepped h with
  | tcp hr =>
    exact .inl ⟨_, _, rfl, rfl, TcpWorker.not_isEnded_of_step hr, _, TcpWorker.effect_step hr⟩
  | _ => exact .inr ⟨rfl, rfl, hkey⟩

namespace Runtime

variable {config : PacketRuntimeConfig} {cause : Cause} {steps : List PollStep} {s s' : Runtime}

/-! ### The workers of a state -/

theorem tcpWorker_eq (s : Runtime) (i : WorkerId) :
    s.tcpWorker i = s.workers[i]?.bind Worker.asTcp := by
  unfold tcpWorker
  cases hget : s.workers[i]? with
  | none => rfl
  | some worker => cases worker <;> rfl

theorem tcpWorker_of_getElem? {i : WorkerId} {w : TcpWorker}
    (h : s.workers[i]? = some (.tcp w)) : s.tcpWorker i = some w := by
  rw [tcpWorker_eq, h]
  rfl

theorem asTcp_modify {workers : List Worker} {id : WorkerId} {f : Worker → Worker}
    {g : TcpWorker → TcpWorker} (hf : ∀ worker, (f worker).asTcp = worker.asTcp.map g)
    (i : WorkerId) :
    (workers.modify id f)[i]?.bind Worker.asTcp =
      if id = i then (workers[i]?.bind Worker.asTcp).map g else workers[i]?.bind Worker.asTcp := by
  rw [List.getElem?_modify]
  by_cases hi : id = i
  · simp only [if_pos hi]
    cases workers[i]? with
    | none => rfl
    | some worker => exact hf worker
  · simp [if_neg hi]

theorem asTcp_answer (ok : Bool) (worker : Worker) :
    (worker.answer ok).asTcp = worker.asTcp.map (TcpWorker.answer ok) := by
  cases worker <;> rfl

theorem asTcp_release (worker : Worker) :
    (release worker).asTcp =
      worker.asTcp.map fun w => { w with cancelled := true, senderAlive := false } := by
  cases worker <;> rfl

theorem asTcp_sendUdpCommand (depth : Nat) (command : UdpCommand) (worker : Worker) :
    (sendUdpCommand depth command worker).asTcp = worker.asTcp := by
  cases worker with
  | tcp w => rfl
  | udp w =>
    simp only [sendUdpCommand]
    split <;> rfl
  | dns w => rfl

theorem tcpWorker_answer (s : Runtime) (accepted : Option WorkerId) (ok : Bool) (i : WorkerId) :
    (s.answer accepted ok).tcpWorker i =
      if accepted = some i then (s.tcpWorker i).map (TcpWorker.answer ok) else s.tcpWorker i := by
  cases accepted with
  | none => rfl
  | some id =>
    rw [tcpWorker_eq, tcpWorker_eq]
    simp only [Option.some.injEq]
    exact asTcp_modify (asTcp_answer ok) i

theorem tcpWorker_release (s : Runtime) (id i : WorkerId) :
    (s.modifyWorker id release).tcpWorker i =
      if id = i then
        (s.tcpWorker i).map fun w => { w with cancelled := true, senderAlive := false }
      else s.tcpWorker i := by
  rw [tcpWorker_eq, tcpWorker_eq]
  exact asTcp_modify asTcp_release i

theorem tcpWorker_forward (s : Runtime) (id : WorkerId) (depth : Nat) (command : UdpCommand)
    (i : WorkerId) :
    (s.modifyWorker id (sendUdpCommand depth command)).tcpWorker i = s.tcpWorker i := by
  have hsame : ∀ worker : Worker,
      (sendUdpCommand depth command worker).asTcp = worker.asTcp.map fun w => w := by
    intro worker
    rw [asTcp_sendUdpCommand, Option.map_id']
  rw [tcpWorker_eq, tcpWorker_eq]
  refine (asTcp_modify hsame i).trans ?_
  rw [Option.map_id', ite_self]

/-- The task of an association or of a DNS query is not a TCP worker. -/
theorem tcpWorker_spawn (s : Runtime) {worker : Worker} (hworker : worker.asTcp = none)
    (i : WorkerId) : (s.spawn worker).tcpWorker i = s.tcpWorker i := by
  rw [tcpWorker_eq, tcpWorker_eq]
  exact congrFun (viewAt_append_none s.workers hworker) i

theorem tcpWorker_replace {id : WorkerId} {worker : TcpWorker}
    (hworker : s.tcpWorker id = some worker) (worker' : TcpWorker) (i : WorkerId) :
    (s.modifyWorker id fun _ => .tcp worker').tcpWorker i =
      if id = i then some worker' else s.tcpWorker i := by
  rw [tcpWorker_eq, tcpWorker_eq] at *
  show (s.workers.modify id _)[i]?.bind Worker.asTcp = _
  rw [List.getElem?_modify]
  by_cases hi : id = i
  · rw [hi] at hworker
    obtain ⟨found, hfound, -⟩ := Option.bind_eq_some_iff.mp hworker
    simp [hi, hfound, Worker.asTcp]
  · simp [hi]

theorem tcpWorker_removeTcp {key : TcpFlowKey} {entry : TcpEntry}
    (hkey : s.tcp.lookup key = some entry) (i : WorkerId) :
    (s.removeTcp key entry.handle).tcpWorker i =
      ((s.answer (entry.pendingRemote.bind (·.accepted)) false).modifyWorker entry.worker
        release).tcpWorker i := by
  simp only [removeTcp, hkey]
  rfl

theorem tcpWorker_removeUdpAssociation {key : UdpAssociationKey} {entry : UdpAssociationEntry}
    (hkey : s.udpAssociations.lookup key = some entry) (i : WorkerId) :
    (s.removeUdpAssociation key).tcpWorker i =
      ((s.answer (entry.pendingResponse.bind (·.accepted)) false).modifyWorker entry.worker
        release).tcpWorker i := by
  simp only [removeUdpAssociation, hkey]
  rfl

/-! ### What a change does to the workers -/

/-- The TCP workers of `s'` are those of `s`, changed by the actor. -/
def Tended (s s' : Runtime) : Prop :=
  ∀ i, Option.Rel WorkerChanges (s.tcpWorker i) (s'.tcpWorker i)

namespace Tended

theorem backward (h : Tended s s') {i : WorkerId} {w' : TcpWorker}
    (hw : s'.tcpWorker i = some w') : ∃ w, s.tcpWorker i = some w ∧ WorkerChanges w w' :=
  rel_backward (h i) hw

theorem forward (h : Tended s s') {i : WorkerId} {w : TcpWorker}
    (hw : s.tcpWorker i = some w) : ∃ w', s'.tcpWorker i = some w' ∧ WorkerChanges w w' :=
  rel_forward (h i) hw

theorem none (h : Tended s s') {i : WorkerId} (hi : s.tcpWorker i = none) :
    s'.tcpWorker i = none :=
  (rel_none_iff (h i)).mpr hi

end Tended

/-- **What a change does to the TCP workers.** -/
theorem workers_change (h : Change config cause s s') : Tended s s' := by
  intro i
  rw [tcpWorker_eq, tcpWorker_eq]
  cases tasks_change h with
  | touched htouched => exact rel_bind (·.changes) (htouched i)
  | queried _ _ hworkers | associated _ hworkers =>
    have hsame : s'.workers[i]?.bind Worker.asTcp = s.workers[i]?.bind Worker.asTcp := by
      rw [hworkers]
      exact congrFun (viewAt_append_none s.workers rfl) i
    rw [hsame]
    exact rel_refl (fun _ => .refl) _

theorem tcpWorker_of_ge {i : WorkerId} (h : s.workers.length ≤ i) : s.tcpWorker i = none := by
  rw [tcpWorker_eq, List.getElem?_eq_none h]
  rfl

/-! ### Steps of a task -/

/-- What a step of a task does to the TCP workers and to the queue. -/
inductive Worked (s : Runtime) (id : WorkerId) (s' : Runtime) : Prop where
  | tcp {w w' : TcpWorker} {event : Option EngineEvent} : s.tcpWorker id = some w →
      TcpWorker.Steps id w w' event →
      (∀ i, s'.tcpWorker i = if id = i then some w' else s.tcpWorker i) →
      s'.events = s.events ++ (event.map (Posted.mk (.worker id))).toList → Worked s id s'
  | other {event : Option EngineEvent} : (∀ i, s'.tcpWorker i = s.tcpWorker i) →
      (∀ e ∈ event, e.tcpKey = none) →
      s'.events = s.events ++ (event.map (Posted.mk (.worker id))).toList → Worked s id s'

theorem worked_of_step {id : WorkerId} {worker worker' : Worker} {step : WorkerStep}
    {shared : Bool} {event : Option EngineEvent} (hget : s.workers[id]? = some worker)
    (hstep : worker.step config id shared step = some (worker', event))
    (hworkers : s'.workers = s.workers.set id worker')
    (hevents : s'.events = s.events ++ (event.map (Posted.mk (.worker id))).toList) :
    Worked s id s' := by
  have hset : ∀ i, s'.tcpWorker i = if id = i then worker'.asTcp else s.tcpWorker i := by
    intro i
    rw [tcpWorker_eq, tcpWorker_eq, hworkers, List.getElem?_set]
    by_cases hi : id = i
    · have hlt : i < s.workers.length := hi ▸ (List.getElem?_eq_some_iff.mp hget).1
      simp [hi, hlt]
    · simp [hi]
  have hold : s.tcpWorker id = worker.asTcp := by
    rw [tcpWorker_eq, hget]
    rfl
  rcases Worker.tcp_step hstep with ⟨w, w', hw, hw', hsteps⟩ | ⟨hnone, hnone', hevent⟩
  · refine .tcp (hold.trans hw) hsteps ?_ hevents
    intro i
    rw [hset i, hw']
  refine .other ?_ hevent hevents
  intro i
  rw [hset i, hnone']
  split
  · rename_i hi
    rw [← hi, hold, hnone]
  · rfl

/-- **What a step of a task does.** -/
theorem worked_worker {id : WorkerId} (h : WorkerEffect config s id s') : Worked s id s' := by
  cases h with
  | quiet hget hstep => exact worked_of_step hget hstep rfl (List.append_nil _).symm
  | sent hget hstep _ => exact worked_of_step hget hstep rfl rfl

theorem Worked.rel {id : WorkerId} (h : Worked s id s') (i : WorkerId) :
    Option.Rel (fun w w' => w' = w ∨ ∃ event, TcpWorker.Steps id w w' event) (s.tcpWorker i)
      (s'.tcpWorker i) := by
  cases h with
  | tcp hold hsteps hset _ =>
    rw [hset i]
    split
    · rename_i hi
      rw [← hi, hold]
      exact .some (.inr ⟨_, hsteps⟩)
    · exact rel_refl (fun _ => .inl rfl) _
  | other hsame _ _ =>
    rw [hsame i]
    exact rel_refl (fun _ => .inl rfl) _

theorem tcpWorker_append {worker : TcpWorker} (h : s'.workers = s.workers ++ [.tcp worker])
    (i : WorkerId) :
    s'.tcpWorker i = if i = s.workers.length then some worker else s.tcpWorker i := by
  rw [tcpWorker_eq, tcpWorker_eq, h]
  exact viewAt_append s.workers (.tcp worker) i

end Runtime
end Tun
end Maverick
