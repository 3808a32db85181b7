import Maverick.Tun.Sizes

/-!
# Draining and the UDP associations

A drain is over when the map of associations is empty, and an association goes when its
task reports its end.  A task that is cancelled while it opens its flow ends without a
report.

* `Served` — every association has a task that has not come to its end, or the report of
  its task is in the queue.
* `drain_completes` — so it is in a run in which no task is cut off while it opens its
  flow, and when the tasks have ended and the events are handled, no association is left.
* `cut_opening_forces_drain` — a task that is cut off there leaves its association behind,
  and the drain ends at its deadline.
-/

namespace Maverick
namespace Tun

open Lib

/-! ## Tasks that are on duty -/

/-- The association of a UDP task that has not come to its end: it is running, or it
panicked. -/
def Worker.duty : Worker → Option UdpAssociationKey
  | .udp w => if w.phase = .ended false then none else some w.key
  | .tcp _ | .dns _ => none

theorem Worker.Unmoved.duty {worker worker' : Worker} (h : worker.Unmoved worker') :
    worker'.duty = worker.duty := by
  refine h.cases (fun _ _ _ _ => rfl) (fun w w' hkey hphase => ?_) fun _ => rfl
  rcases hphase with heq | ⟨lease, ok, hbefore, hafter⟩
  · simp only [Worker.duty, heq, hkey]
  · simp [Worker.duty, hbefore, hafter, hkey]

/-- The select on the token, or an `open_udp` that gives it as its reason. -/
def UdpWorkerStep.isCancellation : UdpWorkerStep → Bool
  | .cancelled | .openFailed .cancelled => true
  | _ => false

/-- **A UDP task that is not cut off while it opens its flow reports its end.** -/
theorem UdpWorker.duty_step {maxPayloadBytes : Nat} {id : WorkerId} {cancelled : Bool}
    {w : UdpWorker} {step : UdpWorkerStep} {r : UdpWorker × Option EngineEvent}
    (h : w.step maxPayloadBytes id cancelled step = some r)
    (hcut : (w.phase == .opening && step.isCancellation && cancelled) = false) :
    (Worker.udp r.1).duty = (Worker.udp w).duty ∨
      ∃ failed, r.2 = some (.udpDone w.key failed) := by
  unfold UdpWorker.step at h
  split at h <;> (try split at h) <;> (try split at h) <;> cases h <;>
    simp_all [Worker.duty, enter, finish, UdpWorkerStep.isCancellation]

namespace Runtime

variable {config : PacketRuntimeConfig} {cause : Cause} {steps : List PollStep} {s s' : Runtime}

/-- The action ends a UDP task that is still opening its flow, because it is cancelled. -/
def cutsOpening (s : Runtime) : Action → Bool
  | .worker id (.udp step) =>
    match s.workers[id]? with
    | some (.udp w) =>
      w.phase == .opening && step.isCancellation && (w.cancelled || (s.udpDnsCancel || s.cancel))
    | _ => false
  | _ => false

def Unhurried (s : Runtime) (action : Action) : Prop := s.cutsOpening action = false

instance (s : Runtime) (action : Action) : Decidable (s.Unhurried action) :=
  inferInstanceAs (Decidable (_ = _))

variable {id : WorkerId} {step : WorkerStep}

theorem duty_of_unhurried {worker worker' : Worker} {event : Option EngineEvent}
    (hgood : s.Unhurried (.worker id step)) (hget : s.workers[id]? = some worker)
    (hstep : worker.step config id (s.udpDnsCancel || s.cancel) step = some (worker', event)) :
    worker'.duty = worker.duty ∨
      ∃ key failed, worker.duty = some key ∧ event = some (.udpDone key failed) := by
  cases Worker.stepped hstep with
  | @udp w _ step _ hr =>
    have hcut : s.cutsOpening (.worker id (.udp step)) = false := hgood
    simp only [cutsOpening, hget] at hcut
    rcases UdpWorker.duty_step hr hcut with hsame | ⟨failed, hevent⟩
    · exact .inl hsame
    have hlive := UdpWorker.not_isEnded_of_step hr
    refine .inr ⟨w.key, failed, if_neg fun hended => ?_, hevent⟩
    simp [UdpWorker.isEnded, hended] at hlive
  | _ => exact .inl rfl

/-! ## The associations in a run -/

/-- Every association has a task on duty, or the report of its end is in the queue. -/
def Served (s : Runtime) : Prop :=
  ∀ key entry, s.udpAssociations.lookup key = some entry →
    s.workers[entry.worker]?.map Worker.duty = some (some key) ∨
      ∃ p ∈ s.events, ∃ failed, p.event = .udpDone key failed

/-- There is no such association after a report. -/
theorem lookup_of_done {key : UdpAssociationKey} {failed : Bool}
    (h : Handled config s (.udpDone key failed) s') : s'.udpAssociations.lookup key = none := by
  cases h with
  | control _ _ _ hpacket => cases hpacket
  | dropped _ _ hnone => exact hnone key rfl
  | disassociated hkey =>
    rw [removeUdpAssociation_eq hkey]
    exact AList.lookup_erase _ _

theorem served_change (hchange : Change config cause s s') (h : s.Served) : s'.Served := by
  intro key entry' hentry'
  rcases association_change hchange hentry' with ⟨entry, hentry, hworker⟩ | ⟨-, hnew, hworkers⟩
  · rw [hworker]
    refine (h key entry hentry).imp ?_ ?_
    · exact (tasks_change hchange).view fun _ _ hmoved => hmoved.duty
    rintro ⟨p, hp, failed, hevent⟩
    rcases queue_change hchange with ⟨added, hevents, -⟩ | ⟨q, hevents, hhandled⟩
    · exact ⟨p, hevents ▸ List.mem_append_left _ hp, failed, hevent⟩
    rw [hevents] at hp
    rcases List.mem_cons.mp hp with rfl | hp
    · rw [hevent] at hhandled
      cases (lookup_of_done hhandled).symm.trans hentry'
    · exact ⟨p, hp, failed, hevent⟩
  · rw [hnew, hworkers, List.getElem?_concat_length]
    exact .inl rfl

theorem served_started {key : TcpFlowKey} (hstarted : Started config steps s key s')
    (h : s.Served) : s'.Served := by
  cases hstarted
  exact fun k entry hentry => (h k entry hentry).imp_left (view_append rfl)

theorem served_worker (hgood : s.Unhurried (.worker id step))
    (hstep : s.stepWorker config id step = some s') (h : s.Served) : s'.Served := by
  obtain ⟨worker, worker', event, hget, hworker, rfl⟩ := stepWorker_eq_some hstep
  intro key entry hentry
  rcases h key entry hentry with hduty | ⟨p, hp, failed, hevent⟩
  · show (s.workers.set id worker')[entry.worker]?.map Worker.duty = _ ∨ _
    rw [List.getElem?_set]
    by_cases heq : id = entry.worker
    · have hlt := (List.getElem?_eq_some_iff.mp hget).1
      rw [← heq, hget] at hduty
      simp only [Option.map_some, Option.some.injEq] at hduty
      rw [if_pos heq, if_pos hlt]
      rcases duty_of_unhurried hgood hget hworker with hsame | ⟨k, failed, hk, rfl⟩
      · exact .inl (congrArg some (hsame.trans hduty))
      cases hduty.symm.trans hk
      exact .inr ⟨⟨.worker id, .udpDone key failed⟩, by simp, failed, rfl⟩
    · rw [if_neg heq]
      exact .inl hduty
  · exact .inr ⟨p, List.mem_append_left _ hp, failed, hevent⟩

theorem served_of_reach (h : (system config).ReachBy Unhurried s) : s.Served := by
  refine reachBy_invariant (I := Served) ?_ ?_ served_started served_worker h
  · intro key entry hentry
    cases hentry
  · intro s a s' _ hchanges hs
    exact hchanges.invariant served_change hs

/-! ## The end of a drain -/

/-- The tasks have ended, none of them by a panic, and the events are handled. -/
structure RunOut (s : Runtime) : Prop where
  tasks : ∀ w ∈ s.workers, w.isEnded = true ∧ w.panicked = false
  events : s.events = []

theorem RunOut.no_duty (h : s.RunOut) {i : WorkerId} {key : UdpAssociationKey} :
    s.workers[i]?.map Worker.duty ≠ some (some key) := by
  intro hduty
  obtain ⟨w, hw, hkey⟩ := Option.map_eq_some_iff.mp hduty
  obtain ⟨hended, hpanicked⟩ := h.tasks w (List.mem_of_getElem? hw)
  cases w with
  | udp w =>
    simp only [Worker.isEnded, UdpWorker.isEnded] at hended
    split at hended
    · rename_i panicked hphase
      cases panicked with
      | false => simp [Worker.duty, hphase] at hkey
      | true => simp [Worker.panicked, hphase] at hpanicked
    · cases hended
  | _ => cases hkey

theorem RunOut.no_guards (h : s.RunOut) : s.dnsGuards = 0 := by
  have hworkers : total Worker.guards s.workers ≤ s.workers.length * 0 := by
    refine total_le _ (Nat.le_refl _) fun w hw => ?_
    obtain ⟨hended, -⟩ := h.tasks w hw
    cases w with
    | dns w =>
      have hdns : w.isEnded = true := hended
      simp [Worker.guards, hdns]
    | _ => exact Nat.le_refl 0
  unfold dnsGuards
  rw [h.events]
  simpa using hworkers

/-- What the drain relies on. -/
structure DrainCompletes (s : Runtime) : Prop where
  /-- An association has a task that is running or has panicked, or its report is queued. -/
  served : ∀ key entry, s.udpAssociations.lookup key = some entry →
    (∃ w, s.workers[entry.worker]? = some (.udp w) ∧ w.key = key ∧ w.phase ≠ .ended false) ∨
      ∃ p ∈ s.events, ∃ failed, p.event = .udpDone key failed
  emptied : s.drainingDeadline.isSome → s.RunOut → s.udpAssociations.entries = []
  /-- So the associations and the queries do not keep `should_stop` from seeing the end. -/
  quiesces : s.drainingDeadline.isSome → s.RunOut → s.tcp.entries = [] →
    s.ingressQueueDepth = 0 → s.egressQueueDepth = 0 → s.tasks = [] →
    s.pendingDnsResponses = [] → s.engine.device.isEmpty → s.quiescent true

theorem emptied_of_served (h : s.Served) (hout : s.RunOut) : s.udpAssociations.entries = [] := by
  cases hentries : s.udpAssociations.entries with
  | nil => rfl
  | cons e rest =>
    have hentry : s.udpAssociations.lookup e.1 = some e.2 := by
      rw [← Option.mem_def, AList.mem_lookup_iff, hentries]
      exact List.mem_cons_self
    rcases h e.1 e.2 hentry with hduty | ⟨p, hp, -⟩
    · exact absurd hduty hout.no_duty
    · rw [hout.events] at hp
      cases hp

/-- **A drain whose tasks all end leaves no association behind**, in every run in which no
UDP task is cut off while it opens its flow. -/
theorem drain_completes (config : PacketRuntimeConfig) {s : Runtime}
    (h : (system config).ReachBy Unhurried s) : s.DrainCompletes := by
  have hserved := served_of_reach h
  refine ⟨?_, ?_, ?_⟩
  · intro key entry hentry
    refine (hserved key entry hentry).imp_left fun hduty => ?_
    obtain ⟨worker, hget, hkey⟩ := Option.map_eq_some_iff.mp hduty
    cases worker with
    | udp w =>
      obtain ⟨hphase, heq⟩ := Option.ite_none_left_eq_some.mp hkey
      exact ⟨w, hget, Option.some.inj heq, hphase⟩
    | _ => cases hkey
  · intro _ hout
    exact emptied_of_served hserved hout
  · intro _ hout htcp hingress hegress htasks hpending hdevice
    have hcounts := (bounded_of_reach h).dns.counts
    rw [hout.no_guards] at hcounts
    simp [quiescent, htcp, emptied_of_served hserved hout, hcounts, hingress, hegress, hout.events,
      htasks, hpending, hdevice]

/-! ## A task that is cut off -/

namespace CutOpening

open Sample (datagram)

def target : SocketAddr := Sample.target 443

def key : UdpAssociationKey := ⟨Sample.app 40000, target⟩

/-- A datagram of one byte for a new association. -/
def associated : List Action :=
  arrival (datagram 40000 443) [.receive (some (0, .udp ⟨target, [(key.app, [1])], [], 32, 64 * 1024⟩))] ++
    udpTurn [target] [key]

/-- The runtime is told to stop. -/
def stopping : List Action := [.cancel, .actor .cancelled] ++ udpTurn [target] [key]

/-- The task sees its token before the flow is open. -/
def cut : List Action :=
  associated ++ stopping ++ [.worker 0 (.udp .cancelled), .actor (.join 0)] ++ udpTurn [target] [key]

def deadline : List Action :=
  [.clock (seconds 6), .actor .tick] ++ udpTurn [target] [key]

/-- The task sees its token after the flow is open, and reports its end. -/
def closed : List Action :=
  associated ++ [.worker 0 (.udp .opened)] ++ stopping ++
    [.worker 0 (.udp .cancelled), .worker 0 (.udp (.closed true)), .worker 0 (.udp .sent),
      .actor .event]

end CutOpening

/-- **A task that is cancelled while it opens its flow leaves its association behind.**
The runtime is draining, its only task has ended without a panic and no event is queued,
but the association is there; and so the drain is forced. -/
theorem cut_opening_forces_drain : ∃ s s' : Runtime, (system .default).Reach s ∧
    s.drainingDeadline.isSome ∧ s.RunOut ∧ s.tasks = [] ∧
    (s.udpAssociations.lookup CutOpening.key).isSome ∧
    (system .default).run s CutOpening.deadline = some s' ∧ s'.phase = .stopped ∧
    s'.forced = true ∧ s'.workers = s.workers := by
  obtain ⟨s, hreach, hdraining, htasks, hevents, hjoined, hentry, s', hrun', hlast⟩ :=
    (system .default).exists_reach (fun s => s.drainingDeadline.isSome ∧
      (∀ w ∈ s.workers, w.isEnded = true ∧ w.panicked = false) ∧ s.events = [] ∧ s.tasks = [] ∧
      (s.udpAssociations.lookup CutOpening.key).isSome ∧
      ∃ s' ∈ (system .default).run s CutOpening.deadline, s'.phase = .stopped ∧
        s'.forced = true ∧ s'.workers = s.workers) CutOpening.cut (by decide +kernel)
  exact ⟨s, s', hreach, hdraining, ⟨htasks, hevents⟩, hjoined, hentry, hrun', hlast⟩

/-- A drain during which the only association closes its flow. -/
theorem drain_completes_closed : ∃ s : Runtime, (system .default).ReachBy Unhurried s ∧
    s.drainingDeadline.isSome ∧ s.RunOut ∧ s.workers.length = 1 ∧
    s.udpAssociations.entries = [] := by
  obtain ⟨s, hreach, hdraining, htasks, hevents, hlength⟩ :=
    (system .default).exists_reachBy Unhurried (fun s => s.drainingDeadline.isSome ∧
      (∀ w ∈ s.workers, w.isEnded = true ∧ w.panicked = false) ∧ s.events = [] ∧
      s.workers.length = 1) CutOpening.closed (by decide +kernel)
  have hcompletes := drain_completes .default hreach
  exact ⟨s, hreach, hdraining, ⟨htasks, hevents⟩, hlength,
    hcompletes.emptied hdraining ⟨htasks, hevents⟩⟩

end Runtime
end Tun
end Maverick
