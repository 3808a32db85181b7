import Maverick.Sdk.ReferenceClient

/-!
# Fail-safety of the reference client

* `FailSafe` — what the state of the controller says about the calls made so far.
* `stopRuntimeAndRollback_wp`, `connect_wp` — it holds at every wait of every
  method and at its end.
* `reference_client_fail_safe` — so it holds in every state of every session.
-/

namespace Maverick
namespace Sdk

open Lib

/-- What the helper and the packet runtime see. -/
abbrev ClientEvent := Event ClientOp ClientOp.Answer

/-! ## What a log says -/

/-- The response is valid, answers the request and has the outcome. -/
structure Confirms (request : PlatformHelperRequest) (response : PlatformHelperResponse)
    (outcome : PlatformHelperOutcome) : Prop where
  valid : response.validate = .ok ()
  id : response.requestId = request.requestId
  outcome : response.outcome = outcome

/-- An exchange with the helper and its answer. -/
def exchanged (request : PlatformHelperRequest) (answer : Except Unit PlatformHelperResponse) :
    List ClientEvent :=
  [.called (.exchange request), .answered (.exchange request) answer]

/-- The sending of an Apply request. -/
def IsApply (e : ClientEvent) : Prop :=
  ∃ request, e = .called (.exchange request) ∧ request.operation = .apply

/-- A rollback was sent and confirmed. -/
def RolledBackIn (log : List ClientEvent) : Prop :=
  ∃ mid request response rest, log = mid ++ exchanged request (.ok response) ++ rest ∧
    request.operation = .rollback ∧ Confirms request response .rolledBack

/-- The event is the Apply request that the log goes on to reject cleanly. -/
def RejectedIn (e : ClientEvent) (log : List ClientEvent) : Prop :=
  ∃ request response rest, e = .called (.exchange request) ∧
    log = .answered (.exchange request) (.ok response) :: rest ∧
    Confirms request response .rejected ∧ response.recovery.status = .clean

/-- Every Apply was rejected cleanly or has been rolled back since. -/
def Settled (log : List ClientEvent) : Prop :=
  Followed IsApply (fun e post => RolledBackIn post ∨ RejectedIn e post) log

/-- A stop of the packet runtime returned without an error. -/
def StoppedIn (log : List ClientEvent) : Prop :=
  ∃ mid rest, log = mid ++ [.called .stop, .answered .stop (.ok ())] ++ rest

/-- Every start of the packet runtime has been followed by a stop. -/
def Stopped (log : List ClientEvent) : Prop :=
  Followed (fun e => e = .called .start) (fun _ post => StoppedIn post) log

/-- Neither an Apply nor a start nor a stop. -/
def Quiet (e : ClientEvent) : Prop :=
  ¬ IsApply e ∧ e ≠ .called .start ∧ e ≠ .called .stop

/-- The last Apply was confirmed, the packet runtime started after it and found
healthy, and not stopped. -/
def Up (log : List ClientEvent) : Prop :=
  ∃ pre request response rest,
    log = pre ++ exchanged request (.ok response) ++
      [.called .start, .answered .start (.ok ()), .called .isHealthy, .answered .isHealthy true] ++
      rest ∧
    request.operation = .apply ∧ Confirms request response .applied ∧ ∀ e ∈ rest, Quiet e

/-- **Fail-safety**: a disconnected controller has undone everything, and a
connected one is up. -/
structure FailSafe (c : ReferenceClientController) (log : List ClientEvent) : Prop where
  clean : c.state = .disconnected → c.recovery.status = .clean
  settled : c.state = .disconnected → Settled log
  stopped : c.state = .disconnected → Stopped log
  up : c.state = .connected → Up log

/-! ## Logs that grow -/

variable {log tail : List ClientEvent} {op : ClientOp} {answer : Except Unit PlatformHelperResponse}
  {response : PlatformHelperResponse} {c : ReferenceClientController}

theorem RolledBackIn.append (h : RolledBackIn log) (tail : List ClientEvent) :
    RolledBackIn (log ++ tail) := by
  obtain ⟨mid, request, response, rest, rfl, hop, hconfirms⟩ := h
  exact ⟨mid, request, response, rest ++ tail, by simp, hop, hconfirms⟩

theorem RejectedIn.append {e : ClientEvent} (h : RejectedIn e log) (tail : List ClientEvent) :
    RejectedIn e (log ++ tail) := by
  obtain ⟨request, response, rest, he, rfl, hconfirms, hclean⟩ := h
  exact ⟨request, response, rest ++ tail, he, rfl, hconfirms, hclean⟩

theorem StoppedIn.append (h : StoppedIn log) (tail : List ClientEvent) :
    StoppedIn (log ++ tail) := by
  obtain ⟨mid, rest, rfl⟩ := h
  exact ⟨mid, rest ++ tail, by simp⟩

theorem Settled.append (h : Settled log) (htail : ∀ e ∈ tail, ¬ IsApply e) : Settled (log ++ tail) :=
  followed_append htail fun e post hsuffix he => (h e post hsuffix he).imp (·.append tail)
    (·.append tail)

theorem Stopped.append (h : Stopped log) (htail : ∀ e ∈ tail, e ≠ .called .start) :
    Stopped (log ++ tail) :=
  followed_append htail fun e post hsuffix he => (h e post hsuffix he).append tail

theorem not_isApply_answered {r : op.Answer} : ¬ IsApply (.answered op r) := by simp [IsApply]

/-- An exchange that is not an Apply leaves no Apply open. -/
theorem not_isApply_exchanged {request : PlatformHelperRequest} (h : request.operation ≠ .apply) :
    ∀ e ∈ exchanged request answer, ¬ IsApply e := by
  simp [exchanged, IsApply, h]

theorem not_start_exchanged {request : PlatformHelperRequest} :
    ∀ e ∈ exchanged request answer, e ≠ .called .start := by
  simp [exchanged]

/-- A confirmed rollback settles whatever came before. -/
theorem settled_of_rolledBack {request : PlatformHelperRequest}
    (hop : request.operation = .rollback) (h : Confirms request response .rolledBack) :
    Settled (log ++ exchanged request (.ok response)) := by
  refine followed_append (not_isApply_exchanged (by rw [hop]; decide)) ?_
  intro e post _ _
  exact .inl ⟨post, request, response, [], by simp, hop, h⟩

/-- So does a clean rejection of an Apply that comes after a settled log. -/
theorem settled_of_rejected {request : PlatformHelperRequest} (hlog : Settled log)
    (h : Confirms request response .rejected) (hclean : response.recovery.status = .clean) :
    Settled (log ++ exchanged request (.ok response)) := by
  intro e post hsuffix he
  rcases cons_suffix_append hsuffix with hnew | ⟨post', rfl, hold⟩
  · rcases List.suffix_cons_iff.mp hnew with heq | hanswer
    · cases heq
      exact .inr ⟨request, response, [], rfl, rfl, h, hclean⟩
    -- the only other event is the answer
    rw [List.mem_singleton.mp (hanswer.subset List.mem_cons_self)] at he
    exact absurd he not_isApply_answered
  · exact (hlog e post' hold he).imp (·.append _) (·.append _)

/-! ## Exchanges -/

/-- A method is under way, or something is left to clean up. -/
def Busy (c : ReferenceClientController) : Prop :=
  c.state ≠ .disconnected ∧ c.state ≠ .connected

section
variable {c c' : ReferenceClientController} {log : List ClientEvent}

theorem FailSafe.of_busy (h : Busy c) : FailSafe c log :=
  ⟨fun hs => absurd hs h.1, fun hs => absurd hs h.1, fun hs => absurd hs h.1,
    fun hs => absurd hs h.2⟩

theorem FailSafe.of_eq (h : FailSafe c log) (hstate : c'.state = c.state)
    (hrecovery : c'.recovery = c.recovery) : FailSafe c' log := by
  obtain ⟨h1, h2, h3, h4⟩ := h
  exact ⟨by rwa [hstate, hrecovery], hstate ▸ h2, hstate ▸ h3, hstate ▸ h4⟩

theorem Busy.of_eq (h : Busy c) (hstate : c'.state = c.state) : Busy c' := by
  rwa [Busy, hstate]

/-- **How an exchange ends**: not sent, confirmed, rejected, or without a usable
answer, which after an Apply calls for a cleanup. -/
inductive Exchanged (c : ReferenceClientController) (log : List ClientEvent)
    (operation : PlatformHelperOperation) (expected : PlatformHelperOutcome) :
    Except String Unit → ReferenceClientController → List ClientEvent → Prop where
  | unsent {e : String} {c' : ReferenceClientController} (hstate : c'.state = c.state)
      (hrecovery : c'.recovery = c.recovery) : Exchanged c log operation expected (.error e) c' log
  | confirmed {request : PlatformHelperRequest} {response : PlatformHelperResponse}
      {c' : ReferenceClientController} (hop : request.operation = operation)
      (h : Confirms request response expected) (hstate : c'.state = c.state)
      (hrecovery : c'.recovery = response.recovery) :
      Exchanged c log operation expected (.ok ()) c' (log ++ exchanged request (.ok response))
  | rejected {e : String} {request : PlatformHelperRequest} {response : PlatformHelperResponse}
      {c' : ReferenceClientController} (hop : request.operation = operation)
      (h : Confirms request response .rejected) (hstate : c'.state = c.state)
      (hrecovery : c'.recovery = response.recovery) :
      Exchanged c log operation expected (.error e) c' (log ++ exchanged request (.ok response))
  | failed {e : String} {request : PlatformHelperRequest}
      {answer : Except Unit PlatformHelperResponse} {c' : ReferenceClientController}
      (hop : request.operation = operation)
      (hstate : c'.state = if operation = .apply then .cleanupRequired else c.state) :
      Exchanged c log operation expected (.error e) c' (log ++ exchanged request answer)

open ReferenceClientController

section
variable {I : ReferenceClientController → List ClientEvent → Prop}

variable {Q : Unit → ReferenceClientController → List ClientEvent → Prop}
  {R : Except Unit Unit → ReferenceClientController → List ClientEvent → Prop}

@[simp] theorem setState_wp {state : ReferenceClientState} :
    (setState state).wp I Q c log ↔ Q () { c with state } log := Iff.rfl

@[simp] theorem setErrorClass_wp {lastErrorClass : Option ReferenceClientErrorClass} :
    (setErrorClass lastErrorClass).wp I Q c log ↔ Q () { c with lastErrorClass } log := Iff.rfl

@[simp] theorem exchange_wp {request : PlatformHelperRequest}
    {Q : Except Unit PlatformHelperResponse → ReferenceClientController → List ClientEvent → Prop} :
    (exchange request).wp I Q c log ↔ I c (log ++ [.called (.exchange request)]) ∧
      ∀ answer, Q answer c (log ++ exchanged request answer) := Iff.rfl

@[simp] theorem startRuntime_wp : startRuntime.wp I R c log ↔ I c (log ++ [.called .start]) ∧
    ∀ r : Except Unit Unit, R r c (log ++ [.called .start, .answered .start r]) := Iff.rfl

@[simp] theorem stopRuntime_wp : stopRuntime.wp I R c log ↔ I c (log ++ [.called .stop]) ∧
    ∀ r : Except Unit Unit, R r c (log ++ [.called .stop, .answered .stop r]) := Iff.rfl

@[simp] theorem runtimeIsHealthy_wp
    {Q : Bool → ReferenceClientController → List ClientEvent → Prop} :
    runtimeIsHealthy.wp I Q c log ↔ I c (log ++ [.called .isHealthy]) ∧
      ∀ r : Bool, Q r c (log ++ [.called .isHealthy, .answered .isHealthy r]) := Iff.rfl

end

theorem nextRequest_wp (operation : PlatformHelperOperation) :
    (nextRequest operation).wp FailSafe (fun r c' log' => log' = log ∧ c'.state = c.state ∧
      c'.recovery = c.recovery ∧ ∀ request, r = .ok request → request.operation = operation)
      c log := by
  simp only [nextRequest, Async.wp_bind, Async.wp_get]
  split
  · exact ⟨rfl, rfl, rfl, by rintro _ ⟨⟩⟩
  · exact ⟨rfl, rfl, rfl, fun _ h => (PlatformHelperRequest.new_eq_ok h).2.2⟩

theorem markApplyResultUncertain_wp (operation : PlatformHelperOperation) :
    (markApplyResultUncertain operation).wp FailSafe (fun _ c' log' => log' = log ∧
      c'.state = if operation = .apply then .cleanupRequired else c.state) c log := by
  unfold markApplyResultUncertain
  split <;> exact ⟨rfl, rfl⟩

/-- The end of an exchange whose answer is of no use. -/
theorem protocolError_wp {c1 : ReferenceClientController} {operation : PlatformHelperOperation}
    {expected : PlatformHelperOutcome} {request : PlatformHelperRequest}
    {answer : Except Unit PlatformHelperResponse} (e : String) (hop : request.operation = operation)
    (hstate : c1.state = c.state) :
    Async.wp FailSafe (do
      markApplyResultUncertain operation
      setErrorClass (some .protocol)
      return .error e) (Exchanged c log operation expected) c1 (log ++ exchanged request answer) := by
  rw [Async.wp_bind]
  refine Async.wp_mono (markApplyResultUncertain_wp operation) ?_
  rintro - c2 log2 ⟨rfl, hstate2⟩
  exact .failed hop (hstate ▸ hstate2)

theorem exchangeExpected_wp (hbusy : Busy c) (operation : PlatformHelperOperation)
    (expected : PlatformHelperOutcome) :
    (exchangeExpected operation expected).wp FailSafe (Exchanged c log operation expected) c log := by
  rw [exchangeExpected, Async.wp_bind]
  refine Async.wp_mono (nextRequest_wp operation) ?_
  rintro r c1 log1 ⟨hlog1, hstate1, hrecovery1, hop⟩
  subst hlog1
  cases r with
  | error e => exact .unsent hstate1 hrecovery1
  | ok request =>
    have hop := hop request rfl
    rw [Async.wp_bind, exchange_wp]
    refine ⟨.of_busy (hbusy.of_eq hstate1), ?_⟩
    intro answer
    cases answer with
    | error u =>
      dsimp only
      rw [Async.wp_bind]
      refine Async.wp_mono (markApplyResultUncertain_wp operation) ?_
      rintro - c2 log2 ⟨rfl, hstate2⟩
      exact .failed hop (hstate1 ▸ hstate2)
    | ok response =>
      dsimp only
      split
      · split <;> exact protocolError_wp _ hop hstate1
      next hvalid =>
      have hvalid : response.validate = .ok () := by
        cases hv : response.validate with
        | error e => rw [hv] at hvalid; exact absurd rfl hvalid
        | ok u => rfl
      split
      · exact protocolError_wp _ hop hstate1
      next hid =>
      rw [Async.wp_bind, Async.wp_modify]
      split
      · exact .rejected hop ⟨hvalid, not_not.mp hid, ‹_›⟩ hstate1 rfl
      split
      · exact protocolError_wp _ hop hstate1
      · next hexpected =>
        exact .confirmed hop ⟨hvalid, not_not.mp hid, not_not.mp hexpected⟩ hstate1 rfl

end

/-! ## Stopping and rolling back -/

theorem stateFromRecovery_eq_disconnected {recovery : PlatformRecoverySnapshot} :
    stateFromRecovery recovery = .disconnected ↔ recovery.status = .clean := by
  cases h : recovery.status <;> simp [stateFromRecovery, h]

theorem stateFromRecovery_ne_connected {recovery : PlatformRecoverySnapshot} :
    stateFromRecovery recovery ≠ .connected := by
  cases h : recovery.status <;> simp [stateFromRecovery, h]

/-- A stop without an error covers every start before it. -/
theorem stopped_of_stop (htail : ∀ e ∈ tail, e ≠ .called .start) :
    Stopped (log ++ [.called .stop, .answered .stop (.ok ())] ++ tail) := by
  refine Stopped.append ?_ htail
  exact followed_append (by simp) fun e post _ _ => ⟨post, [], by simp⟩

section
variable {c : ReferenceClientController} {log : List ClientEvent}

open ReferenceClientController

/-- How a rollback ends. -/
structure RolledBack (log : List ClientEvent) (r : Except String Unit)
    (c' : ReferenceClientController) (log' : List ClientEvent) : Prop where
  grows : ∃ tail, log' = log ++ tail ∧ ∀ e ∈ tail, e ≠ .called .start
  busy : ∀ e, r = .error e → Busy c'
  state : ∀ u, r = .ok u → c'.state = .disconnected
  clean : ∀ u, r = .ok u → c'.recovery.status = .clean
  settled : ∀ u, r = .ok u → Settled log'

theorem Exchanged.grows {operation : PlatformHelperOperation} {expected : PlatformHelperOutcome}
    {r : Except String Unit} {c' : ReferenceClientController} {log' : List ClientEvent}
    (h : Exchanged c log operation expected r c' log') :
    ∃ tail, log' = log ++ tail ∧ ∀ e ∈ tail, e ≠ .called .start := by
  cases h with
  | unsent => exact ⟨[], by simp, by simp⟩
  | _ => exact ⟨_, rfl, not_start_exchanged⟩

/-- **A rollback** ends disconnected, clean and settled, or with something left to
clean up. -/
theorem rollbackAfterFailure_wp :
    rollbackAfterFailure.wp FailSafe (RolledBack log) c log := by
  simp only [rollbackAfterFailure, Async.wp_bind, setState_wp]
  refine Async.wp_mono (exchangeExpected_wp ⟨by simp, by simp⟩ _ _) ?_
  intro r c1 log1 h
  have hgrows := h.grows
  cases r with
  | ok u =>
    cases h with
    | confirmed hop hconfirms hstate hrecovery =>
      refine ⟨hgrows, by rintro _ ⟨⟩, fun _ _ => rfl, fun _ _ => ?_,
        fun _ _ => settled_of_rolledBack hop hconfirms⟩
      show c1.recovery.status = .clean
      rw [hrecovery]
      exact PlatformHelperResponse.status_of_validate hconfirms.valid
        (by rw [hconfirms.outcome]; rfl)
  | error e =>
    have hend : ∀ c2 : ReferenceClientController, Busy c2 →
        RolledBack log (.error "reference client rollback failed") c2 log1 :=
      fun _ hbusy => ⟨hgrows, fun _ _ => hbusy, by rintro _ ⟨⟩, by rintro _ ⟨⟩, by rintro _ ⟨⟩⟩
    simp only [Async.wp_bind, Async.wp_modify, Async.wp_get]
    split
    · exact hend _ ⟨by simp, by simp⟩
    · next hne => exact hend _ ⟨hne, stateFromRecovery_ne_connected⟩

/-- **Stopping and rolling back** keeps fail-safety, whatever fails. -/
theorem stopRuntimeAndRollback_wp (hbusy : Busy c) :
    stopRuntimeAndRollback.wp FailSafe (fun _ => FailSafe) c log := by
  simp only [stopRuntimeAndRollback, Async.wp_bind, stopRuntime_wp]
  refine ⟨.of_busy hbusy, ?_⟩
  intro stopped
  refine Async.wp_mono rollbackAfterFailure_wp ?_
  intro r c1 log1 h
  cases r with
  | error e => exact .of_busy ((h.busy e rfl).of_eq rfl)
  | ok u =>
    cases stopped with
    | error v => exact .of_busy ⟨by simp, by simp⟩
    | ok v =>
      obtain ⟨tail, rfl, htail⟩ := h.grows
      refine ⟨fun _ => h.clean u rfl, fun _ => h.settled u rfl, fun _ => stopped_of_stop htail, ?_⟩
      intro hup
      cases (h.state u rfl).symm.trans hup

theorem stopAndReport_wp {stopFailed rollbackFailed : String}
    {finish : ClientM (Except String Unit)} (hbusy : Busy c)
    (hfinish : ∀ c log, FailSafe c log → finish.wp FailSafe (fun _ => FailSafe) c log) :
    (stopAndReport stopFailed rollbackFailed finish).wp FailSafe (fun _ => FailSafe) c log := by
  rw [stopAndReport, Async.wp_bind]
  refine Async.wp_mono (stopRuntimeAndRollback_wp hbusy) ?_
  intro r c1 log1 h
  cases r with
  | ok u => exact hfinish c1 log1 h
  | error e =>
    simp only [Async.wp_bind, Async.wp_get]
    split <;> exact h

/-! ## The methods -/

/-- A call that fails before anything was applied. -/
theorem failFromRecovery_wp (cls : ReferenceClientErrorClass) (message : String)
    (h : c.state ≠ .cleanupRequired → c.recovery.status = .clean → Settled log ∧ Stopped log)
    (hbusy : Busy c) :
    (failFromRecovery cls message).wp FailSafe (fun _ => FailSafe) c log := by
  have hend : ∀ c1 : ReferenceClientController, c1.state = c.state → c1.recovery = c.recovery →
      Async.wp FailSafe (do
        if (← Async.get).state ≠ .cleanupRequired then
          Async.modify fun c => { c with state := stateFromRecovery c.recovery }
        return (Except.error message : Except String Unit)) (fun _ => FailSafe) c1 log := by
    intro c1 hstate hrecovery
    simp only [Async.wp_bind, Async.wp_get]
    split
    · next hne =>
        rw [hstate] at hne
        have hclean (hs : stateFromRecovery c1.recovery = .disconnected) :
            c.recovery.status = .clean :=
          stateFromRecovery_eq_disconnected.mp (hrecovery ▸ hs)
        exact ⟨stateFromRecovery_eq_disconnected.mp, fun hs => (h hne (hclean hs)).1,
          fun hs => (h hne (hclean hs)).2, fun hs => absurd hs stateFromRecovery_ne_connected⟩
    · exact .of_busy (hbusy.of_eq hstate)
  rw [failFromRecovery, Async.wp_bind, Async.wp_get]
  split
  · exact hend _ rfl rfl
  · exact hend c rfl rfl

theorem quiet_isHealthy {r : Bool} :
    ∀ e ∈ ([.called .isHealthy, .answered .isHealthy r] : List ClientEvent), Quiet e := by
  simp [Quiet, IsApply]

theorem Up.append {tail : List ClientEvent} (h : Up log) (htail : ∀ e ∈ tail, Quiet e) :
    Up (log ++ tail) := by
  obtain ⟨pre, request, response, rest, rfl, hop, hconfirms, hrest⟩ := h
  exact ⟨pre, request, response, rest ++ tail, by simp, hop, hconfirms,
    List.forall_mem_append.mpr ⟨hrest, htail⟩⟩

end

section
variable {c : ReferenceClientController} {log : List ClientEvent}

open ReferenceClientController

variable {expected : PlatformHelperOutcome} {c' : ReferenceClientController}
  {log' : List ClientEvent}

/-- An exchange other than an Apply keeps the state and what is settled. -/
theorem Exchanged.of_ne_apply {operation : PlatformHelperOperation} {r : Except String Unit}
    (h : Exchanged c log operation expected r c' log') (hne : operation ≠ .apply)
    (hsettled : Settled log) (hstopped : Stopped log) :
    c'.state = c.state ∧ Settled log' ∧ Stopped log' := by
  cases h with
  | unsent hstate hrecovery => exact ⟨hstate, hsettled, hstopped⟩
  | confirmed hop _ hstate | rejected hop _ hstate =>
    exact ⟨hstate, hsettled.append (not_isApply_exchanged (hop ▸ hne)),
      hstopped.append not_start_exchanged⟩
  | failed hop hstate =>
    rw [if_neg hne] at hstate
    exact ⟨hstate, hsettled.append (not_isApply_exchanged (hop ▸ hne)),
      hstopped.append not_start_exchanged⟩

/-- An Apply that was not confirmed either leaves a cleanup to do, or was not
sent, or was rejected. -/
theorem Exchanged.of_apply_error {e : String}
    (h : Exchanged c log .apply expected (.error e) c' log') (hbusy : Busy c)
    (hsettled : Settled log) (hstopped : Stopped log) :
    Busy c' ∧
      (c'.state ≠ .cleanupRequired → c'.recovery.status = .clean → Settled log' ∧ Stopped log') := by
  cases h with
  | unsent hstate hrecovery => exact ⟨hbusy.of_eq hstate, fun _ _ => ⟨hsettled, hstopped⟩⟩
  | rejected hop hconfirms hstate hrecovery =>
    exact ⟨hbusy.of_eq hstate, fun _ hclean =>
      ⟨settled_of_rejected hsettled hconfirms (hrecovery ▸ hclean),
        hstopped.append not_start_exchanged⟩⟩
  | failed hop hstate =>
    rw [if_pos rfl] at hstate
    exact ⟨⟨by simp [hstate], by simp [hstate]⟩, fun hne => absurd hstate hne⟩

/-- **Connecting** keeps fail-safety. -/
theorem connect_wp (h : FailSafe c log) : connect.wp FailSafe (fun _ => FailSafe) c log := by
  simp only [connect, Async.wp_bind, Async.wp_get]
  split
  · exact h
  next hready =>
  rw [not_or, not_not] at hready
  have hsettled := h.settled hready.1
  have hstopped := h.stopped hready.1
  simp only [Async.wp_bind, setState_wp, setErrorClass_wp]
  refine Async.wp_mono (exchangeExpected_wp ⟨by simp, by simp⟩ _ _) ?_
  intro r c1 log1 hpre
  obtain ⟨hstate1, hsettled1, hstopped1⟩ := hpre.of_ne_apply (by decide) hsettled hstopped
  have hbusy1 : Busy c1 := ⟨by simp [hstate1], by simp [hstate1]⟩
  cases r with
  | error e => exact failFromRecovery_wp _ _ (fun _ _ => ⟨hsettled1, hstopped1⟩) hbusy1
  | ok u =>
  simp only [Async.wp_bind]
  refine Async.wp_mono (exchangeExpected_wp hbusy1 _ _) ?_
  intro r c2 log2 happly
  cases r with
  | error e =>
    obtain ⟨hbusy2, hend⟩ := happly.of_apply_error hbusy1 hsettled1 hstopped1
    exact failFromRecovery_wp _ _ hend hbusy2
  | ok u =>
  cases happly with
  | confirmed hop hconfirms hstate2 hrecovery =>
  simp only [Async.wp_bind, startRuntime_wp]
  refine ⟨.of_busy (hbusy1.of_eq hstate2), ?_⟩
  intro started
  cases started with
  | error v =>
    simp only [Async.wp_bind, setState_wp, setErrorClass_wp]
    exact stopAndReport_wp ⟨by simp, by simp⟩ fun c log h => h
  | ok v =>
  simp only [Async.wp_bind, runtimeIsHealthy_wp]
  refine ⟨.of_busy (hbusy1.of_eq hstate2), ?_⟩
  intro healthy
  cases healthy with
  | false =>
    simp only [Async.wp_bind, setState_wp, setErrorClass_wp]
    exact stopAndReport_wp ⟨by simp, by simp⟩ fun c log h => h
  | true =>
    simp only [Async.wp_bind, setState_wp, setErrorClass_wp, Async.wp_pure]
    refine ⟨by simp, by simp, by simp, fun _ => ?_⟩
    exact ⟨log1, _, _, [], by simp, hop, hconfirms, by simp⟩

theorem disconnect_wp (h : FailSafe c log) : disconnect.wp FailSafe (fun _ => FailSafe) c log := by
  simp only [disconnect, Async.wp_bind, Async.wp_get]
  split <;> (try split)
  · exact h
  · exact h
  · simp only [Async.wp_bind, setState_wp, setErrorClass_wp]
    exact stopAndReport_wp ⟨by simp, by simp⟩ fun _ _ h1 => h1.of_eq rfl rfl

theorem checkRuntimeHealth_wp (h : FailSafe c log) :
    checkRuntimeHealth.wp FailSafe (fun _ => FailSafe) c log := by
  simp only [checkRuntimeHealth, Async.wp_bind, Async.wp_get]
  split
  · exact h
  next hup =>
  rw [not_not] at hup
  have hkeep : ∀ tail : List ClientEvent, (∀ e ∈ tail, Quiet e) → FailSafe c (log ++ tail) := by
    intro tail htail
    refine ⟨?_, ?_, ?_, fun _ => (h.up hup).append htail⟩ <;> simp [hup]
  simp only [Async.wp_bind, runtimeIsHealthy_wp]
  refine ⟨hkeep _ (by simp [Quiet, IsApply]), fun healthy => ?_⟩
  cases healthy with
  | true => exact hkeep _ quiet_isHealthy
  | false =>
    simp only [Async.wp_bind, setState_wp, setErrorClass_wp]
    exact stopAndReport_wp ⟨by simp, by simp⟩ fun c log h => h

theorem recover_wp (h : FailSafe c log) : recover.wp FailSafe (fun _ => FailSafe) c log := by
  simp only [recover, Async.wp_bind, Async.wp_get]
  split
  · simp only [Async.wp_bind, setState_wp, setErrorClass_wp]
    exact stopAndReport_wp ⟨by simp, by simp⟩ fun _ _ h1 => h1.of_eq rfl rfl
  · exact h

end

/-! ## Sessions -/

/-- A new controller has not called anything, and is disconnected only when the
recovery snapshot it was given is clean. -/
theorem failSafe_new {root : Path} {requestPrefix : String} {recovery : PlatformRecoverySnapshot}
    (h : ReferenceClientController.new root requestPrefix recovery = .ok c) : FailSafe c [] := by
  unfold ReferenceClientController.new at h
  obtain ⟨-, h⟩ := Check.seq_eq_ok.mp h
  obtain ⟨-, h⟩ := Check.seq_eq_ok.mp h
  cases h
  refine ⟨stateFromRecovery_eq_disconnected.mp, ?_, ?_,
    fun hs => absurd hs stateFromRecovery_ne_connected⟩
  · simp [Settled, Followed]
  · simp [Stopped, Followed]

theorem ClientMethod.run_wp (m : ClientMethod) (h : FailSafe c log) :
    m.run.wp FailSafe (fun _ => FailSafe) c log := by
  cases m with
  | connect => exact connect_wp h
  | disconnect => exact disconnect_wp h
  | checkRuntimeHealth => exact checkRuntimeHealth_wp h
  | recover => exact recover_wp h

/-- A call of `connect` that is refused. -/
theorem connect_refused (h : c.state ≠ .disconnected ∨ c.recovery.connectAllowed = false) :
    ReferenceClientController.connect c =
      .done c (.error "reference client is not ready to connect") := by
  apply Resume.eq_done_of_wp
  show Async.wp _ ReferenceClientController.connect _ c []
  simp only [ReferenceClientController.connect, Async.wp_bind, Async.wp_get]
  rw [if_pos h]
  exact ⟨rfl, rfl⟩

/-- **Fail-safety of the reference client.**  In every session of a controller,
whatever the helper and the packet runtime answer and wherever calls are dropped,
the state that can be seen says what has happened: disconnected means that
everything was undone, connected that everything is up.  A call of `connect` that
is refused for the state returns at once and calls nothing. -/
theorem reference_client_fail_safe {root : Path} {requestPrefix : String}
    {recovery : PlatformRecoverySnapshot} {c : ReferenceClientController}
    (hnew : ReferenceClientController.new root requestPrefix recovery = .ok c)
    {x : Session ReferenceClientController ClientOp ClientOp.Answer (Except String Unit)}
    (h : (clientSessions c).Reach x) :
    FailSafe x.phase.state x.log ∧
    ∀ s result, x.phase = .idle s result →
      s.state ≠ .disconnected ∨ s.recovery.connectAllowed = false →
      (clientSessions c).next x (.invoke .connect) = some
        ⟨.idle s (some (.error "reference client is not ready to connect")), x.log⟩ := by
  refine ⟨sessions_invariant (failSafe_new hnew) ?_ h, ?_⟩
  · intro m s log hs
    exact m.run_wp hs
  intro s result hphase hrefused
  show Session.next ClientMethod.run ClientOp.awaits x (.invoke .connect) = _
  simp only [Session.next, hphase, ClientMethod.run, connect_refused hrefused, Session.settle]

namespace UpRun

/-! A session in which a connection is set up. -/

def recovery : PlatformRecoverySnapshot := ⟨.clean, none, false⟩

def controller : ReferenceClientController :=
  ⟨utf8 "/run", "ui", 1, .disconnected, recovery, none⟩

def request (id : String) (operation : PlatformHelperOperation) : PlatformHelperRequest :=
  ⟨1, id, operation, utf8 "/run/maverick-recovery.json"⟩

def actions : List (SessionAction ClientOp ClientOp.Answer ClientMethod) :=
  [.invoke .connect,
    .answer (.exchange (request "ui_0000000000000001" .preflight))
      (.ok ⟨1, "ui_0000000000000001", .ready, recovery, none⟩),
    .answer (.exchange (request "ui_0000000000000002" .apply))
      (.ok ⟨1, "ui_0000000000000002", .applied,
        ⟨.cleanupRequired, some .retainedHelperJournal, true⟩, none⟩),
    .answer .start (.ok ()),
    .answer .isHealthy true]

theorem run_eq : ∃ x, (clientSessions controller).run (clientSessions controller).start actions =
    some x ∧ x.phase.state.state = .connected := ⟨_, rfl, rfl⟩

end UpRun

theorem reference_client_fail_safe_connected :
    ∃ x, (clientSessions UpRun.controller).Reach x ∧ x.phase.state.state = .connected ∧
      Up x.log := by
  obtain ⟨x, hrun, hstate⟩ := UpRun.run_eq
  have hreach := System.reach_of_run .start hrun
  have hnew : ReferenceClientController.new (utf8 "/run") "ui" UpRun.recovery =
      .ok UpRun.controller := rfl
  exact ⟨x, hreach, hstate, (reference_client_fail_safe hnew hreach).1.up hstate⟩

end Sdk
end Maverick
