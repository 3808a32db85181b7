import Mathlib.Data.List.Basic

/-!
# State machines and their runs

A `System` is a state machine whose transition function is partial: an action
that is not enabled in a state has no successor.  Everything the environment
chooses (a schedule, a message, the result of a call) is part of the action, so
that a run is a list of actions and the machine can be executed.

* `System.ReachBy` — the states reached by runs all of whose steps meet a
  condition; `System.Reach` is the case without a condition.
* `System.ReachBy.invariant` — what holds initially and is kept by every step
  that meets the condition holds in every state reached.
* `System.reach_of_run`, `System.reachBy_of_runBy` — an executed run ends in a
  reachable state; `System.exists_reach`, `System.exists_reachBy` — with what can be
  checked of it.
* `System.recording` — the machine with a record of what its steps put out;
  `System.ReachBy.recorded` — the invariant rule for states and records.
-/

namespace Maverick
namespace Lib

universe u v w

/-- A state machine with a partial transition function. -/
structure System (σ : Type u) (α : Type v) where
  /-- The initial state. -/
  start : σ
  /-- The successor of a state under an action, if the action is enabled. -/
  next : σ → α → Option σ

namespace System

variable {σ : Type u} {α : Type v} (M : System σ α)

/-- The state after a list of actions, if each is enabled in its turn. -/
def run : σ → List α → Option σ
  | s, [] => some s
  | s, a :: as =>
    match M.next s a with
    | none => none
    | some s' => run s' as

/-- The states reached by runs whose every step meets the condition. -/
inductive ReachBy (good : σ → α → Prop) : σ → Prop where
  | start : ReachBy good M.start
  | step {s s' : σ} {a : α} : ReachBy good s → good s a → M.next s a = some s' → ReachBy good s'

/-- The states reached by any run. -/
abbrev Reach : σ → Prop := M.ReachBy fun _ _ => True

variable {M}

variable {good : σ → α → Prop} {I : σ → Prop} {s s' : σ} {as : List α}

/-- **The invariant rule.** -/
theorem ReachBy.invariant (hstart : I M.start)
    (hstep : ∀ s a s', I s → good s a → M.next s a = some s' → I s') (h : M.ReachBy good s) : I s := by
  induction h with
  | start => exact hstart
  | step _ hgood hnext ih => exact hstep _ _ _ ih hgood hnext

/-- Runs under a condition are runs under a weaker one. -/
theorem ReachBy.mono {good' : σ → α → Prop} (hmono : ∀ s a, good s a → good' s a)
    (h : M.ReachBy good s) : M.ReachBy good' s := by
  induction h with
  | start => exact .start
  | step _ hgood hnext ih => exact .step ih (hmono _ _ hgood) hnext

/-- What every step keeps, a run keeps. -/
theorem run_invariant (hstep : ∀ s a s', I s → M.next s a = some s' → I s') (hs : I s)
    (hrun : M.run s as = some s') : I s' := by
  induction as generalizing s with
  | nil =>
    cases hrun
    exact hs
  | cons a as ih =>
    rw [run] at hrun
    split at hrun
    · cases hrun
    · rename_i hnext
      exact ih (hstep _ _ _ hs hnext) hrun

theorem reach_of_run (h : M.Reach s) (hrun : M.run s as = some s') : M.Reach s' :=
  run_invariant (I := M.Reach) (fun _ _ _ h hnext => .step h trivial hnext) h hrun

theorem exists_reach (M : System σ α) (p : σ → Prop) [DecidablePred p] (as : List α)
    (h : (M.run M.start as).any p) : ∃ s, M.Reach s ∧ p s := by
  obtain ⟨s, hrun, hs⟩ := (Option.any_eq_true _ _).mp h
  exact ⟨s, reach_of_run .start hrun, of_decide_eq_true hs⟩

/-- An executed run each of whose steps meets a condition that can be checked. -/
def runBy (M : System σ α) (good : σ → α → Prop) [∀ s a, Decidable (good s a)] :
    σ → List α → Option σ
  | s, [] => some s
  | s, a :: as =>
    if good s a then
      match M.next s a with
      | none => none
      | some s' => runBy M good s' as
    else none

theorem reachBy_of_runBy [∀ s a, Decidable (good s a)] (h : M.ReachBy good s)
    (hrun : M.runBy good s as = some s') : M.ReachBy good s' := by
  induction as generalizing s with
  | nil =>
    cases hrun
    exact h
  | cons a as ih =>
    obtain ⟨hgood, hrun⟩ := Option.ite_none_right_eq_some.mp hrun
    split at hrun
    · cases hrun
    · rename_i hnext
      exact ih (.step h hgood hnext) hrun

theorem exists_reachBy (M : System σ α) (good : σ → α → Prop) [∀ s a, Decidable (good s a)]
    (p : σ → Prop) [DecidablePred p] (as : List α) (h : (M.runBy good M.start as).any p) :
    ∃ s, M.ReachBy good s ∧ p s := by
  obtain ⟨s, hrun, hs⟩ := (Option.any_eq_true _ _).mp h
  exact ⟨s, reachBy_of_runBy .start hrun, of_decide_eq_true hs⟩

/-! ## Records -/

section Recording

variable {β : Type w}

/-- The machine together with a record of what its steps put out.  The record has no
influence on the run. -/
def recording (M : System σ α) (out : σ → α → List β) : System (List β × σ) α where
  start := ([], M.start)
  next r a := (M.next r.2 a).map fun s' => (r.1 ++ out r.2 a, s')

/-- **The invariant rule for records.** -/
theorem ReachBy.recorded {good : σ → α → Prop} {out : σ → α → List β} {I : List β → σ → Prop}
    (hstart : I [] M.start)
    (hstep : ∀ log s a s', M.ReachBy good s → I log s → good s a → M.next s a = some s' →
      I (log ++ out s a) s')
    {r : List β × σ} (h : (M.recording out).ReachBy (fun r a => good r.2 a) r) :
    M.ReachBy good r.2 ∧ I r.1 r.2 := by
  induction h with
  | start => exact ⟨.start, hstart⟩
  | step _ hgood hnext ih =>
    obtain ⟨hreach, hinv⟩ := ih
    obtain ⟨s', hs', rfl⟩ := Option.map_eq_some_iff.mp hnext
    exact ⟨.step hreach hgood hs', hstep _ _ _ _ hreach hinv hgood hs'⟩

end Recording

end System
end Lib
end Maverick
