import Maverick.Core.Egress
import Maverick.Lib.System

/-!
# Connecting to a target

`connect_target_addresses`: the addresses of one family are tried one after the
other; addresses of both families are tried in alternation, and while fewer than
two attempts are open a new one is started after a delay.  When an attempt ends,
with what result, and when the delay passes are events of the environment.

* `connectOrder` — the order in which the addresses of a list are tried.
* `Connecting.next_order` — a step moves addresses from the waiting list to the
  started ones and never brings in another one.
* `started_prefix_connectOrder` — in every run the attempts started are an
  initial part of `connectOrder`.
-/

namespace Maverick
namespace Server

open Lib

/-- An `io::Error`: one that the server makes itself, or one of the system. -/
inductive IoError (ε : Type) where
  | invalidInput (message : String)
  | os (error : ε)
  deriving DecidableEq, Repr

structure ConnectCandidate where
  addr : SocketAddr
  originalIndex : Nat
  deriving DecidableEq, Repr

/-! ## The order of the attempts -/

def candidates (addrs : List SocketAddr) : List ConnectCandidate :=
  addrs.zipIdx.map fun (addr, originalIndex) => ⟨addr, originalIndex⟩

/-- The loop that pops one candidate of each family in turn. -/
def interleave : List ConnectCandidate → List ConnectCandidate → List ConnectCandidate
  | [], other => other
  | first, [] => first
  | c :: first, d :: other => c :: d :: interleave first other

/-- Whether the list has addresses of both families. -/
def mixedFamilies (addrs : List SocketAddr) : Bool :=
  addrs.any SocketAddr.isIpv4 && addrs.any SocketAddr.isIpv6

/-- The order in which a list of addresses is tried. -/
def connectOrder (addrs : List SocketAddr) : List ConnectCandidate :=
  match addrs with
  | [] => []
  | a :: _ =>
    if mixedFamilies addrs then
      interleave ((candidates addrs).filter fun c => c.addr.isIpv4 == a.isIpv4)
        ((candidates addrs).filter fun c => c.addr.isIpv4 != a.isIpv4)
    else candidates addrs

variable {c : ConnectCandidate} {addrs : List SocketAddr}

theorem mem_interleave : ∀ {first other : List ConnectCandidate},
    c ∈ interleave first other ↔ c ∈ first ∨ c ∈ other := by
  intro first other
  fun_induction interleave first other with
  | case1 other => simp
  | case2 first => simp
  | case3 d first e other ih =>
    simp only [List.mem_cons, ih]
    tauto

theorem addr_mem_of_mem_candidates (h : c ∈ candidates addrs) : c.addr ∈ addrs := by
  obtain ⟨⟨addr, i⟩, hmem, rfl⟩ := List.mem_map.mp h
  exact (List.mem_zipIdx' hmem).2 ▸ List.getElem_mem _

theorem addr_mem_of_mem_connectOrder (h : c ∈ connectOrder addrs) : c.addr ∈ addrs := by
  apply addr_mem_of_mem_candidates
  cases addrs with
  | nil => cases h
  | cons a rest =>
    rw [connectOrder] at h
    split at h
    · rcases mem_interleave.mp h with h | h
      exacts [List.mem_of_mem_filter h, List.mem_of_mem_filter h]
    · exact h

/-! ## The attempts -/

section
variable {ε T : Type}

/-- Where `connect_target_addresses` stands. -/
inductive Attempts (ε T : Type) where
  /-- the addresses of one family, one at a time -/
  | sequential (current : ConnectCandidate) (rest : List ConnectCandidate)
  /-- the addresses of both families; `errors` is indexed by list position -/
  | racing (pending inFlight : List ConnectCandidate) (errors : List (Option (IoError ε)))
  | returned (result : Except (IoError ε) T)
  /-- an `expect` of the function has failed -/
  | expectFailed

/-- A call of `connect_target_addresses`, with the attempts it has started and
the results it has seen so far. -/
structure Connecting (ε T : Type) where
  started : List ConnectCandidate
  observed : List (ConnectCandidate × Except (IoError ε) T)
  attempts : Attempts ε T

/-- What the call waits for. -/
inductive ConnectEvent (ε T : Type) where
  /-- the open attempt at this position ends -/
  | completed (position : Nat) (result : Except (IoError ε) T)
  | raceDelay

namespace Connecting

/-- The candidates for which no attempt has been started. -/
def waiting (s : Connecting ε T) : List ConnectCandidate :=
  match s.attempts with
  | .sequential _ rest => rest
  | .racing pending _ _ => pending
  | .returned _ => []
  | .expectFailed => []

/-- The end of an iteration of the racing loop: the next candidate, if any, is
started; when nothing is open any more, the error of the last address is
returned. -/
def startPending (s : Connecting ε T) (pending inFlight : List ConnectCandidate)
    (errors : List (Option (IoError ε))) : Connecting ε T :=
  match pending with
  | c :: pending =>
    { s with started := s.started ++ [c], attempts := .racing pending (inFlight ++ [c]) errors }
  | [] =>
    if inFlight = [] then
      match errors.getLast? with
      | some (some error) => { s with attempts := .returned (.error error) }
      | _ => { s with attempts := .expectFailed }
    else { s with attempts := .racing [] inFlight errors }

/-- The response to an event; `none` when the call is not waiting for it. -/
def next (s : Connecting ε T) : ConnectEvent ε T → Option (Connecting ε T)
  | .completed position result =>
    match s.attempts with
    | .sequential current rest =>
      if position = 0 then
        let s := { s with observed := s.observed ++ [(current, result)] }
        match result, rest with
        | .ok connected, _ => some { s with attempts := .returned (.ok connected) }
        | .error error, [] => some { s with attempts := .returned (.error error) }
        | .error _, c :: rest =>
          some { s with started := s.started ++ [c], attempts := .sequential c rest }
      else none
    | .racing pending inFlight errors =>
      match inFlight[position]? with
      | none => none
      | some c =>
        let s := { s with observed := s.observed ++ [(c, result)] }
        match result with
        | .ok connected => some { s with attempts := .returned (.ok connected) }
        | .error error =>
          some (s.startPending pending (inFlight.eraseIdx position)
            (errors.set c.originalIndex (some error)))
    | _ => none
  | .raceDelay =>
    match s.attempts with
    | .racing pending inFlight errors =>
      if pending ≠ [] ∧ inFlight.length < 2 then some (s.startPending pending inFlight errors)
      else none
    | _ => none

/-- The order kept by a call: what it has started, then what is waiting. -/
def order (s : Connecting ε T) : List ConnectCandidate := s.started ++ s.waiting

theorem order_startPending (s : Connecting ε T) (pending inFlight : List ConnectCandidate)
    (errors : List (Option (IoError ε))) :
    (s.startPending pending inFlight errors).order = s.started ++ pending := by
  unfold startPending
  split
  · simp [order, waiting]
  split
  · split <;> simp [order, waiting]
  · simp [order, waiting]

/-- **A step starts nothing new.**  It moves the head of the waiting list to the
started attempts, or drops the waiting list when the call returns. -/
theorem next_order {s s' : Connecting ε T} {e : ConnectEvent ε T} (h : s.next e = some s') :
    s'.order <+: s.order := by
  obtain ⟨started, observed, attempts⟩ := s
  cases e with
  | completed position result =>
    cases attempts with
    | sequential current rest =>
      simp only [next] at h
      split at h
      · split at h <;> cases h <;> simp [order, waiting]
      · cases h
    | racing pending inFlight errors =>
      simp only [next] at h
      split at h
      · cases h
      split at h
      · cases h
        simp [order, waiting]
      cases h
      rw [order_startPending]
      exact List.prefix_rfl
    | returned result => cases h
    | expectFailed => cases h
  | raceDelay =>
    cases attempts with
    | racing pending inFlight errors =>
      simp only [next] at h
      split at h
      · cases h
        rw [order_startPending]
        exact List.prefix_rfl
      · cases h
    | sequential current rest => cases h
    | returned result => cases h
    | expectFailed => cases h

end Connecting

/-- The call up to its first wait. -/
def connectTargetAddresses (addrs : List SocketAddr) : Connecting ε T :=
  match connectOrder addrs with
  | [] => ⟨[], [], .returned (.error (.invalidInput "target address set is empty"))⟩
  | c :: rest =>
    ⟨[c], [],
      if mixedFamilies addrs then .racing rest [c] (List.replicate addrs.length none)
      else .sequential c rest⟩

/-- The runs of one call. -/
def connecting (addrs : List SocketAddr) : System (Connecting ε T) (ConnectEvent ε T) where
  start := connectTargetAddresses addrs
  next := Connecting.next

theorem order_connectTargetAddresses (addrs : List SocketAddr) :
    (connectTargetAddresses addrs : Connecting ε T).order = connectOrder addrs := by
  unfold connectTargetAddresses
  split
  · next h => rw [h]; rfl
  next c rest h =>
    rw [h]
    split <;> rfl

/-- **Attempts follow the order.**  In every run the attempts started so far are
an initial part of `connectOrder`. -/
theorem started_prefix_connectOrder {addrs : List SocketAddr} {s : Connecting ε T}
    (h : (connecting addrs).Reach s) : s.started <+: connectOrder addrs := by
  have horder : s.order <+: connectOrder addrs := by
    refine h.invariant (I := fun s => s.order <+: connectOrder addrs) ?_ ?_
    · show (connectTargetAddresses addrs).order <+: connectOrder addrs
      rw [order_connectTargetAddresses]
    · intro s e s' hs _ hnext
      exact (Connecting.next_order hnext).trans hs
  exact (List.prefix_append _ _).trans horder

end

end Server
end Maverick
