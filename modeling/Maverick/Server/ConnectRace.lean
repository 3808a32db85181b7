import Maverick.Server.Connect

/-!
# Racing connection attempts

What a call of `connect_target_addresses` has done and can return, in every order of
completions and delays.

* `connectOrder_perm`, `filter_connectOrder`, `connectOrder_alternates` — the order of the
  attempts: every position once, each family in list order, the families in turn.
* `Standing` — what is known of a call: which attempts are open, and that the others failed.
* `target_race_sound` — the attempts and the result, in every state of a run.
-/

namespace Maverick
namespace Server

open Lib

/-! ## The order of the attempts -/

/-- The family of an address. -/
abbrev ConnectCandidate.family (c : ConnectCandidate) : Bool := c.addr.isIpv4

theorem map_originalIndex_candidates (addrs : List SocketAddr) :
    (candidates addrs).map ConnectCandidate.originalIndex = List.range addrs.length := by
  rw [candidates, List.map_map]
  exact List.zipIdx_map_snd 0 addrs |>.trans (List.range_eq_range' ..).symm

theorem interleave_perm (first other : List ConnectCandidate) :
    (interleave first other).Perm (first ++ other) := by
  fun_induction interleave first other with
  | case1 other => exact List.Perm.refl _
  | case2 first => rw [List.append_nil]
  | case3 c first d other ih =>
    refine List.Perm.cons c ?_
    exact (List.Perm.cons d ih).trans List.perm_middle.symm

theorem head?_interleave (c : ConnectCandidate) (first other : List ConnectCandidate) :
    (interleave (c :: first) other).head? = some c := by
  cases other with
  | nil => rfl
  | cons d other => rfl

variable {first other : List ConnectCandidate}

/-- Each family keeps its order. -/
theorem filter_interleave {p : ConnectCandidate → Bool} (hfirst : ∀ c ∈ first, p c = true)
    (hother : ∀ c ∈ other, p c = false) :
    (interleave first other).filter p = first ∧
      (interleave first other).filter (fun c => !p c) = other := by
  fun_induction interleave first other with
  | case1 other =>
    refine ⟨List.filter_eq_nil_iff.mpr fun c hc => ?_, List.filter_eq_self.mpr fun c hc => ?_⟩
    · simp [hother c hc]
    · simp [hother c hc]
  | case2 first =>
    refine ⟨List.filter_eq_self.mpr hfirst, List.filter_eq_nil_iff.mpr fun c hc => ?_⟩
    simp [hfirst c hc]
  | case3 c first d other ih =>
    obtain ⟨hc, hfirst⟩ := List.forall_mem_cons.mp hfirst
    obtain ⟨hd, hother⟩ := List.forall_mem_cons.mp hother
    obtain ⟨hleft, hright⟩ := ih hfirst hother
    simp [hc, hd, hleft, hright]

/-- Two of one family follow each other only when the other family is used up. -/
theorem interleave_alternates (family : Bool) (hfirst : ∀ c ∈ first, c.family = family)
    (hother : ∀ c ∈ other, c.family = !family) {before after : List ConnectCandidate}
    {c d : ConnectCandidate} (h : interleave first other = before ++ c :: d :: after) :
    c.family ≠ d.family ∨ ∀ x ∈ after, x.family = d.family := by
  fun_induction interleave first other generalizing before with
  | case1 other =>
    subst h
    refine .inr fun x hx => ?_
    rw [hother x (by simp [hx]), hother d (by simp)]
  | case2 first =>
    subst h
    refine .inr fun x hx => ?_
    rw [hfirst x (by simp [hx]), hfirst d (by simp)]
  | case3 e first f other ih =>
    obtain ⟨he, hfirst⟩ := List.forall_mem_cons.mp hfirst
    obtain ⟨hf, hother⟩ := List.forall_mem_cons.mp hother
    rcases before with _ | ⟨_, _ | ⟨_, before⟩⟩
    · simp only [List.nil_append, List.cons.injEq] at h
      obtain ⟨rfl, rfl, -⟩ := h
      exact .inl (by simp [he, hf])
    · simp only [List.cons_append, List.nil_append, List.cons.injEq] at h
      obtain ⟨-, rfl, h⟩ := h
      cases first with
      | nil =>
        rw [interleave] at h
        subst h
        obtain ⟨hd, hafter⟩ := List.forall_mem_cons.mp hother
        exact .inr fun x hx => (hafter x hx).trans hd.symm
      | cons g first =>
        have hhead : g = d := by
          have hhead := head?_interleave g first other
          rw [h] at hhead
          exact (Option.some.inj hhead).symm
        exact .inl (by simp [← hhead, hf, hfirst g List.mem_cons_self])
    · simp only [List.cons_append, List.cons.injEq] at h
      exact ih hfirst hother h.2.2

section
variable {addrs : List SocketAddr}

theorem connectOrder_eq_candidates (h : mixedFamilies addrs = false) :
    connectOrder addrs = candidates addrs := by
  cases addrs with
  | nil => rfl
  | cons a rest => simp [connectOrder, h]

/-- **Every position has one attempt.** -/
theorem connectOrder_perm (addrs : List SocketAddr) :
    (connectOrder addrs).Perm (candidates addrs) := by
  cases addrs with
  | nil => exact List.Perm.refl _
  | cons a rest =>
    rw [connectOrder]
    split
    exacts [(interleave_perm _ _).trans (List.filter_append_perm _ _), List.Perm.refl _]

variable {c : ConnectCandidate}

theorem mem_connectOrder : c ∈ connectOrder addrs ↔ c ∈ candidates addrs :=
  (connectOrder_perm addrs).mem_iff

theorem nodup_originalIndex (addrs : List SocketAddr) :
    ((connectOrder addrs).map ConnectCandidate.originalIndex).Nodup := by
  rw [((connectOrder_perm addrs).map _).nodup_iff, map_originalIndex_candidates]
  exact List.nodup_range

theorem originalIndex_lt (h : c ∈ connectOrder addrs) : c.originalIndex < addrs.length := by
  rw [← List.mem_range, ← map_originalIndex_candidates]
  exact List.mem_map_of_mem (mem_connectOrder.mp h)

/-- **Each family is tried in list order.** -/
theorem filter_connectOrder (addrs : List SocketAddr) (family : Bool) :
    (connectOrder addrs).filter (fun c => c.family == family) =
      (candidates addrs).filter fun c => c.family == family := by
  cases addrs with
  | nil => rfl
  | cons a rest =>
    rw [connectOrder]
    split
    · obtain ⟨hfirst, hother⟩ := filter_interleave (p := fun c => c.family == a.isIpv4)
        (fun c hc => (List.mem_filter.mp hc).2)
        (fun c hc => Bool.not_eq_true' _ ▸ (List.mem_filter.mp hc).2)
      by_cases hfamily : family = a.isIpv4
      · rwa [hfamily]
      have hneg : (fun c : ConnectCandidate => c.family == family) =
          fun c => !(c.family == a.isIpv4) := by
        funext c
        revert hfamily
        cases family <;> cases a.isIpv4 <;> cases c.family <;> decide
      rwa [hneg]
    · rfl

/-- The first address is tried first. -/
theorem head?_connectOrder (addrs : List SocketAddr) :
    (connectOrder addrs).head? = (candidates addrs).head? := by
  cases addrs with
  | nil => rfl
  | cons a rest =>
    rw [connectOrder]
    split
    · have hfirst : (candidates (a :: rest)).filter (fun c => c.addr.isIpv4 == a.isIpv4) =
          ⟨a, 0⟩ :: ((candidates (a :: rest)).tail).filter fun c => c.addr.isIpv4 == a.isIpv4 :=
        List.filter_cons_of_pos (beq_self_eq_true _)
      rw [hfirst, head?_interleave]
      rfl
    · rfl

/-- **The families take turns** until one is used up. -/
theorem connectOrder_alternates (hmixed : mixedFamilies addrs = true)
    {before after : List ConnectCandidate} {d : ConnectCandidate}
    (h : connectOrder addrs = before ++ c :: d :: after) :
    c.family ≠ d.family ∨ ∀ x ∈ after, x.family = d.family := by
  cases addrs with
  | nil => cases hmixed
  | cons a rest =>
    rw [connectOrder, if_pos hmixed] at h
    refine interleave_alternates a.isIpv4 (fun c hc => ?_) (fun c hc => ?_) h
    · exact beq_iff_eq.mp (List.mem_filter.mp hc).2
    · exact Bool.eq_not_of_ne (bne_iff_ne.mp (List.mem_filter.mp hc).2)

end

/-! ## What is known of a call -/

section
variable {ε T : Type} {addrs : List SocketAddr}

/-- All results so far are errors. -/
def AllFailed (observed : List (ConnectCandidate × Except (IoError ε) T)) : Prop :=
  ∀ x ∈ observed, ∃ e, x.2 = .error e

/-- Where a call stands: the attempts that have ended have failed, and the others are
open. -/
inductive Standing (addrs : List SocketAddr) : Connecting ε T → Prop where
  | sequential {observed : List (ConnectCandidate × Except (IoError ε) T)}
      {current : ConnectCandidate} {rest : List ConnectCandidate}
      (single : mixedFamilies addrs = false) (failed : AllFailed observed)
      (order : observed.map Prod.fst ++ current :: rest = connectOrder addrs) :
      Standing addrs ⟨observed.map Prod.fst ++ [current], observed, .sequential current rest⟩
  | racing {started pending inFlight : List ConnectCandidate}
      {observed : List (ConnectCandidate × Except (IoError ε) T)}
      {errors : List (Option (IoError ε))}
      (mixed : mixedFamilies addrs = true) (failed : AllFailed observed)
      (order : started ++ pending = connectOrder addrs)
      (opened : started.Perm (observed.map Prod.fst ++ inFlight))
      (some_open : inFlight ≠ []) (two_open : inFlight.length ≤ 2)
      (slots : errors.length = addrs.length)
      (kept : ∀ c e, (c, .error e) ∈ observed → errors[c.originalIndex]? = some (some e)) :
      Standing addrs ⟨started, observed, .racing pending inFlight errors⟩
  /-- an attempt has succeeded, the first one to do so -/
  | connected {started : List ConnectCandidate}
      {observed : List (ConnectCandidate × Except (IoError ε) T)}
      {c : ConnectCandidate} {connected : T}
      (order : started <+: connectOrder addrs) (failed : AllFailed observed) (hc : c ∈ started) :
      Standing addrs ⟨started, observed ++ [(c, .ok connected)], .returned (.ok connected)⟩
  /-- all attempts have failed -/
  | refused {observed : List (ConnectCandidate × Except (IoError ε) T)}
      {c : ConnectCandidate} {error : IoError ε}
      (failed : AllFailed observed)
      (opened : (connectOrder addrs).Perm (observed.map Prod.fst))
      (last : c.originalIndex + 1 = addrs.length) (hc : (c, .error error) ∈ observed) :
      Standing addrs ⟨connectOrder addrs, observed, .returned (.error error)⟩

variable {observed : List (ConnectCandidate × Except (IoError ε) T)}
  {before started : List ConnectCandidate} {c : ConnectCandidate}
  {errors : List (Option (IoError ε))}

theorem AllFailed.concat (h : AllFailed observed) (c : ConnectCandidate) (error : IoError ε) :
    AllFailed (observed ++ [(c, .error error)]) := by
  intro x hx
  rcases List.mem_append.mp hx with hx | hx
  exacts [h x hx, ⟨error, congrArg Prod.snd (List.mem_singleton.mp hx)⟩]

theorem exists_last (hne : addrs ≠ []) :
    ∃ c ∈ connectOrder addrs, c.originalIndex + 1 = addrs.length := by
  have hpos : 0 < addrs.length := List.length_pos_iff.mpr hne
  have hlast : addrs.length - 1 ∈ (candidates addrs).map ConnectCandidate.originalIndex := by
    rw [map_originalIndex_candidates, List.mem_range]
    omega
  obtain ⟨c, hc, hindex⟩ := List.mem_map.mp hlast
  exact ⟨c, mem_connectOrder.mpr hc, by omega⟩

/-- The last attempt of a single family is for the last position. -/
theorem originalIndex_last (single : mixedFamilies addrs = false)
    (h : before ++ [c] = connectOrder addrs) : c.originalIndex + 1 = addrs.length := by
  have hrange := map_originalIndex_candidates addrs
  rw [← connectOrder_eq_candidates single, ← h, List.map_append, List.map_singleton] at hrange
  have hlen : before.length + 1 = addrs.length := by
    simpa using congrArg List.length hrange
  rw [← hlen, List.range_succ] at hrange
  have hlast := (List.append_inj' hrange rfl).2
  rwa [List.singleton_inj.mp hlast]

/-- Once no attempt is open or waiting, the slot of the last position holds an error. -/
theorem getLast?_slots (hne : addrs ≠ []) (failed : AllFailed observed)
    (opened : (connectOrder addrs).Perm (observed.map Prod.fst))
    (slots : errors.length = addrs.length)
    (kept : ∀ c e, (c, .error e) ∈ observed → errors[c.originalIndex]? = some (some e)) :
    ∃ c e, c.originalIndex + 1 = addrs.length ∧ (c, .error e) ∈ observed ∧
      errors.getLast? = some (some e) := by
  obtain ⟨c, hc, hlast⟩ := exists_last hne
  obtain ⟨⟨_, result⟩, hx, rfl⟩ := List.mem_map.mp (opened.mem_iff.mp hc)
  obtain ⟨e, rfl⟩ := failed _ hx
  refine ⟨_, e, hlast, hx, ?_⟩
  rw [List.getLast?_eq_getElem?, slots, ← hlast]
  exact kept _ e hx

/-! ## One event -/

/-- The end of an iteration of the racing loop. -/
theorem Standing.startPending (hne : addrs ≠ []) {pending inFlight : List ConnectCandidate}
    (mixed : mixedFamilies addrs = true) (failed : AllFailed observed)
    (order : started ++ pending = connectOrder addrs)
    (opened : started.Perm (observed.map Prod.fst ++ inFlight)) (room : inFlight.length < 2)
    (slots : errors.length = addrs.length)
    (kept : ∀ c e, (c, .error e) ∈ observed → errors[c.originalIndex]? = some (some e))
    (attempts : Attempts ε T) :
    Standing addrs
      ((⟨started, observed, attempts⟩ : Connecting ε T).startPending pending inFlight errors) := by
  cases pending with
  | cons c pending =>
    refine .racing mixed failed ?_ ?_ (by simp) ?_ slots kept
    · rwa [List.append_assoc]
    · rw [← List.append_assoc]
      exact opened.append_right [c]
    · rw [List.length_append, List.length_singleton]
      omega
  | nil =>
    rw [List.append_nil] at order
    rw [Connecting.startPending]
    split
    · next hnone =>
        rw [hnone, List.append_nil, order] at opened
        obtain ⟨c, e, hlast, hc, herror⟩ := getLast?_slots hne failed opened slots kept
        simp only [herror, order]
        exact .refused failed opened hlast hc
    · next hsome =>
        refine .racing mixed failed ?_ opened hsome (le_of_lt room) slots kept
        rwa [List.append_nil]

theorem kept_set {inFlight : List ConnectCandidate} {error : IoError ε}
    (order : started <+: connectOrder addrs)
    (opened : started.Perm (observed.map Prod.fst ++ inFlight)) (hc : c ∈ inFlight)
    (slots : errors.length = addrs.length)
    (kept : ∀ c e, (c, .error e) ∈ observed → errors[c.originalIndex]? = some (some e)) :
    ∀ d e, (d, .error e) ∈ observed ++ [(c, .error error)] →
      (errors.set c.originalIndex (some error))[d.originalIndex]? = some (some e) := by
  intro d e hd
  have hstarted : c ∈ started := opened.mem_iff.mpr (List.mem_append_right _ hc)
  have hlt : c.originalIndex < errors.length := by
    rw [slots]
    exact originalIndex_lt (order.subset hstarted)
  rcases List.mem_append.mp hd with hd | hd
  · -- the slot of another attempt is another one
    have hnodup : ((observed.map Prod.fst ++ inFlight).map ConnectCandidate.originalIndex).Nodup :=
      (opened.map _).nodup_iff.mp
        ((nodup_originalIndex addrs).sublist (order.sublist.map _))
    rw [List.map_append, List.nodup_append] at hnodup
    have hindex : d.originalIndex ≠ c.originalIndex :=
      hnodup.2.2 _ (List.mem_map_of_mem (List.mem_map_of_mem hd)) _ (List.mem_map_of_mem hc)
    rw [List.getElem?_set_ne hindex.symm]
    exact kept d e hd
  · cases List.mem_singleton.mp hd
    rw [List.getElem?_set_self hlt]

/-- **An event keeps the account of a call.** -/
theorem Standing.next (hne : addrs ≠ []) {s s' : Connecting ε T} (hs : Standing addrs s)
    {e : ConnectEvent ε T} (h : s.next e = some s') : Standing addrs s' := by
  cases e with
  | completed position result =>
    cases hs with
    | sequential single failed order =>
      next observed current rest =>
      simp only [Connecting.next] at h
      split at h
      · cases result with
        | ok connected =>
          cases h
          refine .connected ⟨rest, ?_⟩ failed (by simp)
          rwa [List.append_assoc]
        | error error =>
          have hfailed := failed.concat current error
          cases rest with
          | nil =>
            cases h
            simp only [order]
            refine .refused hfailed ?_ (originalIndex_last single order) (by simp)
            rw [List.map_append, ← order]
            exact List.Perm.refl _
          | cons c rest =>
            cases h
            have hmap : observed.map Prod.fst ++ [current] =
                (observed ++ [(current, Except.error error)]).map Prod.fst := by
              rw [List.map_append, List.map_singleton]
            simp only [hmap]
            refine .sequential single hfailed ?_
            rwa [← hmap, List.append_assoc]
      · cases h
    | racing mixed failed order opened some_open two_open slots kept =>
      next started pending inFlight observed errors =>
      simp only [Connecting.next] at h
      split at h
      · cases h
      next c hc =>
        have hfront : started <+: connectOrder addrs := ⟨pending, order⟩
        have hmem : c ∈ inFlight := List.mem_of_getElem? hc
        cases result with
        | ok connected =>
          cases h
          exact .connected hfront failed
            (opened.mem_iff.mpr (List.mem_append_right _ hmem))
        | error error =>
          cases h
          obtain ⟨hlt, rfl⟩ := List.getElem?_eq_some_iff.mp hc
          refine .startPending hne mixed (failed.concat _ error) order ?_ ?_ ?_
            (kept_set hfront opened hmem slots kept) _
          · rw [List.map_append, List.append_assoc]
            exact opened.trans ((List.getElem_cons_eraseIdx_perm hlt).symm.append_left _)
          · rw [List.length_eraseIdx_of_lt hlt]
            omega
          · rwa [List.length_set]
    | connected order failed hc => cases h
    | refused failed opened last hc => cases h
  | raceDelay =>
    cases hs with
    | racing mixed failed order opened some_open two_open slots kept =>
      simp only [Connecting.next] at h
      split at h
      · next hroom =>
          cases h
          exact .startPending hne mixed failed order opened hroom.2 slots kept _
      · cases h
    | sequential single failed order => cases h
    | connected order failed hc => cases h
    | refused failed opened last hc => cases h

theorem Standing.start (hne : addrs ≠ []) :
    Standing addrs (connectTargetAddresses addrs : Connecting ε T) := by
  unfold connectTargetAddresses
  cases horder : connectOrder addrs with
  | nil =>
    obtain ⟨c, hc, -⟩ := exists_last hne
    rw [horder] at hc
    cases hc
  | cons c rest =>
    by_cases hmixed : mixedFamilies addrs = true
    · simp only [hmixed, if_true]
      exact .racing hmixed (List.forall_mem_nil _) horder.symm (List.Perm.refl _) (by simp)
        (by simp) List.length_replicate (by simp)
    · have hsingle : mixedFamilies addrs = false := Bool.eq_false_of_not_eq_true hmixed
      have hfirst : Standing addrs (⟨[] ++ [c], [], .sequential c rest⟩ : Connecting ε T) :=
        .sequential hsingle (List.forall_mem_nil _) horder.symm
      simp only [hsingle, Bool.false_eq_true, if_false]
      exact hfirst

/-! ## Whole runs -/

/-- The attempts that are open. -/
def Connecting.inFlight (s : Connecting ε T) : List ConnectCandidate :=
  match s.attempts with
  | .sequential current _ => [current]
  | .racing _ inFlight _ => inFlight
  | .returned _ => []
  | .expectFailed => []

/-- What holds of a call for a list of addresses. -/
structure TargetRaced (addrs : List SocketAddr) (s : Connecting ε T) : Prop where
  /-- Each position is attempted at most once. -/
  once : (s.started.map ConnectCandidate.originalIndex).Nodup
  /-- Attempts of one family start in list order. -/
  family_order : ∀ family, s.started.filter (fun c => c.family == family) <+:
    (candidates addrs).filter fun c => c.family == family
  /-- The first address is tried first. -/
  first : s.started.head? = (candidates addrs).head?
  /-- In a mixed list an attempt of the same family follows only when the other family is
  used up. -/
  alternates : mixedFamilies addrs = true → ∀ before c d after,
    s.started = before ++ c :: d :: after → c.family ≠ d.family ∨
      ∀ x ∈ candidates addrs, x.family ≠ d.family → x ∈ before
  open_le : s.inFlight.length ≤ if mixedFamilies addrs then 2 else 1
  /-- Until the call returns, the attempts started are those that have ended and those
  that are open. -/
  accounted : (∀ result, s.attempts ≠ .returned result) →
    s.started.Perm (s.observed.map Prod.fst ++ s.inFlight)
  /-- The first success is returned at once. -/
  success : ∀ before c connected after, s.observed = before ++ (c, .ok connected) :: after →
    after = [] ∧ AllFailed before ∧ s.attempts = .returned (.ok connected)
  /-- A success that is returned is the last result seen. -/
  returned_ok : ∀ connected, s.attempts = .returned (.ok connected) →
    ∃ before c, s.observed = before ++ [(c, .ok connected)] ∧ c ∈ s.started
  /-- An error is returned after all attempts have failed, and it is the error of the last
  address. -/
  returned_error : ∀ error, s.attempts = .returned (.error error) →
    (∀ c ∈ candidates addrs, c ∈ s.started ∧ ∃ e, (c, .error e) ∈ s.observed) ∧
      ∃ c, c.originalIndex + 1 = addrs.length ∧ (c, .error error) ∈ s.observed
  expects : s.attempts ≠ .expectFailed

/-- The order of the attempts in any initial part of `connectOrder`. -/
theorem alternates_of_prefix (hfront : started <+: connectOrder addrs)
    (hmixed : mixedFamilies addrs = true) {after : List ConnectCandidate} {d : ConnectCandidate}
    (h : started = before ++ c :: d :: after) :
    c.family ≠ d.family ∨ ∀ x ∈ candidates addrs, x.family ≠ d.family → x ∈ before := by
  obtain ⟨rest, hrest⟩ := hfront
  rw [h, List.append_assoc, List.cons_append, List.cons_append] at hrest
  by_cases hsame : c.family = d.family
  · refine .inr fun x hx hfamily => ?_
    have hafter := (connectOrder_alternates hmixed hrest.symm).resolve_left (not_not.mpr hsame)
    rw [← mem_connectOrder, ← hrest, List.mem_append, List.mem_cons, List.mem_cons] at hx
    rcases hx with hx | rfl | rfl | hx
    exacts [hx, absurd hsame hfamily, absurd rfl hfamily, absurd (hafter x hx) hfamily]
  · exact .inl hsame

theorem AllFailed.no_success {before after : List (ConnectCandidate × Except (IoError ε) T)}
    (h : AllFailed observed) {connected : T} :
    observed ≠ before ++ (c, .ok connected) :: after := by
  rintro rfl
  obtain ⟨e, he⟩ := h (c, .ok connected) (by simp)
  cases he

section
variable {s : Connecting ε T}

theorem Standing.started_ne_nil (hne : addrs ≠ []) (h : Standing addrs s) : s.started ≠ [] := by
  cases h with
  | sequential single failed order => simp
  | racing mixed failed order opened some_open two_open slots kept =>
    rintro hnil
    have hnone := (opened.symm.trans (List.Perm.of_eq hnil)).eq_nil
    exact some_open (List.append_eq_nil_iff.mp hnone).2
  | connected order failed hc => exact List.ne_nil_of_mem hc
  | refused failed opened last hc =>
    obtain ⟨c, hc, -⟩ := exists_last hne
    exact List.ne_nil_of_mem hc

theorem Standing.open_le (h : Standing addrs s) :
    s.inFlight.length ≤ if mixedFamilies addrs then 2 else 1 := by
  cases h with
  | sequential single failed order => simp [Connecting.inFlight, single]
  | racing mixed failed order opened some_open two_open slots kept =>
    simpa [Connecting.inFlight, mixed] using two_open
  | connected order failed hc => exact Nat.zero_le _
  | refused failed opened last hc => exact Nat.zero_le _

theorem Standing.accounted (h : Standing addrs s) (hopen : ∀ result, s.attempts ≠ .returned result) :
    s.started.Perm (s.observed.map Prod.fst ++ s.inFlight) := by
  cases h with
  | sequential single failed order => exact List.Perm.refl _
  | racing mixed failed order opened some_open two_open slots kept => exact opened
  | connected order failed hc => exact absurd rfl (hopen _)
  | refused failed opened last hc => exact absurd rfl (hopen _)

variable {connected : T}

theorem Standing.success (h : Standing addrs s)
    {before after : List (ConnectCandidate × Except (IoError ε) T)} {c : ConnectCandidate}
    (hseen : s.observed = before ++ (c, .ok connected) :: after) :
    after = [] ∧ AllFailed before ∧ s.attempts = .returned (.ok connected) := by
  cases h with
  | sequential single failed order => exact absurd hseen failed.no_success
  | racing mixed failed order opened some_open two_open slots kept =>
    exact absurd hseen failed.no_success
  | connected order failed hc =>
    rcases List.eq_nil_or_concat after with rfl | ⟨after, x, rfl⟩
    · obtain ⟨rfl, hlast⟩ := List.append_inj' hseen rfl
      cases hlast
      exact ⟨rfl, failed, rfl⟩
    -- a success before the last result would have ended the call
    rw [List.concat_eq_append, ← List.cons_append, ← List.append_assoc] at hseen
    exact absurd (List.append_inj' hseen rfl).1 failed.no_success
  | refused failed opened last hc => exact absurd hseen failed.no_success

theorem Standing.returned_ok (h : Standing addrs s)
    (hreturned : s.attempts = .returned (.ok connected)) :
    ∃ before c, s.observed = before ++ [(c, .ok connected)] ∧ c ∈ s.started := by
  cases h with
  | sequential single failed order => cases hreturned
  | racing mixed failed order opened some_open two_open slots kept => cases hreturned
  | connected order failed hc =>
    cases hreturned
    exact ⟨_, _, rfl, hc⟩
  | refused failed opened last hc => cases hreturned

theorem Standing.returned_error (h : Standing addrs s) {error : IoError ε}
    (hreturned : s.attempts = .returned (.error error)) :
    (∀ c ∈ candidates addrs, c ∈ s.started ∧ ∃ e, (c, .error e) ∈ s.observed) ∧
      ∃ c, c.originalIndex + 1 = addrs.length ∧ (c, .error error) ∈ s.observed := by
  cases h with
  | sequential single failed order => cases hreturned
  | racing mixed failed order opened some_open two_open slots kept => cases hreturned
  | connected order failed hc => cases hreturned
  | refused failed opened last hc =>
    cases hreturned
    refine ⟨fun c hc => ?_, _, last, hc⟩
    rw [← mem_connectOrder] at hc
    obtain ⟨⟨_, result⟩, hx, rfl⟩ := List.mem_map.mp (opened.mem_iff.mp hc)
    obtain ⟨e, rfl⟩ := failed _ hx
    exact ⟨hc, e, hx⟩

theorem Standing.expects (h : Standing addrs s) : s.attempts ≠ .expectFailed := by
  intro hexpect
  cases h <;> cases hexpect

end

/-- **Racing connection attempts.** For every list of addresses and every order of
completions and delays. -/
theorem target_race_sound (hne : addrs ≠ []) {s : Connecting ε T}
    (h : (connecting addrs).Reach s) : TargetRaced addrs s := by
  have hfront := started_prefix_connectOrder h
  have hstanding : Standing addrs s :=
    h.invariant (.start hne) fun _ _ _ hs _ hnext => hs.next hne hnext
  exact {
    once := (nodup_originalIndex addrs).sublist (hfront.sublist.map _)
    family_order := fun family => by
      rw [← filter_connectOrder]
      exact hfront.filter _
    first := by
      obtain ⟨rest, hrest⟩ := hfront
      rw [← head?_connectOrder, ← hrest,
        List.head?_append_of_ne_nil _ (hstanding.started_ne_nil hne)]
    alternates := fun hmixed _ _ _ _ => alternates_of_prefix hfront hmixed
    open_le := hstanding.open_le
    accounted := hstanding.accounted
    success := fun _ _ _ _ => hstanding.success
    returned_ok := fun _ => hstanding.returned_ok
    returned_error := fun _ => hstanding.returned_error
    expects := hstanding.expects }

/-- One address of each family. -/
def bothFamilies : List SocketAddr :=
  [⟨.v4 ⟨10, 0, 0, 1⟩, 443⟩, ⟨.v6 (Vector.replicate 16 0), 443⟩]

/-- Both addresses fail, the second one first. -/
theorem target_race_sound_bothFail : ∃ s : Connecting Nat Unit,
    bothFamilies ≠ [] ∧ TargetRaced bothFamilies s ∧
      s.observed.map (fun x => x.1.originalIndex) = [1, 0] := by
  obtain ⟨s, hreach, hseen⟩ := (connecting bothFamilies).exists_reach
    (fun s : Connecting Nat Unit => s.observed.map (fun x => x.1.originalIndex) = [1, 0])
    [.raceDelay, .completed 1 (.error (.os 1)), .completed 0 (.error (.os 0))] (by decide +kernel)
  have hne : bothFamilies ≠ [] := List.cons_ne_nil _ _
  exact ⟨s, hne, target_race_sound hne hreach, hseen⟩

end

end Server
end Maverick
