import Maverick.Client.PoolRuns
import Maverick.Lib.Total

/-!
# Accounting of the H2 connection pool

* `Accounted` — the invariant: the counters are the numbers of live leases, and a
  task that sets up a connection finds the cache empty.
* `accounted_next` — every action keeps it, by the shapes of a step.
* `pool_accounting` — the invariant holds in every run within the counters'
  range, and no operation touches a connection of another generation.
-/

namespace Maverick
namespace Client

open Lib

/-! ## The invariant -/

/-- The counters are the numbers of live leases; generations are issued in order;
one task at most has the gate, and one that sets up a connection finds the cache
empty; a pool that is shut down caches nothing. -/
structure Accounted (s : PoolRun) : Prop where
  streams : s.pool.activeStreams = s.liveLeases
  cached : ∀ c, s.pool.connection = some c → c.activeStreams = s.leasesOf c.generation
  generation : ∀ c, s.pool.connection = some c → c.generation ≤ s.pool.nextGeneration
  leased : ∀ t ∈ s.tasks, ∀ g, t.lease = some g → g ≤ s.pool.nextGeneration
  installed : s.installed = List.range' 1 s.pool.nextGeneration
  gate : s.tasks.countP Opening.holdsGate ≤ 1
  dialing : ∀ t ∈ s.tasks, t.dialing = true → s.pool.connection = none
  shutdown : s.pool.shutdown = true → s.pool.connection = none
  changed : ∀ t ∈ s.tasks, t ≠ .finished (.error .changedWhileConnecting)

section
variable {s : PoolRun} {i : Nat} {t : Opening}

theorem liveLeases_step (h : s.tasks[i]? = some t) (pool : H2ConnectionPoolState) (t' : Opening) :
    (s.step pool i t').liveLeases + (if t.lease.isSome then 1 else 0) =
      s.liveLeases + (if t'.lease.isSome then 1 else 0) :=
  countP_set_add h

theorem leasesOf_step (h : s.tasks[i]? = some t) (pool : H2ConnectionPoolState) (t' : Opening)
    (g : Nat) :
    (s.step pool i t').leasesOf g + (if t.lease == some g then 1 else 0) =
      s.leasesOf g + (if t'.lease == some g then 1 else 0) :=
  countP_set_add h

theorem leasesOf_le (s : PoolRun) (g : Nat) : s.leasesOf g ≤ s.liveLeases := by
  apply List.countP_mono_left
  intro x _ hx
  rw [eq_of_beq hx]
  rfl

end

namespace Accounted

variable {s : PoolRun} {i : Nat} {t t' : Opening}

variable {pool : H2ConnectionPoolState} {c : CachedH2Connection}

theorem shed (h : Accounted s) (hshed : s.pool.Sheds pool) : Accounted { s with pool } := by
  have hsame : ∀ c, pool.connection = some c → s.pool.connection = some c := by
    intro c hc
    rcases hshed.connection with heq | hnone
    · exact heq.symm.trans hc
    · cases hnone.symm.trans hc
  have hnone : s.pool.connection = none → pool.connection = none :=
    fun hn => hshed.connection.elim (·.trans hn) id
  have hnext := hshed.nextGeneration
  refine ⟨hshed.activeStreams.trans h.streams, fun c hc => h.cached c (hsame c hc), ?_, ?_, ?_,
    h.gate, fun t ht hd => hnone (h.dialing t ht hd), ?_, h.changed⟩
  · exact fun c hc => (h.generation c (hsame c hc)).trans_eq hnext.symm
  · exact fun t ht g hg => (h.leased t ht g hg).trans_eq hnext.symm
  · exact h.installed.trans (congrArg (List.range' 1) hnext.symm)
  intro hs
  rcases hshed.shutdown with heq | ⟨-, hn⟩
  exacts [hnone (h.shutdown (heq.symm.trans hs)), hn]

theorem gate_set (h : Accounted s) (hm : Moves s i t t') :
    (s.tasks.set i t').countP Opening.holdsGate ≤ 1 := by
  have hcount := countP_set_add (p := Opening.holdsGate) (b := t') hm.located
  have hle := h.gate
  cases hg : t'.holdsGate with
  | false =>
    simp only [hg, Bool.false_eq_true, if_false] at hcount
    omega
  | true =>
    rcases hm.gate hg with hheld | hfree
    · simp only [hg, hheld, if_true] at hcount
      omega
    have hzero := List.countP_eq_zero.mpr (List.any_eq_false.mp hfree)
    simp only [hg, if_true] at hcount
    omega

/-- A task moves on with what it holds. -/
theorem move (h : Accounted s) (hm : Moves s i t t') (hlease : t'.lease = t.lease)
    (hdial : t'.dialing = true → s.pool.connection = none) : Accounted (s.move i t') := by
  have hcount : ∀ p : Option Nat → Bool, (s.tasks.set i t').countP (fun x => p x.lease) =
      s.tasks.countP fun x => p x.lease := by
    intro p
    have hset := countP_set_add (p := fun x => p x.lease) (b := t') hm.located
    simp only [hlease] at hset
    omega
  refine ⟨?_, ?_, h.generation, ?_, h.installed, h.gate_set hm, forall_mem_set h.dialing hdial,
    h.shutdown, forall_mem_set h.changed hm.changed⟩
  · exact h.streams.trans (hcount Option.isSome).symm
  · intro c hc
    exact (h.cached c hc).trans (hcount (· == some c.generation)).symm
  refine forall_mem_set h.leased ?_
  rw [hlease]
  exact h.leased t (List.mem_of_getElem? hm.located)

/-- A task that sets up a connection is alone with the gate. -/
theorem idle_of_connection (h : Accounted s) (hc : s.pool.connection = some c) :
    ∀ x ∈ s.tasks, x.dialing = false := by
  intro x hx
  rw [← Bool.not_eq_true]
  intro hd
  cases hc.symm.trans (h.dialing x hx hd)

/-- A task returns its lease. -/
theorem drop (h : Accounted s) (hm : Moves s i t t') {g : Nat} (hlease : t.lease = some g)
    (hnone : t'.lease = none) (hdial : t'.dialing = false) :
    Accounted (s.step (s.pool.dropLease s.now g) i t') := by
  obtain ⟨hactive, hnext, hshut, hconn⟩ := s.pool.dropLease_spec s.now g
  have hempty := s.pool.connection_dropLease_of_none s.now g
  refine ⟨?_, ?_, ?_, ?_, ?_, h.gate_set hm, ?_, ?_, forall_mem_set h.changed hm.changed⟩
  · have hcount := liveLeases_step hm.located (s.pool.dropLease s.now g) t'
    have hstreams := h.streams
    simp only [hlease, hnone, Option.isSome_some, Option.isSome_none, Bool.false_eq_true, if_true,
      if_false] at hcount
    show (s.pool.dropLease s.now g).activeStreams = _
    omega
  · intro c' hc'
    obtain ⟨c, hsome, hgen, hstreams⟩ := hconn c' hc'
    have hcount := leasesOf_step hm.located (s.pool.dropLease s.now g) t' c.generation
    have hcached := h.cached c hsome
    rw [hstreams, hgen]
    by_cases heq : c.generation = g
    · subst heq
      simp [hlease, hnone] at hcount
      rw [if_pos rfl]
      omega
    simp [hlease, hnone, Ne.symm heq] at hcount
    rw [if_neg heq]
    omega
  · intro c' hc'
    obtain ⟨c, hsome, hgen, -⟩ := hconn c' hc'
    exact hgen.trans_le ((h.generation c hsome).trans_eq hnext.symm)
  · show ∀ x ∈ _, ∀ k, _ → k ≤ (s.pool.dropLease s.now g).nextGeneration
    rw [hnext]
    refine forall_mem_set h.leased fun k hk => ?_
    cases hnone.symm.trans hk
  · exact h.installed.trans (congrArg (List.range' 1) hnext.symm)
  · refine forall_mem_set (fun x hx hd => hempty (h.dialing x hx hd)) fun hd => ?_
    cases hdial.symm.trans hd
  · exact fun hs => hempty (h.shutdown (hshut.symm.trans hs))

/-- A task takes a lease on the cached connection. -/
theorem borrow (h : Accounted s) (hm : Moves s i t t') (hb : s.pool.Borrows pool c)
    (hnone : t.lease = none) (hlease : t'.lease = some c.generation) (hdial : t'.dialing = false)
    (hrange : (s.step pool i t').liveLeases < 2 ^ 32) : Accounted (s.step pool i t') := by
  have hall := liveLeases_step hm.located pool t'
  have hof := leasesOf_step hm.located pool t' c.generation
  simp [hlease, hnone] at hall hof
  have hstreams := h.streams
  have hcached := h.cached c hb.before
  have hle := leasesOf_le s c.generation
  have hgen := h.generation c hb.before
  refine ⟨?_, ?_, ?_, ?_, ?_, h.gate_set hm, ?_, ?_, forall_mem_set h.changed hm.changed⟩
  · show pool.activeStreams = _
    rw [hb.activeStreams, satSucc_of_lt (by omega)]
    omega
  · intro c' hc'
    cases hb.connection.symm.trans hc'
    show satSucc 32 c.activeStreams = (s.step pool i t').leasesOf c.generation
    rw [satSucc_of_lt (by omega)]
    omega
  · intro c' hc'
    cases hb.connection.symm.trans hc'
    exact hgen.trans_eq hb.nextGeneration.symm
  · show ∀ x ∈ _, ∀ k, _ → k ≤ pool.nextGeneration
    rw [hb.nextGeneration]
    refine forall_mem_set h.leased fun k hk => ?_
    cases hlease.symm.trans hk
    exact hgen
  · exact h.installed.trans (congrArg (List.range' 1) hb.nextGeneration.symm)
  · refine forall_mem_set (fun x hx hd => ?_) fun hd => ?_
    · cases (h.idle_of_connection hb.before x hx).symm.trans hd
    · cases hdial.symm.trans hd
  · intro hs
    cases hb.before.symm.trans (h.shutdown (hb.shutdown.symm.trans hs))

/-- The only task with the gate installs its connection and takes the first
lease on it. -/
theorem install (h : Accounted s) (hm : Moves s i t t')
    (hnext : pool.nextGeneration = s.pool.nextGeneration + 1) (hconn : pool.connection = some c)
    (hgen : c.generation = s.pool.nextGeneration + 1) (hone : c.activeStreams = 1)
    (hactive : pool.activeStreams = s.pool.activeStreams + 1) (hshut : pool.shutdown = false)
    (hgate : t.holdsGate = true) (hnone : t.lease = none) (hlease : t'.lease = some c.generation)
    (hfree : t'.holdsGate = false) :
    Accounted { s.step pool i t' with installed := s.installed ++ [c.generation] } := by
  have hall := liveLeases_step hm.located pool t'
  have hof := leasesOf_step hm.located pool t' c.generation
  simp [hlease, hnone] at hall hof
  have hstreams := h.streams
  have hnew : s.leasesOf c.generation = 0 := by
    rw [PoolRun.leasesOf, List.countP_eq_zero]
    intro x hx hx'
    have := h.leased x hx _ (eq_of_beq hx')
    omega
  have hnogate : ∀ x ∈ s.tasks.set i t', x.holdsGate = false := by
    have hcount := countP_set_add (p := Opening.holdsGate) (b := t') hm.located
    have hle := h.gate
    simp only [hgate, hfree, if_true, Bool.false_eq_true, if_false] at hcount
    have hzero : (s.tasks.set i t').countP Opening.holdsGate = 0 := by omega
    intro x hx
    simpa using List.countP_eq_zero.mp hzero x hx
  refine ⟨?_, ?_, ?_, ?_, ?_, h.gate_set hm, ?_, ?_, forall_mem_set h.changed hm.changed⟩
  · show pool.activeStreams = (s.step pool i t').liveLeases
    omega
  · intro c' hc'
    cases hconn.symm.trans hc'
    show c.activeStreams = (s.step pool i t').leasesOf c.generation
    omega
  · intro c' hc'
    cases hconn.symm.trans hc'
    exact (hgen.trans hnext.symm).le
  · show ∀ x ∈ _, ∀ k, _ → k ≤ pool.nextGeneration
    refine forall_mem_set (fun x hx k hk => ?_) fun k hk => ?_
    · have := h.leased x hx k hk
      omega
    · cases hlease.symm.trans hk
      exact (hgen.trans hnext.symm).le
  · show s.installed ++ [c.generation] = List.range' 1 pool.nextGeneration
    rw [h.installed, hgen, hnext, List.range'_concat]
    simp [Nat.add_comm]
  · intro x hx hd
    cases (dialing_of_free (hnogate x hx)).symm.trans hd
  · intro hs
    cases hshut.symm.trans hs

end Accounted

/-! ## Every action keeps the invariant -/

section
variable {s s' : PoolRun} {idleTimeout : Nat}

variable {i : Nat} {c : CachedH2Connection} {a : PoolAction}

/-- A checkout, with the gate or without it. -/
theorem accounted_checkout (h : Accounted s) {t : Opening} {a : Attempt} {empty : Opening}
    (hm : Moves s i t empty) (hlease : t.lease = none) (hempty : empty.lease = none)
    (hrange : (s.step s.pool.checkoutCached.1 i
      (PoolRun.afterCheckout a empty s.pool.checkoutCached.2)).liveLeases < 2 ^ 32) :
    Accounted (s.step s.pool.checkoutCached.1 i
      (PoolRun.afterCheckout a empty s.pool.checkoutCached.2)) := by
  rcases s.pool.checkoutCached_spec with ⟨⟨e, hr, hne⟩, hshed⟩ | ⟨hr, hshed, hnone⟩ | ⟨c, hr, hb⟩
  · rw [hr]
    refine (h.shed hshed).move (.of_free hm.located rfl ?_) hlease.symm nofun
    rintro ⟨⟩
    exact hne rfl
  · rw [hr]
    exact (h.shed hshed).move ⟨hm.located, hm.gate, hm.changed⟩ (hempty.trans hlease.symm)
      fun _ => hnone
  · rw [hr] at hrange ⊢
    exact h.borrow (.of_free hm.located rfl (by simp [PoolRun.afterCheckout])) hb hlease rfl rfl hrange

/-- An installation by the task that has the gate. -/
theorem accounted_install (h : Accounted s) {a : Attempt} {c : H2Connection}
    (hi : s.tasks[i]? = some (.connected a c))
    (hrange : (s.afterInstalling i a c).liveLeases < 2 ^ 32 ∧
      (s.afterInstalling i a c).installed.length < 2 ^ 64) :
    Accounted (s.afterInstalling i a c) := by
  have hempty := h.dialing _ (List.mem_of_getElem? hi) rfl
  unfold PoolRun.afterInstalling at hrange ⊢
  dsimp only at hrange ⊢
  rcases s.pool.installAndCheckout_spec c hempty with hr | ⟨-, hr, hnext, hactive, hshut, hconn⟩
  · rw [hr]
    simp only [PoolRun.afterInstall, List.append_nil]
    exact (h.shed (.refl _)).move (.of_free hi rfl (by simp)) rfl nofun
  have hstreams := h.streams
  have hlength : s.installed.length = s.pool.nextGeneration := by
    rw [h.installed, List.length_range']
  rw [hr] at hrange ⊢
  have hcount := liveLeases_step hi (s.pool.installAndCheckout c).1
    (.readying a (satSucc 64 s.pool.nextGeneration))
  simp [Opening.lease] at hcount
  have hlive : s.liveLeases + 1 < 2 ^ 32 := by
    rw [← hcount]
    exact hrange.1
  have hgens : s.pool.nextGeneration + 1 < 2 ^ 64 := by
    have := hrange.2
    simp only [PoolRun.afterInstall, List.length_append, List.length_singleton] at this
    omega
  rw [satSucc_of_lt hgens] at hnext hconn ⊢
  rw [satSucc_of_lt (by omega)] at hactive
  exact h.install (c := ⟨s.pool.nextGeneration + 1, c.channelBinding, c.connectionClosed, 1, none⟩)
    (.of_free hi rfl (by simp [PoolRun.afterInstall])) hnext hconn rfl rfl hactive hshut rfl rfl rfl
    rfl

/-- A new call holds nothing. -/
theorem accounted_call (h : Accounted s) (a : Attempt) :
    Accounted { s with tasks := s.tasks ++ [.checkout a] } := by
  have hcount : ∀ p : Opening → Bool, p (.checkout a) = false →
      (s.tasks ++ [Opening.checkout a]).countP p = s.tasks.countP p := by
    intro p hp
    simp [List.countP_append, hp]
  refine ⟨?_, ?_, h.generation, forall_mem_snoc h.leased nofun, h.installed, ?_,
    forall_mem_snoc h.dialing nofun, h.shutdown, forall_mem_snoc h.changed nofun⟩
  · exact h.streams.trans (hcount (fun t => t.lease.isSome) rfl).symm
  · intro c hc
    exact (h.cached c hc).trans (hcount (fun t => t.lease == some c.generation) rfl).symm
  · exact (hcount _ rfl).trans_le h.gate

/-- The end of a connection is only noted in the cache. -/
theorem accounted_closed (h : Accounted s) (hc : s.pool.connection = some c) :
    Accounted { s with
      pool := { s.pool with connection := some { c with connectionClosed := true } } } := by
  refine { h with cached := ?_, generation := ?_, dialing := ?_, shutdown := ?_ }
  · rintro _ ⟨⟩
    exact h.cached c hc
  · rintro _ ⟨⟩
    exact h.generation c hc
  · intro t ht hd
    cases (h.idle_of_connection hc t ht).symm.trans hd
  · intro hs
    cases hc.symm.trans (h.shutdown hs)

/-- **Every action keeps the invariant**, as long as the counters stay in
range. -/
theorem accounted_next (h : Accounted s) (hrange : s.InRange idleTimeout a)
    (hnext : s.next idleTimeout a = some s') : Accounted s' := by
  have hrange' := hrange s' hnext
  cases next_effect hnext with
  | call t _ hs => exact hs ▸ accounted_call h t
  | tick now _ hs => exact hs ▸ { h with }
  | closed c _ hc hs => exact hs ▸ accounted_closed h hc
  | shed pool _ hshed hs => exact hs ▸ h.shed hshed
  | move i t t' pool _ hm hshed _ hlease hdial hs =>
    subst hs
    have hempty := h.shed hshed
    refine hempty.move ⟨hm.located, hm.gate, hm.changed⟩ hlease ?_
    intro hd
    exact hempty.dialing t (List.mem_of_getElem? hm.located) (hdial hd)
  | drop i t t' g _ hm hlease _ hnone hdial hs => exact hs ▸ h.drop hm hlease hnone hdial
  | checkout i t attempt empty _ hm hlease _ hempty hs =>
    subst hs
    exact accounted_checkout h hm hlease hempty hrange'.1
  | install i attempt c _ hi hs =>
    subst hs
    exact accounted_install h hi hrange'

theorem accounted_of_reach (h : (poolRuns idleTimeout).ReachBy (PoolRun.InRange idleTimeout) s) :
    Accounted s := by
  refine h.invariant (I := Accounted) ?_ fun _ _ _ => accounted_next
  constructor <;> simp [poolRuns, PoolRun.liveLeases]

/-! ## Generations and shutdown -/

/-- A step of a call leaves a connection of another generation as it is. -/
theorem connection_of_carries {g : Nat} (hnext : s.next idleTimeout a = some s')
    (hg : a.carries s = some g) (hc : s.pool.connection = some c) (hne : c.generation ≠ g) :
    s'.pool.connection = some c := by
  cases next_effect hnext with
  | call _ hact | tick _ hact | closed _ hact | shed _ hact => simp [PoolAction.carries, hact] at hg
  | move i t t' pool hact hm hshed hspare hlease hdial hs =>
    simp only [PoolAction.carries, hact, Option.bind_some, hm.located] at hg
    subst hs
    exact hspare g c hg hc hne
  | drop i t t' g' hact hm hlease hgen hnone hdial hs =>
    simp only [PoolAction.carries, hact, Option.bind_some, hm.located, hgen] at hg
    cases hg
    subst hs
    exact H2ConnectionPoolState.dropLease_of_ne hc hne
  | checkout i t attempt empty hact hm hlease hgen hempty hs =>
    simp [PoolAction.carries, hact, hm.located, hgen] at hg
  | install i attempt c hact hi hs =>
    simp [PoolAction.carries, hact, hi, Opening.generation, Opening.lease] at hg

/-- What is neither cached nor set up stays away. -/
theorem shutdown_shed {pool pool' : H2ConnectionPoolState} (hshed : pool.Sheds pool')
    (hs : pool.shutdown = true) (hnone : pool.connection = none) :
    pool'.shutdown = true ∧ pool'.connection = none :=
  ⟨hshed.shutdown.elim (·.trans hs) And.left, hshed.connection.elim (·.trans hnone) id⟩

/-- **A pool that is shut down stays so**, without a connection. -/
theorem shutdown_next (h : Accounted s) (hnext : s.next idleTimeout a = some s')
    (hs : s.pool.shutdown = true) : s'.pool.shutdown = true ∧ s'.pool.connection = none := by
  have hnone := h.shutdown hs
  cases next_effect hnext with
  | call _ _ hs' | tick _ _ hs' => exact hs' ▸ ⟨hs, hnone⟩
  | closed c _ hc _ => cases hnone.symm.trans hc
  | shed _ _ hshed hs' | move _ _ _ _ _ _ hshed _ _ _ hs' =>
    subst hs'
    exact shutdown_shed hshed hs hnone
  | drop i t t' g _ _ _ _ _ _ hs' =>
    subst hs'
    exact ⟨(s.pool.dropLease_spec s.now g).2.2.1.trans hs,
      s.pool.connection_dropLease_of_none s.now g hnone⟩
  | checkout _ _ _ _ _ _ _ _ _ hs' =>
    subst hs'
    rcases s.pool.checkoutCached_spec with ⟨-, hshed⟩ | ⟨-, hshed, -⟩ | ⟨c, -, hb⟩
    · exact shutdown_shed hshed hs hnone
    · exact shutdown_shed hshed hs hnone
    · cases hnone.symm.trans hb.before
  | install i attempt c _ _ hs' =>
    subst hs'
    rcases s.pool.installAndCheckout_spec c hnone with heq | ⟨hf, -⟩
    · simp only [PoolRun.afterInstalling, PoolRun.step, heq]
      exact ⟨hs, hnone⟩
    · cases hs.symm.trans hf

/-- A retirement after a handshake timeout, or of an idle connection, removes one
that no live lease has the generation of. -/
theorem leasesOf_of_retired (h : Accounted s) (hnext : s.next idleTimeout a = some s')
    (hc : s.pool.connection = some c) (hnone : s'.pool.connection = none)
    (ha : (∃ i, a = .retire i) ∨ a = .maintenance ∧ c.connectionClosed = false) :
    s.leasesOf c.generation = 0 := by
  rw [← h.cached c hc]
  rcases ha with ⟨i, rfl⟩ | ⟨rfl, hopen⟩
  · simp only [PoolRun.next] at hnext
    split at hnext <;> cases hnext
    exact H2ConnectionPoolState.activeStreams_of_retired hc hnone
  · cases hnext
    exact H2ConnectionPoolState.activeStreams_of_idle hc hopen hnone

/-- **Accounting and isolation of generations.**  In every run within the range of
the counters: the counters of the pool and of the cached connection are the
numbers of live leases, the generations that were installed increase, no call
finds the pool changed while connecting, and a pool that is shut down has no
connection.  Whatever comes next, an operation of one generation leaves the
connection of another alone, the retirements of an idle connection and after a
handshake timeout remove one without live leases, and shutdown is for good. -/
theorem pool_accounting (h : (poolRuns idleTimeout).ReachBy (PoolRun.InRange idleTimeout) s) :
    s.pool.activeStreams = s.liveLeases ∧
    (∀ c, s.pool.connection = some c → c.activeStreams = s.leasesOf c.generation) ∧
    s.installed.Pairwise (· < ·) ∧
    (∀ t ∈ s.tasks, t ≠ .finished (.error .changedWhileConnecting)) ∧
    (s.pool.shutdown = true → s.pool.connection = none) ∧
    ∀ a s', s.next idleTimeout a = some s' →
      (∀ c g, s.pool.connection = some c → a.carries s = some g → c.generation ≠ g →
        s'.pool.connection = some c) ∧
      (∀ c, s.pool.connection = some c → s'.pool.connection = none →
        ((∃ i, a = .retire i) ∨ a = .maintenance ∧ c.connectionClosed = false) →
        s.leasesOf c.generation = 0) ∧
      (s.pool.shutdown = true ∨ a = .shutdown →
        s'.pool.shutdown = true ∧ s'.pool.connection = none) := by
  have hacc := accounted_of_reach h
  refine ⟨hacc.streams, hacc.cached, ?_, hacc.changed, hacc.shutdown, ?_⟩
  · rw [hacc.installed]
    exact List.pairwise_lt_range'
  intro a s' hnext
  refine ⟨?_, ?_, ?_⟩
  · intro c g hc hg hne
    exact connection_of_carries hnext hg hc hne
  · intro c hc hnone ha
    exact leasesOf_of_retired hacc hnext hc hnone ha
  rintro (hs | rfl)
  · exact shutdown_next hacc hnext hs
  · cases hnext
    exact ⟨rfl, rfl⟩

end

namespace Outlived

/-- A call that finds no connection sets one up and holds its first lease. -/
def dial (i : Nat) : List PoolAction :=
  [.call, .checkout i, .gateAcquired i, .recheck i,
    .connected i ⟨none, false, .tls13, .x25519⟩ 40, .install i]

/-- The first connection ends while its lease is held, and another one is installed. -/
def trace : List PoolAction := dial 0 ++ [.connectionClosed] ++ dial 1

end Outlived

/-- A lease of a connection that is gone is counted, and its end leaves the next one alone. -/
theorem pool_accounting_outlived : ∃ (s : PoolRun) (c : CachedH2Connection),
    (poolRuns 60000).ReachBy (PoolRun.InRange 60000) s ∧ s.pool.connection = some c ∧
    s.installed = [1, 2] ∧ s.leasesOf 1 = 1 ∧ s.leasesOf 2 = 1 ∧
    s.pool.activeStreams = s.liveLeases ∧ c.activeStreams = s.leasesOf c.generation ∧
    ∃ s', s.next 60000 (.cancel 0) = some s' ∧ s'.pool.connection = some c := by
  obtain ⟨s, hreach, hinstalled, hfirst, hsecond, hsome, c, hc, hgeneration, hcarries⟩ :=
    (poolRuns 60000).exists_reachBy (PoolRun.InRange 60000)
      (fun s => s.installed = [1, 2] ∧ s.leasesOf 1 = 1 ∧ s.leasesOf 2 = 1 ∧
        (s.next 60000 (.cancel 0)).isSome ∧ ∃ c ∈ s.pool.connection, c.generation ≠ 1 ∧
          PoolAction.carries s (.cancel 0) = some 1) Outlived.trace (by decide +kernel)
  obtain ⟨hstreams, hcached, -, -, -, hafter⟩ := pool_accounting hreach
  obtain ⟨s', hnext⟩ := Option.isSome_iff_exists.mp hsome
  exact ⟨s, c, hreach, hc, hinstalled, hfirst, hsecond, hstreams, hcached c hc, s', hnext,
    (hafter _ s' hnext).1 c 1 hc hcarries hgeneration⟩

end Client
end Maverick
