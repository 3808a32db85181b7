import Maverick.Core.Egress
import Maverick.Lib.System
import Maverick.Lib.Table
import Maverick.Lib.Total

/-!
# Connection limits

`ConnectionLimitTracker` counts the connections of the server, all of them in an atomic
counter and those of each source in a map under a lock.  A step is one atomic operation
or one locked section, of any of the calls and guards that are under way.

* `exchange`, `enterSource`, `leaveGlobal`, `leaveSource` — the operations.
* `Counted` — both counters are numbers of calls: of those that have passed the global
  step, and of those that have passed the source step.
* `counted_next` — every step keeps this.
* `connection_limits_hold` — the limits, and what is left when nothing is under way.
-/

namespace Maverick
namespace Server

open Lib

/-! ## The tracker -/

inductive ConnectionLimitRejection where
  | global
  | perSource
  deriving DecidableEq

structure ConnectionLimitTracker where
  globalLimit : UInt64
  perSourceLimit : UInt64
  globalCount : UInt64
  sourceCounts : Table IpAddr UInt64

/-- Where a call of `try_enter` is, and the guard that it may return. -/
inductive EntryPhase where
  /-- in `try_enter_global`, with the count that was observed -/
  | checking (current : UInt64)
  /-- between the global and the source step -/
  | counted
  /-- the guard is alive -/
  | granted
  /-- the guard is being dropped, between the global and the source step -/
  | leaving
  | left
  | rejected (reason : ConnectionLimitRejection)
  deriving DecidableEq

namespace EntryPhase

/-- The global count has it. -/
def inGlobal : EntryPhase → Bool
  | .counted | .granted => true
  | _ => false

/-- The count of its source has it. -/
def inSource : EntryPhase → Bool
  | .granted | .leaving => true
  | _ => false

/-- Neither a call nor a drop is in progress. -/
def settled : EntryPhase → Bool
  | .granted | .left | .rejected _ => true
  | _ => false

end EntryPhase

namespace ConnectionLimitTracker

def new (globalLimit perSourceLimit : UInt64) : ConnectionLimitTracker :=
  ⟨max globalLimit 1, max perSourceLimit 1, 0, ∅⟩

/-- The loop of `try_enter_global`, up to its next `compare_exchange_weak`, which may fail
without a reason. -/
def exchange (t : ConnectionLimitTracker) (current : UInt64) (spurious : Bool) :
    ConnectionLimitTracker × EntryPhase :=
  if t.globalLimit ≤ current then (t, .rejected .global)
  else if t.globalCount = current ∧ spurious = false then
    ({ t with globalCount := current + 1 }, .counted)
  else (t, .checking t.globalCount)

/-- The locked section of `try_enter`. -/
def enterSource (t : ConnectionLimitTracker) (peerIp : IpAddr) :
    ConnectionLimitTracker × EntryPhase :=
  let sourceCount := (t.sourceCounts.lookup peerIp).getD 0
  let sourceCounts := t.sourceCounts.insert peerIp sourceCount
  if t.perSourceLimit ≤ sourceCount then
    ({ t with sourceCounts := sourceCounts, globalCount := t.globalCount - 1 },
      .rejected .perSource)
  else ({ t with sourceCounts := sourceCounts.insert peerIp (sourceCount + 1) }, .granted)

/-- The first step of `leave`. -/
def leaveGlobal (t : ConnectionLimitTracker) : ConnectionLimitTracker :=
  { t with globalCount := t.globalCount - 1 }

/-- The locked section of `leave`. -/
def leaveSource (t : ConnectionLimitTracker) (peerIp : IpAddr) : ConnectionLimitTracker :=
  match t.sourceCounts.lookup peerIp with
  | none => t
  | some sourceCount =>
    let sourceCount := if sourceCount = 0 then 0 else sourceCount - 1
    if sourceCount = 0 then { t with sourceCounts := t.sourceCounts.erase peerIp }
    else { t with sourceCounts := t.sourceCounts.insert peerIp sourceCount }

/-- The count of a source; a source without an entry has none. -/
def sourceCount (t : ConnectionLimitTracker) (ip : IpAddr) : Nat :=
  ((t.sourceCounts.lookup ip).map UInt64.toNat).getD 0

end ConnectionLimitTracker

/-! ## Calls and guards -/

structure Entry where
  peerIp : IpAddr
  phase : EntryPhase
  deriving DecidableEq

/-- The tracker, and every call there has been with what became of it. -/
structure LimitRun where
  tracker : ConnectionLimitTracker
  entries : List Entry

namespace LimitRun

def start (globalLimit perSourceLimit : UInt64) : LimitRun :=
  ⟨.new globalLimit perSourceLimit, []⟩

inductive Action where
  /-- a call begins, and loads the global count -/
  | call (peerIp : IpAddr)
  | exchange (i : Nat) (spurious : Bool)
  | enterSource (i : Nat)
  /-- a guard is dropped -/
  | drop (i : Nat)
  | leaveSource (i : Nat)
  deriving DecidableEq

/-- What a step does to the tracker and to the call that takes it. -/
def advance (t : ConnectionLimitTracker) (e : Entry) :
    Action → Option (ConnectionLimitTracker × EntryPhase)
  | .call _ => none
  | .exchange _ spurious =>
    match e.phase with
    | .checking current => some (t.exchange current spurious)
    | _ => none
  | .enterSource _ => if e.phase = .counted then some (t.enterSource e.peerIp) else none
  | .drop _ => if e.phase = .granted then some (t.leaveGlobal, .leaving) else none
  | .leaveSource _ => if e.phase = .leaving then some (t.leaveSource e.peerIp, .left) else none

def next (s : LimitRun) (action : Action) : Option LimitRun :=
  match action with
  | .call peerIp =>
    some { s with entries := s.entries ++ [⟨peerIp, .checking s.tracker.globalCount⟩] }
  | .exchange i _ | .enterSource i | .drop i | .leaveSource i =>
    match s.entries[i]? with
    | none => none
    | some e =>
      (advance s.tracker e action).map fun r =>
        ⟨r.1, s.entries.set i { e with phase := r.2 }⟩

def system (globalLimit perSourceLimit : UInt64) : System LimitRun Action where
  start := start globalLimit perSourceLimit
  next := next

/-- The calls that the global count has. -/
def inGlobal (s : LimitRun) : Nat := s.entries.countP fun e => e.phase.inGlobal

/-- The calls that the count of a source has. -/
def inSource (s : LimitRun) (ip : IpAddr) : Nat :=
  s.entries.countP fun e => e.phase.inSource && e.peerIp == ip

end LimitRun

/-! ## One step -/

namespace ConnectionLimitTracker

variable {t t' : ConnectionLimitTracker}

/-- The counts are within the limits, and no source is kept that has no connection. -/
structure Sound (t : ConnectionLimitTracker) : Prop where
  limit : 1 ≤ t.perSourceLimit.toNat
  globalLe : t.globalCount.toNat ≤ t.globalLimit.toNat
  sourceLe : ∀ ip, t.sourceCount ip ≤ t.perSourceLimit.toNat
  nonzero : ∀ ip, t.sourceCounts.lookup ip ≠ some 0

/-- A step of a call leaves the limits as they are, and moves each counter by the call's
own share. -/
structure Moves (t t' : ConnectionLimitTracker) (peerIp : IpAddr) (phase phase' : EntryPhase) :
    Prop where
  limits : t'.globalLimit = t.globalLimit ∧ t'.perSourceLimit = t.perSourceLimit
  sound : t'.Sound
  global : t'.globalCount.toNat + (if phase.inGlobal then 1 else 0) =
    t.globalCount.toNat + (if phase'.inGlobal then 1 else 0)
  source : ∀ ip, t'.sourceCount ip + (if phase.inSource && peerIp == ip then 1 else 0) =
    t.sourceCount ip + (if phase'.inSource && peerIp == ip then 1 else 0)

theorem sourceCount_insert (counts : Table IpAddr UInt64) (peerIp : IpAddr) (n : UInt64)
    (ip : IpAddr) :
    sourceCount { t with sourceCounts := counts.insert peerIp n } ip =
      if peerIp = ip then n.toNat
      else sourceCount { t with sourceCounts := counts } ip := by
  unfold sourceCount
  by_cases h : peerIp = ip
  · subst h
    rw [if_pos rfl, AList.lookup_insert]
    rfl
  · rw [if_neg h, AList.lookup_insert_ne (Ne.symm h)]

theorem sourceCount_erase (counts : Table IpAddr UInt64) (peerIp : IpAddr) (ip : IpAddr) :
    sourceCount { t with sourceCounts := counts.erase peerIp } ip =
      if peerIp = ip then 0 else sourceCount { t with sourceCounts := counts } ip := by
  unfold sourceCount
  by_cases h : peerIp = ip
  · subst h
    rw [if_pos rfl, AList.lookup_erase]
    rfl
  · rw [if_neg h, AList.lookup_erase_ne (Ne.symm h)]

variable {n : UInt64} {peerIp : IpAddr}

theorem toNat_sub_one (h : 0 < n.toNat) : (n - 1).toNat = n.toNat - 1 :=
  UInt64.toNat_sub_of_le _ _ (UInt64.le_iff_toNat_le.mpr h)

theorem toNat_add_one {m : UInt64} (h : n < m) : (n + 1).toNat = n.toNat + 1 := by
  have hlt := UInt64.lt_iff_toNat_lt.mp h
  have hmax := m.toNat_lt
  rw [UInt64.toNat_add, UInt64.toNat_one]
  exact Nat.mod_eq_of_lt (by omega)

theorem moves_exchange (hsound : t.Sound) {current : UInt64} {spurious : Bool} :
    Moves t (t.exchange current spurious).1 peerIp (.checking current)
      (t.exchange current spurious).2 := by
  unfold exchange
  split
  · exact ⟨⟨rfl, rfl⟩, hsound, rfl, fun _ => rfl⟩
  rename_i hlimit
  split
  · rename_i hsame
    have hone := toNat_add_one (UInt64.not_le.mp hlimit)
    refine ⟨⟨rfl, rfl⟩, { hsound with globalLe := ?_ }, ?_, fun _ => rfl⟩
    · show (current + 1).toNat ≤ t.globalLimit.toNat
      rw [hone]
      exact UInt64.lt_iff_toNat_lt.mp (UInt64.not_le.mp hlimit)
    · show (current + 1).toNat = t.globalCount.toNat + 1
      rw [hone, hsame.1]
  · exact ⟨⟨rfl, rfl⟩, hsound, rfl, fun _ => rfl⟩

theorem sourceCount_eq (t : ConnectionLimitTracker) (ip : IpAddr) :
    t.sourceCount ip = ((t.sourceCounts.lookup ip).getD 0).toNat := by
  unfold sourceCount
  cases t.sourceCounts.lookup ip <;> rfl

/-- A new count of one source, which is not zero and within the limit. -/
theorem sound_insert (hsound : t.Sound) {counts : Table IpAddr UInt64} {global : UInt64}
    (hglobal : global.toNat ≤ t.globalLimit.toNat)
    (hcounts : ∀ ip, peerIp ≠ ip → counts.lookup ip = t.sourceCounts.lookup ip) (hn : 0 < n.toNat)
    (hle : n.toNat ≤ t.perSourceLimit.toNat) :
    Sound { t with sourceCounts := counts.insert peerIp n, globalCount := global } := by
  refine ⟨hsound.limit, hglobal, fun ip => ?_, fun ip => ?_⟩
  · rw [sourceCount_eq]
    by_cases h : peerIp = ip
    · subst h
      rwa [AList.lookup_insert]
    · rw [AList.lookup_insert_ne (Ne.symm h), hcounts ip h, ← sourceCount_eq]
      exact hsound.sourceLe ip
  · by_cases h : peerIp = ip
    · subst h
      rw [AList.lookup_insert]
      rintro hzero
      rw [Option.some.inj hzero] at hn
      exact Nat.lt_irrefl _ hn
    · rw [AList.lookup_insert_ne (Ne.symm h), hcounts ip h]
      exact hsound.nonzero ip

theorem moves_enterSource (hsound : t.Sound) (hglobal : 0 < t.globalCount.toNat) :
    Moves t (t.enterSource peerIp).1 peerIp .counted (t.enterSource peerIp).2 := by
  obtain ⟨n, hn⟩ : ∃ n, n = (t.sourceCounts.lookup peerIp).getD 0 := ⟨_, rfl⟩
  have hcount : t.sourceCount peerIp = n.toNat := by rw [sourceCount_eq, hn]
  unfold enterSource
  rw [← hn]
  dsimp only
  split
  · -- the source is at its limit, so it has an entry, and the entry stays
    rename_i hlimit
    have hpos : 0 < n.toNat :=
      Nat.lt_of_lt_of_le hsound.limit (UInt64.le_iff_toNat_le.mp hlimit)
    have hone := toNat_sub_one hglobal
    have hle := hsound.globalLe
    refine ⟨⟨rfl, rfl⟩, ?_, ?_, fun ip => ?_⟩
    · exact sound_insert hsound (by omega) (fun _ _ => rfl) hpos (hcount ▸ hsound.sourceLe peerIp)
    · show (t.globalCount - 1).toNat + 1 = t.globalCount.toNat
      omega
    show sourceCount { t with sourceCounts := _ } ip + 0 = t.sourceCount ip + 0
    rw [sourceCount_insert]
    split
    · subst ip
      rw [hcount]
    · rfl
  · rename_i hlimit
    have hlt := UInt64.not_le.mp hlimit
    have hone := toNat_add_one hlt
    refine ⟨⟨rfl, rfl⟩, ?_, rfl, fun ip => ?_⟩
    · refine sound_insert hsound hsound.globalLe (fun ip hip => ?_) ?_ ?_
      · exact AList.lookup_insert_ne (Ne.symm hip)
      · rw [hone]
        exact Nat.succ_pos _
      · rw [hone]
        exact UInt64.lt_iff_toNat_lt.mp hlt
    · show sourceCount { t with sourceCounts := _ } ip + 0 =
        t.sourceCount ip + if peerIp == ip then 1 else 0
      rw [sourceCount_insert, sourceCount_insert]
      by_cases h : peerIp = ip
      · subst h
        rw [if_pos rfl, if_pos (beq_self_eq_true peerIp), hone, hcount]
      · rw [if_neg h, if_neg h, if_neg (by simpa using h)]

theorem moves_leaveGlobal (hsound : t.Sound) (hglobal : 0 < t.globalCount.toNat) :
    Moves t t.leaveGlobal peerIp .granted .leaving := by
  have hone := toNat_sub_one hglobal
  refine ⟨⟨rfl, rfl⟩, { hsound with globalLe := ?_ }, ?_, fun _ => rfl⟩
  · show (t.globalCount - 1).toNat ≤ t.globalLimit.toNat
    have hle := hsound.globalLe
    omega
  · show (t.globalCount - 1).toNat + 1 = t.globalCount.toNat
    omega

theorem moves_leaveSource (hsound : t.Sound) (hsource : 0 < t.sourceCount peerIp) :
    Moves t (t.leaveSource peerIp) peerIp .leaving .left := by
  have hcount := sourceCount_eq t peerIp
  unfold leaveSource
  cases hlookup : t.sourceCounts.lookup peerIp with
  | none =>
    rw [hcount, hlookup] at hsource
    exact absurd hsource (Nat.lt_irrefl 0)
  | some n =>
    rw [hlookup, Option.getD_some] at hcount
    rw [hcount] at hsource
    have hone := toNat_sub_one hsource
    have hne : n ≠ 0 := by
      rintro rfl
      exact Nat.lt_irrefl _ hsource
    have hle := hsound.sourceLe peerIp
    dsimp only
    rw [if_neg hne]
    split
    · -- the last connection of the source
      rename_i hzero
      have hlast : n.toNat = 1 := by
        rw [hzero, UInt64.toNat_zero] at hone
        omega
      refine ⟨⟨rfl, rfl⟩, ⟨hsound.limit, hsound.globalLe, fun ip => ?_, fun ip hip => ?_⟩, rfl,
        fun ip => ?_⟩
      · rw [sourceCount_erase]
        split
        exacts [Nat.zero_le _, hsound.sourceLe ip]
      · exact hsound.nonzero ip (Table.lookup_erase_eq_some hip).2
      show sourceCount { t with sourceCounts := _ } ip + (if peerIp == ip then 1 else 0) =
        t.sourceCount ip + 0
      rw [sourceCount_erase]
      by_cases h : peerIp = ip
      · subst h
        rw [if_pos rfl, if_pos (beq_self_eq_true peerIp), hcount, hlast]
      · rw [if_neg h, if_neg (by simpa using h)]
    · rename_i hmore
      refine ⟨⟨rfl, rfl⟩, ?_, rfl, fun ip => ?_⟩
      · refine sound_insert hsound hsound.globalLe (fun _ _ => rfl) ?_ ?_
        · rw [Nat.pos_iff_ne_zero]
          intro hnat
          exact hmore (UInt64.toNat_inj.mp hnat)
        · omega
      · show sourceCount { t with sourceCounts := _ } ip + (if peerIp == ip then 1 else 0) =
          t.sourceCount ip + 0
        rw [sourceCount_insert]
        by_cases h : peerIp = ip
        · subst h
          rw [if_pos rfl, if_pos (beq_self_eq_true peerIp), hcount]
          omega
        · rw [if_neg h, if_neg (by simpa using h)]

end ConnectionLimitTracker

/-! ## Whole runs -/

/-- The counters are what they count. -/
structure Counted (s : LimitRun) : Prop where
  sound : s.tracker.Sound
  global : s.tracker.globalCount.toNat = s.inGlobal
  source : ∀ ip, s.tracker.sourceCount ip = s.inSource ip

section
variable {s s' : LimitRun} {i : Nat} {e : Entry} {action : LimitRun.Action}

/-- A step of one call moves both counts by that call alone. -/
theorem counted_set (hcounted : Counted s) (he : s.entries[i]? = some e)
    {t : ConnectionLimitTracker} {phase : EntryPhase}
    (hmoves : s.tracker.Moves t e.peerIp e.phase phase) :
    Counted ⟨t, s.entries.set i { e with phase := phase }⟩ := by
  refine ⟨hmoves.sound, ?_, fun ip => ?_⟩
  · have hset := countP_set_add (p := fun e : Entry => e.phase.inGlobal)
      (b := { e with phase := phase }) he
    have hglobal := hmoves.global
    rw [hcounted.global] at hglobal
    exact Nat.add_right_cancel (hglobal.trans hset.symm)
  · have hset := countP_set_add (p := fun e : Entry => e.phase.inSource && e.peerIp == ip)
      (b := { e with phase := phase }) he
    have hsource := hmoves.source ip
    rw [hcounted.source ip] at hsource
    exact Nat.add_right_cancel (hsource.trans hset.symm)

theorem globalCount_pos (hcounted : Counted s) (he : e ∈ s.entries)
    (hphase : e.phase.inGlobal = true) : 0 < s.tracker.globalCount.toNat := by
  rw [hcounted.global]
  exact List.countP_pos_iff.mpr ⟨e, he, hphase⟩

theorem sourceCount_pos (hcounted : Counted s) (he : e ∈ s.entries)
    (hphase : e.phase.inSource = true) : 0 < s.tracker.sourceCount e.peerIp := by
  rw [hcounted.source]
  exact List.countP_pos_iff.mpr ⟨e, he, by simp [hphase]⟩

theorem moves_advance (hcounted : Counted s) (he : e ∈ s.entries)
    {r : ConnectionLimitTracker × EntryPhase}
    (h : LimitRun.advance s.tracker e action = some r) :
    s.tracker.Moves r.1 e.peerIp e.phase r.2 := by
  cases action with
  | call peerIp => cases h
  | exchange i spurious =>
    simp only [LimitRun.advance] at h
    split at h
    · rename_i current hphase
      cases h
      rw [hphase]
      exact ConnectionLimitTracker.moves_exchange hcounted.sound
    · cases h
  | enterSource i =>
    obtain ⟨hphase, h⟩ := Option.ite_none_right_eq_some.mp h
    cases h
    have hpos := globalCount_pos hcounted he (by rw [hphase]; rfl)
    rw [hphase]
    exact ConnectionLimitTracker.moves_enterSource hcounted.sound hpos
  | drop i =>
    obtain ⟨hphase, h⟩ := Option.ite_none_right_eq_some.mp h
    cases h
    have hpos := globalCount_pos hcounted he (by rw [hphase]; rfl)
    rw [hphase]
    exact ConnectionLimitTracker.moves_leaveGlobal hcounted.sound hpos
  | leaveSource i =>
    obtain ⟨hphase, h⟩ := Option.ite_none_right_eq_some.mp h
    cases h
    have hpos := sourceCount_pos hcounted he (by rw [hphase]; rfl)
    rw [hphase]
    exact ConnectionLimitTracker.moves_leaveSource hcounted.sound hpos

/-- **Every step keeps the counters.**  A new call is in neither of them. -/
theorem counted_next (hcounted : Counted s) (h : s.next action = some s') :
    Counted s' ∧ s'.tracker.globalLimit = s.tracker.globalLimit ∧
      s'.tracker.perSourceLimit = s.tracker.perSourceLimit := by
  have hstep : ∀ i, (match s.entries[i]? with
      | none => none
      | some e => (LimitRun.advance s.tracker e action).map fun r =>
        (⟨r.1, s.entries.set i { e with phase := r.2 }⟩ : LimitRun)) = some s' →
      Counted s' ∧ s'.tracker.globalLimit = s.tracker.globalLimit ∧
        s'.tracker.perSourceLimit = s.tracker.perSourceLimit := by
    intro i h
    split at h
    · cases h
    rename_i e he
    obtain ⟨r, hr, rfl⟩ := Option.map_eq_some_iff.mp h
    have hmoves := moves_advance hcounted (List.mem_of_getElem? he) hr
    exact ⟨counted_set hcounted he hmoves, hmoves.limits⟩
  cases action with
  | call peerIp =>
    cases h
    refine ⟨⟨hcounted.sound, ?_, fun ip => ?_⟩, rfl, rfl⟩
    · rw [hcounted.global]
      simp [LimitRun.inGlobal, EntryPhase.inGlobal]
    · rw [hcounted.source]
      simp [LimitRun.inSource, EntryPhase.inSource]
  | exchange i _ | enterSource i | drop i | leaveSource i => exact hstep i h

end

theorem counted_start (globalLimit perSourceLimit : UInt64) :
    Counted (.start globalLimit perSourceLimit) := by
  refine ⟨⟨?_, Nat.zero_le _, fun ip => Nat.zero_le _, fun ip => ?_⟩, rfl, fun ip => rfl⟩
  · show 1 ≤ (if perSourceLimit ≤ 1 then 1 else perSourceLimit).toNat
    split
    · exact Nat.le_refl _
    · rename_i hmore
      exact Nat.le_of_lt (UInt64.lt_iff_toNat_lt.mp (UInt64.not_le.mp hmore))
  · show (∅ : Table IpAddr UInt64).lookup ip ≠ some 0
    simp

/-- The limits of a tracker and the meaning of its counters. -/
structure LimitsHold (globalLimit perSourceLimit : UInt64) (s : LimitRun) : Prop where
  globalLe : s.tracker.globalCount ≤ max globalLimit 1
  /-- Where a step subtracts from the global count, it is not zero. -/
  globalPos : ∀ e ∈ s.entries, e.phase = .counted ∨ e.phase = .granted →
    0 < s.tracker.globalCount
  global : s.tracker.globalCount.toNat =
    s.entries.countP (·.phase = .granted) + s.entries.countP (·.phase = .counted)
  sourceLe : ∀ ip, s.tracker.sourceCount ip ≤ (max perSourceLimit 1).toNat
  source : ∀ ip, s.tracker.sourceCount ip = s.entries.countP fun e =>
    (e.phase = .granted ∨ e.phase = .leaving) ∧ e.peerIp = ip
  nonzero : ∀ ip, s.tracker.sourceCounts.lookup ip ≠ some 0
  /-- With nothing under way, both counters are the number of guards. -/
  settled : (∀ e ∈ s.entries, e.phase.settled = true) →
    s.tracker.globalCount.toNat = s.entries.countP (·.phase = .granted) ∧
      s.tracker.sourceCounts.sum UInt64.toNat = s.entries.countP (·.phase = .granted)

variable {s : LimitRun}

/-- The source counts add up to the calls that they have. -/
theorem sum_sourceCounts (hcounted : Counted s) :
    s.tracker.sourceCounts.sum UInt64.toNat = s.entries.countP fun e => e.phase.inSource := by
  rw [Table.sum_eq_sum_keySet]
  have hkey : ∀ e ∈ s.entries, e.phase.inSource = true →
      e.peerIp ∈ Table.keySet s.tracker.sourceCounts := by
    intro e he hphase
    have hpos := sourceCount_pos hcounted he hphase
    rw [Table.mem_keySet]
    cases hlookup : s.tracker.sourceCounts.lookup e.peerIp with
    | none =>
      rw [ConnectionLimitTracker.sourceCount, hlookup] at hpos
      exact absurd hpos (Nat.lt_irrefl 0)
    | some n => rfl
  rw [← sum_countP_fiber hkey]
  exact Finset.sum_congr rfl fun ip _ => hcounted.source ip

theorem countP_inGlobal (entries : List Entry) :
    entries.countP (fun e => e.phase.inGlobal) =
      entries.countP (·.phase = .granted) + entries.countP (·.phase = .counted) := by
  induction entries with
  | nil => rfl
  | cons e entries ih =>
    simp only [List.countP_cons, ih]
    cases e.phase <;> simp [EntryPhase.inGlobal] <;> omega

theorem inSource_eq (phase : EntryPhase) :
    phase.inSource = decide (phase = .granted ∨ phase = .leaving) := by
  cases phase <;> rfl

theorem counted_of_reach {globalLimit perSourceLimit : UInt64}
    (h : (LimitRun.system globalLimit perSourceLimit).Reach s) :
    Counted s ∧ s.tracker.globalLimit = max globalLimit 1 ∧
      s.tracker.perSourceLimit = max perSourceLimit 1 := by
  refine h.invariant (I := fun s => Counted s ∧ s.tracker.globalLimit = max globalLimit 1 ∧
    s.tracker.perSourceLimit = max perSourceLimit 1)
    ⟨counted_start globalLimit perSourceLimit, rfl, rfl⟩ ?_
  rintro s action s' ⟨hcounted, hglobal, hsource⟩ - hnext
  obtain ⟨hcounted', hglobal', hsource'⟩ := counted_next hcounted hnext
  exact ⟨hcounted', hglobal'.trans hglobal, hsource'.trans hsource⟩

/-- With nothing under way, what a counter has is a guard. -/
theorem countP_settled {entries : List Entry} {p : EntryPhase → Bool}
    (hgranted : p .granted = true) (hleft : p .left = false)
    (hrejected : ∀ reason, p (.rejected reason) = false)
    (h : ∀ e ∈ entries, e.phase.settled = true) :
    entries.countP (fun e => p e.phase) = entries.countP (·.phase = .granted) := by
  refine List.countP_congr fun e he => ?_
  have hsettled := h e he
  cases hphase : e.phase with
  | granted => simp [hgranted]
  | left => simp [hleft]
  | rejected reason => simp [hrejected]
  | _ =>
    rw [hphase] at hsettled
    cases hsettled

/-- **The connection limits hold** in every interleaving of calls and drops. -/
theorem connection_limits_hold (globalLimit perSourceLimit : UInt64) {s : LimitRun}
    (h : (LimitRun.system globalLimit perSourceLimit).Reach s) :
    LimitsHold globalLimit perSourceLimit s := by
  obtain ⟨hcounted, hglobal, hsource⟩ := counted_of_reach h
  refine {
    globalLe := ?_
    globalPos := ?_
    global := hcounted.global.trans (countP_inGlobal _)
    sourceLe := fun ip => hsource ▸ hcounted.sound.sourceLe ip
    source := ?_
    nonzero := hcounted.sound.nonzero
    settled := ?_ }
  · rw [← hglobal]
    exact UInt64.le_iff_toNat_le.mpr hcounted.sound.globalLe
  · intro e he hphase
    refine UInt64.lt_iff_toNat_lt.mpr (globalCount_pos hcounted he ?_)
    rcases hphase with hphase | hphase <;> rw [hphase] <;> rfl
  · intro ip
    rw [hcounted.source, LimitRun.inSource]
    refine List.countP_congr fun e _ => ?_
    simp [inSource_eq]
  intro hsettled
  refine ⟨?_, ?_⟩
  · rw [hcounted.global]
    exact countP_settled rfl rfl (fun _ => rfl) hsettled
  · rw [sum_sourceCounts hcounted]
    exact countP_settled rfl rfl (fun _ => rfl) hsettled

/-! One connection is let in, a second one of the same source is turned away after it was
counted, and the guard of the first one is dropped. -/

namespace Contention

def source : IpAddr := .v4 ⟨192, 0, 2, 7⟩

def trace : List LimitRun.Action :=
  [.call source, .exchange 0 false, .call source, .enterSource 0, .exchange 1 false,
    .enterSource 1, .drop 0, .leaveSource 0]

end Contention

theorem connection_limits_hold_contended : ∃ s : LimitRun, (LimitRun.system 8 1).Reach s ∧
    s.entries = [⟨Contention.source, .left⟩, ⟨Contention.source, .rejected .perSource⟩] ∧
    LimitsHold 8 1 s := by
  obtain ⟨s, hreach, hs⟩ := (LimitRun.system 8 1).exists_reach
    (·.entries = [⟨Contention.source, .left⟩, ⟨Contention.source, .rejected .perSource⟩])
    Contention.trace (by decide +kernel)
  exact ⟨s, hreach, hs, connection_limits_hold 8 1 hreach⟩

end Server
end Maverick
