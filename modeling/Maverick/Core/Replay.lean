import Maverick.Core.Error
import Maverick.Lib.Bytes
import Maverick.Lib.Machine
import Maverick.Lib.Table

/-!
# The replay cache

`maverick_core::replay::ReplayCache`: for each credential, the nonces of recent
ClientHello messages, kept both as a set (for the membership test) and as a
list with the timestamps (for eviction).  `checkAndInsert` first checks the
timestamp window, then evicts *globally* what has left the window, and only
then tests the credential cap, the nonce and the per-credential cap.

The file ends with the specification of the eviction pass: on a state whose
nonce set agrees with its entry list, `cleanup` keeps exactly the entries at or
after the cutoff and drops credentials that have none left
(`lookup_cleanup`).
-/

namespace Maverick

open Lib

/-- `[u8; 32]` -/
abbrev Nonce := Block 32

structure ReplayEntry where
  nonce : Nonce
  timestampUnix : Int64
  deriving DecidableEq

/-- The cached nonces of one credential, twice: as a set and as a list. -/
structure CredentialReplayState where
  keys : Finset Nonce
  entries : List ReplayEntry
  deriving DecidableEq

/-- `CredentialReplayState::default()` -/
def CredentialReplayState.default : CredentialReplayState := ⟨∅, []⟩

/-- Bounded in-memory replay cache for recent ClientHello nonces. -/
structure ReplayCache where
  windowSecs : Int64
  maxEntriesPerCredential : Nat
  maxCredentials : Nat
  credentials : Table String CredentialReplayState

namespace ReplayCache

/-- `ReplayCache::new` -/
def new (windowSecs : Int64) (maxEntriesPerCredential maxCredentials : Nat) : ReplayCache :=
  ⟨windowSecs, maxEntriesPerCredential, maxCredentials, ∅⟩

/-- One step of `entries.retain`: an entry is kept, or its nonce leaves the
set. -/
def retainStep (cutoff : Int64) (st : CredentialReplayState) (entry : ReplayEntry) :
    CredentialReplayState :=
  if cutoff ≤ entry.timestampUnix then { st with entries := st.entries ++ [entry] }
  else { st with keys := st.keys.erase entry.nonce }

/-- The body of `credentials.retain`: the surviving entries of one credential,
or nothing if none survives. -/
def retainState (cutoff : Int64) (st : CredentialReplayState) : Option CredentialReplayState :=
  let kept := st.entries.foldl (retainStep cutoff) ⟨st.keys, []⟩
  if kept.entries = [] then none else some kept

/-- `ReplayCache::cleanup` -/
def cleanup (c : ReplayCache) (nowUnix : Int64) : ReplayCache :=
  let cutoff := saturatingSub nowUnix c.windowSecs
  { c with credentials := Table.retain (fun _ => retainState cutoff) c.credentials }

/-- The part of `check_and_insert` after the window check and the eviction. -/
def insertFresh (c : ReplayCache) (credentialId : String) (nonce : Nonce)
    (timestampUnix : Int64) : ReplayCache × Except Error Unit :=
  if c.credentials.lookup credentialId = none ∧ c.maxCredentials ≤ Table.size c.credentials then
    (c, .error (.replay "replay cache credential limit reached"))
  else
    let st := (c.credentials.lookup credentialId).getD .default
    -- `entry(..).or_default()` leaves the default behind on the two refusals below
    let touched := { c with credentials := c.credentials.insert credentialId st }
    if nonce ∈ st.keys then (touched, .error (.replay "duplicate nonce"))
    else if c.maxEntriesPerCredential ≤ st.entries.length then
      (touched, .error (.replay "replay cache full"))
    else
      let st' : CredentialReplayState := ⟨insert nonce st.keys, st.entries ++ [⟨nonce, timestampUnix⟩]⟩
      ({ c with credentials := c.credentials.insert credentialId st' }, .ok ())

/-- The timestamp checks at the head of `check_and_insert`: the error of the
first one that fails. -/
def windowError (windowSecs timestampUnix nowUnix : Int64) : Option Error :=
  match checkedSub nowUnix windowSecs with
  | none => some (.replay "timestamp window underflow")
  | some oldestAllowed =>
    match checkedAdd nowUnix windowSecs with
    | none => some (.replay "timestamp window overflow")
    | some newestAllowed =>
      if timestampUnix < oldestAllowed then some (.replay "timestamp too old")
      else if newestAllowed < timestampUnix then some (.replay "timestamp too new")
      else none

/-- `ReplayCache::check_and_insert` -/
def checkAndInsert (c : ReplayCache) (credentialId : String) (nonce : Nonce)
    (timestampUnix nowUnix : Int64) : ReplayCache × Except Error Unit :=
  match windowError c.windowSecs timestampUnix nowUnix with
  | some e => (c, .error e)
  | none => (c.cleanup nowUnix).insertFresh credentialId nonce timestampUnix

/-! ## The window check -/

variable {windowSecs timestampUnix nowUnix : Int64} {c : ReplayCache}
  {entries : String → List ReplayEntry} {k : String}

/-- **The window check as integer arithmetic**: both ends fit in `i64` and the
timestamp lies between them. -/
theorem windowError_eq_none :
    windowError windowSecs timestampUnix nowUnix = none ↔
      -2 ^ 63 ≤ nowUnix.toInt - windowSecs.toInt ∧ nowUnix.toInt - windowSecs.toInt < 2 ^ 63 ∧
      -2 ^ 63 ≤ nowUnix.toInt + windowSecs.toInt ∧ nowUnix.toInt + windowSecs.toInt < 2 ^ 63 ∧
      nowUnix.toInt - windowSecs.toInt ≤ timestampUnix.toInt ∧
      timestampUnix.toInt ≤ nowUnix.toInt + windowSecs.toInt := by
  unfold windowError
  cases hlo : checkedSub nowUnix windowSecs with
  | none =>
    have hsub := toI64_eq_none.mp hlo
    simp only [reduceCtorEq, false_iff]
    omega
  | some lo =>
    have hlo' := toInt_of_toI64 hlo
    have hlob := lo.toInt_lt
    have hlob' := lo.le_toInt
    cases hhi : checkedAdd nowUnix windowSecs with
    | none =>
      have hadd := toI64_eq_none.mp hhi
      simp only [reduceCtorEq, false_iff]
      omega
    | some hi =>
      have hhi' := toInt_of_toI64 hhi
      have hhib := hi.toInt_lt
      have hhib' := hi.le_toInt
      simp only [Int64.lt_iff_toInt_lt]
      split
      · simp only [reduceCtorEq, false_iff]; omega
      split
      · simp only [reduceCtorEq, false_iff]; omega
      · simp only [true_iff]; omega

/-- When the window check passes, the eviction cutoff is exactly
`now - window`. -/
theorem toInt_cutoff (h : windowError windowSecs timestampUnix nowUnix = none) :
    (saturatingSub nowUnix windowSecs).toInt = nowUnix.toInt - windowSecs.toInt := by
  obtain ⟨h1, h2, -⟩ := windowError_eq_none.mp h
  have hsub : checkedSub nowUnix windowSecs =
      some (Int64.ofInt (nowUnix.toInt - windowSecs.toInt)) := if_pos ⟨h1, h2⟩
  rw [saturatingSub_of_checkedSub hsub, Int64.toInt_ofInt_of_le h1 h2]

/-! ## The eviction pass -/

/-- The entries at or after a cutoff. -/
def keepFrom (cutoff : Int64) (entries : List ReplayEntry) : List ReplayEntry :=
  entries.filter fun entry => decide (cutoff ≤ entry.timestampUnix)

/-- The nonces of a list of entries, as a set. -/
def nonceSet (entries : List ReplayEntry) : Finset Nonce := (entries.map ReplayEntry.nonce).toFinset

/-- What is stored for a credential with the given entries: nothing if there
are none, and otherwise the entries together with their nonces. -/
def stored (entries : List ReplayEntry) : Option CredentialReplayState :=
  if entries = [] then none else some ⟨nonceSet entries, entries⟩

@[simp] theorem nonceSet_nil : nonceSet [] = ∅ := rfl

@[simp] theorem nonceSet_cons (e : ReplayEntry) (es : List ReplayEntry) :
    nonceSet (e :: es) = insert e.nonce (nonceSet es) := by
  simp [nonceSet]

theorem nonceSet_keepFrom_subset (cutoff : Int64) (entries : List ReplayEntry) :
    nonceSet (keepFrom cutoff entries) ⊆ nonceSet entries := by
  intro n hn
  simp only [nonceSet, keepFrom, List.mem_toFinset, List.mem_map] at hn ⊢
  obtain ⟨x, hx, rfl⟩ := hn
  exact ⟨x, List.mem_of_mem_filter hx, rfl⟩

/-- The whole pass over the entries of one credential: the kept entries in
order, and the set without the nonces of the dropped ones. -/
theorem foldl_retainStep (cutoff : Int64) : ∀ (entries : List ReplayEntry)
    (st : CredentialReplayState), (entries.map ReplayEntry.nonce).Nodup →
    entries.foldl (retainStep cutoff) st =
      ⟨st.keys \ (nonceSet entries \ nonceSet (keepFrom cutoff entries)),
        st.entries ++ keepFrom cutoff entries⟩ := by
  intro entries
  induction entries with
  | nil => intro st _; simp [keepFrom, nonceSet]
  | cons e es ih =>
    intro st hnd
    rw [List.map_cons, List.nodup_cons] at hnd
    have he : e.nonce ∉ nonceSet es := by simpa [nonceSet] using hnd.1
    have hek : e.nonce ∉ nonceSet (keepFrom cutoff es) :=
      fun h => he (nonceSet_keepFrom_subset cutoff es h)
    rw [List.foldl_cons, ih _ hnd.2]
    by_cases hc : cutoff ≤ e.timestampUnix
    · have hkeep : keepFrom cutoff (e :: es) = e :: keepFrom cutoff es := by simp [keepFrom, hc]
      rw [retainStep, if_pos hc, hkeep, nonceSet_cons, nonceSet_cons]
      congr 1
      · ext n
        simp only [Finset.mem_sdiff, Finset.mem_insert]
        by_cases hn : n = e.nonce
        · subst hn; simp [he]
        · simp [hn]
      · simp
    · have hkeep : keepFrom cutoff (e :: es) = keepFrom cutoff es := by simp [keepFrom, hc]
      rw [retainStep, if_neg hc, hkeep, nonceSet_cons]
      congr 1
      ext n
      simp only [Finset.mem_sdiff, Finset.mem_insert, Finset.mem_erase]
      by_cases hn : n = e.nonce
      · subst hn; simp [hek]
      · simp [hn]

/-- Evicting from one credential keeps exactly the entries at or after the
cutoff, and their nonces. -/
theorem retainState_stored (cutoff : Int64) {entries : List ReplayEntry}
    (hnd : (entries.map ReplayEntry.nonce).Nodup) :
    (stored entries).bind (retainState cutoff) = stored (keepFrom cutoff entries) := by
  by_cases hnil : entries = []
  · subst hnil; rfl
  have hfold := foldl_retainStep cutoff entries ⟨nonceSet entries, []⟩ hnd
  rw [stored, if_neg hnil, Option.bind_some, retainState, hfold,
    Finset.sdiff_sdiff_eq_self (nonceSet_keepFrom_subset cutoff entries)]
  simp [stored]

/-- **What `cleanup` leaves.**  If the cache stores `entries k` for each
credential `k`, without a repeated nonce, then after the pass it stores the
entries of `k` at or after the cutoff. -/
theorem lookup_cleanup (hstore : ∀ k, c.credentials.lookup k = stored (entries k))
    (hnd : ∀ k, ((entries k).map ReplayEntry.nonce).Nodup) (nowUnix : Int64) (k : String) :
    (c.cleanup nowUnix).credentials.lookup k =
      stored (keepFrom (saturatingSub nowUnix c.windowSecs) (entries k)) := by
  rw [cleanup, Table.lookup_retain, hstore k, retainState_stored _ (hnd k)]

/-- The entries the cache holds for a credential. -/
def entriesOf (c : ReplayCache) (k : String) : List ReplayEntry :=
  ((c.credentials.lookup k).map CredentialReplayState.entries).getD []

theorem entriesOf_eq_of_stored {es : List ReplayEntry} (h : c.credentials.lookup k = stored es) :
    c.entriesOf k = es := by
  rw [entriesOf, h, stored]
  split
  · rename_i hnil; rw [hnil]; rfl
  · rfl

/-! ## The insertion -/

theorem getD_stored (entries : List ReplayEntry) :
    (stored entries).getD .default = ⟨nonceSet entries, entries⟩ := by
  by_cases h : entries = []
  · subst h; rfl
  · rw [stored, if_neg h]; rfl

/-- Room for a new entry of credential `k`, when `entries k` is stored. -/
def HasRoom (c : ReplayCache) (entries : List ReplayEntry) (nonce : Nonce) : Prop :=
  (entries ≠ [] ∨ Table.size c.credentials < c.maxCredentials) ∧ nonce ∉ nonceSet entries ∧
    entries.length < c.maxEntriesPerCredential

/-- **What `check_and_insert` does after the eviction.**  With room the entry is
appended and the call succeeds; without, the call fails and nothing that is
stored changes (the default state that `entry(..).or_default()` would leave
behind needs a credential without entries, which a positive cap lets in). -/
theorem insertFresh_spec (hstore : ∀ k, c.credentials.lookup k = stored (entries k))
    (hcap : 0 < c.maxEntriesPerCredential) (k : String) (nonce : Nonce) (ts : Int64) :
    (HasRoom c (entries k) nonce ∧ (c.insertFresh k nonce ts).2 = .ok () ∧
      ∀ k', (c.insertFresh k nonce ts).1.credentials.lookup k' =
        stored (if k' = k then entries k ++ [⟨nonce, ts⟩] else entries k')) ∨
    (¬ HasRoom c (entries k) nonce ∧ (∃ e, (c.insertFresh k nonce ts).2 = .error e) ∧
      ∀ k', (c.insertFresh k nonce ts).1.credentials.lookup k' = stored (entries k')) := by
  have hnone : c.credentials.lookup k = none ↔ entries k = [] := by
    rw [hstore k, stored]
    split <;> simp_all
  unfold insertFresh
  simp only [hnone]
  split
  · rename_i hfull
    refine Or.inr ⟨?_, ⟨_, rfl⟩, hstore⟩
    rintro ⟨hne | hlt, -⟩
    · exact hne hfull.1
    · omega
  · rename_i hfull
    rw [hstore k, getD_stored]
    -- re-inserting what is already stored changes no lookup
    have htouch : entries k ≠ [] → ∀ k', (c.credentials.insert k
        ⟨nonceSet (entries k), entries k⟩).lookup k' = stored (entries k') := by
      intro hne k'
      by_cases hk : k' = k
      · subst hk; rw [AList.lookup_insert, stored, if_neg hne]
      · rw [AList.lookup_insert_ne hk, hstore k']
    have hroom : entries k ≠ [] ∨ Table.size c.credentials < c.maxCredentials := by
      by_cases h : entries k = []
      exacts [Or.inr (not_le.mp fun hle => hfull ⟨h, hle⟩), Or.inl h]
    simp only
    split
    · rename_i hdup
      refine Or.inr ⟨fun h => h.2.1 hdup, ⟨_, rfl⟩, htouch ?_⟩
      rintro hnil
      simp [hnil] at hdup
    rename_i hdup
    split
    · rename_i hlen
      refine Or.inr ⟨fun h => absurd h.2.2 (by omega), ⟨_, rfl⟩, htouch ?_⟩
      rintro hnil
      simp only [hnil, List.length_nil] at hlen
      omega
    · rename_i hlen
      refine Or.inl ⟨⟨hroom, hdup, by omega⟩, rfl, ?_⟩
      intro k'
      by_cases hk : k' = k
      · subst hk
        rw [if_pos rfl, AList.lookup_insert, stored, if_neg (by simp)]
        congr 2
        ext n
        simp [nonceSet]
      · rw [if_neg hk, AList.lookup_insert_ne hk, hstore k']

theorem insertFresh_limits (c : ReplayCache) (k : String) (nonce : Nonce) (ts : Int64) :
    (c.insertFresh k nonce ts).1.windowSecs = c.windowSecs ∧
    (c.insertFresh k nonce ts).1.maxEntriesPerCredential = c.maxEntriesPerCredential ∧
    (c.insertFresh k nonce ts).1.maxCredentials = c.maxCredentials := by
  unfold insertFresh
  split
  · exact ⟨rfl, rfl, rfl⟩
  simp only
  split
  · exact ⟨rfl, rfl, rfl⟩
  · split <;> exact ⟨rfl, rfl, rfl⟩

/-! ## One call -/

/-- For every credential the nonce set is that of the entry list, and no nonce
is repeated. -/
structure Consistent (c : ReplayCache) : Prop where
  stored : ∀ k, c.credentials.lookup k = stored (c.entriesOf k)
  nodup : ∀ k, ((c.entriesOf k).map ReplayEntry.nonce).Nodup

theorem Consistent.of_stored (hstore : ∀ k, c.credentials.lookup k = ReplayCache.stored (entries k))
    (hnd : ∀ k, ((entries k).map ReplayEntry.nonce).Nodup) : c.Consistent := by
  refine ⟨fun k => ?_, fun k => ?_⟩
  · rw [entriesOf_eq_of_stored (hstore k), hstore k]
  · rw [entriesOf_eq_of_stored (hstore k)]; exact hnd k

theorem consistent_new (windowSecs : Int64) (maxEntries maxCredentials : Nat) :
    (new windowSecs maxEntries maxCredentials).Consistent := by
  have hstore : ∀ k, (new windowSecs maxEntries maxCredentials).credentials.lookup k =
      ReplayCache.stored ((fun _ => []) k) := fun _ => rfl
  exact Consistent.of_stored hstore fun _ => List.nodup_nil

/-- The entries that survive the eviction pass of a call. -/
def survivors (c : ReplayCache) (nowUnix : Int64) (k : String) : List ReplayEntry :=
  keepFrom (saturatingSub nowUnix c.windowSecs) (c.entriesOf k)

/-- **What one call does to a consistent cache.**  Outside the window nothing
happens.  Inside, the eviction pass runs, and the call is accepted only if its
nonce is not among the survivors of its credential. -/
theorem checkAndInsert_spec (hc : c.Consistent) (hcap : 0 < c.maxEntriesPerCredential) (k : String)
    (nonce : Nonce) (ts now : Int64) :
    ((windowError c.windowSecs ts now).isSome ∧ (c.checkAndInsert k nonce ts now).1 = c ∧
      (c.checkAndInsert k nonce ts now).2.isOk = false) ∨
    (windowError c.windowSecs ts now = none ∧ (c.checkAndInsert k nonce ts now).1.Consistent ∧
      (((c.checkAndInsert k nonce ts now).2.isOk = true ∧ nonce ∉ nonceSet (c.survivors now k) ∧
        ∀ k', (c.checkAndInsert k nonce ts now).1.entriesOf k' =
          if k' = k then c.survivors now k ++ [⟨nonce, ts⟩] else c.survivors now k') ∨
      ((c.checkAndInsert k nonce ts now).2.isOk = false ∧
        ∀ k', (c.checkAndInsert k nonce ts now).1.entriesOf k' = c.survivors now k'))) := by
  unfold checkAndInsert
  cases hw : windowError c.windowSecs ts now with
  | some e => exact Or.inl ⟨rfl, rfl, rfl⟩
  | none =>
    refine Or.inr ⟨rfl, ?_⟩
    have hclean := lookup_cleanup hc.stored hc.nodup now
    have hnd : ∀ k', ((c.survivors now k').map ReplayEntry.nonce).Nodup := fun k' =>
      (hc.nodup k').sublist (List.filter_sublist.map _)
    rcases insertFresh_spec (c := c.cleanup now) hclean hcap k nonce ts with
      ⟨⟨-, hnew, -⟩, hok, hlook⟩ | ⟨-, ⟨e, herr⟩, hlook⟩
    · refine ⟨Consistent.of_stored hlook fun k' => ?_, Or.inl ⟨by rw [hok]; rfl, hnew, ?_⟩⟩
      · split
        · rw [List.map_append, List.nodup_append]
          refine ⟨hnd k, by simp, ?_⟩
          rintro n hn m hm rfl
          rw [List.map_singleton, List.mem_singleton] at hm
          subst hm
          exact hnew (List.mem_toFinset.mpr hn)
        · exact hnd k'
      · exact fun k' => entriesOf_eq_of_stored (hlook k')
    · exact ⟨Consistent.of_stored hlook hnd, Or.inr ⟨by rw [herr]; rfl,
        fun k' => entriesOf_eq_of_stored (hlook k')⟩⟩

/-- A call in its window is accepted if there is room after the eviction pass. -/
theorem checkAndInsert_of_room (hc : c.Consistent) {nonce : Nonce} {ts now : Int64}
    (hwindow : windowError c.windowSecs ts now = none)
    (hroom : HasRoom (c.cleanup now) (c.survivors now k) nonce) :
    (c.checkAndInsert k nonce ts now).2 = .ok () := by
  have hcap : 0 < (c.cleanup now).maxEntriesPerCredential := Nat.zero_lt_of_lt hroom.2.2
  unfold checkAndInsert
  rw [hwindow]
  rcases insertFresh_spec (lookup_cleanup hc.stored hc.nodup now) hcap k nonce ts with
    ⟨-, hok, -⟩ | ⟨hfull, -, -⟩
  exacts [hok, absurd hroom hfull]

theorem checkAndInsert_limits (c : ReplayCache) (k : String) (nonce : Nonce) (ts now : Int64) :
    (c.checkAndInsert k nonce ts now).1.windowSecs = c.windowSecs ∧
    (c.checkAndInsert k nonce ts now).1.maxEntriesPerCredential = c.maxEntriesPerCredential := by
  unfold checkAndInsert
  cases windowError c.windowSecs ts now with
  | some e => exact ⟨rfl, rfl⟩
  | none =>
    have h := insertFresh_limits (c.cleanup now) k nonce ts
    exact ⟨h.1, h.2.1⟩

end ReplayCache
end Maverick
