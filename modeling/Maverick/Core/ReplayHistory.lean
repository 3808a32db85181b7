import Maverick.Core.Replay

/-!
# The replay cache refines a history of accepted calls

A reference model of `ReplayCache` that keeps no sets and evicts nothing: it
remembers every accepted call, and the cutoff of the last call that passed the
window check.  A remembered call is *live* at a cutoff if its timestamp is not
older.  `History.Accepts` says in these terms when a call is accepted.

* `History.step` — the reference model's transition.
* `Simulates` — the simulation relation: for each credential the cache stores
  the remembered calls that were live at the last cutoff, with no repeated
  nonce and within both caps.
* `simulates_call` — one call, started in related states whose last cutoff is
  not ahead of the call's own, ends in related states with the same answer.
* `replay_refines_history` — hence every sequence of calls whose clock does not
  run backwards is answered as the reference model answers it.
-/

namespace Maverick

open Lib

/-- The arguments of one `check_and_insert` call. -/
structure ReplayCall where
  credentialId : String
  nonce : Nonce
  timestampUnix : Int64
  nowUnix : Int64
  deriving DecidableEq

namespace ReplayCall

/-- The entry a call leaves in the cache when it is accepted. -/
def entry (x : ReplayCall) : ReplayEntry := ⟨x.nonce, x.timestampUnix⟩

/-- The oldest timestamp that is in the window of a call. -/
def cutoff (windowSecs : Int64) (x : ReplayCall) : Int := x.nowUnix.toInt - windowSecs.toInt

/-- Neither end of the window overflows, and the timestamp lies in it. -/
def InWindow (windowSecs : Int64) (x : ReplayCall) : Prop :=
  -2 ^ 63 ≤ x.nowUnix.toInt - windowSecs.toInt ∧ x.nowUnix.toInt - windowSecs.toInt < 2 ^ 63 ∧
  -2 ^ 63 ≤ x.nowUnix.toInt + windowSecs.toInt ∧ x.nowUnix.toInt + windowSecs.toInt < 2 ^ 63 ∧
  x.nowUnix.toInt - windowSecs.toInt ≤ x.timestampUnix.toInt ∧
  x.timestampUnix.toInt ≤ x.nowUnix.toInt + windowSecs.toInt

instance (windowSecs : Int64) (x : ReplayCall) : Decidable (x.InWindow windowSecs) :=
  inferInstanceAs (Decidable (_ ∧ _))

end ReplayCall

/-- `check_and_insert` on the arguments of a call. -/
def ReplayCache.call (c : ReplayCache) (x : ReplayCall) : ReplayCache × Except Error Unit :=
  c.checkAndInsert x.credentialId x.nonce x.timestampUnix x.nowUnix

/-- The cache after a sequence of calls. -/
def ReplayCache.after (c : ReplayCache) (calls : List ReplayCall) : ReplayCache :=
  calls.foldl (fun c x => (c.call x).1) c

/-- The fixed parameters of a cache. -/
structure ReplayLimits where
  windowSecs : Int64
  maxEntriesPerCredential : Nat
  maxCredentials : Nat

/-! ## The reference model -/

/-- Everything accepted so far, oldest first, and the cutoff of the last call
that passed the window check (before the first one, the least timestamp). -/
structure History where
  accepted : List ReplayCall
  swept : Int

namespace History

/-- Nothing accepted yet. -/
def empty : History := ⟨[], -2 ^ 63⟩

/-- The accepted calls that are live at a cutoff. -/
def live (h : History) (cut : Int) : List ReplayCall :=
  h.accepted.filter fun a => decide (cut ≤ a.timestampUnix.toInt)

/-- The live entries of one credential. -/
def entriesAt (h : History) (cut : Int) (k : String) : List ReplayEntry :=
  ((h.live cut).filter fun a => decide (a.credentialId = k)).map ReplayCall.entry

/-- The credentials that have a live entry. -/
def liveCredentials (h : History) (cut : Int) : Finset String :=
  ((h.live cut).map ReplayCall.credentialId).toFinset

/-- **When a call is accepted**: it is in its window, no accepted call with the
same credential and nonce is still live, the credential is already live or the
credential cap leaves room for it, and its live entries are below its cap. -/
def Accepts (l : ReplayLimits) (h : History) (x : ReplayCall) : Prop :=
  x.InWindow l.windowSecs ∧
  (¬ ∃ a ∈ h.accepted, a.credentialId = x.credentialId ∧ a.nonce = x.nonce ∧
    x.nowUnix.toInt - l.windowSecs.toInt ≤ a.timestampUnix.toInt) ∧
  (x.credentialId ∈ h.liveCredentials (x.cutoff l.windowSecs) ∨
    (h.liveCredentials (x.cutoff l.windowSecs)).card < l.maxCredentials) ∧
  (h.entriesAt (x.cutoff l.windowSecs) x.credentialId).length < l.maxEntriesPerCredential

instance (l : ReplayLimits) (h : History) (x : ReplayCall) : Decidable (h.Accepts l x) :=
  inferInstanceAs (Decidable (_ ∧ _))

/-- One call in the reference model: a call in its window moves the cutoff, and
an accepted one is remembered. -/
def step (l : ReplayLimits) (h : History) (x : ReplayCall) : History :=
  if x.InWindow l.windowSecs then
    ⟨if h.Accepts l x then h.accepted ++ [x] else h.accepted, x.cutoff l.windowSecs⟩
  else h

/-- The reference model after a sequence of calls. -/
def after (l : ReplayLimits) (calls : List ReplayCall) : History :=
  calls.foldl (step l) empty

theorem after_snoc (l : ReplayLimits) (calls : List ReplayCall) (x : ReplayCall) :
    after l (calls ++ [x]) = (after l calls).step l x := by
  simp [after]

/-! ### Live entries -/

variable {h : History} {cut : Int} {k : String}

theorem mem_live {a : ReplayCall} :
    a ∈ h.live cut ↔ a ∈ h.accepted ∧ cut ≤ a.timestampUnix.toInt := by
  simp [live]

theorem mem_liveCredentials : k ∈ h.liveCredentials cut ↔ h.entriesAt cut k ≠ [] := by
  constructor
  · intro hk
    simp only [liveCredentials, List.mem_toFinset, List.mem_map] at hk
    obtain ⟨a, ha, rfl⟩ := hk
    refine List.ne_nil_of_mem (a := a.entry) (List.mem_map.mpr ⟨a, ?_, rfl⟩)
    simpa using ha
  · intro hk
    obtain ⟨e, he⟩ := List.exists_mem_of_ne_nil _ hk
    obtain ⟨a, ha, -⟩ := List.mem_map.mp he
    obtain ⟨ha, hak⟩ := List.mem_filter.mp ha
    simp only [liveCredentials, List.mem_toFinset, List.mem_map]
    exact ⟨a, ha, by simpa using hak⟩

/-- Moving the cutoff forward only drops entries. -/
theorem keepFrom_entriesAt {cut' : Int64} (hle : cut ≤ cut'.toInt) (k : String) :
    ReplayCache.keepFrom cut' (h.entriesAt cut k) = h.entriesAt cut'.toInt k := by
  unfold ReplayCache.keepFrom entriesAt live
  rw [List.filter_map, List.filter_filter, List.filter_filter, List.filter_filter]
  congr 1
  refine List.filter_congr fun a _ => ?_
  simp only [Function.comp, ReplayCall.entry, Int64.le_iff_toInt_le, ← Bool.decide_and]
  refine decide_eq_decide.mpr ⟨?_, ?_⟩
  · rintro ⟨⟨h1, h2⟩, -⟩; exact ⟨h2, h1⟩
  · rintro ⟨h1, h2⟩; exact ⟨⟨h2, h1⟩, by omega⟩

/-- Every cutoff the model has swept at is that of a call made before. -/
theorem swept_after (l : ReplayLimits) (calls : List ReplayCall) :
    (after l calls).swept = -2 ^ 63 ∨ ∃ y ∈ calls, (after l calls).swept = y.cutoff l.windowSecs := by
  induction calls using List.reverseRecOn with
  | nil => exact Or.inl rfl
  | append_singleton calls x ih =>
    rw [after_snoc, step]
    split
    · exact Or.inr ⟨x, by simp, rfl⟩
    rcases ih with h | ⟨y, hy, h⟩
    exacts [Or.inl h, Or.inr ⟨y, by simp [hy], h⟩]

/-- Remembering one more call, live at the cutoff, adds its entry to its own
credential. -/
theorem entriesAt_snoc (h : History) (cut : Int) (x : ReplayCall)
    (hx : cut ≤ x.timestampUnix.toInt) (k : String) :
    (⟨h.accepted ++ [x], cut⟩ : History).entriesAt cut k =
      if k = x.credentialId then h.entriesAt cut x.credentialId ++ [x.entry]
      else h.entriesAt cut k := by
  unfold entriesAt live
  rw [List.filter_append, List.filter_append, List.map_append]
  by_cases hk : k = x.credentialId
  · subst hk
    simp [hx]
  · have hk' : x.credentialId ≠ k := fun h => hk h.symm
    simp [hx, hk, hk']

theorem liveCredentials_snoc (h : History) (cut : Int) (x : ReplayCall)
    (hx : cut ≤ x.timestampUnix.toInt) :
    (⟨h.accepted ++ [x], cut⟩ : History).liveCredentials cut =
      insert x.credentialId (h.liveCredentials cut) := by
  ext k
  simp [liveCredentials, live, hx]

/-- A nonce is cached for a credential exactly when an accepted call with it is
still live. -/
theorem mem_nonceSet_entriesAt {n : Nonce} :
    n ∈ ReplayCache.nonceSet (h.entriesAt cut k) ↔
      ∃ a ∈ h.accepted, a.credentialId = k ∧ a.nonce = n ∧ cut ≤ a.timestampUnix.toInt := by
  simp only [ReplayCache.nonceSet, entriesAt, List.mem_toFinset, List.map_map, List.mem_map,
    List.mem_filter, mem_live, decide_eq_true_eq, Function.comp]
  constructor
  · rintro ⟨a, ⟨⟨ha, hcut⟩, hk⟩, rfl⟩; exact ⟨a, ha, hk, rfl, hcut⟩
  · rintro ⟨a, ha, hk, rfl, hcut⟩; exact ⟨a, ⟨⟨ha, hcut⟩, hk⟩, rfl⟩

end History

/-! ## Well-formed caches -/

/-- What every reachable cache satisfies: for each credential the nonce set is
the set of nonces of the entry list, no nonce is repeated, the state is not
empty and the per-credential cap holds; and the credential cap holds. -/
structure ReplayCache.WellFormed (c : ReplayCache) : Prop where
  keys_eq : ∀ k st, c.credentials.lookup k = some st → st.keys = ReplayCache.nonceSet st.entries
  nodup : ∀ k st, c.credentials.lookup k = some st → (st.entries.map ReplayEntry.nonce).Nodup
  ne_nil : ∀ k st, c.credentials.lookup k = some st → st.entries ≠ []
  entries_le : ∀ k st, c.credentials.lookup k = some st →
    st.entries.length ≤ c.maxEntriesPerCredential
  size_le : Table.size c.credentials ≤ c.maxCredentials

/-! ## The simulation -/

open ReplayCache History

/-- The cache stores, for each credential, the accepted calls live at `cut`,
with no repeated nonce and within both caps. -/
structure SimulatesAt (l : ReplayLimits) (c : ReplayCache) (h : History) (cut : Int) : Prop where
  windowSecs : c.windowSecs = l.windowSecs
  maxEntries : c.maxEntriesPerCredential = l.maxEntriesPerCredential
  maxCredentials : c.maxCredentials = l.maxCredentials
  stored : ∀ k, c.credentials.lookup k = stored (h.entriesAt cut k)
  nodup : ∀ k, ((h.entriesAt cut k).map ReplayEntry.nonce).Nodup
  entries_le : ∀ k, (h.entriesAt cut k).length ≤ l.maxEntriesPerCredential
  credentials_le : (h.liveCredentials cut).card ≤ l.maxCredentials

/-- **The simulation relation**: the cache stores what was live at the cutoff
of the last call that passed the window check. -/
def Simulates (l : ReplayLimits) (c : ReplayCache) (h : History) : Prop :=
  SimulatesAt l c h h.swept

theorem isSome_stored (es : List ReplayEntry) : (stored es).isSome ↔ es ≠ [] := by
  unfold ReplayCache.stored
  split <;> simp_all

namespace SimulatesAt

variable {l : ReplayLimits} {c : ReplayCache} {h : History} {cut : Int}

/-- The cache has as many credentials as are live. -/
theorem size_eq (hs : SimulatesAt l c h cut) :
    Table.size c.credentials = (h.liveCredentials cut).card := by
  rw [← Table.card_keySet]
  congr 1
  ext k
  rw [Table.mem_keySet, hs.stored k, isSome_stored, mem_liveCredentials]

theorem wellFormed (hs : SimulatesAt l c h cut) : c.WellFormed := by
  have key : ∀ k st, c.credentials.lookup k = some st →
      h.entriesAt cut k ≠ [] ∧ st = ⟨nonceSet (h.entriesAt cut k), h.entriesAt cut k⟩ := by
    intro k st hst
    rw [hs.stored k, ReplayCache.stored] at hst
    split at hst
    · cases hst
    · rename_i hne
      exact ⟨hne, (Option.some.inj hst).symm⟩
  constructor
  · intro k st hst; rw [(key k st hst).2]
  · intro k st hst; rw [(key k st hst).2]; exact hs.nodup k
  · intro k st hst; rw [(key k st hst).2]; exact (key k st hst).1
  · intro k st hst; rw [(key k st hst).2, hs.maxEntries]; exact hs.entries_le k
  · rw [hs.size_eq, hs.maxCredentials]; exact hs.credentials_le

theorem entriesOf_eq (hs : SimulatesAt l c h cut) (k : String) :
    c.entriesOf k = h.entriesAt cut k := by
  rw [entriesOf_eq_of_stored (hs.stored k)]

/-- **The eviction pass moves the cutoff forward.** -/
theorem cleanup (hs : SimulatesAt l c h cut) {nowUnix : Int64} {cut' : Int}
    (hcut : (saturatingSub nowUnix c.windowSecs).toInt = cut') (hle : cut ≤ cut') :
    SimulatesAt l (c.cleanup nowUnix) h cut' := by
  subst hcut
  have hkeep := fun k => keepFrom_entriesAt (h := h) hle k
  refine ⟨hs.windowSecs, hs.maxEntries, hs.maxCredentials, fun k => ?_, fun k => ?_, fun k => ?_, ?_⟩
  · rw [lookup_cleanup hs.stored hs.nodup, hkeep]
  · rw [← hkeep k]
    exact (hs.nodup k).sublist (List.filter_sublist.map _)
  · rw [← hkeep k]
    exact (List.length_filter_le _ _).trans (hs.entries_le k)
  refine (Finset.card_le_card fun k hk => ?_).trans hs.credentials_le
  rw [mem_liveCredentials] at hk ⊢
  rw [← hkeep k] at hk
  intro hnil
  rw [hnil] at hk
  exact hk rfl

variable {x : ReplayCall}

/-- In a cache that stores what is live at a call's own cutoff, there is room
for the call exactly when the reference model accepts it. -/
theorem hasRoom_iff (hs : SimulatesAt l c h (x.cutoff l.windowSecs))
    (hwin : x.InWindow l.windowSecs) :
    HasRoom c (h.entriesAt (x.cutoff l.windowSecs) x.credentialId) x.nonce ↔ h.Accepts l x := by
  rw [HasRoom, hs.size_eq, ← mem_liveCredentials, mem_nonceSet_entriesAt, hs.maxEntries,
    hs.maxCredentials]
  constructor
  · rintro ⟨h1, h2, h3⟩; exact ⟨hwin, h2, h1, h3⟩
  · rintro ⟨-, h2, h1, h3⟩; exact ⟨h1, h2, h3⟩

/-- Appending the entry of an accepted call keeps the relation. -/
theorem accept (hs : SimulatesAt l c h (x.cutoff l.windowSecs)) (hacc : h.Accepts l x)
    {c' : ReplayCache}
    (hlim : c'.windowSecs = c.windowSecs ∧ c'.maxEntriesPerCredential = c.maxEntriesPerCredential ∧
      c'.maxCredentials = c.maxCredentials)
    (hlook : ∀ k, c'.credentials.lookup k = ReplayCache.stored (if k = x.credentialId then
      h.entriesAt (x.cutoff l.windowSecs) x.credentialId ++ [x.entry]
      else h.entriesAt (x.cutoff l.windowSecs) k)) :
    SimulatesAt l c' ⟨h.accepted ++ [x], x.cutoff l.windowSecs⟩ (x.cutoff l.windowSecs) := by
  obtain ⟨hwin, hfresh, hcreds, hroom⟩ := hacc
  have hlive : x.cutoff l.windowSecs ≤ x.timestampUnix.toInt := hwin.2.2.2.2.1
  have hents := entriesAt_snoc h (x.cutoff l.windowSecs) x hlive
  refine ⟨hlim.1.trans hs.windowSecs, hlim.2.1.trans hs.maxEntries,
    hlim.2.2.trans hs.maxCredentials, fun k => ?_, fun k => ?_, fun k => ?_, ?_⟩
  · rw [hlook k, hents]
  · rw [hents]
    split
    · rw [List.map_append, List.nodup_append]
      refine ⟨hs.nodup _, by simp, ?_⟩
      rintro n hn m hm rfl
      have hm' : n = x.nonce := by simpa [ReplayCall.entry] using hm
      subst hm'
      exact hfresh (mem_nonceSet_entriesAt.mp (List.mem_toFinset.mpr hn))
    · exact hs.nodup k
  · rw [hents]
    split
    · rw [List.length_append]; exact hroom
    · exact hs.entries_le k
  · rw [liveCredentials_snoc h _ x hlive]
    rcases hcreds with hmem | hlt
    · rw [Finset.insert_eq_of_mem hmem]; exact hs.credentials_le
    · exact (Finset.card_insert_le _ _).trans hlt

end SimulatesAt

/-- A fresh cache simulates the empty history. -/
theorem simulates_new (l : ReplayLimits) :
    Simulates l (ReplayCache.new l.windowSecs l.maxEntriesPerCredential l.maxCredentials)
      History.empty := by
  constructor <;> intros <;> simp [ReplayCache.new, History.empty, entriesAt, live,
    liveCredentials, ReplayCache.stored]

variable {l : ReplayLimits} {h : History} {x : ReplayCall}

/-- **One call of the simulation.**  Started in related states, with a clock
not behind the last cutoff, the cache answers as the reference model does and
the states stay related. -/
theorem simulates_call (hcap : 0 < l.maxEntriesPerCredential) {c : ReplayCache}
    (hs : Simulates l c h) (x : ReplayCall)
    (hclock : x.InWindow l.windowSecs → h.swept ≤ x.cutoff l.windowSecs) :
    ((c.call x).2.isOk = true ↔ h.Accepts l x) ∧ Simulates l (c.call x).1 (h.step l x) := by
  unfold ReplayCache.call checkAndInsert
  by_cases hwin : x.InWindow l.windowSecs
  · have hnone : windowError c.windowSecs x.timestampUnix x.nowUnix = none := by
      rw [hs.windowSecs]; exact windowError_eq_none.mpr hwin
    have hcut : (saturatingSub x.nowUnix c.windowSecs).toInt = x.cutoff l.windowSecs := by
      rw [toInt_cutoff hnone, hs.windowSecs]; rfl
    have hclean := SimulatesAt.cleanup hs hcut (hclock hwin)
    have hroom := hclean.hasRoom_iff hwin
    have hlim := insertFresh_limits (c.cleanup x.nowUnix) x.credentialId x.nonce x.timestampUnix
    simp only [hnone]
    rcases insertFresh_spec hclean.stored (hclean.maxEntries ▸ hcap) x.credentialId x.nonce
      x.timestampUnix with ⟨hhas, hok, hlook⟩ | ⟨hhas, ⟨e, herr⟩, hlook⟩
    · have hacc := hroom.mp hhas
      refine ⟨by rw [hok]; exact iff_of_true rfl hacc, ?_⟩
      rw [History.step, if_pos hwin, if_pos hacc]
      exact hclean.accept hacc hlim hlook
    have hacc : ¬ h.Accepts l x := fun ha => hhas (hroom.mpr ha)
    refine ⟨by rw [herr]; exact iff_of_false (by simp [Except.isOk, Except.toBool]) hacc, ?_⟩
    rw [History.step, if_pos hwin, if_neg hacc]
    exact ⟨hlim.1.trans hclean.windowSecs, hlim.2.1.trans hclean.maxEntries,
      hlim.2.2.trans hclean.maxCredentials, hlook, hclean.nodup, hclean.entries_le,
      hclean.credentials_le⟩
  · cases he : windowError c.windowSecs x.timestampUnix x.nowUnix with
    | none => rw [hs.windowSecs] at he; exact absurd (windowError_eq_none.mp he) hwin
    | some e =>
      refine ⟨iff_of_false (by simp [Except.isOk, Except.toBool]) fun ha => hwin ha.1, ?_⟩
      rwa [History.step, if_neg hwin]

/-! ## Whole sequences of calls -/

/-- A cache with the given limits, after a sequence of calls. -/
def ReplayLimits.run (l : ReplayLimits) (calls : List ReplayCall) : ReplayCache :=
  (ReplayCache.new l.windowSecs l.maxEntriesPerCredential l.maxCredentials).after calls

theorem ReplayLimits.run_snoc (l : ReplayLimits) (calls : List ReplayCall) (x : ReplayCall) :
    l.run (calls ++ [x]) = ((l.run calls).call x).1 := by
  simp [run, ReplayCache.after]

/-- The clock of a call is not behind any cutoff swept before it. -/
theorem swept_le_cutoff {calls : List ReplayCall}
    (hclock : ((calls ++ [x]).map ReplayCall.nowUnix).Pairwise (· ≤ ·))
    (hwin : x.InWindow l.windowSecs) : (History.after l calls).swept ≤ x.cutoff l.windowSecs := by
  rcases swept_after l calls with h | ⟨y, hy, h⟩
  · rw [h]
    exact hwin.1
  have hyx : y.nowUnix ≤ x.nowUnix := by
    rw [List.map_append, List.pairwise_append] at hclock
    exact hclock.2.2 _ (List.mem_map_of_mem hy) _ (by simp)
  rw [Int64.le_iff_toInt_le] at hyx
  rw [h, ReplayCall.cutoff, ReplayCall.cutoff]
  omega

/-- **Every sequence of calls is simulated.** -/
theorem simulates_run (hcap : 0 < l.maxEntriesPerCredential) (calls : List ReplayCall)
    (hclock : (calls.map ReplayCall.nowUnix).Pairwise (· ≤ ·)) :
    Simulates l (l.run calls) (History.after l calls) := by
  induction calls using List.reverseRecOn with
  | nil => exact simulates_new l
  | append_singleton calls x ih =>
    rw [ReplayLimits.run_snoc, after_snoc]
    have hpre : (calls.map ReplayCall.nowUnix).Pairwise (· ≤ ·) := by
      rw [List.map_append, List.pairwise_append] at hclock
      exact hclock.1
    exact (simulates_call hcap (ih hpre) x (swept_le_cutoff hclock)).2

/-- A refused call forgets nothing that is still live at its own cutoff. -/
theorem entriesAt_step_of_refused (hacc : ¬ h.Accepts l x) {k : String} {e : ReplayEntry}
    (he : e ∈ h.entriesAt h.swept k) (hlive : x.cutoff l.windowSecs ≤ e.timestampUnix.toInt) :
    e ∈ (h.step l x).entriesAt (h.step l x).swept k := by
  rw [History.step, if_neg hacc]
  split
  · simp only [entriesAt, List.mem_map, List.mem_filter, mem_live] at he ⊢
    obtain ⟨a, ⟨⟨ha, -⟩, hk⟩, rfl⟩ := he
    exact ⟨a, ⟨⟨ha, hlive⟩, hk⟩, rfl⟩
  · exact he

/-- **The cache refines the history.**  After any sequence of calls whose clock
does not run backwards, the next call is accepted exactly when the history
accepts it, and leaves exactly the entries the history then has live; the cache
is well formed before and after, and a refused call drops no live entry. -/
theorem replay_refines_history (l : ReplayLimits) (hcap : 0 < l.maxEntriesPerCredential)
    (calls : List ReplayCall) (x : ReplayCall)
    (hclock : ((calls ++ [x]).map ReplayCall.nowUnix).Pairwise (· ≤ ·)) :
    (((l.run calls).call x).2.isOk = true ↔ (History.after l calls).Accepts l x) ∧
    (∀ k, (l.run (calls ++ [x])).credentials.lookup k =
      ReplayCache.stored ((History.after l (calls ++ [x])).entriesAt
        (History.after l (calls ++ [x])).swept k)) ∧
    (l.run calls).WellFormed ∧ (l.run (calls ++ [x])).WellFormed ∧
    (((l.run calls).call x).2.isOk = false → ∀ k, ∀ e ∈ (l.run calls).entriesOf k,
      x.cutoff l.windowSecs ≤ e.timestampUnix.toInt →
        e ∈ (l.run (calls ++ [x])).entriesOf k) := by
  have hpre : (calls.map ReplayCall.nowUnix).Pairwise (· ≤ ·) := by
    rw [List.map_append, List.pairwise_append] at hclock
    exact hclock.1
  have hs := simulates_run hcap calls hpre
  have hs' := simulates_run hcap (calls ++ [x]) hclock
  have hans := (simulates_call hcap hs x (swept_le_cutoff hclock)).1
  refine ⟨hans, hs'.stored, hs.wellFormed, hs'.wellFormed, ?_⟩
  intro hrefused k e he hlive
  rw [hs.entriesOf_eq] at he
  rw [hs'.entriesOf_eq, after_snoc]
  refine entriesAt_step_of_refused (fun hacc => ?_) he hlive
  rw [hans.mpr hacc] at hrefused
  exact absurd hrefused (by decide)

/-- A repeated nonce, two seconds after the first use, in a ten-second window. -/
theorem replay_refines_history_repeated :
    (((ReplayLimits.run ⟨10, 4, 2⟩ [⟨"cred", ⟨List.replicate 32 7, rfl⟩, 100, 100⟩]).call
        ⟨"cred", ⟨List.replicate 32 7, rfl⟩, 100, 102⟩).2.isOk = true ↔
      (History.after ⟨10, 4, 2⟩ [⟨"cred", ⟨List.replicate 32 7, rfl⟩, 100, 100⟩]).Accepts ⟨10, 4, 2⟩
        ⟨"cred", ⟨List.replicate 32 7, rfl⟩, 100, 102⟩) :=
  (replay_refines_history ⟨10, 4, 2⟩ (by decide) [⟨"cred", ⟨List.replicate 32 7, rfl⟩, 100, 100⟩]
    ⟨"cred", ⟨List.replicate 32 7, rfl⟩, 100, 102⟩ (by decide)).1

end Maverick
