import Maverick.Core.Frame
import Maverick.Lib.System
import Maverick.Server.Authenticate

/-!
# Replay protection across concurrent sessions

Any number of tunnel sessions share the sharded replay caches of the server.
A session samples the clock after it has read its first frame
(`handle_tunnel`), and only later, holding the mutex of one shard, runs the
replay check with the value it sampled (`authenticate_tunnel_frame`).  Between
the two, other sessions may sample a later clock and run their checks first.

* `sessions` — the system of all sessions, with every interleaving of clock
  ticks, arrivals, samplings and checks.
* `replayed_by_stale_sample` — a run in which one payload authenticates two
  sessions: a check that uses a stale sample comes after a check that has
  evicted the nonce.
* `at_most_once_of_orderly` — as long as no check comes after a check of the
  same shard that has already evicted timestamps its own window still admits,
  every payload authenticates at most one session.
-/

namespace Maverick
namespace Server

open Lib

def REPLAY_CACHE_SHARDS : Nat := 16

/-- An index into the vector of replay caches. -/
abbrev Shard := Fin REPLAY_CACHE_SHARDS

/-- What a server is given: the primitives of the handshake, the hash that
spreads replay keys over the shards, its state, and the clock at the start. -/
structure Deployment where
  crypto : Crypto
  /-- `DefaultHasher` on a string. -/
  hash : String → UInt64
  state : ServerState
  clock : Int64

namespace Deployment

variable (D : Deployment)

/-- The configured window. -/
def windowSecs : Int64 := D.state.config.maverick.replayWindowSecs

/-- `replay_shard` -/
def replayShard (replayKey : String) : Shard :=
  ⟨(D.hash replayKey).toNat % REPLAY_CACHE_SHARDS, Nat.mod_lt _ (by decide)⟩

/-- `replay_caches` -/
def replayCaches : Shard → ReplayCache := fun _ =>
  ReplayCache.new D.windowSecs D.state.config.maverick.replayCacheEntriesPerCredential
    D.state.config.maverick.replayCacheMaxCredentialsPerShard

/-- `authenticate_tunnel_frame`, with the shard of the hello locked for the
replay check. -/
def authenticateTunnelFrame (caches : Shard → ReplayCache) (frame : Frame) (nowUnix : Int64)
    (channelBinding : Option TlsChannelBinding) :
    (Shard → ReplayCache) × Option AuthenticatedClientHello :=
  if frame.frameType ≠ .clientHello then (caches, none)
  else
    match authenticateClientHello D.crypto D.state frame.payload nowUnix channelBinding with
    | none => (caches, none)
    | some a =>
      let r := (caches (D.replayShard a.replayKey)).checkAndInsert a.replayKey a.clientNonce
        a.timestampUnix nowUnix
      (Function.update caches (D.replayShard a.replayKey) r.1,
        if r.2.isOk then some a else none)

theorem authenticateTunnelFrame_of_none {D : Deployment} {caches : Shard → ReplayCache}
    {frame : Frame} {nowUnix : Int64} {channelBinding : Option TlsChannelBinding}
    (h : authenticateClientHello D.crypto D.state frame.payload nowUnix channelBinding = none) :
    (D.authenticateTunnelFrame caches frame nowUnix channelBinding).2 = none := by
  unfold authenticateTunnelFrame
  split
  · rfl
  · rw [h]

end Deployment

/-! ## The system of sessions -/

/-- How far a session has come: its first frame is read; the clock is sampled;
the replay check has been run with the sample. -/
inductive Phase where
  | read
  | sampled (nowUnix : Int64)
  | checked (nowUnix : Int64) (result : Option AuthenticatedClientHello)
  deriving DecidableEq

structure Session where
  frame : Frame
  channelBinding : Option TlsChannelBinding
  phase : Phase
  deriving DecidableEq

namespace Session

/-- What the session was authenticated as. -/
def authenticated (t : Session) : Option AuthenticatedClientHello :=
  match t.phase with
  | .checked _ result => result
  | _ => none

/-- The shard and the cutoff of the eviction pass the session's check has run:
a check evicts when its hello verifies and lies in the window. -/
def sweep (D : Deployment) (t : Session) : Option (Shard × Int) :=
  match t.phase with
  | .checked nowUnix _ =>
    if t.frame.frameType ≠ .clientHello then none
    else
      match authenticateClientHello D.crypto D.state t.frame.payload nowUnix
        t.channelBinding with
      | none => none
      | some a =>
        if (ReplayCache.windowError D.windowSecs a.timestampUnix nowUnix).isNone then
          some (D.replayShard a.replayKey, nowUnix.toInt - D.windowSecs.toInt)
        else none
  | _ => none

end Session

/-- The clock, the replay caches and all sessions so far. -/
structure Sessions where
  clock : Int64
  caches : Shard → ReplayCache
  sessions : List Session

inductive Action where
  /-- Time passes. -/
  | tick (clock : Int64)
  /-- A session has read its first frame. -/
  | arrive (frame : Frame) (channelBinding : Option TlsChannelBinding)
  /-- A session samples the clock: `let now_unix = current_unix();` -/
  | sample (i : Nat)
  /-- A session runs its replay check under the mutex of the shard. -/
  | check (i : Nat)

/-- One atomic step; the clock never goes backwards. -/
def Sessions.next (D : Deployment) (s : Sessions) : Action → Option Sessions
  | .tick clock => if s.clock ≤ clock then some { s with clock } else none
  | .arrive frame channelBinding =>
    some { s with sessions := s.sessions ++ [⟨frame, channelBinding, .read⟩] }
  | .sample i =>
    match s.sessions[i]? with
    | some ⟨frame, channelBinding, .read⟩ =>
      some { s with sessions := s.sessions.set i ⟨frame, channelBinding, .sampled s.clock⟩ }
    | _ => none
  | .check i =>
    match s.sessions[i]? with
    | some ⟨frame, channelBinding, .sampled nowUnix⟩ =>
      let r := D.authenticateTunnelFrame s.caches frame nowUnix channelBinding
      some { s with
        caches := r.1
        sessions := s.sessions.set i ⟨frame, channelBinding, .checked nowUnix r.2⟩ }
    | _ => none

/-- All interleavings of the sessions of a server. -/
def sessions (D : Deployment) : System Sessions Action where
  start := ⟨D.clock, D.replayCaches, []⟩
  next := Sessions.next D

/-- **At most one session authenticates with any exact payload.** -/
def Sessions.AtMostOnce (s : Sessions) : Prop :=
  ∀ (i j : Nat) (t u : Session), s.sessions[i]? = some t → s.sessions[j]? = some u →
    t.authenticated.isSome → u.authenticated.isSome → t.frame.payload = u.frame.payload → i = j

/-- A check is orderly if no check run before it on the same shard has evicted
the timestamp of its hello while its own, older sample still admits it. -/
def Orderly (D : Deployment) (s : Sessions) (action : Action) : Prop :=
  ∀ i frame channelBinding nowUnix a, action = .check i →
    s.sessions[i]? = some ⟨frame, channelBinding, .sampled nowUnix⟩ →
    authenticateClientHello D.crypto D.state frame.payload nowUnix channelBinding = some a →
    ∀ t ∈ s.sessions, ∀ cutoff, t.sweep D = some (D.replayShard a.replayKey, cutoff) →
      ¬ (nowUnix.toInt - D.windowSecs.toInt ≤ a.timestampUnix.toInt ∧
        a.timestampUnix.toInt < cutoff)

/-- The check that an action runs: its sample, and what its hello verifies as. -/
def Sessions.checking (D : Deployment) (s : Sessions) :
    Action → Option (Int64 × AuthenticatedClientHello)
  | .check i =>
    match s.sessions[i]? with
    | some ⟨frame, channelBinding, .sampled nowUnix⟩ =>
      (authenticateClientHello D.crypto D.state frame.payload nowUnix channelBinding).map
        (nowUnix, ·)
    | _ => none
  | _ => none

theorem orderly_iff {D : Deployment} {s : Sessions} {action : Action} :
    Orderly D s action ↔ ∀ c ∈ s.checking D action, ∀ t ∈ s.sessions, ∀ sweep ∈ t.sweep D,
      sweep.1 = D.replayShard c.2.replayKey →
        ¬ (c.1.toInt - D.windowSecs.toInt ≤ c.2.timestampUnix.toInt ∧
          c.2.timestampUnix.toInt < sweep.2) := by
  constructor
  · rintro h c hc t ht ⟨_, cutoff⟩ hsweep rfl
    cases action with
    | check i =>
      simp only [Sessions.checking] at hc
      split at hc
      · next frame binding now hi =>
        obtain ⟨a, ha, rfl⟩ := Option.map_eq_some_iff.mp hc
        exact h i frame binding now a rfl hi ha t ht cutoff hsweep
      · cases hc
    | _ => cases hc
  · rintro h i frame binding now a rfl hi ha t ht cutoff hsweep
    exact h (now, a) (by simp [Sessions.checking, hi, ha]) t ht _ hsweep rfl

instance (D : Deployment) (s : Sessions) (action : Action) : Decidable (Orderly D s action) :=
  decidable_of_iff _ orderly_iff.symm

/-! ## One check -/

section Check

variable {D : Deployment} {caches : Shard → ReplayCache}

/-- Every shard is consistent and has the configured limits. -/
structure CachesOk (D : Deployment) (caches : Shard → ReplayCache) : Prop where
  consistent : ∀ shard, (caches shard).Consistent
  window : ∀ shard, (caches shard).windowSecs = D.windowSecs
  cap : ∀ shard, (caches shard).maxEntriesPerCredential =
    D.state.config.maverick.replayCacheEntriesPerCredential

theorem cachesOk_new (D : Deployment) : CachesOk D D.replayCaches :=
  ⟨fun _ => ReplayCache.consistent_new _ _ _, fun _ => rfl, fun _ => rfl⟩

variable {c : ReplayCache}

theorem cachesOk_update (hok : CachesOk D caches) (shard : Shard) (hcons : c.Consistent)
    (hwindow : c.windowSecs = D.windowSecs)
    (hcap : c.maxEntriesPerCredential = D.state.config.maverick.replayCacheEntriesPerCredential) :
    CachesOk D (Function.update caches shard c) := by
  refine ⟨?_, ?_, ?_⟩
  · exact (Function.forall_update_iff caches fun _ cache => cache.Consistent).mpr
      ⟨hcons, fun shard' _ => hok.consistent shard'⟩
  · exact (Function.forall_update_iff caches fun _ cache => cache.windowSecs = D.windowSecs).mpr
      ⟨hwindow, fun shard' _ => hok.window shard'⟩
  · exact (Function.forall_update_iff caches fun _ cache => cache.maxEntriesPerCredential = _).mpr
      ⟨hcap, fun shard' _ => hok.cap shard'⟩

/-- An entry survives the eviction pass unless it is older than the cutoff. -/
theorem mem_survivors {now : Int64} {k : String} {e : ReplayEntry} {ts : Int64}
    (hwin : ReplayCache.windowError c.windowSecs ts now = none) (he : e ∈ c.entriesOf k)
    (hcut : now.toInt - c.windowSecs.toInt ≤ e.timestampUnix.toInt) : e ∈ c.survivors now k := by
  refine List.mem_filter.mpr ⟨he, ?_⟩
  rwa [decide_eq_true_eq, Int64.le_iff_toInt_le, ReplayCache.toInt_cutoff hwin]

/-- What a check can do.  It leaves the caches alone and does not authenticate;
or it runs the eviction pass of its shard, keeping every entry that is not older
than its cutoff, and authenticates only a hello whose nonce has not survived,
which it then enters. -/
theorem authenticateTunnelFrame_spec (hok : CachesOk D caches)
    (hcap : 0 < D.state.config.maverick.replayCacheEntriesPerCredential) (frame : Frame)
    (now : Int64) (binding : Option TlsChannelBinding) :
    (D.authenticateTunnelFrame caches frame now binding = (caches, none)) ∨
    ∃ a, frame.frameType = .clientHello ∧
      authenticateClientHello D.crypto D.state frame.payload now binding = some a ∧
      ReplayCache.windowError D.windowSecs a.timestampUnix now = none ∧
      CachesOk D (D.authenticateTunnelFrame caches frame now binding).1 ∧
      (∀ shard k e, e ∈ (caches shard).entriesOf k →
        e ∈ ((D.authenticateTunnelFrame caches frame now binding).1 shard).entriesOf k ∨
        shard = D.replayShard a.replayKey ∧
          e.timestampUnix.toInt < now.toInt - D.windowSecs.toInt) ∧
      ((D.authenticateTunnelFrame caches frame now binding).2 = none ∨
        (D.authenticateTunnelFrame caches frame now binding).2 = some a ∧
        (∀ e ∈ (caches (D.replayShard a.replayKey)).entriesOf a.replayKey,
          e.nonce = a.clientNonce →
            e.timestampUnix.toInt < now.toInt - D.windowSecs.toInt) ∧
        ⟨a.clientNonce, a.timestampUnix⟩ ∈ ((D.authenticateTunnelFrame caches frame now binding).1
          (D.replayShard a.replayKey)).entriesOf a.replayKey) := by
  unfold Deployment.authenticateTunnelFrame
  by_cases hframe : frame.frameType = .clientHello
  · rw [if_neg (not_not.mpr hframe)]
    cases hauth : authenticateClientHello D.crypto D.state frame.payload now binding with
    | none => exact Or.inl rfl
    | some a =>
      dsimp only
      obtain ⟨shard, hshard⟩ : ∃ shard, D.replayShard a.replayKey = shard := ⟨_, rfl⟩
      obtain ⟨c, hc⟩ : ∃ c, caches shard = c := ⟨_, rfl⟩
      have hwindow : c.windowSecs = D.windowSecs := hc ▸ hok.window shard
      rw [hshard, hc]
      rcases ReplayCache.checkAndInsert_spec (hc ▸ hok.consistent shard)
          (by rw [← hc, hok.cap]; exact hcap) a.replayKey a.clientNonce a.timestampUnix now with
        ⟨-, hsame, hrefused⟩ | ⟨hwin, hcons, hcases⟩
      · refine Or.inl ?_
        rw [hsame, hrefused, ← hc, Function.update_eq_self]
        rfl
      have hlimits := ReplayCache.checkAndInsert_limits c a.replayKey a.clientNonce
        a.timestampUnix now
      have hkeep : ∀ k e, e ∈ c.entriesOf k →
          e ∈ c.survivors now k ∨ e.timestampUnix.toInt < now.toInt - D.windowSecs.toInt := by
        intro k e he
        by_cases hcut : now.toInt - D.windowSecs.toInt ≤ e.timestampUnix.toInt
        exacts [Or.inl (mem_survivors hwin he (by rw [hwindow]; exact hcut)), Or.inr (by omega)]
      have hok' := cachesOk_update hok shard hcons (hlimits.1.trans hwindow)
        (hlimits.2.trans (hc ▸ hok.cap shard))
      refine Or.inr ⟨a, hframe, rfl, hwindow ▸ hwin, hok', ?_, ?_⟩ <;> rw [hshard]
      · intro shard' k e he
        by_cases hs : shard' = shard
        · subst hs
          rw [Function.update_self]
          rw [hc] at he
          rcases hkeep k e he with hmem | hold
          · refine Or.inl ?_
            rcases hcases with ⟨-, -, hents⟩ | ⟨-, hents⟩
            · rw [hents]
              split
              · rename_i hk; exact List.mem_append_left _ (hk ▸ hmem)
              · exact hmem
            · rw [hents]; exact hmem
          · exact Or.inr ⟨rfl, hold⟩
        · rw [Function.update_of_ne hs]
          exact Or.inl he
      · rcases hcases with ⟨haccepted, hfresh, hents⟩ | ⟨hrefused, -⟩
        · refine Or.inr ⟨by rw [haccepted]; rfl, ?_, ?_⟩
          · intro e he hnonce
            rw [hc] at he
            rcases hkeep a.replayKey e he with hmem | hold
            · exact absurd (List.mem_toFinset.mpr (List.mem_map.mpr ⟨e, hmem, hnonce⟩)) hfresh
            · exact hold
          · rw [Function.update_self, hents, if_pos rfl]
            exact List.mem_append_right _ (List.mem_singleton.mpr rfl)
        · exact Or.inl (by rw [hrefused]; rfl)
  · rw [if_pos hframe]
    exact Or.inl rfl

end Check

/-! ## The invariant of orderly runs -/

/-- What the caches remember of the authenticated sessions: the entry of each is
still there, or a later check of its shard has evicted it as too old. -/
def Remembered (D : Deployment) (s : Sessions) (a : AuthenticatedClientHello) : Prop :=
  ⟨a.clientNonce, a.timestampUnix⟩ ∈
    (s.caches (D.replayShard a.replayKey)).entriesOf a.replayKey ∨
  ∃ u ∈ s.sessions, ∃ cutoff, u.sweep D = some (D.replayShard a.replayKey, cutoff) ∧
    a.timestampUnix.toInt < cutoff

structure ReplaySafe (D : Deployment) (s : Sessions) : Prop where
  caches : CachesOk D s.caches
  identity : ∀ t ∈ s.sessions, ∀ a, t.authenticated = some a →
    helloIdentity t.frame.payload = some (a.replayKey, a.clientNonce, a.timestampUnix)
  remembered : ∀ t ∈ s.sessions, ∀ a, t.authenticated = some a → Remembered D s a
  once : s.AtMostOnce

section Steps

variable {D : Deployment} {s : Sessions}

variable {l : List Session} {i : Nat} {x y : Session} {frame : Frame}
  {binding : Option TlsChannelBinding} {now : Int64}

/-- Replacing a session that has not been checked keeps every checked one. -/
theorem mem_set_of_checked {u : Session} (hi : l[i]? = some x) (hu : u ∈ l) (hne : u ≠ x) :
    u ∈ l.set i y := by
  obtain ⟨j, hj⟩ := List.mem_iff_getElem?.mp hu
  have hij : i ≠ j := by
    rintro rfl
    rw [hi] at hj
    exact hne (Option.some.inj hj).symm
  exact List.mem_iff_getElem?.mpr ⟨j, by rw [List.getElem?_set_ne hij, hj]⟩

theorem getElem?_set_cases {j : Nat} {t : Session} (h : (l.set i y)[j]? = some t) :
    (j = i ∧ t = y) ∨ (j ≠ i ∧ l[j]? = some t) := by
  by_cases hij : i = j
  · subst hij
    by_cases hlt : i < l.length
    · rw [List.getElem?_set_self hlt] at h
      exact Or.inl ⟨rfl, (Option.some.inj h).symm⟩
    · rw [List.getElem?_eq_none (by simpa using hlt)] at h
      cases h
  · rw [List.getElem?_set_ne hij] at h
    exact Or.inr ⟨fun h' => hij h'.symm, h⟩

/-- Replacing a session by one that is not authenticated, and leaving the
caches alone, keeps the invariant. -/
theorem ReplaySafe.set_quiet (h : ReplaySafe D s) (hi : s.sessions[i]? = some x)
    (hx : x.sweep D = none) (hy : y.authenticated = none) :
    ReplaySafe D { s with sessions := s.sessions.set i y } := by
  have hmem : ∀ t ∈ s.sessions.set i y, ∀ a, t.authenticated = some a → t ∈ s.sessions := by
    intro t ht a ha
    rcases List.mem_or_eq_of_mem_set ht with ht | rfl
    · exact ht
    · rw [hy] at ha; cases ha
  refine ⟨h.caches, ?_, ?_, ?_⟩
  · exact fun t ht a ha => h.identity t (hmem t ht a ha) a ha
  · intro t ht a ha
    rcases h.remembered t (hmem t ht a ha) a ha with hent | ⟨u, hu, cutoff, hsweep, hlt⟩
    · exact Or.inl hent
    refine Or.inr ⟨u, mem_set_of_checked hi hu ?_, cutoff, hsweep, hlt⟩
    rintro rfl
    cases hx.symm.trans hsweep
  · intro j k t u hj hk ht hu hpay
    rcases getElem?_set_cases hj with ⟨rfl, rfl⟩ | ⟨-, hj⟩
    · rw [hy] at ht; cases ht
    rcases getElem?_set_cases hk with ⟨rfl, rfl⟩ | ⟨-, hk⟩
    · rw [hy] at hu; cases hu
    · exact h.once j k t u hj hk ht hu hpay

/-- **An orderly check refuses what has been authenticated before.**  If the
hello of some authenticated session is remembered and an orderly check accepts
a hello, the two differ in key, nonce or timestamp. -/
theorem identity_ne_of_accepted {a a' : AuthenticatedClientHello}
    (horderly : Orderly D s (.check i)) (hi : s.sessions[i]? = some ⟨frame, binding, .sampled now⟩)
    (hauth : authenticateClientHello D.crypto D.state frame.payload now binding = some a)
    (hwin : ReplayCache.windowError D.windowSecs a.timestampUnix now = none)
    (hfresh : ∀ e ∈ (s.caches (D.replayShard a.replayKey)).entriesOf a.replayKey,
      e.nonce = a.clientNonce → e.timestampUnix.toInt < now.toInt - D.windowSecs.toInt)
    (hremembered : Remembered D s a') :
    (a'.replayKey, a'.clientNonce, a'.timestampUnix) ≠
      (a.replayKey, a.clientNonce, a.timestampUnix) := by
  intro hsame
  simp only [Prod.mk.injEq] at hsame
  obtain ⟨hkey, hnonce, hts⟩ := hsame
  have hlow := (ReplayCache.windowError_eq_none.mp hwin).2.2.2.2.1
  rw [Remembered, hkey, hnonce, hts] at hremembered
  rcases hremembered with hent | ⟨u, hu, cutoff, hsweep, hlt⟩
  · have hold := hfresh _ hent rfl
    simp only at hold
    omega
  · exact horderly i frame binding now a rfl hi hauth u hu cutoff hsweep ⟨hlow, hlt⟩

/-- **One orderly check keeps the invariant.** -/
theorem ReplaySafe.check (h : ReplaySafe D s)
    (hcap : 0 < D.state.config.maverick.replayCacheEntriesPerCredential)
    (hi : s.sessions[i]? = some ⟨frame, binding, .sampled now⟩) (horderly : Orderly D s (.check i)) :
    ReplaySafe D { s with
      caches := (D.authenticateTunnelFrame s.caches frame now binding).1
      sessions := s.sessions.set i
        ⟨frame, binding, .checked now (D.authenticateTunnelFrame s.caches frame now binding).2⟩ } := by
  rcases authenticateTunnelFrame_spec h.caches hcap frame now binding with
    hquiet | ⟨a, hframe, hauth, hwin, hok, hkeep, hresult⟩
  · rw [hquiet]
    exact h.set_quiet hi rfl rfl
  obtain ⟨r, hr⟩ : ∃ r, D.authenticateTunnelFrame s.caches frame now binding = r := ⟨_, rfl⟩
  rw [hr] at hok hkeep hresult ⊢
  obtain ⟨y, hy⟩ : ∃ y : Session, y = ⟨frame, binding, .checked now r.2⟩ := ⟨_, rfl⟩
  rw [← hy]
  have hyauth : y.authenticated = r.2 := by rw [hy]; rfl
  have hypay : y.frame = frame := by rw [hy]
  have hysweep : y.sweep D = some (D.replayShard a.replayKey, now.toInt - D.windowSecs.toInt) := by
    rw [hy]
    simp [Session.sweep, hframe, hauth, hwin]
  have hresult' : ∀ a', y.authenticated = some a' → a' = a ∧
      (∀ e ∈ (s.caches (D.replayShard a.replayKey)).entriesOf a.replayKey,
        e.nonce = a.clientNonce → e.timestampUnix.toInt < now.toInt - D.windowSecs.toInt) ∧
      ⟨a.clientNonce, a.timestampUnix⟩ ∈ (r.1 (D.replayShard a.replayKey)).entriesOf a.replayKey := by
    intro a' ha'
    rw [hyauth] at ha'
    rcases hresult with hnone | ⟨hsome, hfresh, hent⟩
    · rw [hnone] at ha'; cases ha'
    · rw [hsome] at ha'
      exact ⟨(Option.some.inj ha').symm, hfresh, hent⟩
  have hlen : i < s.sessions.length := (List.getElem?_eq_some_iff.mp hi).1
  have hymem : y ∈ s.sessions.set i y := List.mem_set hlen y
  have hold : ∀ t ∈ s.sessions, ∀ a', t.authenticated = some a' → t.frame.payload ≠ frame.payload ∨
      y.authenticated = none := by
    intro t ht a' ha'
    cases hya : y.authenticated with
    | none => exact Or.inr rfl
    | some b =>
      refine Or.inl fun hpay => ?_
      obtain ⟨-, hfresh, -⟩ := hresult' b hya
      refine identity_ne_of_accepted horderly hi hauth hwin hfresh (h.remembered t ht a' ha') ?_
      have hid := h.identity t ht a' ha'
      rw [hpay, authenticateClientHello_identity hauth] at hid
      exact (Option.some.inj hid).symm
  refine ⟨hok, ?_, ?_, ?_⟩
  · intro t ht a' ha'
    rcases List.mem_or_eq_of_mem_set ht with ht | rfl
    · exact h.identity t ht a' ha'
    · rw [(hresult' a' ha').1, hypay]
      exact authenticateClientHello_identity hauth
  · intro t ht a' ha'
    rcases List.mem_or_eq_of_mem_set ht with ht | rfl
    · rcases h.remembered t ht a' ha' with hent | ⟨u, hu, cutoff, hsweep, hlt⟩
      · rcases hkeep _ _ _ hent with hent' | ⟨hshard, hlt⟩
        exacts [Or.inl hent', Or.inr ⟨y, hymem, _, by rw [hshard]; exact hysweep, hlt⟩]
      refine Or.inr ⟨u, mem_set_of_checked hi hu ?_, cutoff, hsweep, hlt⟩
      rintro rfl
      cases hsweep
    · obtain ⟨rfl, -, hent⟩ := hresult' a' ha'
      exact Or.inl hent
  · intro j k t u hj hk ht hu hpay
    obtain ⟨a₁, ha₁⟩ := Option.isSome_iff_exists.mp ht
    obtain ⟨a₂, ha₂⟩ := Option.isSome_iff_exists.mp hu
    rcases getElem?_set_cases hj with ⟨rfl, rfl⟩ | ⟨-, hj'⟩
    · rcases getElem?_set_cases hk with ⟨rfl, rfl⟩ | ⟨-, hk'⟩
      · rfl
      rcases hold u (List.mem_of_getElem? hk') a₂ ha₂ with hne | hnone
      · exact absurd (hypay ▸ hpay.symm) hne
      · rw [ha₁] at hnone; cases hnone
    · rcases getElem?_set_cases hk with ⟨rfl, rfl⟩ | ⟨-, hk'⟩
      · rcases hold t (List.mem_of_getElem? hj') a₁ ha₁ with hne | hnone
        · exact absurd (hypay ▸ hpay) hne
        · rw [ha₂] at hnone; cases hnone
      · exact h.once j k t u hj' hk' ht hu hpay

theorem replaySafe_start (D : Deployment) : ReplaySafe D (sessions D).start := by
  refine ⟨cachesOk_new D, ?_, ?_, ?_⟩
  · exact fun t ht => absurd ht (List.not_mem_nil)
  · exact fun t ht => absurd ht (List.not_mem_nil)
  · intro i j t u hi
    simp [sessions] at hi

/-- A new session, not yet authenticated, changes nothing for the others. -/
theorem ReplaySafe.arrive (h : ReplaySafe D s) (frame : Frame)
    (binding : Option TlsChannelBinding) :
    ReplaySafe D { s with sessions := s.sessions ++ [⟨frame, binding, .read⟩] } := by
  have hmem : ∀ t ∈ s.sessions ++ [⟨frame, binding, .read⟩], ∀ a, t.authenticated = some a →
      t ∈ s.sessions := by
    intro t ht a ha
    rcases List.mem_append.mp ht with ht | ht
    · exact ht
    rw [List.mem_singleton] at ht
    subst ht
    cases ha
  have hget : ∀ (j : Nat) (t : Session), (s.sessions ++ [⟨frame, binding, .read⟩])[j]? = some t →
      t.authenticated.isSome → s.sessions[j]? = some t := by
    intro j t hj ht
    by_cases hlt : j < s.sessions.length
    · rwa [List.getElem?_append_left hlt] at hj
    rw [List.getElem?_append_right (by omega)] at hj
    have hnew := List.mem_singleton.mp (List.mem_of_getElem? hj)
    subst hnew
    cases ht
  refine ⟨h.caches, ?_, ?_, ?_⟩
  · exact fun t ht a ha => h.identity t (hmem t ht a ha) a ha
  · intro t ht a ha
    rcases h.remembered t (hmem t ht a ha) a ha with hent | ⟨u, hu, hrest⟩
    exacts [Or.inl hent, Or.inr ⟨u, List.mem_append_left _ hu, hrest⟩]
  · intro j k t u hj hk ht hu hpay
    exact h.once j k t u (hget j t hj ht) (hget k u hk hu) ht hu hpay

/-- **Every orderly step keeps the invariant.** -/
theorem ReplaySafe.step (hcap : 0 < D.state.config.maverick.replayCacheEntriesPerCredential)
    {action : Action} {s' : Sessions} (h : ReplaySafe D s) (horderly : Orderly D s action)
    (hnext : Sessions.next D s action = some s') : ReplaySafe D s' := by
  cases action with
  | tick clock =>
    simp only [Sessions.next] at hnext
    split at hnext
    · cases hnext
      exact ⟨h.caches, h.identity, h.remembered, h.once⟩
    · cases hnext
  | arrive frame binding =>
    cases hnext
    exact h.arrive frame binding
  | sample i =>
    simp only [Sessions.next] at hnext
    split at hnext
    · rename_i frame binding hi
      cases hnext
      exact h.set_quiet hi rfl rfl
    · cases hnext
  | check i =>
    simp only [Sessions.next] at hnext
    split at hnext
    · rename_i frame binding now hi
      cases hnext
      exact h.check hcap hi horderly
    · cases hnext

end Steps

/-! ## Whole runs -/

/-- In every run the caches stay consistent and keep their limits. -/
theorem cachesOk_of_reach (D : Deployment)
    (hcap : 0 < D.state.config.maverick.replayCacheEntriesPerCredential) {s : Sessions}
    (h : (sessions D).Reach s) : CachesOk D s.caches := by
  refine h.invariant (I := fun s : Sessions => CachesOk D s.caches) (cachesOk_new D) ?_
  intro s action t hok _ hnext
  cases action with
  | tick clock | sample i =>
    simp only [sessions, Sessions.next] at hnext
    split at hnext <;> cases hnext
    exact hok
  | arrive frame channelBinding =>
    cases hnext
    exact hok
  | check i =>
    simp only [sessions, Sessions.next] at hnext
    split at hnext <;> cases hnext
    next frame binding now _ =>
      rcases authenticateTunnelFrame_spec hok hcap frame now binding with hnone |
          ⟨_, _, _, _, hok', _⟩
      · simp only [hnone]
        exact hok
      · exact hok'

/-- **Replay protection in orderly runs.**  In every interleaving all of whose
checks are orderly, every payload authenticates at most one session. -/
theorem at_most_once_of_orderly (D : Deployment) (P : Parsers)
    (hvalid : D.state.config.validate P = .ok ()) (s : Sessions)
    (h : (sessions D).ReachBy (Orderly D) s) : s.AtMostOnce := by
  have hcap := (ServerConfig.limits_of_validate hvalid).2.1
  have hsafe : ReplaySafe D s := h.invariant (replaySafe_start D)
    fun _ _ _ hinv horderly hnext => hinv.step hcap horderly hnext
  exact hsafe.once

/-! ### A small deployment -/

namespace Sample

/-- A ten-second window, version 1 only, channel binding not required. -/
def config : ServerConfig where
  maverick := ⟨"/assets/upload", 10, 4, 2, 64⟩
  users := [alice]
  auth := ⟨⟨true, false⟩, ⟨false, false, []⟩⟩
  maxFrameSize := 65536

theorem config_valid : config.validate parsers = .ok () := by decide

def state : ServerState where
  config := config
  users := ⟨AList.insert "alice" alice ∅, ∅⟩
  dummyAuthSecret := "mv1_BBBBBBBBBBBBBBBBBBBBBBBBBBBBBBBBBBBBBBBBBBB"

def deployment (C : Crypto) (hash : String → UInt64) : Deployment := ⟨C, hash, state, 1000⟩

/-- A hello of the user, as `ClientHello::try_new` makes it. -/
def hello (C : Crypto) (nonce : Block 32) (timestamp : Int64) : ClientHello :=
  ⟨PROTOCOL_VERSION, nonce, timestamp, "alice", .auto, 0,
    clientAuthTag C secret ⟨PROTOCOL_VERSION, nonce, timestamp, "alice", "/assets/upload", .auto, 0,
      none⟩⟩

def helloFrame (C : Crypto) (nonce : Block 32) (timestamp : Int64) : Frame :=
  ⟨.clientHello, 0, 0, (hello C nonce timestamp).encode⟩

def authenticated (nonce : Block 32) (timestamp : Int64) : AuthenticatedClientHello :=
  ⟨⟨alice, secret, .active⟩, "alice", 0, .v1 nonce timestamp⟩

/-- The server verifies the hello whenever it is presented. -/
theorem authenticate_hello (C : Crypto) (nonce : Block 32) (timestamp now : Int64) :
    authenticateClientHello C state (hello C nonce timestamp).encode now none =
      some (authenticated nonce timestamp) := by
  have hlen : (utf8 "alice").length ≤ AUTH_V1_MAX_CREDENTIAL_ID_LEN := by decide
  have hflags : selectedClientFeatureFlags 0 config.auth.channelBinding none = some 0 := by decide
  have hbinding : selectedChannelBinding 0 (selectedChannelBindingForFlags 0 none) = some none := by
    decide
  refine authenticateClientHello_eq_some.mpr (Or.inl ⟨payloadVersion_putU16 _ _, rfl, ?_⟩)
  refine authenticateClientHelloV1_eq_some.mpr ⟨hello C nonce timestamp,
    ClientHello.decode_eq_ok.mpr ⟨hlen, rfl⟩, rfl, 0, hflags, ?_, ⟨alice, secret, .active⟩, rfl, rfl⟩
  exact ClientHello.verify_iff.mpr ⟨none, hbinding, rfl⟩

def nonce : Block 32 := Block.fill 32 1
def otherNonce : Block 32 := Block.fill 32 2

/-- The payload of the first session is presented again while it is in the
window, but the check of that second session waits until another hello has been
checked one second later. -/
def race (C : Crypto) : List Action :=
  [.arrive (helloFrame C nonce 1000) none, .sample 0, .check 0,
    .tick 1010, .arrive (helloFrame C nonce 1000) none, .sample 1,
    .tick 1011, .arrive (helloFrame C otherNonce 1011) none, .sample 2, .check 2,
    .check 1]

/-- The payload is presented again five seconds later. -/
def repeated (C : Crypto) : List Action :=
  [.arrive (helloFrame C nonce 1000) none, .sample 0, .check 0, .tick 1005,
    .arrive (helloFrame C nonce 1000) none, .sample 1, .check 1]

/-- One check of a hello of the user: the outcome is that of its shard. -/
theorem authenticateTunnelFrame_hello (C : Crypto) (hash : String → UInt64)
    (caches : Shard → ReplayCache) (n : Block 32) (timestamp now : Int64) :
    (deployment C hash).authenticateTunnelFrame caches (helloFrame C n timestamp) now none =
      (Function.update caches ((deployment C hash).replayShard "alice")
          ((caches ((deployment C hash).replayShard "alice")).checkAndInsert "alice" n timestamp
            now).1,
        if ((caches ((deployment C hash).replayShard "alice")).checkAndInsert "alice" n timestamp
          now).2.isOk then some (authenticated n timestamp) else none) := by
  have hauth := authenticate_hello C n timestamp now
  simp only [Deployment.authenticateTunnelFrame, helloFrame, deployment, hauth, ne_eq,
    not_true_eq_false, if_false]
  rfl

/-- The cache of the user's shard after the first and after the second check. -/
def cacheAfter₁ : ReplayCache := ((ReplayCache.new 10 4 2).checkAndInsert "alice" nonce 1000 1000).1
def cacheAfter₂ : ReplayCache := (cacheAfter₁.checkAndInsert "alice" otherNonce 1011 1011).1

theorem accepted₁ : ((ReplayCache.new 10 4 2).checkAndInsert "alice" nonce 1000 1000).2.isOk = true := by
  decide

theorem accepted₂ : (cacheAfter₁.checkAndInsert "alice" otherNonce 1011 1011).2.isOk = true := by
  decide

/-- The second presentation of the payload is accepted with the stale sample. -/
theorem accepted₃ : (cacheAfter₂.checkAndInsert "alice" nonce 1000 1010).2.isOk = true := by
  decide

theorem race_run (C : Crypto) (hash : String → UInt64) :
    ((sessions (deployment C hash)).run (sessions (deployment C hash)).start (race C)).map
      Sessions.sessions = some
      [⟨helloFrame C nonce 1000, none, .checked 1000 (some (authenticated nonce 1000))⟩,
        ⟨helloFrame C nonce 1000, none, .checked 1010 (some (authenticated nonce 1000))⟩,
        ⟨helloFrame C otherNonce 1011, none, .checked 1011 (some (authenticated otherNonce 1011))⟩] := by
  have hcache : (deployment C hash).replayCaches ((deployment C hash).replayShard "alice") =
    ReplayCache.new 10 4 2 := rfl
  have h1 : (deployment C hash).clock = 1000 := rfl
  have h2 : (1000 : Int64) ≤ 1010 := by decide
  have h3 : (1010 : Int64) ≤ 1011 := by decide
  simp [race, System.run, sessions, Sessions.next, authenticateTunnelFrame_hello, hcache, accepted₁,
    h1, h2, h3]
  exact ⟨accepted₃, accepted₂⟩

end Sample

/-- **A payload that authenticates twice.**  Whatever the primitives and the
hash, a validated server has a run in which two sessions authenticate with the
same payload: the second one sampled the clock while the hello was in its
window, and ran its check after a later check had evicted the nonce. -/
theorem replayed_by_stale_sample :
    ¬ ∃ (C : Crypto) (hash : String → UInt64), ∀ D : Deployment, D.crypto = C → D.hash = hash →
      D.state.config.validate Sample.parsers = .ok () →
      ∀ s, (sessions D).Reach s → s.AtMostOnce := by
  rintro ⟨C, hash, h⟩
  have hrun := Sample.race_run C hash
  obtain ⟨s, hs, hlist⟩ := Option.map_eq_some_iff.mp hrun
  have honce := h (Sample.deployment C hash) rfl rfl Sample.config_valid s
    (System.reach_of_run .start hs)
  have h0 : s.sessions[0]? = some ⟨Sample.helloFrame C Sample.nonce 1000, none,
      .checked 1000 (some (Sample.authenticated Sample.nonce 1000))⟩ := by rw [hlist]; rfl
  have h1 : s.sessions[1]? = some ⟨Sample.helloFrame C Sample.nonce 1000, none,
      .checked 1010 (some (Sample.authenticated Sample.nonce 1000))⟩ := by rw [hlist]; rfl
  exact absurd (honce 0 1 _ _ h0 h1 rfl rfl rfl) (by decide)

/-- A payload that is presented again within its window is refused. -/
theorem at_most_once_of_orderly_repeated : ∃ s : Sessions,
    (sessions (Sample.deployment Sample.crypto fun _ => 0)).ReachBy
      (Orderly (Sample.deployment Sample.crypto fun _ => 0)) s ∧
    s.sessions.map (fun t => (t.frame.payload, t.authenticated)) =
      [((Sample.hello Sample.crypto Sample.nonce 1000).encode,
          some (Sample.authenticated Sample.nonce 1000)),
        ((Sample.hello Sample.crypto Sample.nonce 1000).encode, none)] ∧
    s.AtMostOnce := by
  obtain ⟨s, hreach, hs⟩ :=
    (sessions (Sample.deployment Sample.crypto fun _ => 0)).exists_reachBy
      (Orderly (Sample.deployment Sample.crypto fun _ => 0))
      (fun s => s.sessions.map (fun t => (t.frame.payload, t.authenticated)) =
        [((Sample.hello Sample.crypto Sample.nonce 1000).encode,
            some (Sample.authenticated Sample.nonce 1000)),
          ((Sample.hello Sample.crypto Sample.nonce 1000).encode, none)])
      (Sample.repeated Sample.crypto) (by decide +kernel)
  exact ⟨s, hreach, hs, at_most_once_of_orderly _ Sample.parsers Sample.config_valid _ hreach⟩

end Server
end Maverick
