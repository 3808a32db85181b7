import Maverick.Server.Users

/-!
# Configured credentials and user policies

The credentials of a configuration as one list: the active one of every user, and behind
them the previous ones of all rotations.  The two tables of a `UserStore` are a function
of that list, and `ServerPolicies` has a policy for every user that a lookup can find.

* `UserStore.new_isOk` — when a store can be built.
* `UserStore.lookupCredential_configured`, `UserStore.lookupCredential_unknown` — what a
  lookup finds.
* `credential_lookup_exact` — lookups, secrets and policies together.
-/

namespace Maverick
namespace Server

open Lib

/-! ## The configured credentials -/

/-- A credential of a configuration, with the user it belongs to. -/
inductive Configured where
  | active (owner : UserConfig)
  | previous (owner : UserConfig) (credential : PreviousCredentialConfig)

namespace Configured

def id : Configured → String
  | active owner => owner.id
  | previous _ credential => credential.id

def owner : Configured → UserConfig
  | active owner => owner
  | previous owner _ => owner

def secret : Configured → SecretString
  | active owner => owner.secret
  | previous _ credential => credential.secret

def state : Configured → CredentialState
  | active _ => .active
  | previous _ _ => .previous

/-- The timestamps of a previous credential can be read. -/
def Parses (P : Parsers) : Configured → Prop
  | active _ => True
  | previous _ credential =>
    (P.rfc3339 credential.notBefore).isSome ∧ (P.rfc3339 credential.notAfter).isSome

/-- The time, in whole seconds, is in the window of a previous credential. -/
def CurrentAt (P : Parsers) (nowUnix : Int64) : Configured → Prop
  | active _ => True
  | previous _ credential => ∃ notBefore notAfter,
      P.rfc3339 credential.notBefore = some notBefore ∧
      P.rfc3339 credential.notAfter = some notAfter ∧
      notBefore.unixTimestamp ≤ nowUnix ∧ nowUnix < notAfter.unixTimestamp

end Configured

/-- All credentials of the users. -/
def configured (users : List UserConfig) : List Configured :=
  users.map .active ++ (UserStore.rotated users).map fun x => .previous x.1 x.2

theorem map_id_configured (users : List UserConfig) :
    (configured users).map Configured.id =
      users.map UserConfig.id ++ (UserStore.rotated users).map fun x => x.2.id := by
  rw [configured, List.map_append, List.map_map, List.map_map]
  rfl

theorem forall_configured {users : List UserConfig} {p : Configured → Prop} :
    (∀ c ∈ configured users, p c) ↔
      (∀ u ∈ users, p (.active u)) ∧ ∀ x ∈ UserStore.rotated users, p (.previous x.1 x.2) := by
  simp only [configured, List.forall_mem_append, List.forall_mem_map]

variable {P : Parsers} {user : UserConfig} {c : PreviousCredentialConfig}

theorem PreviousCredential.fromConfig_eq_ok {r : PreviousCredential} :
    fromConfig P user c = .ok r ↔ ∃ notBefore notAfter,
      P.rfc3339 c.notBefore = some notBefore ∧ P.rfc3339 c.notAfter = some notAfter ∧
        r = ⟨user, c.secret, notBefore.unixTimestamp, notAfter.unixTimestamp⟩ := by
  unfold fromConfig
  cases P.rfc3339 c.notBefore with
  | none => simp
  | some notBefore =>
    cases P.rfc3339 c.notAfter with
    | none => simp
    | some notAfter => simp [eq_comm]

theorem PreviousCredential.fromConfig_isOk :
    (∃ r, fromConfig P user c = .ok r) ↔ (Configured.previous user c).Parses P := by
  simp only [fromConfig_eq_ok, Configured.Parses, Option.isSome_iff_exists]
  constructor
  · rintro ⟨r, notBefore, notAfter, hbefore, hafter, -⟩
    exact ⟨⟨notBefore, hbefore⟩, notAfter, hafter⟩
  · rintro ⟨⟨notBefore, hbefore⟩, notAfter, hafter⟩
    exact ⟨_, notBefore, notAfter, hbefore, hafter, rfl⟩

/-- Among elements with distinct keys, one has its key. -/
theorem filter_eq_singleton {α κ : Type} [DecidableEq κ] {key : α → κ} {l : List α}
    (hnodup : (l.map key).Nodup) {a : α} (ha : a ∈ l) :
    l.filter (fun b => key b = key a) = [a] := by
  induction l with
  | nil => cases ha
  | cons b l ih =>
    rw [List.map_cons, List.nodup_cons] at hnodup
    rcases List.mem_cons.mp ha with rfl | ha
    · rw [List.filter_cons_of_pos (by simp)]
      refine congrArg _ (List.filter_eq_nil_iff.mpr fun b hb hkey => hnodup.1 ?_)
      rw [← of_decide_eq_true hkey]
      exact List.mem_map_of_mem hb
    · have hne : key b ≠ key a := fun h => hnodup.1 (h ▸ List.mem_map_of_mem ha)
      rw [List.filter_cons_of_neg (by simpa using hne), ih hnodup.2 ha]

namespace UserStore

section
variable {P : Parsers} {users : List UserConfig} {active active' : Table String UserConfig}
  {creds : List (UserConfig × PreviousCredentialConfig)}
  {previous previous' : Table String PreviousCredential} {s : UserStore} {id : String}

/-! ## When the loops succeed, and what they enter -/

theorem insertActive_isOk :
    (∃ active', insertActive active users = .ok active') ↔
      active.Fresh (users.map UserConfig.id) := by
  induction users generalizing active with
  | nil => exact iff_of_true ⟨active, rfl⟩ (Table.fresh_nil active)
  | cons u rest ih =>
    rw [insertActive, List.map_cons, Table.fresh_cons u]
    by_cases hnew : (active.lookup u.id).isSome
    · rw [if_pos hnew]
      refine iff_of_false (by simp) fun h => ?_
      rw [h.1] at hnew
      cases hnew
    · rw [if_neg hnew, ih]
      exact (and_iff_right (Option.not_isSome_iff_eq_none.mp hnew)).symm

theorem lookup_insertActive_eq_none (h : insertActive active users = .ok active') :
    active'.lookup id = none ↔ active.lookup id = none ∧ id ∉ users.map UserConfig.id := by
  induction users generalizing active with
  | nil =>
    cases h
    simp
  | cons u rest ih =>
    rw [insertActive] at h
    split at h
    · cases h
    · rw [ih h, Table.lookup_insert_eq_none, List.map_cons, List.mem_cons, not_or]
      tauto

theorem insertPrevious_isOk :
    (∃ previous', insertPrevious P active previous creds = .ok previous') ↔
      previous.Fresh (creds.map fun x => x.2.id) ∧
        ∀ x ∈ creds, active.lookup x.2.id = none ∧ (Configured.previous x.1 x.2).Parses P := by
  induction creds generalizing previous with
  | nil =>
    exact iff_of_true ⟨previous, rfl⟩ ⟨Table.fresh_nil previous, List.forall_mem_nil _⟩
  | cons x rest ih =>
    obtain ⟨u, c⟩ := x
    rw [insertPrevious, List.map_cons, List.forall_mem_cons]
    by_cases hclash : (active.lookup c.id).isSome ∨ (previous.lookup c.id).isSome
    · rw [if_pos hclash]
      refine iff_of_false (by simp) ?_
      rintro ⟨hfresh, ⟨hactive, -⟩, -⟩
      rw [hactive, hfresh.2 c.id List.mem_cons_self] at hclash
      simp at hclash
    · rw [if_neg hclash]
      obtain ⟨hactive, hprevious⟩ := not_or.mp hclash
      rw [Option.not_isSome_iff_eq_none] at hactive hprevious
      constructor
      · rintro ⟨previous', h⟩
        obtain ⟨r, hr, h⟩ := Check.bind_eq_ok.mp h
        obtain ⟨hfresh, hrest⟩ := ih.mp ⟨previous', h⟩
        exact ⟨(Table.fresh_cons r).mpr ⟨hprevious, hfresh⟩,
          ⟨hactive, PreviousCredential.fromConfig_isOk.mp ⟨r, hr⟩⟩, hrest⟩
      · rintro ⟨hfresh, ⟨-, hparses⟩, hrest⟩
        obtain ⟨r, hr⟩ := PreviousCredential.fromConfig_isOk.mpr hparses
        obtain ⟨previous', h⟩ := ih.mpr ⟨((Table.fresh_cons r).mp hfresh).2, hrest⟩
        exact ⟨previous', Check.bind_eq_ok.mpr ⟨r, hr, h⟩⟩

theorem lookup_insertPrevious_eq_none
    (h : insertPrevious P active previous creds = .ok previous') :
    previous'.lookup id = none ↔
      previous.lookup id = none ∧ id ∉ creds.map fun x => x.2.id := by
  induction creds generalizing previous with
  | nil =>
    cases h
    simp
  | cons x rest ih =>
    obtain ⟨u, c⟩ := x
    rw [insertPrevious] at h
    split at h
    · cases h
    obtain ⟨r, -, h⟩ := Check.bind_eq_ok.mp h
    rw [ih h, Table.lookup_insert_eq_none, List.map_cons, List.mem_cons, not_or]
    tauto

theorem new_eq_ok :
    new P users = .ok s ↔ insertActive ∅ users = .ok s.active ∧
      insertPrevious P s.active ∅ (rotated users) = .ok s.previous := by
  constructor
  · intro h
    obtain ⟨active, hactive, h⟩ := Check.bind_eq_ok.mp h
    obtain ⟨previous, hprevious, h⟩ := Check.bind_eq_ok.mp h
    cases h
    exact ⟨hactive, hprevious⟩
  · rintro ⟨hactive, hprevious⟩
    exact Check.bind_eq_ok.mpr ⟨_, hactive, Check.bind_eq_ok.mpr ⟨_, hprevious, rfl⟩⟩

/-- **When a store can be built**: all ids are distinct, and all timestamps can be read. -/
theorem new_isOk : (∃ s, new P users = .ok s) ↔
    ((configured users).map Configured.id).Nodup ∧ ∀ c ∈ configured users, c.Parses P := by
  rw [map_id_configured, List.nodup_append, forall_configured]
  constructor
  · rintro ⟨s, hs⟩
    obtain ⟨hactive, hprevious⟩ := new_eq_ok.mp hs
    have hfresh := insertActive_isOk.mp ⟨_, hactive⟩
    obtain ⟨hfresh', hparses⟩ := insertPrevious_isOk.mp ⟨_, hprevious⟩
    refine ⟨⟨hfresh.1, hfresh'.1, ?_⟩, fun _ _ => trivial, fun x hx => (hparses x hx).2⟩
    rintro id hid _ hid' rfl
    obtain ⟨x, hx, rfl⟩ := List.mem_map.mp hid'
    exact ((lookup_insertActive_eq_none hactive).mp (hparses x hx).1).2 hid
  · rintro ⟨⟨hids, hids', hdisjoint⟩, -, hparses⟩
    obtain ⟨active, hactive⟩ := insertActive_isOk.mpr (Table.fresh_empty.mpr hids)
    obtain ⟨previous, hprevious⟩ : ∃ previous, insertPrevious P active ∅ (rotated users) =
        .ok previous := by
      refine insertPrevious_isOk.mpr ⟨Table.fresh_empty.mpr hids', fun x hx => ⟨?_, hparses x hx⟩⟩
      refine (lookup_insertActive_eq_none hactive).mpr ⟨AList.lookup_empty _, fun hid => ?_⟩
      exact hdisjoint _ hid _ (List.mem_map_of_mem hx) rfl
    exact ⟨⟨active, previous⟩, new_eq_ok.mpr ⟨hactive, hprevious⟩⟩

/-! ## What a lookup finds -/

variable {nowUnix : Int64} {m : CredentialMatch}

/-- A configured credential is found as long as its owner is enabled and the time is in
its window. -/
theorem lookupCredential_configured (hs : new P users = .ok s) {c : Configured}
    (hc : c ∈ configured users) :
    s.lookupCredential c.id nowUnix = some m ↔
      c.owner.enabled = true ∧ c.CurrentAt P nowUnix ∧ m = ⟨c.owner, c.secret, c.state⟩ := by
  obtain ⟨hactive, hprevious⟩ := new_eq_ok.mp hs
  unfold lookupCredential
  rcases List.mem_append.mp hc with hc | hc
  · obtain ⟨u, hu, rfl⟩ := List.mem_map.mp hc
    simp only [Configured.id, (lookup_insertActive hactive).2 u hu, Option.ite_none_right_eq_some,
      Option.some.injEq, Configured.owner, Configured.CurrentAt, Configured.secret,
      Configured.state, true_and]
    exact and_congr_right' eq_comm
  · obtain ⟨⟨u, c⟩, hx, rfl⟩ := List.mem_map.mp hc
    obtain ⟨hnone, r, hr, hlook⟩ := (lookup_insertPrevious hprevious).2 _ hx
    obtain ⟨notBefore, notAfter, hbefore, hafter, rfl⟩ := PreviousCredential.fromConfig_eq_ok.mp hr
    simp only [Configured.id, hnone, hlook, Option.ite_none_right_eq_some, Option.some.injEq,
      Configured.owner, Configured.CurrentAt, Configured.secret, Configured.state,
      PreviousCredential.isValidAt, decide_eq_true_eq, hbefore, hafter, exists_and_left,
      exists_eq_left', and_assoc]
    exact and_congr_right' (and_congr_right' (and_congr_right' eq_comm))

theorem lookupCredential_unknown (hs : new P users = .ok s)
    (hid : id ∉ (configured users).map Configured.id) (nowUnix : Int64) :
    s.lookupCredential id nowUnix = none := by
  obtain ⟨hactive, hprevious⟩ := new_eq_ok.mp hs
  rw [map_id_configured, List.mem_append, not_or] at hid
  have hnone : s.active.lookup id = none :=
    (lookup_insertActive_eq_none hactive).mpr ⟨AList.lookup_empty _, hid.1⟩
  have hnone' : s.previous.lookup id = none :=
    (lookup_insertPrevious_eq_none hprevious).mpr ⟨AList.lookup_empty _, hid.2⟩
  rw [lookupCredential, hnone, hnone']

/-- **Lookups are exact**: a match is the one credential with the id. -/
theorem lookupCredential_eq_some (hs : new P users = .ok s) :
    s.lookupCredential id nowUnix = some m ↔
      ∃ c, (configured users).filter (fun c => c.id = id) = [c] ∧ c.owner.enabled = true ∧
        c.CurrentAt P nowUnix ∧ m = ⟨c.owner, c.secret, c.state⟩ := by
  constructor
  · intro h
    by_cases hid : id ∈ (configured users).map Configured.id
    · obtain ⟨c, hc, rfl⟩ := List.mem_map.mp hid
      exact ⟨c, filter_eq_singleton (new_isOk.mp ⟨s, hs⟩).1 hc,
        (lookupCredential_configured hs hc).mp h⟩
    · rw [lookupCredential_unknown hs hid] at h
      cases h
  · rintro ⟨c, honly, h⟩
    have hc : c ∈ (configured users).filter fun c => c.id = id := by
      rw [honly]
      exact List.mem_singleton_self c
    obtain ⟨hc, hid⟩ := List.mem_filter.mp hc
    rw [← of_decide_eq_true hid]
    exact (lookupCredential_configured hs hc).mpr h

end
end UserStore

/-! ## Policies -/

section
variable {R : Type}

/-- What a user may use: the permits of the flow semaphore, and a rate limiter. -/
structure UserPolicy (R : Type) where
  flowLimit : Nat
  rateLimiter : Option R

structure ServerPolicies (R : Type) where
  users : Table String (UserPolicy R)

namespace ServerPolicies

/-- `ServerPolicies::from_config`, given the rate limiter of each user. -/
def fromConfig (rateLimiter : UserConfig → Option R) (config : ServerConfig) : ServerPolicies R :=
  ⟨(config.users.filter fun user => user.enabled).foldl
    (fun users user => users.insert user.id
      { flowLimit := max 1
          (user.maxConcurrentFlows.getD config.maverick.maxConcurrentFlowsPerUser).toNat
        rateLimiter := rateLimiter user })
    ∅⟩

/-- `ServerPolicies::for_user` -/
def forUser (policies : ServerPolicies R) (userId : String) : Option (UserPolicy R) :=
  policies.users.lookup userId

theorem isSome_forUser (rateLimiter : UserConfig → Option R) {config : ServerConfig}
    {user : UserConfig} (hmem : user ∈ config.users) (henabled : user.enabled = true) :
    ((fromConfig rateLimiter config).forUser user.id).isSome :=
  Table.isSome_lookup_foldl_insert _ _ _
    (.inr (List.mem_map_of_mem (List.mem_filter.mpr ⟨hmem, henabled⟩)))

end ServerPolicies

theorem Configured.owner_mem {users : List UserConfig} :
    ∀ c ∈ configured users, c.owner ∈ users := by
  refine forall_configured.mpr ⟨fun u hu => hu, fun x hx => ?_⟩
  obtain ⟨u, hu, hx⟩ := List.mem_flatMap.mp hx
  split at hx
  · cases hx
  · obtain ⟨c, -, rfl⟩ := List.mem_map.mp hx
    exact hu

/-- What a store built from a configuration finds, and the policies beside it. -/
structure ExactLookups (P : Parsers) (rateLimiter : UserConfig → Option R) (config : ServerConfig)
    (s : UserStore) : Prop where
  /-- A match is the only credential with the id, of an enabled owner, at a time in its
  window. -/
  found : ∀ id nowUnix m, s.lookupCredential id nowUnix = some m ↔
    ∃ c, (configured config.users).filter (fun c => c.id = id) = [c] ∧ c.owner.enabled = true ∧
      c.CurrentAt P nowUnix ∧ m = ⟨c.owner, c.secret, c.state⟩
  /-- The secret is found in the same cases. -/
  secret : ∀ id nowUnix secret state, s.lookupSecret id nowUnix = some ⟨secret, state⟩ ↔
    ∃ user, s.lookupCredential id nowUnix = some ⟨user, secret, state⟩
  /-- The owner of a match has a policy. -/
  policy : ∀ id nowUnix m, s.lookupCredential id nowUnix = some m →
    ((ServerPolicies.fromConfig rateLimiter config).forUser m.user.id).isSome

/-- **Credential lookup is exact.** A store can be built if and only if the ids of all
credentials are distinct and all timestamps can be read; its lookups then find what is
configured, with a policy for every owner. -/
theorem credential_lookup_exact (P : Parsers) (rateLimiter : UserConfig → Option R)
    (config : ServerConfig) :
    ((∃ s, UserStore.new P config.users = .ok s) ↔
      ((configured config.users).map Configured.id).Nodup ∧
        ∀ c ∈ configured config.users, c.Parses P) ∧
    ∀ s, UserStore.new P config.users = .ok s → ExactLookups P rateLimiter config s := by
  refine ⟨UserStore.new_isOk, fun s hs => ?_⟩
  have hfound : ∀ id nowUnix m, s.lookupCredential id nowUnix = some m ↔ _ :=
    fun id nowUnix m => UserStore.lookupCredential_eq_some hs
  refine ⟨hfound, fun id nowUnix secret state => ?_, fun id nowUnix m hm => ?_⟩
  · rw [UserStore.lookupSecret_eq, Option.map_eq_some_iff]
    constructor
    · rintro ⟨⟨user, _, _⟩, hm, hsame⟩
      cases hsame
      exact ⟨user, hm⟩
    · rintro ⟨user, hm⟩
      exact ⟨_, hm, rfl⟩
  · obtain ⟨c, honly, henabled, -, rfl⟩ := (hfound id nowUnix m).mp hm
    have hc : c ∈ configured config.users := by
      have hmem : c ∈ (configured config.users).filter fun c => c.id = id := by
        rw [honly]
        exact List.mem_singleton_self c
      exact (List.mem_filter.mp hmem).1
    exact ServerPolicies.isSome_forUser rateLimiter (Configured.owner_mem c hc) henabled

end

end Server
end Maverick
