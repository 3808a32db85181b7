import Maverick.Core.Config
import Maverick.Lib.Table

/-!
# The user store

`maverick_server::users`: the active credential of every user and, during a
rotation, the previous ones with their validity windows.

* `UserStore.lookupSecret_eq` — the lookup that only fetches the secret to
  verify with and the lookup after the verification agree.
* `UserStore.lookupCredential_of_grants` — a store finds every credential that
  its configuration grants.
-/

namespace Maverick
namespace Server

open Lib

/-- A rotated credential that is still accepted in its window. -/
structure PreviousCredential where
  user : UserConfig
  secret : SecretString
  notBeforeUnix : Int64
  notAfterUnix : Int64
  deriving DecidableEq

namespace PreviousCredential

/-- `PreviousCredential::from_config` -/
def fromConfig (P : Parsers) (user : UserConfig) (c : PreviousCredentialConfig) :
    Except String PreviousCredential :=
  match P.rfc3339 c.notBefore with
  | none => .error ("invalid not_before for rotated credential " ++ user.id)
  | some notBefore =>
    match P.rfc3339 c.notAfter with
    | none => .error ("invalid not_after for rotated credential " ++ user.id)
    | some notAfter => .ok ⟨user, c.secret, notBefore.unixTimestamp, notAfter.unixTimestamp⟩

/-- `PreviousCredential::is_valid_at` -/
def isValidAt (c : PreviousCredential) (nowUnix : Int64) : Bool :=
  c.notBeforeUnix ≤ nowUnix ∧ nowUnix < c.notAfterUnix

end PreviousCredential

structure UserStore where
  active : Table String UserConfig
  previous : Table String PreviousCredential

inductive CredentialState where
  | active
  | previous
  deriving DecidableEq

structure CredentialMatch where
  user : UserConfig
  secret : SecretString
  state : CredentialState
  deriving DecidableEq

structure CredentialSecretMatch where
  secret : SecretString
  state : CredentialState
  deriving DecidableEq

namespace UserStore

/-- The first loop of `UserStore::new`. -/
def insertActive : Table String UserConfig → List UserConfig →
    Except String (Table String UserConfig)
  | active, [] => .ok active
  | active, u :: rest =>
    if (active.lookup u.id).isSome then .error "duplicate active user credential id"
    else insertActive (active.insert u.id u) rest

/-- The second loop of `UserStore::new`, over every rotated credential with the
user it belongs to. -/
def insertPrevious (P : Parsers) (active : Table String UserConfig) :
    Table String PreviousCredential → List (UserConfig × PreviousCredentialConfig) →
      Except String (Table String PreviousCredential)
  | previous, [] => .ok previous
  | previous, (u, c) :: rest =>
    if (active.lookup c.id).isSome ∨ (previous.lookup c.id).isSome then
      .error "duplicate rotated credential id"
    else do
      let credential ← PreviousCredential.fromConfig P u c
      insertPrevious P active (previous.insert c.id credential) rest

/-- Every rotated credential in configuration order. -/
def rotated (users : List UserConfig) : List (UserConfig × PreviousCredentialConfig) :=
  users.flatMap fun u =>
    match u.rotation with
    | none => []
    | some rotation => rotation.previous.map fun c => (u, c)

/-- `UserStore::new` -/
def new (P : Parsers) (users : List UserConfig) : Except String UserStore := do
  let active ← insertActive ∅ users
  let previous ← insertPrevious P active ∅ (rotated users)
  return ⟨active, previous⟩

/-- `UserStore::lookup_credential` -/
def lookupCredential (s : UserStore) (credentialId : String) (nowUnix : Int64) :
    Option CredentialMatch :=
  match s.active.lookup credentialId with
  | some user => if user.enabled then some ⟨user, user.secret, .active⟩ else none
  | none =>
    match s.previous.lookup credentialId with
    | none => none
    | some previous =>
      if previous.user.enabled ∧ previous.isValidAt nowUnix then
        some ⟨previous.user, previous.secret, .previous⟩
      else none

/-- `UserStore::lookup_secret` -/
def lookupSecret (s : UserStore) (credentialId : String) (nowUnix : Int64) :
    Option CredentialSecretMatch :=
  match s.active.lookup credentialId with
  | some user => if user.enabled then some ⟨user.secret, .active⟩ else none
  | none =>
    match s.previous.lookup credentialId with
    | none => none
    | some previous =>
      if previous.user.enabled ∧ previous.isValidAt nowUnix then
        some ⟨previous.secret, .previous⟩
      else none

/-- **The two lookups agree**, so the secret that verified a hello is the secret
of the credential the session is then given. -/
theorem lookupSecret_eq (s : UserStore) (credentialId : String) (nowUnix : Int64) :
    s.lookupSecret credentialId nowUnix =
      (s.lookupCredential credentialId nowUnix).map fun m => ⟨m.secret, m.state⟩ := by
  unfold lookupSecret lookupCredential
  cases s.active.lookup credentialId with
  | some user =>
    simp only
    split <;> rfl
  | none =>
    cases s.previous.lookup credentialId with
    | none => rfl
    | some previous =>
      simp only
      split <;> rfl

/-! ## What a store finds -/

variable {users : List UserConfig} {active : Table String UserConfig} {P : Parsers}

/-- The first loop keeps what is there and enters every user. -/
theorem lookup_insertActive {active' : Table String UserConfig}
    (h : insertActive active users = .ok active') :
    (∀ id u, active.lookup id = some u → active'.lookup id = some u) ∧
      ∀ u ∈ users, active'.lookup u.id = some u := by
  induction users generalizing active with
  | nil =>
    cases h
    exact ⟨fun _ _ hlook => hlook, List.forall_mem_nil _⟩
  | cons u rest ih =>
    rw [insertActive] at h
    split at h
    · cases h
    next hnew =>
      obtain ⟨hkeep, hrest⟩ := ih h
      have hself := hkeep u.id u (AList.lookup_insert _)
      refine ⟨fun id v hlook => hkeep id v ?_, List.forall_mem_cons.mpr ⟨hself, hrest⟩⟩
      have hne : id ≠ u.id := by
        rintro rfl
        exact hnew (by rw [hlook]; rfl)
      rw [AList.lookup_insert_ne hne, hlook]

/-- The second loop keeps what is there and enters every rotated credential,
none of which has the id of a user. -/
theorem lookup_insertPrevious {creds : List (UserConfig × PreviousCredentialConfig)}
    {previous previous' : Table String PreviousCredential}
    (h : insertPrevious P active previous creds = .ok previous') :
    (∀ id c, previous.lookup id = some c → previous'.lookup id = some c) ∧
      ∀ x ∈ creds, active.lookup x.2.id = none ∧
        ∃ c, PreviousCredential.fromConfig P x.1 x.2 = .ok c ∧
          previous'.lookup x.2.id = some c := by
  induction creds generalizing previous with
  | nil =>
    cases h
    exact ⟨fun _ _ hlook => hlook, List.forall_mem_nil _⟩
  | cons x rest ih =>
    obtain ⟨u, c⟩ := x
    rw [insertPrevious] at h
    split at h
    · cases h
    next hnew =>
      obtain ⟨hactive, hprevious⟩ := not_or.mp hnew
      obtain ⟨credential, hcredential, h⟩ := Check.bind_eq_ok.mp h
      obtain ⟨hkeep, hrest⟩ := ih h
      have hself := hkeep c.id credential (AList.lookup_insert _)
      refine ⟨fun id v hlook => hkeep id v ?_, List.forall_mem_cons.mpr
        ⟨⟨Option.not_isSome_iff_eq_none.mp hactive, credential, hcredential, hself⟩, hrest⟩⟩
      have hne : id ≠ c.id := by
        rintro rfl
        exact hprevious (by rw [hlook]; rfl)
      rw [AList.lookup_insert_ne hne, hlook]

/-- An enabled user has a credential at a time: the active one, or a rotated one
in its validity window. -/
inductive Grants (P : Parsers) (nowUnix : Int64) (u : UserConfig) (id : String)
    (secret : SecretString) : Prop
  | active (enabled : u.enabled = true) (hid : u.id = id) (hsecret : u.secret = secret)
  | previous (enabled : u.enabled = true) (rotation : UserCredentialRotationConfig)
      (hrotation : u.rotation = some rotation) (c : PreviousCredentialConfig)
      (hmem : c ∈ rotation.previous) (hid : c.id = id) (hsecret : c.secret = secret)
      (notBefore notAfter : OffsetDateTime) (hbefore : P.rfc3339 c.notBefore = some notBefore)
      (hafter : P.rfc3339 c.notAfter = some notAfter)
      (started : notBefore.unixTimestamp ≤ nowUnix) (current : nowUnix < notAfter.unixTimestamp)

/-- **A store finds every credential that its configuration grants.** -/
theorem lookupCredential_of_grants {s : UserStore} (hnew : new P users = .ok s) {u : UserConfig}
    (hu : u ∈ users) {nowUnix : Int64} {id : String} {secret : SecretString}
    (h : Grants P nowUnix u id secret) :
    ∃ state, s.lookupCredential id nowUnix = some ⟨u, secret, state⟩ := by
  obtain ⟨active, hactive, hnew⟩ := Check.bind_eq_ok.mp hnew
  obtain ⟨previous, hprevious, hnew⟩ := Check.bind_eq_ok.mp hnew
  cases hnew
  unfold lookupCredential
  cases h with
  | active enabled hid hsecret =>
    subst hid hsecret
    refine ⟨.active, ?_⟩
    simp only [(lookup_insertActive hactive).2 u hu, enabled, if_true]
  | previous enabled rotation hrotation c hmem hid hsecret notBefore notAfter hbefore hafter started
      current =>
      subst hid hsecret
      have hrotated : (u, c) ∈ rotated users := by
        refine List.mem_flatMap.mpr ⟨u, hu, ?_⟩
        simp only [hrotation]
        exact List.mem_map_of_mem hmem
      obtain ⟨hnone, credential, hcredential, hlook⟩ :=
        (lookup_insertPrevious hprevious).2 _ hrotated
      have hcredential' : credential =
          ⟨u, c.secret, notBefore.unixTimestamp, notAfter.unixTimestamp⟩ := by
        simp only [PreviousCredential.fromConfig, hbefore, hafter] at hcredential
        exact (Except.ok.inj hcredential).symm
      subst hcredential'
      have hvalid : PreviousCredential.isValidAt
          ⟨u, c.secret, notBefore.unixTimestamp, notAfter.unixTimestamp⟩ nowUnix = true :=
        decide_eq_true ⟨started, current⟩
      refine ⟨.previous, ?_⟩
      simp only [hnone, hlook, enabled, hvalid, and_self, if_true]

end UserStore
end Server
end Maverick
