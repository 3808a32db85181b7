import Maverick.Core.Config
import Maverick.Lib.Table
import Maverick.Lib.Text

/-!
# Stored client profiles

`StoredClientProfile` keeps a client configuration without its secrets: these go to a
secret store, under references that are made of the name of the profile.  The sections of
the configuration that are only copied are one value of an arbitrary type.

* `ProfileSecretStore` — a store that behaves as a map.
* `ProfileSecretRef.ofProfile_inj` — names and slots have different references, whatever is
  in the names.
* `storeFromConfig_spec` — what storing a profile leaves in the store, and what the profile
  is turned back into.
* `ClientProfileConfig.switches_of_validate`, `usableChannelBinding_eq_ok` — the stored form
  of what validation accepts is compatible.
* `stored_profiles_do_not_interfere` — the last profile stored under a name gives its
  configuration back.
-/

namespace Maverick
namespace Sdk

open Lib Lib.Check

/-! ## References and the store -/

structure ProfileSecretRef where
  service : String
  account : String
deriving DecidableEq

namespace ProfileSecretRef

/-- `ProfileSecretRef::validate` -/
def validate (r : ProfileSecretRef) : Except String Unit := do
  failIf (r.service.toList.all isWhitespace)
    "profile secret reference service must not be empty"
  failIf (r.account.toList.all isWhitespace)
    "profile secret reference account must not be empty"

/-- The reference of a profile name and a slot. -/
def ofProfile (profileName slot : String) : ProfileSecretRef :=
  ⟨"maverick.client-profile", "profile:" ++ profileName ++ ":" ++ slot⟩

/-- `ProfileSecretRef::client_profile` -/
def clientProfile (profileName slot : String) : Except String ProfileSecretRef := do
  (ofProfile profileName slot).validate
  return ofProfile profileName slot

variable {name slot : String}

theorem clientProfile_eq_ok {r : ProfileSecretRef} (h : clientProfile name slot = .ok r) :
    r = ofProfile name slot := by
  obtain ⟨-, h⟩ := seq_eq_ok.mp h
  cases h
  rfl

theorem toList_ofProfile (name slot : String) :
    (ofProfile name slot).account.toList =
      "profile:".toList ++ (name.toList ++ (":".toList ++ slot.toList)) := by
  simp [ofProfile, String.toList_append]

/-- **References are different** for different names, under one slot. -/
theorem ofProfile_inj {name' : String} (h : ofProfile name slot = ofProfile name' slot) :
    name = name' := by
  have htext := congrArg (fun r : ProfileSecretRef => r.account.toList) h
  simp only [toList_ofProfile, List.append_cancel_left_eq, ← List.append_assoc,
    List.append_cancel_right_eq] at htext
  exact String.toList_inj.mp htext

/-- The slots are told apart by the last character. -/
theorem active_ne_next (name name' : String) :
    ofProfile name "active" ≠ ofProfile name' "next" := by
  intro h
  have htext := congrArg (fun r : ProfileSecretRef => r.account.toList.reverse.head?) h
  simp [toList_ofProfile] at htext

end ProfileSecretRef

/-- A secret store that behaves as a map from references to secrets. -/
structure ProfileSecretStore (Store : Type) where
  putSecret : Store → ProfileSecretRef → SecretString → Except String Store
  getSecret : Store → ProfileSecretRef → Except String SecretString
  get_put : ∀ {store store' r secret}, putSecret store r secret = .ok store' →
    ∀ r', getSecret store' r' = if r' = r then .ok secret else getSecret store r'

/-! ## Configurations -/

/-- The switches of the `advanced` section that a stored profile looks at. -/
structure AdvancedSwitches where
  experimentalH3 : Bool
  experimentalCloudflareWs : Bool
  /-- `stealth.cdn_fronting.enabled` -/
  cdnFrontingEnabled : Bool

/-- `ClientAdvancedConfig::tls_terminating_fronting_enabled` -/
def AdvancedSwitches.tlsTerminatingFrontingEnabled (a : AdvancedSwitches) : Bool :=
  a.experimentalCloudflareWs || a.cdnFrontingEnabled

/-- `ClientConfig` with the rest of its sections: the address, the local listeners, the
certificates, the log and what else is in `advanced`. -/
structure ClientProfileConfig (Rest : Type) extends ClientConfig where
  version : Nat
  advanced : AdvancedSwitches
  rest : Rest

variable {Rest Store : Type}

/-- The checks of `ClientConfig::validate` on the other sections, between those below. -/
structure OtherChecks (Rest : Type) where
  first : ClientProfileConfig Rest → Except Error Unit
  second : ClientProfileConfig Rest → Except Error Unit
  last : ClientProfileConfig Rest → Except Error Unit

/-- `AuthChannelBindingConfig::validate_transport_support` -/
def validateTransportSupport (c : AuthChannelBindingConfig) (fronting experimentalH3 : Bool) :
    Except Error Unit := do
  failIf (c.require ∧ fronting) (.config
    "auth.channel_binding.require is not supported with TLS-terminating CDN fronting")
  failIf (c.require ∧ experimentalH3)
    (.config "auth.channel_binding.require is not supported with experimental H3")

/-- `ClientConfig::validate` -/
def ClientProfileConfig.validate (P : Parsers) (checks : OtherChecks Rest)
    (c : ClientProfileConfig Rest) : Except Error Unit := do
  failIf (c.version ≠ 1) (.config "only config version 1 is supported")
  failIf c.advanced.experimentalH3
    (.config "advanced.experimental_h3=true is retired for config version 1")
  checks.first c
  c.toClientConfig.validate P
  checks.second c
  validateTransportSupport c.auth.channelBinding c.advanced.tlsTerminatingFrontingEnabled
    c.advanced.experimentalH3
  checks.last c

/-! ## Profiles -/

def STORED_CLIENT_PROFILE_SCHEMA_VERSION : Nat := 1

structure StoredClientNextCredentialProfile where
  id : String
  secretRef : ProfileSecretRef
  notBefore : String

structure StoredClientCredentialRotationProfile where
  activeEpoch : Option String
  nextCredentialId : Option String
  autoSwitch : Bool
  next : Option StoredClientNextCredentialProfile

structure StoredClientProfile (Rest : Type) where
  storedProfileSchemaVersion : Nat
  profileName : String
  version : Nat
  mode : Mode
  tunnelPath : String
  credentialId : String
  secretRef : ProfileSecretRef
  channelBinding : Option AuthChannelBindingConfig
  v2 : AuthV2Config
  rotation : StoredClientCredentialRotationProfile
  advanced : AdvancedSwitches
  rest : Rest

inductive StoredClientProfileCompatibility where
  | legacyNeedsExplicitChannelBindingMigration
  | current
  | unsupportedSchema (schemaVersion : Nat)
  | malformed

variable (S : ProfileSecretStore Store) (P : Parsers) (checks : OtherChecks Rest)

namespace StoredClientCredentialRotationProfile

/-- `StoredClientCredentialRotationProfile::store_from_config` -/
def storeFromConfig (profileName : String) (rotation : ClientCredentialRotationConfig)
    (store : Store) : Except String (StoredClientCredentialRotationProfile × Store) := do
  let (next, store) ←
    match rotation.next with
    | some next => do
      let secretRef ← ProfileSecretRef.clientProfile profileName "next"
      let store ← S.putSecret store secretRef next.secret
      pure (some ⟨next.id, secretRef, next.notBefore⟩, store)
    | none => pure (none, store)
  return (⟨rotation.activeEpoch, rotation.nextCredentialId, rotation.autoSwitch, next⟩, store)

/-- `StoredClientCredentialRotationProfile::to_config` -/
def toConfig (rotation : StoredClientCredentialRotationProfile) (store : Store) :
    Except String ClientCredentialRotationConfig := do
  let next ←
    match rotation.next with
    | some next => do
      let secret ← S.getSecret store next.secretRef
      pure (some ⟨next.id, secret, next.notBefore⟩)
    | none => pure none
  return ⟨rotation.activeEpoch, rotation.nextCredentialId, rotation.autoSwitch, next⟩

end StoredClientCredentialRotationProfile

namespace StoredClientProfile

def requiredChannelBindingUnsupportedByStoredTransport (profile : StoredClientProfile Rest)
    (channelBinding : AuthChannelBindingConfig) : Bool :=
  channelBinding.require &&
    (profile.advanced.tlsTerminatingFrontingEnabled || profile.advanced.experimentalH3)

/-- `StoredClientProfile::compatibility_status` -/
def compatibilityStatus (profile : StoredClientProfile Rest) : StoredClientProfileCompatibility :=
  if profile.storedProfileSchemaVersion = 0 then
    if profile.channelBinding.isNone then .legacyNeedsExplicitChannelBindingMigration
    else .malformed
  else if profile.storedProfileSchemaVersion = STORED_CLIENT_PROFILE_SCHEMA_VERSION then
    match profile.channelBinding with
    | some binding =>
      if (!binding.require || binding.enabled) &&
          !profile.requiredChannelBindingUnsupportedByStoredTransport binding then .current
      else .malformed
    | none => .malformed
  else .unsupportedSchema profile.storedProfileSchemaVersion

/-- The text of an error of the core. -/
def coreError (e : Error) : String :=
  match e with
  | .config message => "configuration error: " ++ message
  | _ => "invalid high-entropy secret"

/-- `StoredClientProfile::store_from_config` -/
def storeFromConfig (profileName : String) (config : ClientProfileConfig Rest) (store : Store) :
    Except String (StoredClientProfile Rest × Store) := do
  (config.validate P checks).mapError coreError
  let activeSecretRef ← ProfileSecretRef.clientProfile profileName "active"
  let store ← S.putSecret store activeSecretRef config.server.secret
  let (rotation, store) ←
    StoredClientCredentialRotationProfile.storeFromConfig S profileName config.auth.rotation store
  return ({
    storedProfileSchemaVersion := STORED_CLIENT_PROFILE_SCHEMA_VERSION
    profileName := profileName
    version := config.version
    mode := config.mode
    tunnelPath := config.server.tunnelPath
    credentialId := config.server.credentialId
    secretRef := activeSecretRef
    channelBinding := some config.auth.channelBinding
    v2 := config.auth.v2
    rotation := rotation
    advanced := config.advanced
    rest := config.rest }, store)

/-- The channel binding of a profile that can be used, or why it cannot. -/
def usableChannelBinding (profile : StoredClientProfile Rest) :
    Except String AuthChannelBindingConfig :=
  match profile.compatibilityStatus, profile.channelBinding with
  | .legacyNeedsExplicitChannelBindingMigration, _ =>
    .error ("stored client profile uses the legacy schema and requires explicit " ++
      "channel-binding migration before materialization")
  | .current, some binding => .ok binding
  | .current, none => .error "current compatibility requires channel-binding metadata"
  | .unsupportedSchema schemaVersion, _ =>
    .error ("unsupported stored client profile schema version " ++ toString schemaVersion ++
      "; supported version is 1")
  | .malformed, none =>
    if profile.storedProfileSchemaVersion = STORED_CLIENT_PROFILE_SCHEMA_VERSION then
      .error "stored client profile schema 1 is missing required auth.channel_binding data"
    else .error "stored client profile metadata is malformed"
  | .malformed, some binding =>
    if binding.require && !binding.enabled then
      .error ("stored client profile contains invalid auth.channel_binding data: " ++
        "channel binding cannot be required when channel binding is disabled")
    else if profile.requiredChannelBindingUnsupportedByStoredTransport binding then
      .error ("stored client profile contains required channel binding that is " ++
        "unsupported by the stored transport metadata")
    else .error "stored client profile metadata is malformed"

/-- `StoredClientProfile::to_client_config` -/
def toClientConfig (profile : StoredClientProfile Rest) (store : Store) :
    Except String (ClientProfileConfig Rest) := do
  failIf (profile.version = 1 ∧ profile.advanced.experimentalH3)
    "configuration error: advanced.experimental_h3=true is retired for config version 1"
  let channelBinding ← profile.usableChannelBinding
  let secret ← S.getSecret store profile.secretRef
  let rotation ← profile.rotation.toConfig S store
  let config : ClientProfileConfig Rest := {
    mode := profile.mode
    server := ⟨profile.tunnelPath, profile.credentialId, secret⟩
    auth := ⟨channelBinding, profile.v2, rotation⟩
    version := profile.version
    advanced := profile.advanced
    rest := profile.rest }
  (config.validate P checks).mapError coreError
  return config

end StoredClientProfile

/-! ## One profile -/

variable {S P checks}

open ProfileSecretRef (ofProfile)

/-- What the check of a configuration means for the switches of its stored form. -/
theorem ClientProfileConfig.switches_of_validate {c : ClientProfileConfig Rest}
    (h : c.validate P checks = .ok ()) :
    c.advanced.experimentalH3 = false ∧
      (c.auth.channelBinding.require = true → c.auth.channelBinding.enabled = true ∧
        c.advanced.tlsTerminatingFrontingEnabled = false) := by
  simp only [validate, validateTransportSupport, seq_eq_ok, failIf_eq_ok] at h
  obtain ⟨-, hh3, -, hcore, -, ⟨hfronting, -⟩, -⟩ := h
  refine ⟨by simpa using hh3, fun hrequire => ⟨?_, ?_⟩⟩
  · exact ClientConfig.requires_enabled hcore hrequire
  · simpa [hrequire] using hfronting

variable {profile : StoredClientProfile Rest} {name : String} {store store' : Store}

/-- A profile of the current schema whose switches go together is compatible. -/
theorem usableChannelBinding_eq_ok {binding : AuthChannelBindingConfig}
    (hschema : profile.storedProfileSchemaVersion = STORED_CLIENT_PROFILE_SCHEMA_VERSION)
    (hstored : profile.channelBinding = some binding)
    (hh3 : profile.advanced.experimentalH3 = false)
    (hbinding : binding.require = true → binding.enabled = true ∧
      profile.advanced.tlsTerminatingFrontingEnabled = false) :
    profile.usableChannelBinding = .ok binding := by
  have hcurrent : profile.compatibilityStatus = .current := by
    have hne : ¬STORED_CLIENT_PROFILE_SCHEMA_VERSION = 0 := by decide
    rw [StoredClientProfile.compatibilityStatus, hschema, if_neg hne, if_pos rfl, hstored]
    dsimp only
    rw [if_pos]
    cases hrequire : binding.require with
    | false =>
      simp [StoredClientProfile.requiredChannelBindingUnsupportedByStoredTransport, hrequire]
    | true =>
      obtain ⟨henabled, hfronting⟩ := hbinding hrequire
      simp [StoredClientProfile.requiredChannelBindingUnsupportedByStoredTransport, henabled,
        hfronting, hh3]
  rw [StoredClientProfile.usableChannelBinding, hcurrent, hstored]

/-- The rotation of a profile, as it was stored. -/
def RotationHeld (S : ProfileSecretStore Store) (store : Store) (name : String)
    (rotation : ClientCredentialRotationConfig) : Prop :=
  ∀ next, rotation.next = some next → S.getSecret store (ofProfile name "next") = .ok next.secret

theorem rotation_storeFromConfig_spec {rotation : ClientCredentialRotationConfig}
    {stored : StoredClientCredentialRotationProfile}
    (h : StoredClientCredentialRotationProfile.storeFromConfig S name rotation store =
      .ok (stored, store')) :
    (∀ r, r ≠ ofProfile name "next" → S.getSecret store' r = S.getSecret store r) ∧
      RotationHeld S store' name rotation ∧
      ∀ store'', RotationHeld S store'' name rotation → stored.toConfig S store'' = .ok rotation := by
  obtain ⟨activeEpoch, nextCredentialId, autoSwitch, next⟩ := rotation
  cases next with
  | none =>
    cases h
    exact ⟨fun _ _ => rfl, fun _ hnext => (by cases hnext), fun _ _ => rfl⟩
  | some next =>
    obtain ⟨secretRef, href, h⟩ := bind_eq_ok.mp h
    obtain ⟨store₁, hput, h⟩ := bind_eq_ok.mp h
    cases ProfileSecretRef.clientProfile_eq_ok href
    cases h
    have hget := S.get_put hput
    refine ⟨fun r hr => ?_, fun next' hnext' => ?_, fun store'' hheld => ?_⟩
    · rw [hget, if_neg hr]
    · cases hnext'
      rw [hget, if_pos rfl]
    have hsecret := hheld next rfl
    simp only [StoredClientCredentialRotationProfile.toConfig, hsecret, bind, Except.bind]
    rfl

/-- The secrets of a configuration are in the store under the references of a name. -/
def Held (S : ProfileSecretStore Store) (store : Store) (name : String)
    (config : ClientProfileConfig Rest) : Prop :=
  S.getSecret store (ofProfile name "active") = .ok config.server.secret ∧
    RotationHeld S store name config.auth.rotation

/-- **Storing a profile** changes the references of its name only, and the profile gives the
configuration back as long as its secrets are there. -/
theorem storeFromConfig_spec {config : ClientProfileConfig Rest}
    (h : StoredClientProfile.storeFromConfig S P checks name config store = .ok (profile, store')) :
    (∀ r, r ≠ ofProfile name "active" → r ≠ ofProfile name "next" →
      S.getSecret store' r = S.getSecret store r) ∧
      Held S store' name config ∧
      ∀ store'', Held S store'' name config →
        profile.toClientConfig S P checks store'' = .ok config := by
  obtain ⟨hvalid, h⟩ := seq_eq_ok.mp h
  obtain ⟨activeRef, href, h⟩ := bind_eq_ok.mp h
  obtain ⟨store₁, hput, h⟩ := bind_eq_ok.mp h
  obtain ⟨⟨rotation, store₂⟩, hrotation, h⟩ := bind_eq_ok.mp h
  cases h
  cases ProfileSecretRef.clientProfile_eq_ok href
  have hget := S.get_put hput
  obtain ⟨hframe, hheld, hback⟩ := rotation_storeFromConfig_spec hrotation
  refine ⟨fun r hactive hnext => ?_, ⟨?_, hheld⟩, fun store'' hstore => ?_⟩
  · rw [hframe r hnext, hget, if_neg hactive]
  · rw [hframe _ (ProfileSecretRef.active_ne_next _ _), hget, if_pos rfl]
  obtain ⟨hsecret, hrotation⟩ := hstore
  have hswitches := ClientProfileConfig.switches_of_validate (Check.mapError_eq_ok.mp hvalid)
  refine seq_eq_ok.mpr ⟨failIf_eq_ok.mpr (by simp [hswitches.1]), ?_⟩
  refine bind_eq_ok.mpr ⟨_, usableChannelBinding_eq_ok rfl rfl hswitches.1 hswitches.2, ?_⟩
  refine bind_eq_ok.mpr ⟨_, hsecret, bind_eq_ok.mpr ⟨_, hback _ hrotation, ?_⟩⟩
  exact seq_eq_ok.mpr ⟨hvalid, rfl⟩

/-! ## Any number of profiles -/

/-- A number of calls, one after the other. -/
def storeAll (S : ProfileSecretStore Store) (P : Parsers) (checks : OtherChecks Rest) :
    Store → List (String × ClientProfileConfig Rest) →
      Except String (List (StoredClientProfile Rest) × Store)
  | store, [] => .ok ([], store)
  | store, (name, config) :: calls => do
    let (profile, store) ← StoredClientProfile.storeFromConfig S P checks name config store
    let (profiles, store) ← storeAll S P checks store calls
    return (profile :: profiles, store)

/-- Calls for other names leave the secrets of a name alone. -/
theorem Held.storeAll {config : ClientProfileConfig Rest}
    {calls : List (String × ClientProfileConfig Rest)} {profiles : List (StoredClientProfile Rest)}
    (hheld : Held S store name config) (hother : ∀ call ∈ calls, call.1 ≠ name)
    (h : Sdk.storeAll S P checks store calls = .ok (profiles, store')) :
    Held S store' name config := by
  induction calls generalizing store profiles with
  | nil =>
    cases h
    exact hheld
  | cons call calls ih =>
    obtain ⟨other, config'⟩ := call
    obtain ⟨⟨profile, store₁⟩, hstored, h⟩ := bind_eq_ok.mp h
    obtain ⟨⟨profiles', store₂⟩, hrest, h⟩ := bind_eq_ok.mp h
    cases h
    refine ih ?_ (fun call hcall => hother call (List.mem_cons_of_mem _ hcall)) hrest
    have hne : other ≠ name := hother _ List.mem_cons_self
    have hframe := (storeFromConfig_spec hstored).1
    constructor
    · rw [hframe _ (fun h => hne (ProfileSecretRef.ofProfile_inj h).symm)
        (ProfileSecretRef.active_ne_next _ _)]
      exact hheld.1
    intro next hnext
    rw [hframe _ (fun h => ProfileSecretRef.active_ne_next _ _ h.symm)
      (fun h => hne (ProfileSecretRef.ofProfile_inj h).symm)]
    exact hheld.2 next hnext

/-- **Stored profiles do not interfere.**  After any sequence of successful calls, the
profile that the last call for a name returned gives back the configuration of that call. -/
theorem stored_profiles_do_not_interfere {store store' : Store} {name : String}
    {config : ClientProfileConfig Rest} {before after : List (String × ClientProfileConfig Rest)}
    {profiles : List (StoredClientProfile Rest)}
    (h : storeAll S P checks store (before ++ (name, config) :: after) = .ok (profiles, store'))
    (hlast : ∀ call ∈ after, call.1 ≠ name) :
    ∃ profile, profiles[before.length]? = some profile ∧
      profile.toClientConfig S P checks store' = .ok config := by
  induction before generalizing store profiles with
  | nil =>
    obtain ⟨⟨profile, store₁⟩, hstored, h⟩ := bind_eq_ok.mp h
    obtain ⟨⟨profiles', store₂⟩, hrest, h⟩ := bind_eq_ok.mp h
    cases h
    obtain ⟨-, hheld, hback⟩ := storeFromConfig_spec hstored
    exact ⟨profile, rfl, hback _ (hheld.storeAll hlast hrest)⟩
  | cons call before ih =>
    obtain ⟨⟨profile, store₁⟩, -, h⟩ := bind_eq_ok.mp h
    obtain ⟨⟨profiles', store₂⟩, hrest, h⟩ := bind_eq_ok.mp h
    cases h
    exact ih hrest

/-! ## The store in memory -/

/-- `InMemoryProfileSecretStore::put_secret` -/
def putInMemory (store : Table ProfileSecretRef SecretString) (r : ProfileSecretRef)
    (secret : SecretString) : Except String (Table ProfileSecretRef SecretString) := do
  r.validate
  return store.insert r secret

/-- `InMemoryProfileSecretStore::get_secret` -/
def getInMemory (store : Table ProfileSecretRef SecretString) (r : ProfileSecretRef) :
    Except String SecretString :=
  match store.lookup r with
  | some secret => .ok secret
  | none => .error ("missing profile secret for " ++ r.account)

theorem getInMemory_put {store store' : Table ProfileSecretRef SecretString}
    {r : ProfileSecretRef} {secret : SecretString} (h : putInMemory store r secret = .ok store')
    (r' : ProfileSecretRef) :
    getInMemory store' r' = if r' = r then .ok secret else getInMemory store r' := by
  obtain ⟨-, h⟩ := seq_eq_ok.mp h
  cases h
  by_cases hr : r' = r
  · rw [if_pos hr, hr, getInMemory, AList.lookup_insert]
  · rw [if_neg hr, getInMemory, AList.lookup_insert_ne hr]
    rfl

/-- **The store in memory behaves as a map.** -/
def inMemoryProfileSecretStore : ProfileSecretStore (Table ProfileSecretRef SecretString) :=
  ⟨putInMemory, getInMemory, getInMemory_put⟩

namespace TwoProfiles

def home : SecretString := "mv1_AAAAAAAAAAAAAAAAAAAAAAAAAAAAAAAAAAAAAAAAAAA"

def away : SecretString := "mv1_BAAAAAAAAAAAAAAAAAAAAAAAAAAAAAAAAAAAAAAAAAA"

/-- The two secrets decode to 32 bytes each. -/
def parsers : Parsers where
  base64 := fun s =>
    if s = "AAAAAAAAAAAAAAAAAAAAAAAAAAAAAAAAAAAAAAAAAAA" then some (List.replicate 32 0)
    else if s = "BAAAAAAAAAAAAAAAAAAAAAAAAAAAAAAAAAAAAAAAAAA" then some (4 :: List.replicate 31 0)
    else none
  rfc3339 := fun _ => none

def noChecks : OtherChecks Unit := ⟨fun _ => .ok (), fun _ => .ok (), fun _ => .ok ()⟩

def config (secret : SecretString) : ClientProfileConfig Unit where
  mode := .auto
  server := ⟨"/t", "alice", secret⟩
  auth := ⟨⟨true, true⟩, ⟨false, false, []⟩, ⟨none, none, false, none⟩⟩
  version := 1
  advanced := ⟨false, false, false⟩
  rest := ()

theorem stored_profiles_do_not_interfere_two :
    ∃ profiles store,
      storeAll inMemoryProfileSecretStore parsers noChecks ∅
          [("home", config home), ("home:active", config away)] = .ok (profiles, store) ∧
        ∃ profile, profiles[0]? = some profile ∧
          profile.toClientConfig inMemoryProfileSecretStore parsers noChecks store =
            .ok (config home) := by
  refine ⟨_, _, rfl, ?_⟩
  have hrun : storeAll inMemoryProfileSecretStore parsers noChecks ∅
      ([] ++ ("home", config home) :: [("home:active", config away)]) = .ok _ := rfl
  exact stored_profiles_do_not_interfere hrun (by simp)

end TwoProfiles

end Sdk
end Maverick
