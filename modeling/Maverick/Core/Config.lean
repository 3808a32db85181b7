import Maverick.Core.Error
import Maverick.Lib.Bytes
import Maverick.Lib.Check
import Maverick.Lib.Machine

/-!
# Configuration: the parts the handshake and the replay caches depend on

`maverick_core::config` for both ends of the tunnel, restricted to the sections
that authentication reads: the tunnel path, the credentials and their rotation,
the `auth` section, the replay limits and the frame size.  The other sections
of `ClientConfig` and `ServerConfig` are left out, and so are their checks;
the checks kept stand in the order of the source.

* `ServerConfig.limits_of_validate`, `ServerConfig.tunnelPath_of_validate`,
  `ClientConfig.lengths_of_validate` — what a validated configuration promises to
  the rest of the program.
-/

namespace Maverick

open Lib

/-- User-facing product mode. -/
inductive Mode where
  | auto
  | stable
  | private_
  deriving DecidableEq, Repr

namespace Mode

/-- `Mode::wire_id` -/
def wireId : Mode → UInt8
  | auto => 0
  | stable => 1
  | private_ => 2

/-- `Mode::from_wire_id` -/
def fromWireId (value : UInt8) : Except Error Mode :=
  if value = 0 then .ok auto
  else if value = 1 then .ok stable
  else if value = 2 then .ok private_
  else .error (.malformedFrame "unknown mode")

theorem wireId_injective : Function.Injective wireId := by
  intro a b h
  cases a <;> cases b <;> first | rfl | exact absurd h (by decide)

/-- A mode is recognised exactly by its own wire id. -/
theorem fromWireId_eq_ok {value : UInt8} {mode : Mode} :
    fromWireId value = .ok mode ↔ value = mode.wireId := by
  constructor
  · intro h
    unfold fromWireId at h
    split at h
    · cases h; assumption
    split at h
    · cases h; assumption
    split at h
    · cases h; assumption
    · cases h
  · rintro rfl
    cases mode <;> rfl

end Mode

/-! ## Values parsed by libraries -/

/-- An instant, as `time::OffsetDateTime` compares it. -/
structure OffsetDateTime where
  unixNanos : Int
  deriving DecidableEq

/-- `OffsetDateTime::unix_timestamp` -/
def OffsetDateTime.unixTimestamp (t : OffsetDateTime) : Int64 :=
  Int64.ofInt (t.unixNanos / 1000000000)

/-- The parsers of the `base64` and `time` crates. -/
structure Parsers where
  /-- `URL_SAFE_NO_PAD.decode` -/
  base64 : String → Option Bytes
  /-- `OffsetDateTime::parse(_, &Rfc3339)` -/
  rfc3339 : String → Option OffsetDateTime

/-- `str::parse::<u64>`: an optional plus sign and at least one decimal digit,
without overflow. -/
def parseU64 (value : String) : Option UInt64 :=
  let digits : List Char := match value.toList with
    | '+' :: rest => rest
    | cs => cs
  let number := digits.foldl (fun n c => n * 10 + (c.toNat - '0'.toNat)) 0
  if digits ≠ [] ∧ digits.all Char.isDigit = true ∧ number < 2 ^ 64 then
    some (UInt64.ofNat number)
  else none

/-- `str::len` -/
def byteLen (s : String) : Nat := (utf8 s).length

/-- `str::starts_with` of a character. -/
def startsWith (c : Char) (s : String) : Bool := s.toList.head? = some c

def AUTH_V1_MAX_STRING_LEN : Nat := 65535
def MAX_REPLAY_WINDOW_SECS : Int64 := 86400
def AUTH_V2_MAX_CREDENTIAL_HINT_LEN : Nat := 512
def DEFAULT_MAX_FRAME_SIZE : Nat := 65536
def MAX_NEGOTIATED_FRAME_SIZE : Nat := 1048576

/-- `SecretString`: a credential secret; `expose_secret` is the string itself. -/
abbrev SecretString := String

section Checks

open Check

/-- `SecretString::validate` -/
def validateSecret (P : Parsers) (secret : SecretString) : Except Error Unit :=
  if "mv1_".toList <+: secret.toList then
    match P.base64 (String.ofList (secret.toList.drop 4)) with
    | none => .error .invalidSecret
    | some decoded => failIf (decoded.length < 32) .invalidSecret
  else .error .invalidSecret

/-- `validate_auth_v1_string_len` -/
def validateAuthV1StringLen (field value : String) : Except Error Unit :=
  failIf (AUTH_V1_MAX_STRING_LEN < byteLen value)
    (.config (field ++ " must be at most 65535 bytes for Auth v1 wire encoding"))

/-- `validate_auth_v2_credential_hint_len` -/
def validateAuthV2CredentialHintLen (field value : String) : Except Error Unit :=
  failIf (AUTH_V2_MAX_CREDENTIAL_HINT_LEN < byteLen value)
    (.config (field ++ " must be at most 512 bytes when auth.v2.enabled is true"))

/-- `parse_rfc3339` -/
def parseRfc3339 (P : Parsers) (field value : String) : Except Error OffsetDateTime :=
  match P.rfc3339 value with
  | some t => .ok t
  | none => .error (.config (field ++ " must be RFC3339 timestamp"))

/-- `parse_auth_epoch` -/
def parseAuthEpoch (value : String) : Except Error UInt64 :=
  match parseU64 value with
  | some epoch => .ok epoch
  | none => .error (.config "auth.rotation.active_epoch must be an unsigned integer")

/-- The check on either end's tunnel path. -/
def validateTunnelPath (field tunnelPath : String) : Except Error Unit := do
  failIf (tunnelPath = "" ∨ startsWith '/' tunnelPath = false)
    (.config (field ++ " must start with '/'"))
  validateAuthV1StringLen field tunnelPath

/-! ## The `auth` section -/

structure AuthChannelBindingConfig where
  enabled : Bool
  require : Bool
  deriving DecidableEq

/-- `AuthChannelBindingConfig::validate` -/
def AuthChannelBindingConfig.validate (c : AuthChannelBindingConfig) : Except Error Unit :=
  failIf (c.require ∧ !c.enabled)
    (.config "auth.channel_binding.require requires auth.channel_binding.enabled to be true")

structure ClientNextCredentialConfig where
  id : String
  secret : SecretString
  notBefore : String
  deriving DecidableEq

/-- `ClientNextCredentialConfig::validate` -/
def ClientNextCredentialConfig.validate (P : Parsers) (c : ClientNextCredentialConfig) :
    Except Error Unit := do
  failIf (c.id = "") (.config "auth.rotation.next.id must not be empty")
  validateAuthV1StringLen "auth.rotation.next.id" c.id
  validateSecret P c.secret
  let _ ← parseRfc3339 P "auth.rotation.next.not_before" c.notBefore
  return ()

structure ClientCredentialRotationConfig where
  activeEpoch : Option String
  nextCredentialId : Option String
  autoSwitch : Bool
  next : Option ClientNextCredentialConfig
  deriving DecidableEq

/-- `ClientCredentialRotationConfig::validate` -/
def ClientCredentialRotationConfig.validate (P : Parsers) (c : ClientCredentialRotationConfig)
    (activeCredentialId : String) : Except Error Unit := do
  failIf (c.activeEpoch = some "") (.config "auth.rotation.active_epoch must not be empty")
  failIf (c.nextCredentialId = some "")
    (.config "auth.rotation.next_credential_id must not be empty")
  match c.nextCredentialId with
  | some id => validateAuthV1StringLen "auth.rotation.next_credential_id" id
  | none => pure ()
  match c.next with
  | none => pure ()
  | some next => do
    next.validate P
    failIf (next.id = activeCredentialId)
      (.config "auth.rotation.next.id must differ from server.credential_id")
    failIf (∃ id ∈ c.nextCredentialId, id ≠ next.id)
      (.config "auth.rotation.next_credential_id must match auth.rotation.next.id")
  failIf (c.autoSwitch ∧ c.next = none)
    (.config "auth.rotation.next is required when auth.rotation.auto_switch is true")

structure AuthV2Config where
  enabled : Bool
  require : Bool
  acceptedEpochs : List UInt64
  deriving DecidableEq

/-- `AuthV2Config::validate_client` -/
def AuthV2Config.validateClient (c : AuthV2Config) (activeCredentialId : String)
    (rotation : ClientCredentialRotationConfig) : Except Error Unit := do
  failIf (c.require ∧ !c.enabled) (.config "auth.v2.require requires auth.v2.enabled to be true")
  if c.enabled then
    validateAuthV2CredentialHintLen "server.credential_id" activeCredentialId
    match rotation.nextCredentialId with
    | some id => validateAuthV2CredentialHintLen "auth.rotation.next_credential_id" id
    | none => pure ()
    match rotation.next with
    | some next => validateAuthV2CredentialHintLen "auth.rotation.next.id" next.id
    | none => pure ()
    match rotation.activeEpoch with
    | none =>
      throw (.config "auth.rotation.active_epoch is required when auth.v2.enabled is true")
    | some epoch => do
      let _ ← parseAuthEpoch epoch
      return ()
  else return ()

/-- `AuthV2Config::validate_server` -/
def AuthV2Config.validateServer (c : AuthV2Config) : Except Error Unit := do
  failIf (c.require ∧ !c.enabled) (.config "auth.v2.require requires auth.v2.enabled to be true")
  if c.enabled then
    failIf (c.acceptedEpochs = [])
      (.config "auth.v2.accepted_epochs must not be empty when auth.v2.enabled is true")
    failIf (!c.require)
      (.config "auth.v2.require must be true when server auth.v2.enabled is true")
    failIf (8 < c.acceptedEpochs.length)
      (.config "auth.v2.accepted_epochs must contain at most 8 epochs")
    failIf (¬ c.acceptedEpochs.Nodup)
      (.config "auth.v2.accepted_epochs must not contain duplicates")
  else return ()

/-! ## The client -/

structure ClientServerConfig where
  tunnelPath : String
  credentialId : String
  secret : SecretString
  deriving DecidableEq

structure ClientAuthConfig where
  channelBinding : AuthChannelBindingConfig
  v2 : AuthV2Config
  rotation : ClientCredentialRotationConfig
  deriving DecidableEq

/-- `ClientAuthConfig::validate` -/
def ClientAuthConfig.validate (P : Parsers) (c : ClientAuthConfig) (activeCredentialId : String) :
    Except Error Unit := do
  c.channelBinding.validate
  c.rotation.validate P activeCredentialId
  c.v2.validateClient activeCredentialId c.rotation

structure ClientConfig where
  mode : Mode
  server : ClientServerConfig
  auth : ClientAuthConfig
  deriving DecidableEq

/-- `ClientConfig::validate`, the checks on the modelled sections. -/
def ClientConfig.validate (P : Parsers) (c : ClientConfig) : Except Error Unit := do
  validateSecret P c.server.secret
  validateTunnelPath "server.tunnel_path" c.server.tunnelPath
  failIf (c.server.credentialId = "") (.config "server.credential_id must not be empty")
  validateAuthV1StringLen "server.credential_id" c.server.credentialId
  c.auth.validate P c.server.credentialId

inductive ClientCredentialSelection where
  | active
  | next
  deriving DecidableEq

structure SelectedClientCredential where
  id : String
  secret : SecretString
  selection : ClientCredentialSelection
  deriving DecidableEq

/-- `select_client_credential_at_unix` -/
def selectClientCredentialAtUnix (P : Parsers) (server : ClientServerConfig)
    (rotation : ClientCredentialRotationConfig) (nowUnix : Int64) :
    Except Error SelectedClientCredential :=
  let active : SelectedClientCredential := ⟨server.credentialId, server.secret, .active⟩
  if rotation.autoSwitch then
    match rotation.next with
    | none => .ok active
    | some next =>
      match parseRfc3339 P "auth.rotation.next.not_before" next.notBefore with
      | .error e => .error e
      | .ok notBefore =>
        if notBefore.unixTimestamp ≤ nowUnix then .ok ⟨next.id, next.secret, .next⟩
        else .ok active
  else .ok active

/-! ## The server -/

structure PreviousCredentialConfig where
  id : String
  secret : SecretString
  notBefore : String
  notAfter : String
  deriving DecidableEq

/-- `PreviousCredentialConfig::validate` -/
def PreviousCredentialConfig.validate (P : Parsers) (c : PreviousCredentialConfig) :
    Except Error Unit := do
  failIf (c.id = "") (.config "user.rotation.previous.id must not be empty")
  validateAuthV1StringLen "user.rotation.previous.id" c.id
  validateSecret P c.secret
  let notBefore ← parseRfc3339 P "user.rotation.previous.not_before" c.notBefore
  let notAfter ← parseRfc3339 P "user.rotation.previous.not_after" c.notAfter
  failIf (notAfter.unixNanos ≤ notBefore.unixNanos)
    (.config "user.rotation.previous.not_after must be after not_before")

structure NextCredentialConfig where
  id : String
  notBefore : String
  deriving DecidableEq

/-- `NextCredentialConfig::validate` -/
def NextCredentialConfig.validate (P : Parsers) (c : NextCredentialConfig) : Except Error Unit := do
  failIf (c.id = "") (.config "user.rotation.next.id must not be empty")
  validateAuthV1StringLen "user.rotation.next.id" c.id
  let _ ← parseRfc3339 P "user.rotation.next.not_before" c.notBefore
  return ()

structure UserCredentialRotationConfig where
  previous : List PreviousCredentialConfig
  next : Option NextCredentialConfig
  deriving DecidableEq

/-- The loop of `validate_for_user` over the previous credentials, with the ids
seen so far. -/
def validatePrevious (P : Parsers) : List String → List PreviousCredentialConfig →
    Except Error (List String)
  | seen, [] => .ok seen
  | seen, c :: rest => do
    c.validate P
    failIf (c.id ∈ seen) (.config "user.rotation credential ids must be unique")
    validatePrevious P (seen ++ [c.id]) rest

/-- `UserCredentialRotationConfig::validate_for_user` -/
def UserCredentialRotationConfig.validateForUser (P : Parsers) (c : UserCredentialRotationConfig)
    (activeId : String) : Except Error Unit := do
  failIf (4 < c.previous.length)
    (.config "user.rotation.previous must contain at most 4 credentials")
  let seen ← validatePrevious P [activeId] c.previous
  match c.next with
  | none => pure ()
  | some next => do
    next.validate P
    failIf (next.id ∈ seen) (.config "user.rotation credential ids must be unique")

structure UserConfig where
  id : String
  secret : SecretString
  enabled : Bool
  maxConcurrentFlows : Option UInt32
  rotation : Option UserCredentialRotationConfig
  deriving DecidableEq

/-- The body of the loop of `ServerConfig::validate` over the users. -/
def UserConfig.validate (P : Parsers) (v2Enabled : Bool) (u : UserConfig) : Except Error Unit := do
  failIf (u.id = "") (.config "user id must not be empty")
  validateAuthV1StringLen "user.id" u.id
  if v2Enabled then validateAuthV2CredentialHintLen "user.id" u.id
  validateSecret P u.secret
  failIf (u.maxConcurrentFlows = some 0)
    (.config "user.max_concurrent_flows must be greater than zero")
  match u.rotation with
  | none => pure ()
  | some rotation => do
    rotation.validateForUser P u.id
    if v2Enabled then
      each (fun c => validateAuthV2CredentialHintLen "user.rotation.previous.id"
        (PreviousCredentialConfig.id c)) rotation.previous
      match rotation.next with
      | some next => validateAuthV2CredentialHintLen "user.rotation.next.id" next.id
      | none => pure ()

structure ServerAuthConfig where
  channelBinding : AuthChannelBindingConfig
  v2 : AuthV2Config
  deriving DecidableEq

/-- `ServerAuthConfig::validate` -/
def ServerAuthConfig.validate (c : ServerAuthConfig) : Except Error Unit := do
  c.channelBinding.validate
  c.v2.validateServer

structure MaverickServerConfig where
  tunnelPath : String
  replayWindowSecs : Int64
  replayCacheEntriesPerCredential : Nat
  replayCacheMaxCredentialsPerShard : Nat
  maxConcurrentFlowsPerUser : UInt32
  deriving DecidableEq

structure ServerConfig where
  maverick : MaverickServerConfig
  users : List UserConfig
  auth : ServerAuthConfig
  /-- `advanced.max_frame_size` -/
  maxFrameSize : UInt32
  deriving DecidableEq

/-- `ServerConfig::validate`, the checks on the modelled sections. -/
def ServerConfig.validate (P : Parsers) (c : ServerConfig) : Except Error Unit := do
  validateTunnelPath "maverick.tunnel_path" c.maverick.tunnelPath
  failIf (c.maverick.replayWindowSecs ≤ 0)
    (.config "maverick.replay_window_secs must be greater than zero")
  failIf (MAX_REPLAY_WINDOW_SECS < c.maverick.replayWindowSecs)
    (.config "maverick.replay_window_secs must be at most 86400")
  failIf (c.maverick.replayCacheEntriesPerCredential = 0)
    (.config "maverick.replay_cache_entries_per_credential must be greater than zero")
  failIf (c.maverick.replayCacheMaxCredentialsPerShard = 0)
    (.config "maverick.replay_cache_max_credentials_per_shard must be greater than zero")
  failIf (c.maverick.maxConcurrentFlowsPerUser = 0)
    (.config "maverick.max_concurrent_flows_per_user must be greater than zero")
  failIf (c.users = []) (.config "at least one user is required")
  c.auth.validate
  each (UserConfig.validate P c.auth.v2.enabled) c.users
  failIf (¬ (DEFAULT_MAX_FRAME_SIZE ≤ c.maxFrameSize.toNat ∧
      c.maxFrameSize.toNat ≤ MAX_NEGOTIATED_FRAME_SIZE))
    (.config "advanced.max_frame_size must be between 65536 and 1048576 bytes")

/-! ## What validation promises -/

variable {P : Parsers} {c : ServerConfig} {field : String}

/-- **A validated server** has a positive window of at most a day, positive
replay capacities, and a frame size in the negotiable range. -/
theorem ServerConfig.limits_of_validate (h : c.validate P = .ok ()) :
    (0 < c.maverick.replayWindowSecs ∧ c.maverick.replayWindowSecs ≤ MAX_REPLAY_WINDOW_SECS) ∧
    0 < c.maverick.replayCacheEntriesPerCredential ∧
    0 < c.maverick.replayCacheMaxCredentialsPerShard ∧
    (DEFAULT_MAX_FRAME_SIZE ≤ c.maxFrameSize.toNat ∧
      c.maxFrameSize.toNat ≤ MAX_NEGOTIATED_FRAME_SIZE) := by
  simp only [ServerConfig.validate, seq_eq_ok, failIf_eq_ok, not_not] at h
  obtain ⟨-, hpos, hmax, hentries, hcreds, -, -, -, -, hframe⟩ := h
  exact ⟨⟨Int64.not_le.mp hpos, Int64.not_lt.mp hmax⟩, Nat.pos_of_ne_zero hentries,
    Nat.pos_of_ne_zero hcreds, hframe⟩

theorem validateAuthV1StringLen_eq_ok {value : String} :
    validateAuthV1StringLen field value = .ok () ↔ (utf8 value).length < 2 ^ 16 := by
  rw [validateAuthV1StringLen, failIf_eq_ok]
  show ¬ 65535 < (utf8 value).length ↔ _
  omega

theorem length_of_validateTunnelPath {path : String} (h : validateTunnelPath field path = .ok ()) :
    (utf8 path).length < 2 ^ 16 := by
  rw [validateTunnelPath, seq_eq_ok] at h
  exact validateAuthV1StringLen_eq_ok.mp h.2

theorem ServerConfig.tunnelPath_of_validate (h : c.validate P = .ok ()) :
    (utf8 c.maverick.tunnelPath).length < 2 ^ 16 := by
  simp only [ServerConfig.validate, seq_eq_ok] at h
  exact length_of_validateTunnelPath h.1

theorem ClientConfig.requires_enabled {c : ClientConfig} (h : c.validate P = .ok ())
    (hreq : c.auth.channelBinding.require = true) : c.auth.channelBinding.enabled = true := by
  simp only [ClientConfig.validate, ClientAuthConfig.validate, AuthChannelBindingConfig.validate,
    seq_eq_ok, failIf_eq_ok] at h
  simpa [hreq] using h.2.2.2.2.1

/-- What validation has checked of a rotation's next credential. -/
theorem ClientCredentialRotationConfig.next_of_validate {c : ClientCredentialRotationConfig}
    {activeId : String} (h : c.validate P activeId = .ok ()) {next : ClientNextCredentialConfig}
    (hnext : c.next = some next) : next.id ≠ "" ∧ (utf8 next.id).length < 2 ^ 16 := by
  unfold ClientCredentialRotationConfig.validate at h
  have hvalid : next.validate P = .ok () := by
    cases hid : c.nextCredentialId with
    | none =>
      simp only [seq_eq_ok, hnext, hid] at h
      exact h.2.2.1
    | some id =>
      simp only [seq_eq_ok, hnext, hid] at h
      exact h.2.2.2.1
  simp only [ClientNextCredentialConfig.validate, seq_eq_ok, failIf_eq_ok] at hvalid
  exact ⟨hvalid.1, validateAuthV1StringLen_eq_ok.mp hvalid.2.1⟩

/-- A client selects the active credential or the next one of its rotation. -/
theorem selectClientCredentialAtUnix_id {server : ClientServerConfig}
    {rotation : ClientCredentialRotationConfig} {nowUnix : Int64}
    {credential : SelectedClientCredential}
    (h : selectClientCredentialAtUnix P server rotation nowUnix = .ok credential) :
    credential.id = server.credentialId ∨
      ∃ next, rotation.next = some next ∧ credential.id = next.id := by
  unfold selectClientCredentialAtUnix at h
  dsimp only at h
  split at h
  · split at h
    · cases h
      exact .inl rfl
    next next hnext =>
      split at h
      · cases h
      split at h
      · cases h
        exact .inr ⟨next, hnext, rfl⟩
      · cases h
        exact .inl rfl
  · cases h
    exact .inl rfl

/-- **A validated client**: its tunnel path and whichever credential it selects
fit their length prefixes. -/
theorem ClientConfig.lengths_of_validate {c : ClientConfig} (h : c.validate P = .ok ()) :
    (utf8 c.server.tunnelPath).length < 2 ^ 16 ∧
    ∀ nowUnix credential,
      selectClientCredentialAtUnix P c.server c.auth.rotation nowUnix = .ok credential →
      (utf8 credential.id).length < 2 ^ 16 := by
  simp only [ClientConfig.validate, ClientAuthConfig.validate, seq_eq_ok] at h
  obtain ⟨-, hpath, -, hid, -, hrotation, -⟩ := h
  refine ⟨length_of_validateTunnelPath hpath, ?_⟩
  intro nowUnix credential hsel
  rcases selectClientCredentialAtUnix_id hsel with hactive | ⟨next, hnext, heq⟩
  · rw [hactive]
    exact validateAuthV1StringLen_eq_ok.mp hid
  · rw [heq]
    exact (ClientCredentialRotationConfig.next_of_validate hrotation hnext).2

/-- **A validated client of version 2**: its epoch can be parsed, and whichever
credential it selects is a hint within the limits. -/
theorem ClientConfig.v2_of_validate {c : ClientConfig} (h : c.validate P = .ok ())
    (hen : c.auth.v2.enabled = true) :
    (∃ text epoch, c.auth.rotation.activeEpoch = some text ∧ parseAuthEpoch text = .ok epoch) ∧
    ∀ nowUnix credential,
      selectClientCredentialAtUnix P c.server c.auth.rotation nowUnix = .ok credential →
      credential.id ≠ "" ∧ (utf8 credential.id).length ≤ AUTH_V2_MAX_CREDENTIAL_HINT_LEN := by
  simp only [ClientConfig.validate, ClientAuthConfig.validate, AuthV2Config.validateClient,
    seq_eq_ok, failIf_eq_ok, hen, if_true] at h
  obtain ⟨-, -, hactive, -, -, hrotation, -, hlen, hv2⟩ := h
  have hrest : (∀ next, c.auth.rotation.next = some next →
        validateAuthV2CredentialHintLen "auth.rotation.next.id" next.id = .ok ()) ∧
      ∃ text epoch, c.auth.rotation.activeEpoch = some text ∧ parseAuthEpoch text = .ok epoch := by
    have hunit : ∀ {x : Except Error Unit}, (∃ u, x = .ok u) ↔ x = .ok () := Unique.exists_iff
    cases hid : c.auth.rotation.nextCredentialId <;> cases hnext : c.auth.rotation.next <;>
      cases hepoch : c.auth.rotation.activeEpoch <;>
      simp_all [bind_eq_ok, throw, throwThe, MonadExceptOf.throw, pure, Except.pure]
  refine ⟨hrest.2, ?_⟩
  intro nowUnix credential hsel
  rcases selectClientCredentialAtUnix_id hsel with heq | ⟨next, hnext, heq⟩
  · rw [heq]
    exact ⟨hactive, not_lt.mp (failIf_eq_ok.mp hlen)⟩
  rw [heq]
  exact ⟨(ClientCredentialRotationConfig.next_of_validate hrotation hnext).1,
    not_lt.mp (failIf_eq_ok.mp (hrest.1 next hnext))⟩

/-- **A validated server** speaks version 2 exactly when it requires it, and
grants every user at least one flow. -/
theorem ServerConfig.require_eq_enabled (h : c.validate P = .ok ()) :
    c.auth.v2.require = c.auth.v2.enabled := by
  simp only [ServerConfig.validate, ServerAuthConfig.validate, AuthV2Config.validateServer,
    seq_eq_ok, failIf_eq_ok] at h
  obtain ⟨-, -, -, -, -, -, -, ⟨-, hreq, hv2⟩, -⟩ := h
  cases hen : c.auth.v2.enabled with
  | false => simpa [hen] using hreq
  | true =>
    simp only [hen, if_true, seq_eq_ok, failIf_eq_ok] at hv2
    simpa using hv2.2.1

theorem ServerConfig.binding_requires_enabled (h : c.validate P = .ok ())
    (hreq : c.auth.channelBinding.require = true) : c.auth.channelBinding.enabled = true := by
  simp only [ServerConfig.validate, ServerAuthConfig.validate, AuthChannelBindingConfig.validate,
    seq_eq_ok, failIf_eq_ok] at h
  obtain ⟨-, -, -, -, -, -, -, ⟨hbinding, -⟩, -⟩ := h
  simpa [hreq] using hbinding

theorem ServerConfig.flows_of_validate (h : c.validate P = .ok ()) {u : UserConfig}
    (hu : u ∈ c.users) : u.maxConcurrentFlows.getD c.maverick.maxConcurrentFlowsPerUser ≠ 0 := by
  simp only [ServerConfig.validate, seq_eq_ok, failIf_eq_ok, each_eq_ok] at h
  obtain ⟨-, -, -, -, -, hdefault, -, -, husers, -⟩ := h
  have huser := husers u hu
  simp only [UserConfig.validate, seq_eq_ok] at huser
  cases hflows : u.maxConcurrentFlows with
  | none => exact hdefault
  | some n =>
    rintro rfl
    cases hv2 : c.auth.v2.enabled with
    | false => simp [hv2, hflows, seq_eq_ok] at huser
    | true => simp [hv2, hflows, seq_eq_ok] at huser

end Checks

end Maverick
