import Maverick.Core.Hello

/-!
# The client side of the handshake

`ClientHandshake` of `maverick_client::tunnel`: the hello that a client sends
for its configuration and the channel binding of its transport, and the check of
the answer.

* `ClientHandshake.new_spec` — what a handshake made from a validated
  configuration satisfies.
* `ClientHandshake.verifyServerHello_v1`, `ClientHandshake.verifyServerHello_v2` — an
  accepted answer has the version of the hello, and its tag has passed.
-/

namespace Maverick
namespace Client

open Lib

/-- A core error, or an error with a message of the client's own. -/
inductive ClientError where
  | core (error : Error)
  | message (text : String)
  deriving DecidableEq

/-- The `?` on a core result. -/
def liftCore {α : Type} : Except Error α → Except ClientError α
  | .ok a => .ok a
  | .error e => .error (.core e)

@[simp] theorem liftCore_eq_ok {α : Type} {x : Except Error α} {a : α} :
    liftCore x = .ok a ↔ x = .ok a := by
  cases x <;> simp [liftCore]

inductive ClientHandshakeMessage where
  | v1 (hello : ClientHello)
  | v2 (hello : ClientHelloV2)
  deriving DecidableEq

structure ClientHandshake where
  message : ClientHandshakeMessage
  secret : SecretString
  channelBinding : Option TlsChannelBinding
  requireBinding : Bool
  deriving DecidableEq

/-- `client_feature_flags` -/
def clientFeatureFlags (config : ClientConfig) (channelBinding : Option TlsChannelBinding) :
    Except ClientError UInt64 :=
  if !config.auth.channelBinding.enabled then .ok 0
  else if channelBinding.isSome then .ok FEATURE_TLS_CHANNEL_BINDING
  else if config.auth.channelBinding.require then
    .error (.message
      "auth.channel_binding.require needs a transport with TLS channel binding support")
  else .ok 0

/-- `selected_channel_binding` -/
def selectedBinding (selected : UInt64) (channelBinding : Option TlsChannelBinding) :
    Option TlsChannelBinding :=
  if bindingFlag selected then channelBinding else none

/-- `has_unrequested_feature_flags` -/
def hasUnrequestedFeatureFlags (selected requested : UInt64) : Bool :=
  selected &&& ~~~requested != 0

namespace ClientHandshake

/-- `ClientHandshake::new`; `clock` is the time at which the credential is
selected, `random` and `now` are what the constructor of the hello is given. -/
def new (P : Parsers) (C : Crypto) (config : ClientConfig)
    (channelBinding : Option TlsChannelBinding) (clock : Except ClientError Int64)
    (random : Except Error (Block 32)) (now : Int64) : Except ClientError ClientHandshake := do
  let clock ← clock
  let credential ← liftCore (selectClientCredentialAtUnix P config.server config.auth.rotation clock)
  let featureFlags ← clientFeatureFlags config channelBinding
  let binding := selectedBinding featureFlags channelBinding
  if config.auth.v2.enabled then
    match config.auth.rotation.activeEpoch with
    | none =>
      throw (.message "auth.rotation.active_epoch is required when auth.v2.enabled is true")
    | some activeEpoch => do
      let authEpoch ← liftCore (parseAuthEpoch activeEpoch)
      let hello ← liftCore (ClientHelloV2.tryNew C (utf8 credential.id) credential.secret authEpoch
        config.server.tunnelPath config.mode featureFlags 0 binding random now)
      return ⟨.v2 hello, credential.secret, channelBinding, config.auth.channelBinding.require⟩
  else
    let hello ← liftCore (ClientHello.tryNew C credential.id credential.secret
      config.server.tunnelPath config.mode featureFlags binding random now)
    return ⟨.v1 hello, credential.secret, channelBinding, config.auth.channelBinding.require⟩

/-- `ClientHandshake::encode` -/
def encode (h : ClientHandshake) : Except ClientError Bytes :=
  match h.message with
  | .v1 hello => .ok hello.encode
  | .v2 hello => liftCore hello.encode

/-- `ClientHandshake::verify_server_hello` -/
def verifyServerHello (C : Crypto) (h : ClientHandshake) (payload : Bytes) :
    Except ClientError UInt32 :=
  match h.message with
  | .v1 hello => do
    let serverHello ← liftCore (ServerHello.decode payload)
    if serverHello.protocolVersionSelected ≠ PROTOCOL_VERSION
        ∨ serverHello.maxConcurrentFlows = 0
        ∨ (h.requireBinding ∧ !bindingFlag serverHello.featureFlagsSelected)
        ∨ hasUnrequestedFeatureFlags serverHello.featureFlagsSelected hello.featureFlags
        ∨ !serverHello.verify C h.secret hello.clientNonce
            (selectedBinding serverHello.featureFlagsSelected h.channelBinding) then
      throw (.message "invalid ServerHello")
    return serverHello.maxFrameSize
  | .v2 hello => do
    let serverHello ← liftCore (ServerHelloV2.decode payload)
    if serverHello.protocolVersionSelected ≠ AUTH_V2_PROTOCOL_VERSION
        ∨ serverHello.selectedEpoch ≠ hello.authEpoch
        ∨ serverHello.maxConcurrentFlows = 0
        ∨ serverHello.rotationWindowSecs = 0
        ∨ (h.requireBinding ∧ !bindingFlag serverHello.featureFlagsSelected)
        ∨ hasUnrequestedFeatureFlags serverHello.featureFlagsSelected hello.featureFlags
        ∨ !serverHello.verify C h.secret hello.clientNonce
            (selectedBinding serverHello.featureFlagsSelected h.channelBinding) then
      throw (.message "invalid ServerHello v2")
    return serverHello.maxFrameSize

/-! ## What the handshake authenticates -/

def clientNonce (h : ClientHandshake) : Block 32 :=
  match h.message with
  | .v1 hello => hello.clientNonce
  | .v2 hello => hello.clientNonce

/-- The flags the client has requested. -/
def featureFlags (h : ClientHandshake) : UInt64 :=
  match h.message with
  | .v1 hello => hello.featureFlags
  | .v2 hello => hello.featureFlags

def authTag (h : ClientHandshake) : AuthTag :=
  match h.message with
  | .v1 hello => hello.authTag
  | .v2 hello => hello.authTag

/-- The transcript under the tag of the hello. -/
def transcript (h : ClientHandshake) (tunnelPath : String) : Transcript :=
  match h.message with
  | .v1 hello =>
    .clientV1 (hello.transcript tunnelPath (selectedBinding hello.featureFlags h.channelBinding))
  | .v2 hello =>
    .clientV2 (hello.transcript tunnelPath (selectedBinding hello.featureFlags h.channelBinding))

end ClientHandshake

/-- The flags that are requested ask for a binding only when there is one, and do
ask for it when the configuration requires it. -/
theorem clientFeatureFlags_eq_ok {config : ClientConfig}
    {channelBinding : Option TlsChannelBinding} {flags : UInt64}
    (h : clientFeatureFlags config channelBinding = .ok flags) :
    (bindingFlag flags = true → channelBinding.isSome = true) ∧
    (config.auth.channelBinding.enabled = true → config.auth.channelBinding.require = true →
      bindingFlag flags = true) := by
  have hzero : bindingFlag 0 = false := by decide
  have hset : bindingFlag FEATURE_TLS_CHANNEL_BINDING = true := by decide
  unfold clientFeatureFlags at h
  split at h
  · next hoff =>
      cases h
      simp only [Bool.not_eq_true'] at hoff
      simp [hzero, hoff]
  split at h
  · next hsome =>
      cases h
      simp [hset, hsome]
  split at h
  · cases h
  next hreq =>
    cases h
    simp [hzero, hreq]

namespace ClientHandshake

/-- What a handshake made from a configuration satisfies. -/
structure Sound (C : Crypto) (config : ClientConfig) (h : ClientHandshake) : Prop where
  tag : Mac.tag C ⟨h.secret, h.transcript config.server.tunnelPath⟩ = h.authTag
  limits : (h.transcript config.server.tunnelPath).WithinLimits
  requireBinding : h.requireBinding = config.auth.channelBinding.require
  requested : config.auth.channelBinding.require = true → bindingFlag h.featureFlags = true
  available : bindingFlag h.featureFlags = true → h.channelBinding.isSome = true

variable {C : Crypto} {h : ClientHandshake} {payload : Bytes} {size : UInt32}

/-- **A handshake of a validated client.** -/
theorem new_spec {P : Parsers} {config : ClientConfig} {channelBinding : Option TlsChannelBinding}
    {clock : Except ClientError Int64} {random : Except Error (Block 32)} {now : Int64}
    (hvalid : config.validate P = .ok ())
    (hnew : new P C config channelBinding clock random now = .ok h) :
    h.Sound C config ∧ random = .ok h.clientNonce ∧ h.channelBinding = channelBinding := by
  obtain ⟨hpath, hids⟩ := ClientConfig.lengths_of_validate hvalid
  unfold new at hnew
  simp only [Check.bind_eq_ok, liftCore_eq_ok] at hnew
  obtain ⟨clock, -, credential, hcredential, flags, hflags, hnew⟩ := hnew
  have hid := hids _ _ hcredential
  obtain ⟨havailable, hrequested⟩ := clientFeatureFlags_eq_ok hflags
  have hrequested' := fun hreq => hrequested (ClientConfig.requires_enabled hvalid hreq) hreq
  split at hnew
  · split at hnew
    · cases hnew
    simp only [Check.bind_eq_ok, liftCore_eq_ok, ClientHelloV2.tryNew_eq_ok] at hnew
    obtain ⟨epoch, -, hello, ⟨-, -, nonce, hrandom, rfl⟩, hnew⟩ := hnew
    cases hnew
    exact ⟨⟨rfl, ⟨hid, hpath⟩, rfl, hrequested', havailable⟩, hrandom, rfl⟩
  · simp only [Check.bind_eq_ok, liftCore_eq_ok, ClientHello.tryNew_eq_ok] at hnew
    obtain ⟨hello, ⟨-, nonce, hrandom, rfl⟩, hnew⟩ := hnew
    cases hnew
    exact ⟨⟨rfl, ⟨hid, hpath⟩, rfl, hrequested', havailable⟩, hrandom, rfl⟩

/-- **Version 1**: an accepted answer has that version, and its tag has passed. -/
theorem verifyServerHello_v1 {hello : ClientHello} (hmsg : h.message = .v1 hello)
    (hok : h.verifyServerHello C payload = .ok size) :
    ∃ sh, ServerHello.decode payload = .ok sh ∧ sh.protocolVersionSelected = PROTOCOL_VERSION ∧
      sh.verify C h.secret hello.clientNonce
        (selectedBinding sh.featureFlagsSelected h.channelBinding) = true := by
  unfold verifyServerHello at hok
  simp only [hmsg, Check.bind_eq_ok, liftCore_eq_ok] at hok
  obtain ⟨sh, hdecode, hok⟩ := hok
  refine ⟨sh, hdecode, ?_⟩
  split at hok
  · obtain ⟨_, hthrow, -⟩ := hok
  next hpass =>
    simp only [hasUnrequestedFeatureFlags, not_or, not_and, ne_eq, not_not, bne_iff_ne,
      Bool.not_eq_true', Bool.not_eq_false] at hpass
    exact ⟨hpass.1, hpass.2.2.2.2⟩

/-- **Version 2**: the same. -/
theorem verifyServerHello_v2 {hello : ClientHelloV2} (hmsg : h.message = .v2 hello)
    (hok : h.verifyServerHello C payload = .ok size) :
    ∃ sh, ServerHelloV2.decode payload = .ok sh ∧
      sh.protocolVersionSelected = AUTH_V2_PROTOCOL_VERSION ∧
      sh.verify C h.secret hello.clientNonce
        (selectedBinding sh.featureFlagsSelected h.channelBinding) = true := by
  unfold verifyServerHello at hok
  simp only [hmsg, Check.bind_eq_ok, liftCore_eq_ok] at hok
  obtain ⟨sh, hdecode, hok⟩ := hok
  refine ⟨sh, hdecode, ?_⟩
  split at hok
  · obtain ⟨_, hthrow, -⟩ := hok
  next hpass =>
    simp only [hasUnrequestedFeatureFlags, not_or, not_and, ne_eq, not_not, bne_iff_ne,
      Bool.not_eq_true', Bool.not_eq_false] at hpass
    exact ⟨hpass.1, hpass.2.2.2.2.2.2⟩

end ClientHandshake
end Client
end Maverick
