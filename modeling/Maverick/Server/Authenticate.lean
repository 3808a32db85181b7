import Maverick.Core.Hello
import Maverick.Core.Replay
import Maverick.Server.Users

/-!
# Server-side authentication of a client hello

`authenticate_client_hello` of `maverick_server::server` with both protocol
versions, the negotiation of feature flags, and the reply.

* `authenticateClientHelloV1_eq_some`, `authenticateClientHelloV2_eq_some` —
  everything an accepted hello of either version has passed.
* `authenticateClientHello_identity` — the replay key, nonce and timestamp of an
  accepted hello are determined by its payload alone.
-/

namespace Maverick
namespace Server

open Lib

/-- The parts of `ServerState` that authentication reads. -/
structure ServerState where
  config : ServerConfig
  users : UserStore
  dummyAuthSecret : SecretString

inductive AuthenticatedClientAuth where
  | v1 (clientNonce : Block 32) (timestampUnix : Int64)
  | v2 (authEpoch : UInt64) (clientNonce : Block 32) (timestampUnix : Int64)
  deriving DecidableEq

structure AuthenticatedClientHello where
  credential : CredentialMatch
  replayKey : String
  featureFlagsSelected : UInt64
  auth : AuthenticatedClientAuth
  deriving DecidableEq

namespace AuthenticatedClientHello

/-- `AuthenticatedClientHello::client_nonce` -/
def clientNonce (a : AuthenticatedClientHello) : Block 32 :=
  match a.auth with
  | .v1 nonce _ => nonce
  | .v2 _ nonce _ => nonce

/-- `AuthenticatedClientHello::timestamp_unix` -/
def timestampUnix (a : AuthenticatedClientHello) : Int64 :=
  match a.auth with
  | .v1 _ timestamp => timestamp
  | .v2 _ _ timestamp => timestamp

end AuthenticatedClientHello

/-- `selected_client_feature_flags` -/
def selectedClientFeatureFlags (requested : UInt64) (config : AuthChannelBindingConfig)
    (channelBinding : Option TlsChannelBinding) : Option UInt64 :=
  if config.require ∧ !bindingFlag requested then none
  else if !bindingFlag requested then some 0
  else if !config.enabled ∨ channelBinding.isNone then none
  else some FEATURE_TLS_CHANNEL_BINDING

/-- `selected_channel_binding_for_flags` -/
def selectedChannelBindingForFlags (selected : UInt64)
    (channelBinding : Option TlsChannelBinding) : Option TlsChannelBinding :=
  if bindingFlag selected then channelBinding else none

/-- `payload_version` -/
def payloadVersion (payload : Bytes) : Option UInt16 :=
  if 2 ≤ payload.length then some (UInt16.ofNat (ofBe (payload.take 2))) else none

/-- The key under which a version 2 hello is entered in the replay cache. -/
def replayKeyV2 (authEpoch : UInt64) (credentialId : String) : String :=
  "v2:" ++ toString authEpoch.toNat ++ ":" ++ credentialId

section Authenticate

variable (C : Crypto) (state : ServerState)

/-- The secret a hello is verified with: that of the credential, or the dummy
secret when there is none. -/
def verifySecret (credentialId : String) (nowUnix : Int64) : SecretString :=
  match state.users.lookupSecret credentialId nowUnix with
  | some credential => credential.secret
  | none => state.dummyAuthSecret

/-- `authenticate_client_hello_v1` -/
def authenticateClientHelloV1 (payload : Bytes) (nowUnix : Int64)
    (channelBinding : Option TlsChannelBinding) : Option AuthenticatedClientHello := do
  let hello ← (ClientHello.decode payload).toOption
  guard (hello.protocolVersion = PROTOCOL_VERSION)
  let secret := verifySecret state hello.credentialId nowUnix
  let selected ← selectedClientFeatureFlags hello.featureFlags state.config.auth.channelBinding
    channelBinding
  guard (hello.verify C secret state.config.maverick.tunnelPath
    (selectedChannelBindingForFlags selected channelBinding))
  let credential ← state.users.lookupCredential hello.credentialId nowUnix
  return ⟨credential, hello.credentialId, selected, .v1 hello.clientNonce hello.timestampUnix⟩

/-- `authenticate_client_hello_v2` -/
def authenticateClientHelloV2 (payload : Bytes) (nowUnix : Int64)
    (channelBinding : Option TlsChannelBinding) : Option AuthenticatedClientHello := do
  let hello ← (ClientHelloV2.decode payload).toOption
  guard (hello.protocolVersion = AUTH_V2_PROTOCOL_VERSION ∧
    hello.authEpoch ∈ state.config.auth.v2.acceptedEpochs)
  let credentialId ← fromUtf8 hello.credentialHint
  let secret := verifySecret state credentialId nowUnix
  let selected ← selectedClientFeatureFlags hello.featureFlags state.config.auth.channelBinding
    channelBinding
  guard (hello.verify C secret state.config.maverick.tunnelPath
    (selectedChannelBindingForFlags selected channelBinding))
  let credential ← state.users.lookupCredential credentialId nowUnix
  return ⟨credential, replayKeyV2 hello.authEpoch credentialId, selected,
    .v2 hello.authEpoch hello.clientNonce hello.timestampUnix⟩

/-- `authenticate_client_hello` -/
def authenticateClientHello (payload : Bytes) (nowUnix : Int64)
    (channelBinding : Option TlsChannelBinding) : Option AuthenticatedClientHello := do
  let version ← payloadVersion payload
  if version = PROTOCOL_VERSION ∧ !state.config.auth.v2.require then
    authenticateClientHelloV1 C state payload nowUnix channelBinding
  else if version = AUTH_V2_PROTOCOL_VERSION ∧ state.config.auth.v2.enabled then
    authenticateClientHelloV2 C state payload nowUnix channelBinding
  else none

/-- `AuthenticatedClientHello::server_hello_payload` -/
def serverHelloPayload (a : AuthenticatedClientHello) (maxFrameSize maxConcurrentFlows : UInt32)
    (channelBinding : Option TlsChannelBinding) (random : Except Error (Block 32 × Block 16)) :
    Except Error Bytes :=
  let binding := selectedChannelBindingForFlags a.featureFlagsSelected channelBinding
  match a.auth with
  | .v1 nonce _ => do
    let hello ← ServerHello.tryNew C a.credential.secret nonce maxFrameSize maxConcurrentFlows
      a.featureFlagsSelected binding random
    return hello.encode
  | .v2 epoch nonce _ => do
    let hello ← ServerHelloV2.tryNew C a.credential.secret epoch nonce maxFrameSize
      maxConcurrentFlows a.featureFlagsSelected 86400 binding random
    hello.encode

end Authenticate

/-! ## What an accepted hello has passed -/

theorem toOption_eq_some {α : Type} {x : Except Error α} {a : α} :
    x.toOption = some a ↔ x = .ok a := by
  cases x <;> simp [Except.toOption]

theorem payloadVersion_putU16 (version : UInt16) (rest : Bytes) :
    payloadVersion (putU16 version ++ rest) = some version := by
  rw [payloadVersion, if_pos (by simp), List.take_left' (length_putU16 version), putU16,
    ofBe_toBe_of_lt (by exact version.toNat_lt), UInt16.ofNat_toNat]

section Accepted

variable {C : Crypto} {state : ServerState} {payload : Bytes} {nowUnix : Int64}
  {channelBinding : Option TlsChannelBinding} {a : AuthenticatedClientHello}

/-- **Version 1**: everything an accepted hello has passed. -/
theorem authenticateClientHelloV1_eq_some :
    authenticateClientHelloV1 C state payload nowUnix channelBinding = some a ↔
      ∃ hello, ClientHello.decode payload = .ok hello ∧ hello.protocolVersion = PROTOCOL_VERSION ∧
      ∃ selected, selectedClientFeatureFlags hello.featureFlags state.config.auth.channelBinding
        channelBinding = some selected ∧
      hello.verify C (verifySecret state hello.credentialId nowUnix)
        state.config.maverick.tunnelPath
        (selectedChannelBindingForFlags selected channelBinding) = true ∧
      ∃ credential, state.users.lookupCredential hello.credentialId nowUnix = some credential ∧
        a = ⟨credential, hello.credentialId, selected,
          .v1 hello.clientNonce hello.timestampUnix⟩ := by
  simp only [authenticateClientHelloV1, bind, Option.bind_eq_some_iff, toOption_eq_some,
    Option.guard_eq_some', pure, Option.some.injEq, exists_const]
  constructor
  · rintro ⟨hello, hdec, hversion, selected, hsel, hver, credential, hcred, rfl⟩
    exact ⟨hello, hdec, hversion, selected, hsel, hver, credential, hcred, rfl⟩
  · rintro ⟨hello, hdec, hversion, selected, hsel, hver, credential, hcred, rfl⟩
    exact ⟨hello, hdec, hversion, selected, hsel, hver, credential, hcred, rfl⟩

/-- **Version 2**: everything an accepted hello has passed. -/
theorem authenticateClientHelloV2_eq_some :
    authenticateClientHelloV2 C state payload nowUnix channelBinding = some a ↔
      ∃ hello, ClientHelloV2.decode payload = .ok hello ∧
      (hello.protocolVersion = AUTH_V2_PROTOCOL_VERSION ∧
        hello.authEpoch ∈ state.config.auth.v2.acceptedEpochs) ∧
      ∃ credentialId, fromUtf8 hello.credentialHint = some credentialId ∧
      ∃ selected, selectedClientFeatureFlags hello.featureFlags state.config.auth.channelBinding
        channelBinding = some selected ∧
      hello.verify C (verifySecret state credentialId nowUnix) state.config.maverick.tunnelPath
        (selectedChannelBindingForFlags selected channelBinding) = true ∧
      ∃ credential, state.users.lookupCredential credentialId nowUnix = some credential ∧
        a = ⟨credential, replayKeyV2 hello.authEpoch credentialId, selected,
          .v2 hello.authEpoch hello.clientNonce hello.timestampUnix⟩ := by
  simp only [authenticateClientHelloV2, bind, Option.bind_eq_some_iff, toOption_eq_some,
    Option.guard_eq_some', pure, Option.some.injEq, exists_const]
  constructor
  · rintro ⟨hello, hdec, hversion, id, hid, selected, hsel, hver, credential, hcred, rfl⟩
    exact ⟨hello, hdec, hversion, id, hid, selected, hsel, hver, credential, hcred, rfl⟩
  · rintro ⟨hello, hdec, hversion, id, hid, selected, hsel, hver, credential, hcred, rfl⟩
    exact ⟨hello, hdec, hversion, id, hid, selected, hsel, hver, credential, hcred, rfl⟩

/-- The dispatch on the version in the first two bytes. -/
theorem authenticateClientHello_eq_some :
    authenticateClientHello C state payload nowUnix channelBinding = some a ↔
      (payloadVersion payload = some PROTOCOL_VERSION ∧ state.config.auth.v2.require = false ∧
        authenticateClientHelloV1 C state payload nowUnix channelBinding = some a) ∨
      (payloadVersion payload = some AUTH_V2_PROTOCOL_VERSION ∧
        state.config.auth.v2.enabled = true ∧
        authenticateClientHelloV2 C state payload nowUnix channelBinding = some a) := by
  unfold authenticateClientHello
  cases payloadVersion payload with
  | none => simp
  | some version =>
    simp only [bind, Option.bind_some, Option.some.injEq]
    split
    · rename_i h
      obtain ⟨rfl, hreq⟩ := h
      have hne : PROTOCOL_VERSION ≠ AUTH_V2_PROTOCOL_VERSION := by decide
      simp only [Bool.not_eq_true'] at hreq
      simp [hreq, hne]
    · rename_i hv1
      split
      · rename_i h
        obtain ⟨rfl, hen⟩ := h
        have hne : AUTH_V2_PROTOCOL_VERSION ≠ PROTOCOL_VERSION := by decide
        simp [hen, hne]
      rename_i hv2
      simp only [reduceCtorEq, false_iff]
      rintro (⟨rfl, hreq, -⟩ | ⟨rfl, hen, -⟩)
      exacts [hv1 ⟨rfl, by simp [hreq]⟩, hv2 ⟨rfl, hen⟩]

end Accepted

/-! ## The identity of a hello -/

/-- Replay key, nonce and timestamp of a payload. -/
def helloIdentity (payload : Bytes) : Option (String × Block 32 × Int64) := do
  let version ← payloadVersion payload
  if version = PROTOCOL_VERSION then
    let hello ← (ClientHello.decode payload).toOption
    return (hello.credentialId, hello.clientNonce, hello.timestampUnix)
  else
    let hello ← (ClientHelloV2.decode payload).toOption
    let credentialId ← fromUtf8 hello.credentialHint
    return (replayKeyV2 hello.authEpoch credentialId, hello.clientNonce, hello.timestampUnix)

/-- **The identity of an accepted hello is in its payload**: it does not depend
on the time of the check, the binding or the configuration. -/
theorem authenticateClientHello_identity {C : Crypto} {state : ServerState} {payload : Bytes}
    {nowUnix : Int64} {channelBinding : Option TlsChannelBinding} {a : AuthenticatedClientHello}
    (h : authenticateClientHello C state payload nowUnix channelBinding = some a) :
    helloIdentity payload = some (a.replayKey, a.clientNonce, a.timestampUnix) := by
  rcases authenticateClientHello_eq_some.mp h with ⟨hv, -, h1⟩ | ⟨hv, -, h2⟩
  · obtain ⟨hello, hdec, -, _, -, -, _, -, rfl⟩ := authenticateClientHelloV1_eq_some.mp h1
    simp [helloIdentity, hv, hdec, Except.toOption, AuthenticatedClientHello.clientNonce,
      AuthenticatedClientHello.timestampUnix]
  obtain ⟨hello, hdec, -, id, hid, _, -, -, _, -, rfl⟩ := authenticateClientHelloV2_eq_some.mp h2
  have hne : AUTH_V2_PROTOCOL_VERSION ≠ PROTOCOL_VERSION := by decide
  simp [helloIdentity, hv, hne, hdec, hid, Except.toOption,
    AuthenticatedClientHello.clientNonce, AuthenticatedClientHello.timestampUnix]

/-! ## Something to run a handshake with -/

namespace Sample

def secret : SecretString := "mv1_AAAAAAAAAAAAAAAAAAAAAAAAAAAAAAAAAAAAAAAAAAA"

/-- The one secret of the sample decodes to 32 zero bytes. -/
def parsers : Parsers where
  base64 := fun s =>
    if s = "AAAAAAAAAAAAAAAAAAAAAAAAAAAAAAAAAAAAAAAAAAA" then some (List.replicate 32 0) else none
  rfc3339 := fun _ => none

/-- A number of 32 bytes to which every byte adds. -/
def digest (bytes : Bytes) : Block 32 :=
  ⟨toBe 32 (bytes.foldl (fun n b => n * 257 + b.toNat + 1) 0), length_toBe ..⟩

/-- A stand-in for the primitives that depends on everything they are given. -/
def crypto : Crypto where
  hmac key message := digest (prefixed 2 key ++ message)
  hkdf salt ikm info := digest (prefixed 2 salt ++ (prefixed 2 ikm ++ info))

def alice : UserConfig := ⟨"alice", secret, true, none, none⟩

end Sample

end Server
end Maverick
