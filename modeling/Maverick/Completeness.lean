import Maverick.Agreement
import Maverick.Core.HelloCodec
import Maverick.Server.Sessions

/-!
# Handshake completeness

What agreement leaves open: that two honest parties whose configurations fit
together do get through the handshake.  Every limit that validation enforces has
to fit the limits of the four messages, the credential store and the checks of
both sides.

* `Fitting`, `Admitted` — what it means that a client and a server fit together,
  and that the replay caches let the hello in.
* `overlong_id_never_authenticates` — validation lets the id of a version 1
  credential have up to 65535 bytes, but the hello that carries it is decoded with
  a limit of 512, so a validated pair with a longer id never authenticates.
* `handshake_complete` — a fitting pair completes the handshake, and the client
  learns the frame size of the server, exactly if the id is within that limit.
-/

namespace Maverick
namespace Agreement

open Lib
open Client
open Server

/-! ## The parties and what they observe -/

/-- What the two sides see and draw in one handshake. -/
structure Attempt where
  channelBinding : Option TlsChannelBinding
  /-- the client's clock when it selects its credential -/
  clock : Int64
  nonce : Block 32
  /-- the timestamp of the hello -/
  timestampUnix : Int64
  /-- the server's clock when it checks the hello -/
  nowUnix : Int64
  random : Block 32 × Block 16

section
variable {P : Parsers}

/-- A server with its primitives, its hash and the time at which it was
started. -/
def ValidServer.deployment (server : ValidServer P) (C : Crypto) (hash : String → UInt64)
    (started : Int64) : Deployment :=
  ⟨C, hash, server.state, started⟩

/-- **A client and a server fit together**: the same version, and in version 2 an
accepted epoch; the same path; the same setting for channel bindings, with a
binding present if either side requires it; and a credential that the client
selects and the server grants with the same secret. -/
structure Fitting (client : ValidClient P) (server : ValidServer P) (x : Attempt)
    (credential : SelectedClientCredential) : Prop where
  version : client.config.auth.v2.enabled = server.state.config.auth.v2.enabled
  epoch : client.config.auth.v2.enabled = true → ∀ text epoch,
    client.config.auth.rotation.activeEpoch = some text → parseAuthEpoch text = .ok epoch →
    epoch ∈ server.state.config.auth.v2.acceptedEpochs
  tunnelPath : client.config.server.tunnelPath = server.state.config.maverick.tunnelPath
  binding : client.config.auth.channelBinding.enabled =
    server.state.config.auth.channelBinding.enabled
  observed : client.config.auth.channelBinding.require = true ∨
    server.state.config.auth.channelBinding.require = true → x.channelBinding.isSome = true
  selected : selectClientCredentialAtUnix P client.config.server client.config.auth.rotation
    x.clock = .ok credential
  granted : ∃ u ∈ server.state.config.users,
    UserStore.Grants P x.nowUnix u credential.id credential.secret

/-- The key under which the hello of a client is entered in the replay caches. -/
def clientReplayKey (config : ClientConfig) (credential : SelectedClientCredential) :
    Option String :=
  if config.auth.v2.enabled then
    config.auth.rotation.activeEpoch.bind fun text =>
      (parseAuthEpoch text).toOption.map fun epoch => replayKeyV2 epoch credential.id
  else some credential.id

/-- **The replay caches let the hello in**: the clocks differ by at most the
window, the nonce is fresh and neither cap is reached.  The server's clock is a
date of the `time` crate, within a million years of the epoch. -/
structure Admitted (D : Deployment) (caches : Shard → ReplayCache) (client : ValidClient P)
    (x : Attempt) (credential : SelectedClientCredential) : Prop where
  dated : -2 ^ 62 ≤ x.nowUnix.toInt ∧ x.nowUnix.toInt ≤ 2 ^ 62
  close : |x.nowUnix.toInt - x.timestampUnix.toInt| ≤ D.windowSecs.toInt
  room : ∀ key, clientReplayKey client.config credential = some key →
    let cache := caches (D.replayShard key)
    (cache.cleanup x.nowUnix).HasRoom (cache.survivors x.nowUnix key) x.nonce

/-- The whole handshake: the client's hello authenticates it, and the client
accepts the answer with the server's frame size. -/
def Completes (D : Deployment) (caches : Shard → ReplayCache) (client : ValidClient P)
    (server : ValidServer P) (x : Attempt) : Prop :=
  ∃ handshake hello a answer,
    ClientHandshake.new P D.crypto client.config x.channelBinding (.ok x.clock) (.ok x.nonce)
      x.timestampUnix = .ok handshake ∧
    handshake.encode = .ok hello ∧
    (D.authenticateTunnelFrame caches ⟨.clientHello, 0, 0, hello⟩ x.nowUnix x.channelBinding).2 =
      some a ∧
    serverHelloPayload D.crypto a server.state.config.maxFrameSize (maxConcurrentFlows server a)
      x.channelBinding (.ok x.random) = .ok answer ∧
    handshake.verifyServerHello D.crypto answer = .ok server.state.config.maxFrameSize

end

/-! ## Negotiation of fitting parties -/

section
variable {P : Parsers} {client : ValidClient P} {server : ValidServer P} {x : Attempt}
  {credential : SelectedClientCredential}

/-- **The server selects exactly what the client requests**, and both then use
the same binding. -/
theorem Fitting.negotiate (h : Fitting client server x credential) :
    ∃ flags, clientFeatureFlags client.config x.channelBinding = .ok flags ∧
      selectedClientFeatureFlags flags server.state.config.auth.channelBinding x.channelBinding =
        some flags ∧
      (bindingFlag flags = true → x.channelBinding.isSome = true) ∧
      (client.config.auth.channelBinding.require = true → bindingFlag flags = true) := by
  have hzero : bindingFlag 0 = false := by decide
  have hset : bindingFlag FEATURE_TLS_CHANNEL_BINDING = true := by decide
  have hclient := ClientConfig.requires_enabled client.valid
  have hserver := ServerConfig.binding_requires_enabled server.valid
  unfold clientFeatureFlags selectedClientFeatureFlags
  cases hen : client.config.auth.channelBinding.enabled with
  | false =>
    have hoff : server.state.config.auth.channelBinding.require = false := by
      rw [← Bool.not_eq_true]
      intro hreq
      cases (h.binding.symm.trans hen).symm.trans (hserver hreq)
    refine ⟨0, rfl, by simp [hzero, hoff], by simp [hzero], fun hreq => ?_⟩
    cases hen.symm.trans (hclient hreq)
  | true =>
    have hon := h.binding.symm.trans hen
    cases hobs : x.channelBinding with
    | some binding =>
      exact ⟨FEATURE_TLS_CHANNEL_BINDING, rfl, by simp [hset, hon], fun _ => rfl,
        fun _ => hset⟩
    | none =>
      -- nobody requires a binding that is not there
      have hnone := h.observed
      simp only [hobs, Option.isSome_none, Bool.false_eq_true, imp_false, not_or,
        Bool.not_eq_true] at hnone
      refine ⟨0, by simp [hnone.1], by simp [hzero, hnone.2], by simp [hzero], fun hreq => ?_⟩
      cases hnone.1.symm.trans hreq

variable {flags : UInt64} {binding : Option TlsChannelBinding} {C : Crypto} {state : ServerState}
  {nowUnix started : Int64} {m : CredentialMatch} {hello : ClientHello} {h : ClientHandshake}
  {require : Bool} {maxFrameSize flows : UInt32} {hash : String → UInt64} {s : Sessions}
  {a : AuthenticatedClientHello} {config : ClientConfig}

/-- The binding that the requested flags select is the one both sides put under
their tags. -/
theorem selectedChannelBinding_requested (h : bindingFlag flags = true → binding.isSome = true) :
    selectedChannelBinding flags (selectedBinding flags binding) =
      some (selectedBinding flags binding) := by
  refine selectedChannelBinding_eq_some.mpr ?_
  unfold selectedBinding
  cases hflag : bindingFlag flags with
  | false => exact .inr ⟨rfl, rfl⟩
  | true => exact .inl ⟨rfl, h hflag, rfl⟩

theorem available_requested (h : bindingFlag flags = true → binding.isSome = true) :
    bindingFlag flags = true → (selectedBinding flags binding).isSome = true := by
  intro hflag
  rw [selectedBinding, if_pos hflag]
  exact h hflag

theorem not_hasUnrequested (flags : UInt64) : hasUnrequestedFeatureFlags flags flags = false := by
  simp [hasUnrequestedFeatureFlags]

/-- The hint of a selected credential passes the check of version 2. -/
theorem validateCredentialHint_utf8 {id : String} (hne : id ≠ "")
    (hlen : (utf8 id).length ≤ AUTH_V2_MAX_CREDENTIAL_HINT_LEN) :
    validateCredentialHint (utf8 id) = .ok () := by
  have hempty : utf8 id ≠ [] := fun hnil => hne (utf8_inj (hnil.trans (by decide)))
  rw [validateCredentialHint, if_neg (by simpa using hempty), if_neg (by omega)]

/-! ## Version 1 -/

/-- The server authenticates a hello that it has the credential of, with the
flags that were requested. -/
theorem authenticate_v1 (hello : ClientHello) (hversion : hello.protocolVersion = PROTOCOL_VERSION)
    (hv2 : state.config.auth.v2.require = false)
    (hlen : (utf8 hello.credentialId).length ≤ AUTH_V1_MAX_CREDENTIAL_ID_LEN)
    (hselected : selectedClientFeatureFlags hello.featureFlags state.config.auth.channelBinding
      binding = some hello.featureFlags)
    (havailable : bindingFlag hello.featureFlags = true → binding.isSome = true)
    (hlookup : state.users.lookupCredential hello.credentialId nowUnix = some m)
    (htag : Mac.tag C ⟨m.secret, .clientV1 (hello.transcript state.config.maverick.tunnelPath
      (selectedBinding hello.featureFlags binding))⟩ = hello.authTag) :
    authenticateClientHello C state hello.encode nowUnix binding =
      some ⟨m, hello.credentialId, hello.featureFlags,
        .v1 hello.clientNonce hello.timestampUnix⟩ := by
  have hpayload : payloadVersion hello.encode = some PROTOCOL_VERSION := by
    rw [← hversion]
    exact payloadVersion_putU16 _ _
  have hdecode := ClientHello.decode_eq_ok.mpr ⟨hlen, rfl⟩
  have hverify : hello.verify C (verifySecret state hello.credentialId nowUnix)
      state.config.maverick.tunnelPath
      (selectedChannelBindingForFlags hello.featureFlags binding) = true := by
    rw [verifySecret_of_lookup hlookup]
    exact ClientHello.verify_iff.mpr ⟨_, selectedChannelBinding_requested havailable, htag⟩
  exact authenticateClientHello_eq_some.mpr (.inl ⟨hpayload, hv2,
    authenticateClientHelloV1_eq_some.mpr
      ⟨hello, hdecode, hversion, _, hselected, hverify, m, hlookup, rfl⟩⟩)

/-- The client accepts an answer that passes its checks. -/
theorem verifyServerHello_of_v1 {sh : ServerHello} (hmsg : h.message = .v1 hello)
    (hdecode : ServerHello.decode sh.encode = .ok sh)
    (hversion : sh.protocolVersionSelected = PROTOCOL_VERSION) (hflows : sh.maxConcurrentFlows ≠ 0)
    (hflags : sh.featureFlagsSelected = hello.featureFlags)
    (hrequire : h.requireBinding = true → bindingFlag hello.featureFlags = true)
    (hverify : sh.verify C h.secret hello.clientNonce
      (selectedBinding sh.featureFlagsSelected h.channelBinding) = true) :
    h.verifyServerHello C sh.encode = .ok sh.maxFrameSize := by
  have hunrequested := not_hasUnrequested hello.featureFlags
  rw [hflags] at hverify
  simp only [ClientHandshake.verifyServerHello, hmsg, hdecode, liftCore, hversion, hflags, hverify,
    hunrequested, bind, Except.bind]
  rw [if_neg]
  · rfl
  simp only [ne_eq, not_true_eq_false, hflows, Bool.not_true, Bool.false_eq_true, or_self,
    or_false, false_or, not_and, Bool.not_eq_true', Bool.not_eq_false]
  exact hrequire

/-- The server's answer to an authenticated hello is accepted. -/
theorem answer_v1 (m : CredentialMatch) (key : String) (hello : ClientHello)
    (random : Block 32 × Block 16) (hflows : flows ≠ 0)
    (havailable : bindingFlag hello.featureFlags = true → binding.isSome = true)
    (hrequire : require = true → bindingFlag hello.featureFlags = true) :
    ∃ answer, serverHelloPayload C ⟨m, key, hello.featureFlags,
        .v1 hello.clientNonce hello.timestampUnix⟩ maxFrameSize flows binding (.ok random) =
        .ok answer ∧
      ClientHandshake.verifyServerHello C ⟨.v1 hello, m.secret, binding, require⟩ answer =
        .ok maxFrameSize := by
  obtain ⟨sh, hsh⟩ : ∃ sh, ServerHello.tryNew C m.secret hello.clientNonce maxFrameSize flows
      hello.featureFlags (selectedBinding hello.featureFlags binding) (.ok random) = .ok sh :=
    ⟨_, ServerHello.tryNew_eq_ok.mpr ⟨available_requested havailable, random, rfl, rfl⟩⟩
  obtain ⟨-, r, -, rfl⟩ := ServerHello.tryNew_eq_ok.mp hsh
  refine ⟨_, congrArg (Except.map ServerHello.encode) hsh, ?_⟩
  refine verifyServerHello_of_v1 rfl (ServerHello.decode_eq_ok.mpr ⟨?_, rfl⟩) rfl hflows rfl
    hrequire ?_
  · simp only [r.2.property]
    decide
  · exact ServerHello.verify_iff.mpr ⟨_, selectedChannelBinding_requested havailable, rfl⟩

/-! ## Version 2 -/

theorem authenticate_v2 (hello : ClientHelloV2) {id : String}
    (hversion : hello.protocolVersion = AUTH_V2_PROTOCOL_VERSION)
    (hv2 : state.config.auth.v2.enabled = true)
    (hepoch : hello.authEpoch ∈ state.config.auth.v2.acceptedEpochs)
    (hhint : hello.credentialHint = utf8 id) (hvalid : validateCredentialHint (utf8 id) = .ok ())
    (hselected : selectedClientFeatureFlags hello.featureFlags state.config.auth.channelBinding
      binding = some hello.featureFlags)
    (havailable : bindingFlag hello.featureFlags = true → binding.isSome = true)
    (hlookup : state.users.lookupCredential id nowUnix = some m)
    (htag : Mac.tag C ⟨m.secret, .clientV2 (hello.transcript state.config.maverick.tunnelPath
      (selectedBinding hello.featureFlags binding))⟩ = hello.authTag) :
    authenticateClientHello C state hello.bytes nowUnix binding =
      some ⟨m, replayKeyV2 hello.authEpoch id, hello.featureFlags,
        .v2 hello.authEpoch hello.clientNonce hello.timestampUnix⟩ := by
  rw [← hhint] at hvalid
  have hpayload : payloadVersion hello.bytes = some AUTH_V2_PROTOCOL_VERSION := by
    rw [← hversion]
    exact payloadVersion_putU16 _ _
  have hdecode := ClientHelloV2.decode_eq_ok.mpr ⟨length_of_validateCredentialHint hvalid, rfl⟩
  have hverify : hello.verify C (verifySecret state id nowUnix) state.config.maverick.tunnelPath
      (selectedChannelBindingForFlags hello.featureFlags binding) = true := by
    rw [verifySecret_of_lookup hlookup]
    exact ClientHelloV2.verify_iff.mpr ⟨_, selectedChannelBinding_requested havailable,
      Mac.clientAuthV2Tag_eq_ok.mpr ⟨hvalid, htag⟩⟩
  exact authenticateClientHello_eq_some.mpr (.inr ⟨hpayload, hv2,
    authenticateClientHelloV2_eq_some.mpr ⟨hello, hdecode, ⟨hversion, hepoch⟩, id,
      by rw [hhint, fromUtf8_utf8], _, hselected, hverify, m, hlookup, rfl⟩⟩)

theorem verifyServerHello_of_v2 {hello : ClientHelloV2} {sh : ServerHelloV2}
    (hmsg : h.message = .v2 hello) (hdecode : ServerHelloV2.decode sh.bytes = .ok sh)
    (hversion : sh.protocolVersionSelected = AUTH_V2_PROTOCOL_VERSION)
    (hepoch : sh.selectedEpoch = hello.authEpoch) (hflows : sh.maxConcurrentFlows ≠ 0)
    (hwindow : sh.rotationWindowSecs ≠ 0) (hflags : sh.featureFlagsSelected = hello.featureFlags)
    (hrequire : h.requireBinding = true → bindingFlag hello.featureFlags = true)
    (hverify : sh.verify C h.secret hello.clientNonce
      (selectedBinding sh.featureFlagsSelected h.channelBinding) = true) :
    h.verifyServerHello C sh.bytes = .ok sh.maxFrameSize := by
  have hunrequested := not_hasUnrequested hello.featureFlags
  rw [hflags] at hverify
  simp only [ClientHandshake.verifyServerHello, hmsg, hdecode, liftCore, hversion, hepoch, hflags,
    hverify, hunrequested, bind, Except.bind]
  rw [if_neg]
  · rfl
  simp only [ne_eq, not_true_eq_false, hflows, hwindow, Bool.not_true, Bool.false_eq_true,
    or_self, or_false, false_or, not_and, Bool.not_eq_true', Bool.not_eq_false]
  exact hrequire

theorem answer_v2 (m : CredentialMatch) (key : String) (hello : ClientHelloV2)
    (random : Block 32 × Block 16) (hflows : flows ≠ 0)
    (havailable : bindingFlag hello.featureFlags = true → binding.isSome = true)
    (hrequire : require = true → bindingFlag hello.featureFlags = true) :
    ∃ answer, serverHelloPayload C ⟨m, key, hello.featureFlags,
        .v2 hello.authEpoch hello.clientNonce hello.timestampUnix⟩ maxFrameSize flows binding
        (.ok random) = .ok answer ∧
      ClientHandshake.verifyServerHello C ⟨.v2 hello, m.secret, binding, require⟩ answer =
        .ok maxFrameSize := by
  obtain ⟨sh, hsh⟩ : ∃ sh, ServerHelloV2.tryNew C m.secret hello.authEpoch hello.clientNonce
      maxFrameSize flows hello.featureFlags 86400 (selectedBinding hello.featureFlags binding)
      (.ok random) = .ok sh :=
    ⟨_, ServerHelloV2.tryNew_eq_ok.mpr ⟨available_requested havailable, random, rfl, rfl⟩⟩
  obtain ⟨-, r, -, rfl⟩ := ServerHelloV2.tryNew_eq_ok.mp hsh
  have hsid : 0 < r.2.val.length ∧ r.2.val.length ≤ 32 := by
    rw [r.2.property]
    decide
  refine ⟨_, (congrArg (· >>= ServerHelloV2.encode) hsh).trans
    (ServerHelloV2.encode_of_length hsid), ?_⟩
  refine verifyServerHello_of_v2 rfl (ServerHelloV2.decode_eq_ok.mpr ⟨hsid, rfl⟩) rfl rfl hflows
    (show (86400 : UInt32) ≠ 0 by decide) rfl hrequire ?_
  exact ServerHelloV2.verify_iff.mpr ⟨_, selectedChannelBinding_requested havailable,
    Mac.serverAuthV2TagChecked_eq_ok.mpr ⟨hsid, rfl⟩⟩

/-! ## The whole handshake -/

/-- The replay check lets an authenticated hello of the client through. -/
theorem Admitted.authenticate (hreach : (sessions (server.deployment C hash started)).Reach s)
    (h : Admitted (server.deployment C hash started) s.caches client x credential) {hello : Bytes}
    (hauth : authenticateClientHello C server.state hello x.nowUnix x.channelBinding = some a)
    (hkey : clientReplayKey client.config credential = some a.replayKey)
    (hnonce : a.clientNonce = x.nonce) (htime : a.timestampUnix = x.timestampUnix) :
    ((server.deployment C hash started).authenticateTunnelFrame s.caches
      ⟨.clientHello, 0, 0, hello⟩ x.nowUnix x.channelBinding).2 = some a := by
  obtain ⟨⟨hpos, hmax⟩, hcap, -⟩ := ServerConfig.limits_of_validate server.valid
  have hok := cachesOk_of_reach (server.deployment C hash started) hcap hreach
  have hwindow : ReplayCache.windowError (server.deployment C hash started).windowSecs
      a.timestampUnix x.nowUnix = none := by
    have hday : (server.deployment C hash started).windowSecs.toInt ≤ 86400 :=
      Int64.le_iff_toInt_le.mp hmax
    have hclose := abs_le.mp h.close
    obtain ⟨hlow, hhigh⟩ := h.dated
    rw [htime]
    refine ReplayCache.windowError_eq_none.mpr ?_
    omega
  have haccept : ((s.caches ((server.deployment C hash started).replayShard
      a.replayKey)).checkAndInsert a.replayKey a.clientNonce a.timestampUnix x.nowUnix).2 =
      .ok () := by
    refine ReplayCache.checkAndInsert_of_room (hok.consistent _) ?_ ?_
    · rwa [hok.window]
    · rw [hnonce]
      exact h.room _ hkey
  have hdep : authenticateClientHello (server.deployment C hash started).crypto
      (server.deployment C hash started).state hello x.nowUnix x.channelBinding = some a := hauth
  simp only [Deployment.authenticateTunnelFrame, hdep, haccept, ne_eq, not_true_eq_false, if_false]
  rfl

/-- The hello of a client of version 1. -/
def clientHelloV1 (C : Crypto) (config : ClientConfig) (x : Attempt)
    (credential : SelectedClientCredential) (flags : UInt64) : ClientHello :=
  ⟨PROTOCOL_VERSION, x.nonce, x.timestampUnix, credential.id, config.mode, flags,
    Mac.tag C ⟨credential.secret, .clientV1 ⟨PROTOCOL_VERSION, x.nonce, x.timestampUnix,
      credential.id, config.server.tunnelPath, config.mode, flags,
      selectedBinding flags x.channelBinding⟩⟩⟩

/-- The hello of a client of version 2. -/
def clientHelloV2 (C : Crypto) (config : ClientConfig) (x : Attempt)
    (credential : SelectedClientCredential) (flags epoch : UInt64) : ClientHelloV2 :=
  ⟨AUTH_V2_PROTOCOL_VERSION, epoch, x.nonce, x.timestampUnix, utf8 credential.id, config.mode, flags,
    0, Mac.tag C ⟨credential.secret, .clientV2 ⟨AUTH_V2_PROTOCOL_VERSION, epoch, x.nonce,
      x.timestampUnix, utf8 credential.id, config.server.tunnelPath, config.mode, flags, 0,
      selectedBinding flags x.channelBinding⟩⟩⟩

theorem new_v1 (hen : config.auth.v2.enabled = false)
    (hselected : selectClientCredentialAtUnix P config.server config.auth.rotation x.clock =
      .ok credential) (hflags : clientFeatureFlags config x.channelBinding = .ok flags)
    (havailable : bindingFlag flags = true → x.channelBinding.isSome = true) :
    ClientHandshake.new P C config x.channelBinding (.ok x.clock) (.ok x.nonce) x.timestampUnix =
      .ok ⟨.v1 (clientHelloV1 C config x credential flags), credential.secret, x.channelBinding,
        config.auth.channelBinding.require⟩ := by
  have hhello : ClientHello.tryNew C credential.id credential.secret config.server.tunnelPath
      config.mode flags (selectedBinding flags x.channelBinding) (.ok x.nonce) x.timestampUnix =
      .ok (clientHelloV1 C config x credential flags) :=
    ClientHello.tryNew_eq_ok.mpr ⟨available_requested havailable, x.nonce, rfl, rfl⟩
  simp only [ClientHandshake.new, hselected, hflags, hhello, hen, liftCore, bind, Except.bind,
    Bool.false_eq_true, if_false]
  rfl

theorem new_v2 {epoch : UInt64} {text : String} (hen : config.auth.v2.enabled = true)
    (hselected : selectClientCredentialAtUnix P config.server config.auth.rotation x.clock =
      .ok credential) (htext : config.auth.rotation.activeEpoch = some text)
    (hepoch : parseAuthEpoch text = .ok epoch)
    (hhint : validateCredentialHint (utf8 credential.id) = .ok ())
    (hflags : clientFeatureFlags config x.channelBinding = .ok flags)
    (havailable : bindingFlag flags = true → x.channelBinding.isSome = true) :
    ClientHandshake.new P C config x.channelBinding (.ok x.clock) (.ok x.nonce) x.timestampUnix =
      .ok ⟨.v2 (clientHelloV2 C config x credential flags epoch), credential.secret,
        x.channelBinding, config.auth.channelBinding.require⟩ := by
  have hhello : ClientHelloV2.tryNew C (utf8 credential.id) credential.secret epoch
      config.server.tunnelPath config.mode flags 0 (selectedBinding flags x.channelBinding)
      (.ok x.nonce) x.timestampUnix = .ok (clientHelloV2 C config x credential flags epoch) :=
    ClientHelloV2.tryNew_eq_ok.mpr ⟨available_requested havailable, hhint, x.nonce, rfl, rfl⟩
  simp only [ClientHandshake.new, hselected, hflags, hhello, hen, htext, hepoch, liftCore, bind,
    Except.bind, if_true]
  rfl

/-- A pair of version 1 completes the handshake if the id is within the limit of
the hello. -/
theorem complete_v1 (hreach : (sessions (server.deployment C hash started)).Reach s)
    (hfit : Fitting client server x credential)
    (hadmitted : Admitted (server.deployment C hash started) s.caches client x credential)
    (hen : client.config.auth.v2.enabled = false)
    (hlen : byteLen credential.id ≤ AUTH_V1_MAX_CREDENTIAL_ID_LEN) :
    Completes (server.deployment C hash started) s.caches client server x := by
  obtain ⟨flags, hrequested, hselected, havailable, hrequire⟩ := hfit.negotiate
  obtain ⟨u, hu, hgranted⟩ := hfit.granted
  obtain ⟨state, hlookup⟩ := UserStore.lookupCredential_of_grants server.users hu hgranted
  have hoff : server.state.config.auth.v2.require = false := by
    rw [ServerConfig.require_eq_enabled server.valid, ← hfit.version, hen]
  have hauth := authenticate_v1 (C := C) (clientHelloV1 C client.config x credential flags)
    rfl hoff hlen hselected havailable hlookup (by rw [← hfit.tunnelPath]; rfl)
  have hkey : clientReplayKey client.config credential = some credential.id := by
    rw [clientReplayKey, hen]
    rfl
  obtain ⟨answer, hanswer, haccept⟩ := answer_v1 (C := C) ⟨u, credential.secret, state⟩
    credential.id (clientHelloV1 C client.config x credential flags) x.random
    (ServerConfig.flows_of_validate server.valid hu) havailable hrequire
  exact ⟨_, _, _, answer, new_v1 hen hfit.selected hrequested havailable, rfl,
    hadmitted.authenticate hreach hauth hkey rfl rfl, hanswer, haccept⟩

/-- With a longer id it does not: what `ClientHello::decode` accepts has another id. -/
theorem not_complete_v1 {D : Deployment} {caches : Shard → ReplayCache}
    (hfit : Fitting client server x credential) (hen : client.config.auth.v2.enabled = false)
    (hlong : AUTH_V1_MAX_CREDENTIAL_ID_LEN < byteLen credential.id) :
    ¬ Completes D caches client server x := by
  rintro ⟨handshake, hello, a, -, hnew, hencode, hauth, -⟩
  obtain ⟨flags, hrequested, -, havailable, -⟩ := hfit.negotiate
  obtain rfl := Except.ok.inj ((new_v1 hen hfit.selected hrequested havailable).symm.trans hnew)
  obtain rfl := Except.ok.inj hencode
  obtain ⟨a', ha'⟩ : ∃ a', authenticateClientHello D.crypto D.state
      (clientHelloV1 D.crypto client.config x credential flags).encode x.nowUnix
      x.channelBinding = some a' := by
    by_contra hnone
    rw [← Option.ne_none_iff_exists', not_not] at hnone
    cases (Deployment.authenticateTunnelFrame_of_none hnone).symm.trans hauth
  rcases authenticateClientHello_eq_some.mp ha' with ⟨-, -, hv1⟩ | ⟨hversion, -⟩
  · obtain ⟨decoded, hdecode, -⟩ := authenticateClientHelloV1_eq_some.mp hv1
    obtain ⟨hlimit, hsame⟩ := ClientHello.decode_eq_ok.mp hdecode
    have hfits := (ClientConfig.lengths_of_validate client.valid).2 _ _ hfit.selected
    have hdecoded : (utf8 decoded.credentialId).length < 256 ^ 2 :=
      lt_of_le_of_lt hlimit (by decide)
    obtain ⟨rfl, -⟩ := ClientHello.peels_encode hfits hdecoded (congrArg (· ++ []) hsame)
    exact absurd hlimit (not_le.mpr hlong)
  · cases (payloadVersion_putU16 _ _).symm.trans hversion

/-- A pair of version 2 completes the handshake: validation has bounded the hint. -/
theorem complete_v2 (hreach : (sessions (server.deployment C hash started)).Reach s)
    (hfit : Fitting client server x credential)
    (hadmitted : Admitted (server.deployment C hash started) s.caches client x credential)
    (hen : client.config.auth.v2.enabled = true) :
    Completes (server.deployment C hash started) s.caches client server x := by
  obtain ⟨flags, hrequested, hselected, havailable, hrequire⟩ := hfit.negotiate
  obtain ⟨u, hu, hgranted⟩ := hfit.granted
  obtain ⟨state, hlookup⟩ := UserStore.lookupCredential_of_grants server.users hu hgranted
  obtain ⟨⟨text, epoch, htext, hepoch⟩, hhints⟩ := ClientConfig.v2_of_validate client.valid hen
  obtain ⟨hne, hlen⟩ := hhints _ _ hfit.selected
  have hhint := validateCredentialHint_utf8 hne hlen
  have hon := hfit.version.symm.trans hen
  have hauth := authenticate_v2 (C := C)
    (clientHelloV2 C client.config x credential flags epoch) rfl hon
    (hfit.epoch hen text epoch htext hepoch) rfl hhint hselected havailable hlookup
    (by rw [← hfit.tunnelPath]; rfl)
  have hkey : clientReplayKey client.config credential =
      some (replayKeyV2 epoch credential.id) := by
    simp only [clientReplayKey, hen, if_true, htext, hepoch, Option.bind_some]
    rfl
  obtain ⟨answer, hanswer, haccept⟩ := answer_v2 (C := C) ⟨u, credential.secret, state⟩
    (replayKeyV2 epoch credential.id) (clientHelloV2 C client.config x credential flags epoch)
    x.random (ServerConfig.flows_of_validate server.valid hu) havailable hrequire
  exact ⟨_, _, _, answer, new_v2 hen hfit.selected htext hepoch hhint hrequested havailable,
    liftCore_eq_ok.mpr (ClientHelloV2.encode_of_valid hhint),
    hadmitted.authenticate hreach hauth hkey rfl rfl, hanswer, haccept⟩

end

/-- **Handshake completeness.**  For every validated client and server that fit
together, and after every run of the server whose replay caches let the hello in:
the server authenticates the client's hello, and the client accepts the server's
answer with the server's frame size, if and only if the id of a version 1
credential has at most 512 bytes. -/
theorem handshake_complete (P : Parsers) (C : Crypto) (hash : String → UInt64) (started : Int64)
    (client : ValidClient P) (server : ValidServer P) (s : Sessions)
    (hreach : (sessions (server.deployment C hash started)).Reach s) (x : Attempt)
    (credential : SelectedClientCredential) (hfit : Fitting client server x credential)
    (hadmitted : Admitted (server.deployment C hash started) s.caches client x credential) :
    Completes (server.deployment C hash started) s.caches client server x ↔
      (client.config.auth.v2.enabled = false →
        byteLen credential.id ≤ AUTH_V1_MAX_CREDENTIAL_ID_LEN) := by
  constructor
  · intro hcompletes hen
    by_contra hlong
    exact not_complete_v1 hfit hen (not_le.mp hlong) hcompletes
  · intro hid
    cases hen : client.config.auth.v2.enabled with
    | false => exact complete_v1 hreach hfit hadmitted hen (hid hen)
    | true => exact complete_v2 hreach hfit hadmitted hen

/-! ## The two limits on an id -/

namespace LongId

/-- An id of `n` bytes. -/
def id (n : Nat) : String := String.ofList (List.replicate n 'a')

/-- A client of version 1 without channel bindings. -/
def clientConfig (n : Nat) : ClientConfig where
  mode := .auto
  server := ⟨"/assets/upload", id n, Sample.secret⟩
  auth := ⟨⟨false, false⟩, ⟨false, false, []⟩, ⟨none, none, false, none⟩⟩

def user (n : Nat) : UserConfig := ⟨id n, Sample.secret, true, none, none⟩

/-- A server of version 1 with the same credential. -/
def serverConfig (n : Nat) : ServerConfig where
  maverick := ⟨"/assets/upload", 10, 4, 2, 64⟩
  users := [user n]
  auth := ⟨⟨false, false⟩, ⟨false, false, []⟩⟩
  maxFrameSize := 65536

def serverState (n : Nat) : ServerState where
  config := serverConfig n
  users := ⟨AList.insert (id n) (user n) ∅, ∅⟩
  dummyAuthSecret := "mv1_BBBBBBBBBBBBBBBBBBBBBBBBBBBBBBBBBBBBBBBBBBB"

theorem within : 512 ∈ [512, 513] := by decide
theorem beyond : 513 ∈ [512, 513] := by decide

/-- Validation accepts ids on both sides of the limit of the hello. -/
theorem validated : ∀ n ∈ [512, 513], (clientConfig n).validate Sample.parsers = .ok () ∧
    (serverConfig n).validate Sample.parsers = .ok () := by
  decide +kernel

def client (n : Nat) (h : n ∈ [512, 513]) : ValidClient Sample.parsers :=
  ⟨clientConfig n, (validated n h).1⟩

def server (n : Nat) (h : n ∈ [512, 513]) : ValidServer Sample.parsers :=
  ⟨serverState n, (validated n h).2, rfl⟩

def credential (n : Nat) : SelectedClientCredential := ⟨id n, Sample.secret, .active⟩

def attempt : Attempt := ⟨none, 1000, BoundRun.nonce, 1000, 1005, BoundRun.random⟩

theorem fitting (n : Nat) (h : n ∈ [512, 513]) :
    Fitting (client n h) (server n h) attempt (credential n) where
  version := rfl
  epoch := fun hen => by cases hen
  tunnelPath := rfl
  binding := rfl
  observed := fun hreq => by rcases hreq with hreq | hreq <;> cases hreq
  selected := rfl
  granted := ⟨user n, List.mem_singleton_self _, .active rfl rfl rfl⟩

def deployment (n : Nat) (h : n ∈ [512, 513]) : Deployment :=
  (server n h).deployment Sample.crypto (fun _ => 0) 1000

/-- The empty caches of a server that has just started let the hello in. -/
theorem admitted (n : Nat) (h : n ∈ [512, 513]) :
    Admitted (deployment n h) (sessions (deployment n h)).start.caches (client n h) attempt
      (credential n) where
  dated := by decide
  close := (by decide : |(1005 : Int64).toInt - (1000 : Int64).toInt| ≤ (10 : Int64).toInt)
  room := by
    intro key _
    refine ⟨.inr (by decide : 0 < 2), ?_, (by decide : 0 < 4)⟩
    exact Finset.notMem_empty _

end LongId

/-- **A validated pair that never authenticates.**  With an id of 513 bytes both
configurations are valid and fit together, and a server that has just started
does not authenticate the hello, since `ClientHello::decode` refuses it. -/
theorem overlong_id_never_authenticates :
    ¬ ∀ (P : Parsers) (C : Crypto) (hash : String → UInt64) (started : Int64)
      (client : ValidClient P) (server : ValidServer P) (s : Sessions),
      (sessions (server.deployment C hash started)).Reach s →
      ∀ (x : Attempt) (credential : SelectedClientCredential),
      Fitting client server x credential →
      Admitted (server.deployment C hash started) s.caches client x credential →
      Completes (server.deployment C hash started) s.caches client server x := by
  intro hall
  have hcompletes := hall Sample.parsers Sample.crypto (fun _ => 0) 1000
    (LongId.client 513 LongId.beyond) (LongId.server 513 LongId.beyond) _ .start LongId.attempt
    (LongId.credential 513) (LongId.fitting 513 LongId.beyond) (LongId.admitted 513 LongId.beyond)
  exact not_complete_v1 (LongId.fitting 513 LongId.beyond) rfl (by decide +kernel) hcompletes

/-- A pair with an id of exactly 512 bytes. -/
theorem handshake_complete_limit :
    Completes (LongId.deployment 512 LongId.within)
      (sessions (LongId.deployment 512 LongId.within)).start.caches
      (LongId.client 512 LongId.within) (LongId.server 512 LongId.within) LongId.attempt :=
  (handshake_complete Sample.parsers Sample.crypto (fun _ => 0) 1000
    (LongId.client 512 LongId.within) (LongId.server 512 LongId.within) _ .start LongId.attempt
    (LongId.credential 512) (LongId.fitting 512 LongId.within)
    (LongId.admitted 512 LongId.within)).mpr fun _ => by decide +kernel

end Agreement
end Maverick
