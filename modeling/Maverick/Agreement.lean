import Maverick.Client.Handshake
import Maverick.Lib.System
import Maverick.Lib.Total
import Maverick.Server.Authenticate

/-!
# Agreement of the handshake

Any number of clients and servers with validated configurations, over a network
that an attacker controls: a server answers whatever payload it is handed, and a
client checks whatever answer it is handed.

* `handshakes` — the system of all handshakes.
* `Ideal` — the runs in which the cryptography keeps its promises: nonces are
  fresh, and a tag that passes a check was made by an honest party under the same
  key for the same bytes.
* `answered` — every hello that a server has accepted is the hello of a client
  that holds the same secret, and both sides agree about everything in it.
* `handshake_agreement` — a client that accepts an answer agrees with the server
  that made it, and nobody has been talked into less than it requires.
-/

namespace Maverick
namespace Agreement

open Lib
open Client
open Server

/-! ## The system -/

/-- A client with a validated configuration. -/
structure ValidClient (P : Parsers) where
  config : ClientConfig
  valid : config.validate P = .ok ()

/-- A server with a validated configuration and the user store made from it. -/
structure ValidServer (P : Parsers) where
  state : ServerState
  valid : state.config.validate P = .ok ()
  users : UserStore.new P state.config.users = .ok state.users

/-- A client that has sent its hello. -/
structure ClientSession (P : Parsers) where
  client : ValidClient P
  handshake : ClientHandshake
  hello : Bytes

/-- A server that has accepted a hello and answered it. -/
structure ServerSession (P : Parsers) where
  server : ValidServer P
  hello : Bytes
  nowUnix : Int64
  channelBinding : Option TlsChannelBinding
  authenticated : AuthenticatedClientHello
  random : Block 32 × Block 16
  answer : Bytes

/-- All handshakes so far: the hellos sent, the answers made, and the answers
accepted by clients. -/
structure Handshakes (P : Parsers) where
  clients : List (ClientSession P)
  servers : List (ServerSession P)
  accepted : List (ClientSession P × Bytes)

inductive Move (P : Parsers) where
  /-- a client makes its hello, with a nonce and the times that it reads -/
  | hello (client : ValidClient P) (channelBinding : Option TlsChannelBinding) (clock : Int64)
      (nonce : Block 32) (now : Int64)
  /-- a server is handed a payload -/
  | answer (server : ValidServer P) (hello : Bytes) (nowUnix : Int64)
      (channelBinding : Option TlsChannelBinding) (random : Block 32 × Block 16)
  /-- a client that has sent a hello is handed a payload -/
  | accept (i : Nat) (answer : Bytes)

section
variable {P : Parsers} (C : Crypto)

/-- The number of flows that a server grants to a user. -/
def maxConcurrentFlows (server : ValidServer P) (a : AuthenticatedClientHello) : UInt32 :=
  a.credential.user.maxConcurrentFlows.getD server.state.config.maverick.maxConcurrentFlowsPerUser

def Handshakes.next (s : Handshakes P) : Move P → Option (Handshakes P)
  | .hello client channelBinding clock nonce now =>
    match ClientHandshake.new P C client.config channelBinding (.ok clock) (.ok nonce) now with
    | .error _ => none
    | .ok handshake =>
      match handshake.encode with
      | .error _ => none
      | .ok hello => some { s with clients := s.clients ++ [⟨client, handshake, hello⟩] }
  | .answer server hello nowUnix channelBinding random =>
    match authenticateClientHello C server.state hello nowUnix channelBinding with
    | none => none
    | some a =>
      match serverHelloPayload C a server.state.config.maxFrameSize
        (maxConcurrentFlows server a) channelBinding (.ok random) with
      | .error _ => none
      | .ok answer =>
        some { s with
          servers := s.servers ++ [⟨server, hello, nowUnix, channelBinding, a, random, answer⟩] }
  | .accept i answer =>
    match s.clients[i]? with
    | none => none
    | some c =>
      match c.handshake.verifyServerHello C answer with
      | .error _ => none
      | .ok _ => some { s with accepted := s.accepted ++ [(c, answer)] }

/-- The system of all handshakes. -/
def handshakes : System (Handshakes P) (Move P) where
  start := ⟨[], [], []⟩
  next := Handshakes.next C

/-! ## What honest parties authenticate -/

/-- What the tag of a client's hello was made for. -/
def ClientSession.mac (c : ClientSession P) : Mac :=
  ⟨c.handshake.secret, c.handshake.transcript c.client.config.server.tunnelPath⟩

/-- What the tag of a server's answer was made for. -/
def ServerSession.mac (r : ServerSession P) : Mac :=
  let a := r.authenticated
  let binding := selectedChannelBindingForFlags a.featureFlagsSelected r.channelBinding
  ⟨a.credential.secret,
    match a.auth with
    | .v1 nonce _ =>
      .serverV1 ⟨nonce, r.random.1, r.random.2.val, PROTOCOL_VERSION,
        r.server.state.config.maxFrameSize, maxConcurrentFlows r.server a,
        a.featureFlagsSelected, binding⟩
    | .v2 epoch nonce _ =>
      .serverV2 ⟨nonce, r.random.1, r.random.2.val, AUTH_V2_PROTOCOL_VERSION, epoch,
        r.server.state.config.maxFrameSize, maxConcurrentFlows r.server a,
        a.featureFlagsSelected, 86400, binding⟩⟩

/-- Everything that an honest party has made a tag for. -/
def Handshakes.issued (s : Handshakes P) : List Mac :=
  s.clients.map ClientSession.mac ++ s.servers.map ServerSession.mac

/-- The tag that a server checks on a hello it is handed, and what it should be
the tag of. -/
def helloCheck (state : ServerState) (payload : Bytes) (nowUnix : Int64)
    (channelBinding : Option TlsChannelBinding) : Option (Mac × AuthTag) := do
  let version ← payloadVersion payload
  if version = PROTOCOL_VERSION then
    let hello ← (ClientHello.decode payload).toOption
    let selected ← selectedClientFeatureFlags hello.featureFlags state.config.auth.channelBinding
      channelBinding
    let binding ← selectedChannelBinding hello.featureFlags
      (selectedChannelBindingForFlags selected channelBinding)
    return (⟨verifySecret state hello.credentialId nowUnix,
      .clientV1 (hello.transcript state.config.maverick.tunnelPath binding)⟩, hello.authTag)
  else
    let hello ← (ClientHelloV2.decode payload).toOption
    let credentialId ← fromUtf8 hello.credentialHint
    let selected ← selectedClientFeatureFlags hello.featureFlags state.config.auth.channelBinding
      channelBinding
    let binding ← selectedChannelBinding hello.featureFlags
      (selectedChannelBindingForFlags selected channelBinding)
    return (⟨verifySecret state credentialId nowUnix,
      .clientV2 (hello.transcript state.config.maverick.tunnelPath binding)⟩, hello.authTag)

/-- The tag that a client checks on an answer, and what it should be the tag
of. -/
def answerCheck (h : ClientHandshake) (payload : Bytes) : Option (Mac × AuthTag) :=
  match h.message with
  | .v1 hello => do
    let sh ← (ServerHello.decode payload).toOption
    let binding ← selectedChannelBinding sh.featureFlagsSelected
      (selectedBinding sh.featureFlagsSelected h.channelBinding)
    return (⟨h.secret, .serverV1 (sh.transcript hello.clientNonce binding)⟩, sh.serverAuthTag)
  | .v2 hello => do
    let sh ← (ServerHelloV2.decode payload).toOption
    let binding ← selectedChannelBinding sh.featureFlagsSelected
      (selectedBinding sh.featureFlagsSelected h.channelBinding)
    return (⟨h.secret, .serverV2 (sh.transcript hello.clientNonce binding)⟩, sh.serverAuthTag)

/-- The check that a move makes. -/
def Move.check (s : Handshakes P) : Move P → Option (Mac × AuthTag)
  | .hello _ _ _ _ _ => none
  | .answer server payload nowUnix channelBinding _ =>
    helloCheck server.state payload nowUnix channelBinding
  | .accept i payload => s.clients[i]?.bind fun c => answerCheck c.handshake payload

/-- **The assumptions on the cryptography**, for one move of a run. -/
structure Ideal (s : Handshakes P) (m : Move P) : Prop where
  /-- the nonce of a new hello has not been used by a client before -/
  fresh : ∀ client channelBinding clock nonce now,
    m = .hello client channelBinding clock nonce now →
      ∀ c ∈ s.clients, c.handshake.clientNonce ≠ nonce
  /-- HMAC: a tag passes a check only if the same key was used on the same bytes -/
  unforgeable : ∀ mac tag, m.check s = some (mac, tag) → mac.tag C = tag →
    ∃ mac' ∈ s.issued, mac'.key C = mac.key C ∧ mac'.transcript.bytes = mac.transcript.bytes
  /-- HKDF: different secrets give different keys -/
  separated : ∀ mac tag, m.check s = some (mac, tag) → ∀ mac' ∈ s.issued,
    mac'.transcript = mac.transcript → mac'.key C = mac.key C → mac'.secret = mac.secret

end

/-! ## Negotiation of flags -/

section
variable {requested selected : UInt64} {config : AuthChannelBindingConfig}
  {channelBinding : Option TlsChannelBinding}

/-- The only flag that a server selects is the binding flag, and only on
request. -/
theorem selectedClientFeatureFlags_eq_some
    (h : selectedClientFeatureFlags requested config channelBinding = some selected) :
    (bindingFlag requested = true ∧ selected = FEATURE_TLS_CHANNEL_BINDING) ∨
      (bindingFlag requested = false ∧ selected = 0 ∧ config.require = false) := by
  unfold selectedClientFeatureFlags at h
  cases hflag : bindingFlag requested with
  | true =>
    simp only [hflag, Bool.not_true, Bool.false_eq_true, and_false, if_false] at h
    split at h <;> cases h
    exact .inl ⟨rfl, rfl⟩
  | false =>
    simp only [hflag, Bool.not_false, and_true, if_true] at h
    split at h <;> cases h
    exact .inr ⟨rfl, rfl, Bool.not_eq_true _ ▸ ‹¬ _›⟩

theorem bindingFlag_selected
    (h : selectedClientFeatureFlags requested config channelBinding = some selected) :
    bindingFlag selected = bindingFlag requested := by
  rcases selectedClientFeatureFlags_eq_some h with ⟨hreq, rfl⟩ | ⟨hreq, rfl, -⟩ <;>
  · rw [hreq]
    decide

/-- A requested flag leaves nothing of itself outside the request. -/
theorem binding_subset (h : bindingFlag requested = true) :
    FEATURE_TLS_CHANNEL_BINDING &&& ~~~requested = 0 := by
  have hflag : FEATURE_TLS_CHANNEL_BINDING.toBitVec = BitVec.twoPow 64 63 := by decide
  have hbit : requested.toBitVec.getLsbD 63 = true := by
    by_contra hbit
    simp only [bindingFlag, bne_iff_ne, ne_eq, ← UInt64.toBitVec_inj, UInt64.toBitVec_and, hflag,
      BitVec.and_twoPow, hbit] at h
    exact h rfl
  rw [← UInt64.toBitVec_inj, UInt64.toBitVec_and, UInt64.toBitVec_not, hflag]
  apply BitVec.eq_of_getLsbD_eq
  intro i hi
  by_cases h63 : 63 = i
  · subst h63
    simp [hbit]
  · simp [h63]

theorem selected_subset
    (h : selectedClientFeatureFlags requested config channelBinding = some selected) :
    selected &&& ~~~requested = 0 := by
  rcases selectedClientFeatureFlags_eq_some h with ⟨hreq, rfl⟩ | ⟨-, rfl, -⟩
  exacts [binding_subset hreq, UInt64.zero_and]

/-- A selected binding flag means the same binding on both sides, once the
client's tag has been checked. -/
theorem bound_of_selected {theirs : Option TlsChannelBinding}
    (hselected : selectedClientFeatureFlags requested config channelBinding = some selected)
    (hbinding : selectedChannelBinding requested
      (selectedChannelBindingForFlags selected channelBinding) =
        some (selectedBinding requested theirs)) (hflag : bindingFlag selected = true) :
    ∃ binding, channelBinding = some binding ∧ theirs = some binding := by
  have hreq : bindingFlag requested = true := by rw [← bindingFlag_selected hselected, hflag]
  rcases selectedChannelBinding_eq_some.mp hbinding with ⟨-, hsome, heq⟩ | ⟨hno, -⟩
  · simp only [selectedBinding, selectedChannelBindingForFlags, hreq, hflag, if_true] at hsome heq
    obtain ⟨binding, hb⟩ := Option.isSome_iff_exists.mp hsome
    exact ⟨binding, heq.symm.trans hb, hb⟩
  · cases hreq.symm.trans hno

theorem required_of_selected {clientRequires : Bool}
    (hselected : selectedClientFeatureFlags requested config channelBinding = some selected)
    (hclient : clientRequires = true → bindingFlag requested = true)
    (h : config.require = true ∨ clientRequires = true) : bindingFlag selected = true := by
  rw [bindingFlag_selected hselected]
  rcases h with hserver | hreq
  · rcases selectedClientFeatureFlags_eq_some hselected with ⟨hflag, -⟩ | ⟨-, -, hno⟩
    · exact hflag
    · cases hserver.symm.trans hno
  · exact hclient hreq

end

/-! ## Agreement -/

section
variable {P : Parsers} {C : Crypto}

/-- A server session and a client session agree about the handshake. -/
structure Agrees (r : ServerSession P) (c : ClientSession P) : Prop where
  hello : r.hello = c.hello
  nonce : r.authenticated.clientNonce = c.handshake.clientNonce
  secret : r.authenticated.credential.secret = c.handshake.secret
  tunnelPath : r.server.state.config.maverick.tunnelPath = c.client.config.server.tunnelPath
  /-- both use the same version and, in version 2, the same epoch and the
  credential that the client has hinted at -/
  version : match c.handshake.message, r.authenticated.auth with
    | .v1 hello, .v1 _ _ =>
      r.server.state.users.lookupCredential hello.credentialId r.nowUnix =
        some r.authenticated.credential
    | .v2 hello, .v2 authEpoch _ _ => authEpoch = hello.authEpoch ∧
        ∃ credentialId, utf8 credentialId = hello.credentialHint ∧
          r.server.state.users.lookupCredential credentialId r.nowUnix =
            some r.authenticated.credential
    | _, _ => False
  subset : r.authenticated.featureFlagsSelected &&& ~~~c.handshake.featureFlags = 0
  bound : bindingFlag r.authenticated.featureFlagsSelected = true →
    ∃ binding, r.channelBinding = some binding ∧ c.handshake.channelBinding = some binding
  required : r.server.state.config.auth.channelBinding.require = true ∨
      c.client.config.auth.channelBinding.require = true →
    bindingFlag r.authenticated.featureFlagsSelected = true

/-- The flags in an answer of the version that the client speaks. -/
def answerFlags (h : ClientHandshake) (payload : Bytes) : Option UInt64 :=
  match h.message with
  | .v1 _ => (ServerHello.decode payload).toOption.map (·.featureFlagsSelected)
  | .v2 _ => (ServerHelloV2.decode payload).toOption.map (·.featureFlagsSelected)

/-- The answer of a server, for the inputs it was made from. -/
def ServerSession.Made (C : Crypto) (r : ServerSession P) : Prop :=
  serverHelloPayload C r.authenticated r.server.state.config.maxFrameSize
    (maxConcurrentFlows r.server r.authenticated) r.channelBinding (.ok r.random) = .ok r.answer

/-- What holds of all handshakes of an ideal run. -/
structure Agreed (C : Crypto) (s : Handshakes P) : Prop where
  sound : ∀ c ∈ s.clients, c.handshake.Sound C c.client.config ∧ c.handshake.encode = .ok c.hello
  fresh : (s.clients.map fun c => c.handshake.clientNonce).Nodup
  made : ∀ r ∈ s.servers, r.Made C
  answered : ∀ r ∈ s.servers, ∃ c ∈ s.clients, Agrees r c
  accepted : ∀ x ∈ s.accepted, ∃ r ∈ s.servers, r.answer = x.2 ∧ Agrees r x.1 ∧
    answerFlags x.1.handshake x.2 = some r.authenticated.featureFlagsSelected

theorem withinLimits_server (r : ServerSession P) : r.mac.transcript.WithinLimits := by
  have hlen : 1 ≤ r.random.2.val.length ∧ r.random.2.val.length ≤ 32 := by
    rw [r.random.2.property]
    decide
  unfold ServerSession.mac
  dsimp only
  split <;> exact hlen

variable {s s' : Handshakes P} {m : Move P} {mac : Mac} {tag : AuthTag} {r : ServerSession P}
  {c : ClientSession P} {payload : Bytes} {nowUnix : Int64} {a : AuthenticatedClientHello}
  {channelBinding : Option TlsChannelBinding}

/-- **A tag that passes a check was issued** for exactly what is checked. -/
theorem issued_of_check (hs : Agreed C s) (hideal : Ideal C s m)
    (hcheck : m.check s = some (mac, tag)) (hpass : mac.tag C = tag)
    (hlimits : mac.transcript.WithinLimits) : mac ∈ s.issued := by
  obtain ⟨mac', hmem, hkey, hbytes⟩ := hideal.unforgeable mac tag hcheck hpass
  have hlimits' : mac'.transcript.WithinLimits := by
    rcases List.mem_append.mp hmem with hclient | hserver
    · obtain ⟨c, hc, rfl⟩ := List.mem_map.mp hclient
      exact (hs.sound c hc).1.limits
    · obtain ⟨r, -, rfl⟩ := List.mem_map.mp hserver
      exact withinLimits_server r
  have htranscript := Transcript.bytes_injective hlimits' hlimits hbytes
  have hsecret := hideal.separated mac tag hcheck mac' hmem htranscript hkey
  have hmac : mac' = mac := by
    cases mac
    cases mac'
    simp_all
  exact hmac ▸ hmem

/-- The secret a hello was verified with is that of the credential found. -/
theorem verifySecret_of_lookup {state : ServerState} {credentialId : String}
    {credential : CredentialMatch}
    (h : state.users.lookupCredential credentialId nowUnix = some credential) :
    verifySecret state credentialId nowUnix = credential.secret := by
  rw [verifySecret, UserStore.lookupSecret_eq, h]
  rfl

/-- A tag for a client transcript that passes was made by a client. -/
theorem client_of_check (hs : Agreed C s) (hideal : Ideal C s m)
    (hcheck : m.check s = some (mac, tag)) (hpass : mac.tag C = tag)
    (hlimits : mac.transcript.WithinLimits)
    (hbuilder : mac.transcript.builder = .clientV1 ∨ mac.transcript.builder = .clientV2) :
    ∃ c ∈ s.clients, c.mac = mac ∧ c.handshake.authTag = tag ∧
      c.handshake.Sound C c.client.config ∧ c.handshake.encode = .ok c.hello := by
  rcases List.mem_append.mp (issued_of_check hs hideal hcheck hpass hlimits) with hclient | hserver
  · obtain ⟨c, hc, rfl⟩ := List.mem_map.mp hclient
    exact ⟨c, hc, rfl, (hs.sound c hc).1.tag.symm.trans hpass, hs.sound c hc⟩
  obtain ⟨r, -, rfl⟩ := List.mem_map.mp hserver
  exfalso
  unfold ServerSession.mac at hbuilder
  dsimp only at hbuilder
  split at hbuilder <;> simp [Transcript.builder] at hbuilder

/-- A tag for a server transcript that passes was made by a server. -/
theorem server_of_check (hs : Agreed C s) (hideal : Ideal C s m)
    (hcheck : m.check s = some (mac, tag)) (hpass : mac.tag C = tag)
    (hlimits : mac.transcript.WithinLimits)
    (hbuilder : mac.transcript.builder = .serverV1 ∨ mac.transcript.builder = .serverV2) :
    ∃ r ∈ s.servers, r.mac = mac := by
  rcases List.mem_append.mp (issued_of_check hs hideal hcheck hpass hlimits) with hclient | hserver
  · obtain ⟨c, -, rfl⟩ := List.mem_map.mp hclient
    exfalso
    unfold ClientSession.mac ClientHandshake.transcript at hbuilder
    dsimp only at hbuilder
    split at hbuilder <;> simp [Transcript.builder] at hbuilder
  · exact List.mem_map.mp hserver

variable {server : ValidServer P} {random : Block 32 × Block 16} {i : Nat} {size : UInt32}

/-- **An accepted hello of version 1** is the hello of a client that agrees. -/
theorem agrees_v1 (hs : Agreed C s)
    (hideal : Ideal C s (.answer server payload nowUnix channelBinding random))
    (hversion : payloadVersion payload = some PROTOCOL_VERSION)
    (ha : authenticateClientHelloV1 C server.state payload nowUnix channelBinding = some a)
    (answer : Bytes) :
    ∃ c ∈ s.clients, Agrees ⟨server, payload, nowUnix, channelBinding, a, random, answer⟩ c := by
  obtain ⟨hello, hdecode, -, selected, hselected, hverify, credential, hcredential, rfl⟩ :=
    authenticateClientHelloV1_eq_some.mp ha
  obtain ⟨binding, hbinding, htag⟩ := ClientHello.verify_iff.mp hverify
  obtain ⟨hid, hpayload⟩ := ClientHello.decode_eq_ok.mp hdecode
  have hcheck : (Move.answer server payload nowUnix channelBinding random).check s =
      some (⟨verifySecret server.state hello.credentialId nowUnix,
        .clientV1 (hello.transcript server.state.config.maverick.tunnelPath binding)⟩,
        hello.authTag) := by
    simp [Move.check, helloCheck, hversion, hdecode, hselected, hbinding, Except.toOption]
  obtain ⟨c, hc, hmac, htag', hsound, hencode⟩ := client_of_check hs hideal hcheck htag
    ⟨lt_of_le_of_lt hid (by decide), ServerConfig.tunnelPath_of_validate server.valid⟩ (.inl rfl)
  obtain ⟨client, ⟨message, secret, theirs, requireBinding⟩, sent⟩ := c
  cases message with
  | v2 other => cases congrArg Mac.transcript hmac
  | v1 other =>
    obtain ⟨rfl, hpath, rfl⟩ := ClientHello.eq_of_transcript htag'
      (Transcript.clientV1.inj (congrArg Mac.transcript hmac))
    have hsecret := (verifySecret_of_lookup hcredential).symm.trans (congrArg Mac.secret hmac).symm
    exact ⟨_, hc, hpayload.trans (Except.ok.inj hencode), rfl, hsecret, hpath.symm, hcredential,
      selected_subset hselected, bound_of_selected hselected hbinding,
      required_of_selected hselected hsound.requested⟩

/-- **An accepted hello of version 2** is the hello of a client that agrees. -/
theorem agrees_v2 (hs : Agreed C s)
    (hideal : Ideal C s (.answer server payload nowUnix channelBinding random))
    (hversion : payloadVersion payload = some AUTH_V2_PROTOCOL_VERSION)
    (ha : authenticateClientHelloV2 C server.state payload nowUnix channelBinding = some a)
    (answer : Bytes) :
    ∃ c ∈ s.clients, Agrees ⟨server, payload, nowUnix, channelBinding, a, random, answer⟩ c := by
  obtain ⟨hello, hdecode, -, id, hid, selected, hselected, hverify, credential, hcredential, rfl⟩ :=
    authenticateClientHelloV2_eq_some.mp ha
  obtain ⟨binding, hbinding, htag⟩ := ClientHelloV2.verify_iff.mp hverify
  obtain ⟨hhint, hpayload⟩ := ClientHelloV2.decode_eq_ok.mp hdecode
  have hne : AUTH_V2_PROTOCOL_VERSION ≠ PROTOCOL_VERSION := by decide
  have hcheck : (Move.answer server payload nowUnix channelBinding random).check s =
      some (⟨verifySecret server.state id nowUnix,
        .clientV2 (hello.transcript server.state.config.maverick.tunnelPath binding)⟩,
        hello.authTag) := by
    simp [Move.check, helloCheck, hversion, hne, hdecode, hid, hselected, hbinding,
      Except.toOption]
  obtain ⟨-, htag⟩ := Mac.clientAuthV2Tag_eq_ok.mp htag
  obtain ⟨c, hc, hmac, htag', hsound, hencode⟩ := client_of_check hs hideal hcheck htag
    ⟨lt_of_le_of_lt hhint.2 (by decide), ServerConfig.tunnelPath_of_validate server.valid⟩ (.inr rfl)
  obtain ⟨client, ⟨message, secret, theirs, requireBinding⟩, sent⟩ := c
  cases message with
  | v1 other => cases congrArg Mac.transcript hmac
  | v2 other =>
    obtain ⟨rfl, hpath, rfl⟩ := ClientHelloV2.eq_of_transcript htag'
      (Transcript.clientV2.inj (congrArg Mac.transcript hmac))
    have hsecret := (verifySecret_of_lookup hcredential).symm.trans (congrArg Mac.secret hmac).symm
    exact ⟨_, hc, hpayload.trans (ClientHelloV2.encode_eq_ok (liftCore_eq_ok.mp hencode)).symm, rfl,
      hsecret, hpath.symm, ⟨rfl, id, utf8_of_fromUtf8 hid, hcredential⟩, selected_subset hselected,
      bound_of_selected hselected hbinding, required_of_selected hselected hsound.requested⟩

/-- The client that a server agrees with is the one whose nonce it has seen. -/
theorem agrees_of_nonce (hs : Agreed C s) (hr : r ∈ s.servers) (hc : c ∈ s.clients)
    (hnonce : r.authenticated.clientNonce = c.handshake.clientNonce) : Agrees r c := by
  obtain ⟨c', hc', hagrees⟩ := hs.answered r hr
  obtain rfl := List.inj_on_of_nodup_map hs.fresh hc' hc (hagrees.nonce.symm.trans hnonce)
  exact hagrees

theorem ServerSession.Made.v1 (h : r.Made C) {nonce : Block 32} {time : Int64}
    (hauth : r.authenticated.auth = .v1 nonce time) :
    ∃ sh : ServerHello, r.answer = sh.encode ∧
      sh.featureFlagsSelected = r.authenticated.featureFlagsSelected ∧
      sh.serverAuthTag = r.mac.tag C ∧
      r.mac = ⟨r.authenticated.credential.secret, .serverV1 (sh.transcript nonce
        (selectedChannelBindingForFlags r.authenticated.featureFlagsSelected
          r.channelBinding))⟩ := by
  simp only [ServerSession.Made, serverHelloPayload, hauth, Check.bind_eq_ok,
    ServerHello.tryNew_eq_ok, Except.ok.injEq] at h
  obtain ⟨sh, ⟨-, _, rfl, rfl⟩, hanswer⟩ := h
  refine ⟨_, (Except.ok.inj hanswer).symm, rfl, ?_, ?_⟩ <;>
    simp only [ServerSession.mac, hauth, ServerHello.transcript]

theorem ServerSession.Made.v2 (h : r.Made C) {epoch : UInt64}
    {nonce : Block 32} {time : Int64} (hauth : r.authenticated.auth = .v2 epoch nonce time) :
    ∃ sh : ServerHelloV2, r.answer = sh.bytes ∧
      sh.featureFlagsSelected = r.authenticated.featureFlagsSelected ∧
      sh.serverAuthTag = r.mac.tag C ∧
      r.mac = ⟨r.authenticated.credential.secret, .serverV2 (sh.transcript nonce
        (selectedChannelBindingForFlags r.authenticated.featureFlagsSelected
          r.channelBinding))⟩ := by
  simp only [ServerSession.Made, serverHelloPayload, hauth, Check.bind_eq_ok,
    ServerHelloV2.tryNew_eq_ok, Except.ok.injEq] at h
  obtain ⟨sh, ⟨-, _, rfl, rfl⟩, hanswer⟩ := h
  refine ⟨_, ServerHelloV2.encode_eq_ok hanswer, rfl, ?_, ?_⟩ <;>
    simp only [ServerSession.mac, hauth, ServerHelloV2.transcript]

/-- **An accepted answer of version 1** was made by a server that agrees. -/
theorem accepted_v1 (hs : Agreed C s) (hideal : Ideal C s (.accept i payload))
    (hi : s.clients[i]? = some c) {hello : ClientHello} (hmsg : c.handshake.message = .v1 hello)
    (hok : c.handshake.verifyServerHello C payload = .ok size) :
    ∃ r ∈ s.servers, r.answer = payload ∧ Agrees r c ∧
      answerFlags c.handshake payload = some r.authenticated.featureFlagsSelected := by
  obtain ⟨sh, hdecode, -, hverify⟩ := ClientHandshake.verifyServerHello_v1 hmsg hok
  obtain ⟨binding, hbinding, htag⟩ := ServerHello.verify_iff.mp hverify
  obtain ⟨hsession, hpayload⟩ := ServerHello.decode_eq_ok.mp hdecode
  have hcheck : (Move.accept i payload).check s =
      some (⟨c.handshake.secret, .serverV1 (sh.transcript hello.clientNonce binding)⟩,
        sh.serverAuthTag) := by
    simp [Move.check, hi, answerCheck, hmsg, hdecode, hbinding, Except.toOption]
  obtain ⟨r, hr, hmac⟩ := server_of_check hs hideal hcheck htag hsession (.inl rfl)
  refine ⟨r, hr, ?_⟩
  cases hauth : r.authenticated.auth with
  | v2 epoch nonce time =>
    simp only [ServerSession.mac, hauth, Mac.mk.injEq, reduceCtorEq, and_false] at hmac
  | v1 nonce time =>
    obtain ⟨made, hanswer, hflags, hmadeTag, hmadeMac⟩ := (hs.made r hr).v1 hauth
    have htag' : made.serverAuthTag = sh.serverAuthTag := by
      rw [hmadeTag, ← htag, hmac]
      rfl
    obtain ⟨rfl, hnonce, -⟩ := ServerHello.eq_of_transcript htag'
      (Transcript.serverV1.inj (congrArg Mac.transcript (hmadeMac.symm.trans hmac)))
    refine ⟨hanswer.trans hpayload.symm, ?_, ?_⟩
    · apply agrees_of_nonce hs hr (List.mem_of_getElem? hi)
      simp [AuthenticatedClientHello.clientNonce, hauth, ClientHandshake.clientNonce, hmsg, hnonce]
    · simp [answerFlags, hmsg, hdecode, Except.toOption, hflags]

/-- **An accepted answer of version 2** was made by a server that agrees. -/
theorem accepted_v2 (hs : Agreed C s) (hideal : Ideal C s (.accept i payload))
    (hi : s.clients[i]? = some c) {hello : ClientHelloV2} (hmsg : c.handshake.message = .v2 hello)
    (hok : c.handshake.verifyServerHello C payload = .ok size) :
    ∃ r ∈ s.servers, r.answer = payload ∧ Agrees r c ∧
      answerFlags c.handshake payload = some r.authenticated.featureFlagsSelected := by
  obtain ⟨sh, hdecode, -, hverify⟩ := ClientHandshake.verifyServerHello_v2 hmsg hok
  obtain ⟨binding, hbinding, htag⟩ := ServerHelloV2.verify_iff.mp hverify
  obtain ⟨hsession, hpayload⟩ := ServerHelloV2.decode_eq_ok.mp hdecode
  have hcheck : (Move.accept i payload).check s =
      some (⟨c.handshake.secret, .serverV2 (sh.transcript hello.clientNonce binding)⟩,
        sh.serverAuthTag) := by
    simp [Move.check, hi, answerCheck, hmsg, hdecode, hbinding, Except.toOption]
  obtain ⟨-, htag⟩ := Mac.serverAuthV2TagChecked_eq_ok.mp htag
  obtain ⟨r, hr, hmac⟩ := server_of_check hs hideal hcheck htag hsession (.inr rfl)
  refine ⟨r, hr, ?_⟩
  cases hauth : r.authenticated.auth with
  | v1 nonce time =>
    simp only [ServerSession.mac, hauth, Mac.mk.injEq, reduceCtorEq, and_false] at hmac
  | v2 epoch nonce time =>
    obtain ⟨made, hanswer, hflags, hmadeTag, hmadeMac⟩ := (hs.made r hr).v2 hauth
    have htag' : made.serverAuthTag = sh.serverAuthTag := by
      rw [hmadeTag, ← htag, hmac]
    obtain ⟨rfl, hnonce, -⟩ := ServerHelloV2.eq_of_transcript htag'
      (Transcript.serverV2.inj (congrArg Mac.transcript (hmadeMac.symm.trans hmac)))
    refine ⟨hanswer.trans hpayload.symm, ?_, ?_⟩
    · apply agrees_of_nonce hs hr (List.mem_of_getElem? hi)
      simp [AuthenticatedClientHello.clientNonce, hauth, ClientHandshake.clientNonce, hmsg, hnonce]
    · simp [answerFlags, hmsg, hdecode, Except.toOption, hflags]

/-- **Every move of an ideal run keeps the agreement.** -/
theorem agreed_next (hs : Agreed C s) (hideal : Ideal C s m) (h : s.next C m = some s') :
    Agreed C s' := by
  unfold Handshakes.next at h
  split at h <;> split at h <;> (try split at h) <;> cases h
  -- a new hello, with a nonce of its own
  · next hnew _ _ hencode =>
      obtain ⟨hsound, hnonce, -⟩ := ClientHandshake.new_spec (ValidClient.valid _) hnew
      refine ⟨forall_mem_snoc hs.sound ⟨hsound, hencode⟩, ?_, hs.made, fun r hr => ?_, hs.accepted⟩
      · have hfresh := hideal.fresh _ _ _ _ _ rfl
        rw [Except.ok.inj hnonce] at hfresh
        simp only [List.map_append, List.map_cons, List.map_nil]
        refine List.nodup_append.mpr ⟨hs.fresh, List.nodup_singleton _, ?_⟩
        intro n hn n' hn' heq
        obtain ⟨c, hc, rfl⟩ := List.mem_map.mp hn
        exact hfresh c hc (heq.trans (List.mem_singleton.mp hn'))
      · obtain ⟨c, hc, hagrees⟩ := hs.answered r hr
        exact ⟨c, List.mem_append_left _ hc, hagrees⟩
  -- an answer to a hello that was accepted
  · next ha _ answer hanswer =>
      refine ⟨hs.sound, hs.fresh, forall_mem_snoc hs.made hanswer, forall_mem_snoc hs.answered ?_,
        fun x hx => ?_⟩
      · rcases authenticateClientHello_eq_some.mp ha with ⟨hv, -, ha⟩ | ⟨hv, -, ha⟩
        exacts [agrees_v1 hs hideal hv ha answer, agrees_v2 hs hideal hv ha answer]
      · obtain ⟨r, hr, hrest⟩ := hs.accepted x hx
        exact ⟨r, List.mem_append_left _ hr, hrest⟩
  · next c hc _ _ hok =>
      refine ⟨hs.sound, hs.fresh, hs.made, hs.answered, forall_mem_snoc hs.accepted ?_⟩
      cases hmsg : c.handshake.message with
      | v1 hello => exact accepted_v1 (s := s) hs hideal hc hmsg hok
      | v2 hello => exact accepted_v2 (s := s) hs hideal hc hmsg hok

theorem agreed_of_reach (h : (handshakes C).ReachBy (Ideal C) s) : Agreed C s := by
  refine h.invariant (I := Agreed C) ?_ fun _ _ _ => agreed_next
  refine ⟨?_, List.nodup_nil, ?_, ?_, ?_⟩ <;> intro x hx <;> cases hx

/-! ## No downgrade -/

/-- A server that requires version 2 accepts nothing else. -/
theorem version_of_require {state : ServerState} (hreq : state.config.auth.v2.require = true)
    (h : authenticateClientHello C state payload nowUnix channelBinding = some a) :
    payloadVersion payload = some AUTH_V2_PROTOCOL_VERSION := by
  rcases authenticateClientHello_eq_some.mp h with ⟨-, hno, -⟩ | ⟨hv, -, -⟩
  · cases hreq.symm.trans hno
  · exact hv

/-- A client accepts an answer of its own version only. -/
theorem version_of_accept {h : ClientHandshake} (hok : h.verifyServerHello C payload = .ok size) :
    payloadVersion payload = some (match h.message with
      | .v1 _ => PROTOCOL_VERSION
      | .v2 _ => AUTH_V2_PROTOCOL_VERSION) := by
  cases hmsg : h.message with
  | v1 hello =>
    obtain ⟨sh, hdecode, hversion, -⟩ := ClientHandshake.verifyServerHello_v1 hmsg hok
    rw [(ServerHello.decode_eq_ok.mp hdecode).2, ServerHello.encode, payloadVersion_putU16,
      hversion]
  | v2 hello =>
    obtain ⟨sh, hdecode, hversion, -⟩ := ClientHandshake.verifyServerHello_v2 hmsg hok
    rw [(ServerHelloV2.decode_eq_ok.mp hdecode).2, ServerHelloV2.bytes, payloadVersion_putU16,
      hversion]

end

/-- **Agreement without downgrade.**  In every ideal run over an attacker's
network, an answer that a client accepts was made by a server, in reply to
exactly the hello of this client, and both agree on the secret, the tunnel path,
the version, the epoch and the credential; the flags in the answer are among the
requested ones; the binding flag is selected only when both used the same
binding, and is selected when either of them requires it.  A server that requires
version 2 authenticates no hello of version 1, and a client that has sent a hello
of version 2 accepts no answer of version 1. -/
theorem handshake_agreement (P : Parsers) (C : Crypto) (s : Handshakes P)
    (h : (handshakes C).ReachBy (Ideal C) s) :
    (∀ c answer, (c, answer) ∈ s.accepted → ∃ r ∈ s.servers, r.answer = answer ∧ Agrees r c ∧
      answerFlags c.handshake answer = some r.authenticated.featureFlagsSelected) ∧
    (∀ (state : ServerState) (payload : Bytes) (nowUnix : Int64)
      (channelBinding : Option TlsChannelBinding), state.config.auth.v2.require = true →
      payloadVersion payload = some PROTOCOL_VERSION →
      authenticateClientHello C state payload nowUnix channelBinding = none) ∧
    (∀ (handshake : ClientHandshake) (hello : ClientHelloV2) (answer : Bytes) (size : UInt32),
      handshake.message = .v2 hello → payloadVersion answer = some PROTOCOL_VERSION →
      handshake.verifyServerHello C answer ≠ .ok size) := by
  have hne : AUTH_V2_PROTOCOL_VERSION ≠ PROTOCOL_VERSION := by decide
  refine ⟨?_, ?_, ?_⟩
  · intro c answer hmem
    exact (agreed_of_reach h).accepted _ hmem
  · intro state payload nowUnix channelBinding hreq hv1
    refine Option.eq_none_iff_forall_not_mem.mpr fun a ha => ?_
    exact hne (Option.some.inj (hv1.symm.trans (version_of_require hreq ha))).symm
  intro handshake hello answer size hmsg hv1 hok
  have hv2 := version_of_accept hok
  rw [hv1, hmsg] at hv2
  exact absurd (Option.some.inj hv2).symm hne

/-! ## A run -/

/-- A move that checks a tag which was issued, among parties that share one
secret, is ideal. -/
theorem Ideal.of_issued {P : Parsers} {C : Crypto} {s : Handshakes P} {m : Move P} (mac : Mac)
    (tag : AuthTag) (hcheck : m.check s = some (mac, tag)) (hmem : mac ∈ s.issued)
    (hsecret : ∀ mac' ∈ s.issued, mac'.secret = mac.secret) : Ideal C s m := by
  refine ⟨?_, ?_, ?_⟩
  · intro client channelBinding clock nonce now hm
    rw [hm] at hcheck
    cases hcheck
  · intro mac₁ tag₁ h _
    obtain ⟨rfl, -⟩ := Prod.mk.inj (Option.some.inj (hcheck.symm.trans h))
    exact ⟨mac, hmem, rfl, rfl⟩
  · intro mac₁ tag₁ h mac' hmem' _ _
    obtain ⟨rfl, -⟩ := Prod.mk.inj (Option.some.inj (hcheck.symm.trans h))
    exact hsecret mac' hmem'

namespace BoundRun

open Server.Sample

/-- Version 2 of epoch 7, and a channel binding is required. -/
def client : ValidClient parsers where
  config :=
    { mode := .auto
      server := ⟨"/assets/upload", "alice", secret⟩
      auth := ⟨⟨true, true⟩, ⟨true, true, []⟩, ⟨some "7", none, false, none⟩⟩ }
  valid := by decide

/-- A server that requires version 2, with epoch 7, and a channel binding. -/
def server : ValidServer parsers where
  state :=
    { config :=
        { maverick := ⟨"/assets/upload", 10, 4, 2, 64⟩
          users := [alice]
          auth := ⟨⟨true, true⟩, ⟨true, true, [7]⟩⟩
          maxFrameSize := 65536 }
      users := ⟨AList.insert "alice" alice ∅, ∅⟩
      dummyAuthSecret := "mv1_BBBBBBBBBBBBBBBBBBBBBBBBBBBBBBBBBBBBBBBBBBB" }
  valid := by decide
  users := rfl

def binding : TlsChannelBinding := Block.fill 32 5
def nonce : Block 32 := Block.fill 32 1
def random : Block 32 × Block 16 := ⟨Block.fill 32 2, Block.fill 16 3⟩

def message : ClientHelloV2 :=
  ⟨AUTH_V2_PROTOCOL_VERSION, 7, nonce, 1000, utf8 "alice", .auto, FEATURE_TLS_CHANNEL_BINDING, 0,
    Mac.tag crypto ⟨secret, .clientV2 ⟨AUTH_V2_PROTOCOL_VERSION, 7, nonce, 1000, utf8 "alice",
      "/assets/upload", .auto, FEATURE_TLS_CHANNEL_BINDING, 0, some binding⟩⟩⟩

def sender : ClientSession parsers :=
  ⟨client, ⟨.v2 message, secret, some binding, true⟩, message.bytes⟩

def authenticated : AuthenticatedClientHello :=
  ⟨⟨alice, secret, .active⟩, "v2:7:alice", FEATURE_TLS_CHANNEL_BINDING, .v2 7 nonce 1000⟩

def answer : ServerHelloV2 :=
  ⟨AUTH_V2_PROTOCOL_VERSION, 7, random.1, random.2.val, 65536, 64, FEATURE_TLS_CHANNEL_BINDING,
    86400, Mac.tag crypto ⟨secret, .serverV2 ⟨nonce, random.1, random.2.val,
      AUTH_V2_PROTOCOL_VERSION, 7, 65536, 64, FEATURE_TLS_CHANNEL_BINDING, 86400, some binding⟩⟩⟩

def receiver : ServerSession parsers :=
  ⟨server, message.bytes, 1000, some binding, authenticated, random, answer.bytes⟩

theorem hello_next : Handshakes.next crypto ⟨[], [], []⟩
    (.hello client (some binding) 1000 nonce 1000) = some ⟨[sender], [], []⟩ := by
  rfl

set_option maxRecDepth 4000 in
theorem answer_next : Handshakes.next crypto ⟨[sender], [], []⟩
    (.answer server message.bytes 1000 (some binding) random) =
      some ⟨[sender], [receiver], []⟩ := by
  rfl

set_option maxRecDepth 4000 in
theorem accept_next : Handshakes.next crypto ⟨[sender], [receiver], []⟩
    (.accept 0 answer.bytes) = some ⟨[sender], [receiver], [(sender, answer.bytes)]⟩ := by
  rfl

set_option maxRecDepth 4000 in
/-- The whole handshake, with the messages delivered as they were sent. -/
theorem reached : (handshakes crypto).ReachBy (Ideal crypto)
    ⟨[sender], [receiver], [(sender, answer.bytes)]⟩ := by
  have ideal₁ : Ideal crypto (P := parsers) ⟨[], [], []⟩
      (.hello client (some binding) 1000 nonce 1000) := by
    refine ⟨?_, nofun, nofun⟩
    intro _ _ _ _ _ _ c hc
    cases hc
  have ideal₂ : Ideal crypto ⟨[sender], [], []⟩
      (.answer server message.bytes 1000 (some binding) random) :=
    Ideal.of_issued sender.mac message.authTag rfl (by decide) (by decide)
  have ideal₃ : Ideal crypto ⟨[sender], [receiver], []⟩ (.accept 0 answer.bytes) :=
    Ideal.of_issued receiver.mac answer.serverAuthTag rfl (by decide) (by decide)
  exact .step (.step (.step .start ideal₁ hello_next) ideal₂ answer_next) ideal₃ accept_next

end BoundRun

/-- A session of version 2 in which both sides require a channel binding. -/
theorem handshake_agreement_bound : ∃ s : Handshakes Sample.parsers,
    (handshakes Sample.crypto).ReachBy (Ideal Sample.crypto) s ∧ s.accepted.length = 1 ∧
    ∀ c answer, (c, answer) ∈ s.accepted → ∃ r ∈ s.servers, r.answer = answer ∧ Agrees r c :=
  ⟨_, BoundRun.reached, rfl, fun c answer hmem => by
    obtain ⟨r, hr, hanswer, hagrees, -⟩ :=
      (handshake_agreement _ _ _ BoundRun.reached).1 c answer hmem
    exact ⟨r, hr, hanswer, hagrees⟩⟩

end Agreement
end Maverick
