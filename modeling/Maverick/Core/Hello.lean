import Maverick.Core.Transcript

/-!
# Hello messages

The four messages of the handshake as `maverick_core::auth` builds, verifies,
encodes and decodes them.  HMAC and HKDF are parameters (`Crypto`), and so are
the outputs of the random generator and of the clock.

* `ClientHello.decode_eq_ok` and its siblings — a decoder accepts exactly the
  encodings of messages within its length limits.
* `ClientHello.tryNew_eq_ok` and its siblings — the message that is built.
* `ClientHello.verify_iff` and its siblings — what an accepted tag is a tag of.
* `Mac` — a secret and a transcript, which determine key, bytes and tag.
-/

namespace Maverick

open Lib
open Lib.Reader

/-- The message authentication code and the key derivation of the handshake. -/
structure Crypto where
  /-- HMAC-SHA256: key, message. -/
  hmac : Bytes → Bytes → Block 32
  /-- HKDF-SHA256 with a 32-byte output: salt, input keying material, info. -/
  hkdf : Bytes → Bytes → Bytes → Block 32

def AUTH_V1_MAX_CREDENTIAL_ID_LEN : Nat := 512
def AUTH_V2_EPOCH_SALT_LABEL : Bytes := utf8 "Maverick auth v2 epoch"
def AUTH_V2_CLIENT_INFO : Bytes := utf8 "Maverick auth v2 client mac"
def AUTH_V2_SERVER_INFO : Bytes := utf8 "Maverick auth v2 server mac"

/-- Is the channel binding feature flag set? -/
def bindingFlag (flags : UInt64) : Bool := flags &&& FEATURE_TLS_CHANNEL_BINDING != 0

/-! ## Tags -/

section Tags

variable (C : Crypto)

/-- `auth_v2_epoch_key` -/
def authV2EpochKey (secret : SecretString) (authEpoch : UInt64) (info : Bytes) : Bytes :=
  (C.hkdf (AUTH_V2_EPOCH_SALT_LABEL ++ putU64 authEpoch) (utf8 secret) info).val

/-- `client_auth_tag` -/
def clientAuthTag (secret : SecretString) (t : ClientAuthTranscript) : AuthTag :=
  C.hmac (utf8 secret) t.bytes

/-- `server_auth_tag` -/
def serverAuthTag (secret : SecretString) (t : ServerAuthTranscript) : AuthTag :=
  C.hmac (utf8 secret) t.bytes

/-- `validate_credential_hint` -/
def validateCredentialHint (value : Bytes) : Except Error Unit :=
  if value.isEmpty then .error (.malformedFrame "empty credential hint")
  else if AUTH_V2_MAX_CREDENTIAL_HINT_LEN < value.length then
    .error (.malformedFrame "credential hint too long")
  else .ok ()

/-- `client_auth_v2_tag` -/
def clientAuthV2Tag (secret : SecretString) (t : ClientAuthV2Transcript) : Except Error AuthTag := do
  validateCredentialHint t.credentialHint
  return C.hmac (authV2EpochKey C secret t.authEpoch AUTH_V2_CLIENT_INFO) t.bytes

/-- `server_auth_v2_tag_checked` -/
def serverAuthV2TagChecked (secret : SecretString) (t : ServerAuthV2Transcript) :
    Except Error AuthTag :=
  if t.sessionId.isEmpty ∨ 32 < t.sessionId.length then
    .error (.malformedFrame "bad session id length")
  else .ok (C.hmac (authV2EpochKey C secret t.selectedEpoch AUTH_V2_SERVER_INFO) t.bytes)

end Tags

/-- `selected_channel_binding`: without the flag nothing is bound; with the flag
a binding has to be there. -/
def selectedChannelBinding (flags : UInt64) (binding : Option TlsChannelBinding) :
    Option (Option TlsChannelBinding) :=
  if bindingFlag flags then binding.map some else some none

/-- The check at the head of every constructor of a hello. -/
def requireBindingMaterial (flags : UInt64) (binding : Option TlsChannelBinding) :
    Except Error Unit :=
  if bindingFlag flags ∧ binding.isNone then
    .error (.config "tls channel binding feature flag requires channel binding material")
  else .ok ()

variable {flags : UInt64} {binding : Option TlsChannelBinding} {maxLen : Nat} {tooLong : String}
  {buf rest bs : Bytes}

theorem selectedChannelBinding_eq_some {b : Option TlsChannelBinding} :
    selectedChannelBinding flags binding = some b ↔
      (bindingFlag flags = true ∧ b.isSome = true ∧ b = binding) ∨
        (bindingFlag flags = false ∧ b = none) := by
  unfold selectedChannelBinding
  cases bindingFlag flags with
  | false => cases b <;> simp
  | true =>
    cases binding with
    | none => cases b <;> simp
    | some x => cases b <;> simp [Subtype.ext_iff, eq_comm (a := x.val)]

theorem requireBindingMaterial_eq_ok :
    requireBindingMaterial flags binding = .ok () ↔
      (bindingFlag flags = true → binding.isSome = true) := by
  unfold requireBindingMaterial
  cases bindingFlag flags <;> cases binding <;> simp

/-! ## Message authentication -/

/-- A secret and the transcript it authenticates; key, message and tag follow. -/
structure Mac where
  secret : SecretString
  transcript : Transcript
  deriving DecidableEq

namespace Mac

variable (C : Crypto)

/-- The HMAC key: the secret itself, or a key of the epoch derived from it. -/
def key (m : Mac) : Bytes :=
  match m.transcript with
  | .clientV1 _ => utf8 m.secret
  | .serverV1 _ => utf8 m.secret
  | .clientV2 t => authV2EpochKey C m.secret t.authEpoch AUTH_V2_CLIENT_INFO
  | .serverV2 t => authV2EpochKey C m.secret t.selectedEpoch AUTH_V2_SERVER_INFO

def tag (m : Mac) : AuthTag := C.hmac (m.key C) m.transcript.bytes

variable {C}

variable {secret : SecretString}

theorem clientAuthV2Tag_eq_ok {t : ClientAuthV2Transcript} {tag : AuthTag} :
    clientAuthV2Tag C secret t = .ok tag ↔
      validateCredentialHint t.credentialHint = .ok () ∧ Mac.tag C ⟨secret, .clientV2 t⟩ = tag := by
  unfold clientAuthV2Tag
  cases validateCredentialHint t.credentialHint with
  | error e => simp [bind, Except.bind]
  | ok u =>
    simp only [bind, Except.bind, pure, Except.pure, Except.ok.injEq, true_and]
    rfl

theorem serverAuthV2TagChecked_eq_ok {t : ServerAuthV2Transcript} {tag : AuthTag} :
    serverAuthV2TagChecked C secret t = .ok tag ↔
      (1 ≤ t.sessionId.length ∧ t.sessionId.length ≤ 32) ∧
        Mac.tag C ⟨secret, .serverV2 t⟩ = tag := by
  unfold serverAuthV2TagChecked
  have hlen : (t.sessionId.isEmpty = true ∨ 32 < t.sessionId.length) ↔
      ¬ (1 ≤ t.sessionId.length ∧ t.sessionId.length ≤ 32) := by
    rw [List.isEmpty_iff, ← List.length_eq_zero_iff]
    omega
  by_cases h : 1 ≤ t.sessionId.length ∧ t.sessionId.length ≤ 32
  · rw [if_neg (fun hbad => hlen.mp hbad h)]
    simp only [h, true_and, Except.ok.injEq]
    rfl
  · rw [if_pos (hlen.mpr h)]
    simp [h]

end Mac

theorem length_of_validateCredentialHint {hint : Bytes}
    (h : validateCredentialHint hint = .ok ()) :
    0 < hint.length ∧ hint.length ≤ AUTH_V2_MAX_CREDENTIAL_HINT_LEN := by
  unfold validateCredentialHint at h
  split at h <;> (try split at h) <;> cases h
  next hempty hlong =>
    exact ⟨List.length_pos_iff.mpr fun hnil => hempty (hnil ▸ rfl), not_lt.mp hlong⟩

/-! ## Field readers -/

/-- `get_bounded_string` -/
def getBoundedString (maxLen : Nat) (tooLong : String) : Reader Error String := do
  ensure (2 ≤ ·) (.malformedFrame "missing string length")
  let len ← getU16 .panic
  reject (maxLen < len.toNat) (.malformedFrame tooLong)
  ensure (len.toNat ≤ ·) (.malformedFrame "truncated string")
  let bytes ← take .panic len.toNat
  lift (match fromUtf8 bytes.val with
    | some s => .ok s
    | none => .error (.malformedFrame "invalid utf-8 string"))

/-- `get_bounded_bytes` -/
def getBoundedBytes (maxLen : Nat) (empty tooLong : String) : Reader Error Bytes := do
  ensure (2 ≤ ·) (.malformedFrame "missing byte string length")
  let len ← getU16 .panic
  reject (len.toNat = 0) (.malformedFrame empty)
  reject (maxLen < len.toNat) (.malformedFrame tooLong)
  ensure (len.toNat ≤ ·) (.malformedFrame "truncated byte string")
  let bytes ← take .panic len.toNat
  return bytes.val

/-- The session id of a server hello, with `rest` bytes of fixed fields after
it. -/
def getSessionId (rest : Nat) : Reader Error Bytes := do
  let len ← getU8 .panic
  ensure (fun n => len.toNat ≠ 0 && len.toNat ≤ 32 && len.toNat + rest ≤ n)
    (.malformedFrame "bad session id length")
  let bytes ← take .panic len.toNat
  return bytes.val

/-- A bounded string is read exactly from its own length-prefixed bytes. -/
theorem getBoundedString_eq_ok (hmax : maxLen < 2 ^ 16) {s : String} :
    (getBoundedString maxLen tooLong).run buf = .ok (s, rest) ↔
      (utf8 s).length ≤ maxLen ∧ buf = prefixed 2 (utf8 s) ++ rest := by
  unfold getBoundedString
  simp only [bind_eq_ok, ensure_eq_ok, getU16_eq_ok, reject_eq_ok, take_eq_ok, lift_eq_ok]
  constructor
  · rintro ⟨-, -, ⟨-, rfl⟩, len, _, rfl, -, _, ⟨hlen, rfl⟩, -, _, ⟨-, rfl⟩, b, _, rfl, hs, rfl⟩
    have hs' : utf8 s = b.val := by
      cases hb : fromUtf8 b.val with
      | none => rw [hb] at hs; cases hs
      | some t => rw [hb] at hs; cases hs; exact utf8_of_fromUtf8 hb
    rw [hs', b.property, prefixed, b.property]
    exact ⟨not_lt.mp hlen, by simp [putU16]⟩
  · rintro ⟨hs, rfl⟩
    obtain ⟨len, hlen, hput⟩ := prefixed_eq_putU16 (lt_of_le_of_lt hs hmax)
    rw [hput]
    refine ⟨(), _, ⟨?_, rfl⟩, len, _, List.append_assoc _ _ _, (), _, ⟨by omega, rfl⟩, (), _,
      ⟨?_, rfl⟩, ⟨utf8 s, hlen.symm⟩, _, rfl, ?_, rfl⟩
    all_goals simp [hlen]

/-- A bounded byte string is read exactly from its own length-prefixed bytes. -/
theorem getBoundedBytes_eq_ok (hmax : maxLen < 2 ^ 16) {empty : String} :
    (getBoundedBytes maxLen empty tooLong).run buf = .ok (bs, rest) ↔
      (0 < bs.length ∧ bs.length ≤ maxLen) ∧ buf = prefixed 2 bs ++ rest := by
  unfold getBoundedBytes
  simp only [bind_eq_ok, ensure_eq_ok, getU16_eq_ok, reject_eq_ok, take_eq_ok, pure_eq_ok]
  constructor
  · rintro ⟨-, -, ⟨-, rfl⟩, len, _, rfl, -, _, ⟨hzero, rfl⟩, -, _, ⟨hlen, rfl⟩, -, _, ⟨-, rfl⟩, b, _,
      rfl, rfl, rfl⟩
    rw [b.property, prefixed, b.property]
    exact ⟨⟨Nat.pos_of_ne_zero hzero, not_lt.mp hlen⟩, by simp [putU16]⟩
  rintro ⟨⟨hpos, hle⟩, rfl⟩
  obtain ⟨len, hlen, hput⟩ := prefixed_eq_putU16 (lt_of_le_of_lt hle hmax)
  rw [hput]
  refine ⟨(), _, ⟨?_, rfl⟩, len, _, List.append_assoc _ _ _, (), _, ⟨by omega, rfl⟩, (), _,
    ⟨by omega, rfl⟩, (), _, ⟨?_, rfl⟩, ⟨bs, hlen.symm⟩, _, rfl, rfl, rfl⟩
  all_goals simp [hlen]

/-- A session id is read exactly from its own length-prefixed bytes. -/
theorem getSessionId_eq_ok {tail : Nat} :
    (getSessionId tail).run buf = .ok (bs, rest) ↔
      ((0 < bs.length ∧ bs.length ≤ 32) ∧ tail ≤ rest.length) ∧ buf = prefixed 1 bs ++ rest := by
  unfold getSessionId
  simp only [bind_eq_ok, ensure_eq_ok, getU8_eq_ok, take_eq_ok, pure_eq_ok, Bool.and_eq_true,
    decide_eq_true_eq]
  constructor
  · rintro ⟨len, _, rfl, -, _, ⟨⟨⟨hzero, hlen⟩, htail⟩, rfl⟩, b, _, rfl, rfl, rfl⟩
    rw [List.length_append, b.property] at htail
    rw [b.property, prefixed, b.property]
    exact ⟨⟨⟨Nat.pos_of_ne_zero hzero, hlen⟩, by omega⟩, by simp [putU8, toBe]⟩
  rintro ⟨⟨⟨hpos, hle⟩, htail⟩, rfl⟩
  have hlen8 : bs.length < 2 ^ 8 := by omega
  obtain ⟨len, hlen, hput⟩ := prefixed_eq_putU8 hlen8
  rw [hput]
  refine ⟨len, _, List.append_assoc _ _ _, (), _, ⟨⟨⟨by omega, by omega⟩, ?_⟩, rfl⟩,
    ⟨bs, hlen.symm⟩, _, rfl, rfl, rfl⟩
  rw [List.length_append]
  omega

/-! ## Version 1 -/

structure ClientHello where
  protocolVersion : UInt16
  clientNonce : Block 32
  timestampUnix : Int64
  credentialId : String
  mode : Mode
  featureFlags : UInt64
  authTag : AuthTag
  deriving DecidableEq

namespace ClientHello

/-- What the tag of a hello covers, for a tunnel path and a binding. -/
def transcript (h : ClientHello) (tunnelPath : String) (binding : Option TlsChannelBinding) :
    ClientAuthTranscript :=
  ⟨h.protocolVersion, h.clientNonce, h.timestampUnix, h.credentialId, tunnelPath, h.mode,
    h.featureFlags, binding⟩

/-- `ClientHello::try_new_with_channel_binding`; `random` and `now` are what the
random generator and the clock return. -/
def tryNew (C : Crypto) (credentialId : String) (secret : SecretString) (tunnelPath : String)
    (mode : Mode) (featureFlags : UInt64) (channelBinding : Option TlsChannelBinding)
    (random : Except Error (Block 32)) (now : Int64) : Except Error ClientHello := do
  requireBindingMaterial featureFlags channelBinding
  let clientNonce ← random
  let authTag := clientAuthTag C secret ⟨PROTOCOL_VERSION, clientNonce, now, credentialId,
    tunnelPath, mode, featureFlags, channelBinding⟩
  return ⟨PROTOCOL_VERSION, clientNonce, now, credentialId, mode, featureFlags, authTag⟩

/-- `ClientHello::verify_with_channel_binding` -/
def verify (C : Crypto) (h : ClientHello) (secret : SecretString) (tunnelPath : String)
    (channelBinding : Option TlsChannelBinding) : Bool :=
  match selectedChannelBinding h.featureFlags channelBinding with
  | none => false
  | some binding => clientAuthTag C secret (h.transcript tunnelPath binding) == h.authTag

/-- `ClientHello::encode` -/
def encode (h : ClientHello) : Bytes :=
  putU16 h.protocolVersion ++ (h.clientNonce.val ++ (putI64 h.timestampUnix ++
    (prefixed 2 (utf8 h.credentialId) ++ (putU8 h.mode.wireId ++ (putU64 h.featureFlags ++
      h.authTag.val)))))

def read : Reader Error ClientHello := do
  ensure (2 + 32 + 8 + 2 + 1 + 8 + 32 ≤ ·) (.malformedFrame "client hello too short")
  let protocolVersion ← getU16 .panic
  let clientNonce ← take .panic 32
  let timestampUnix ← getI64 .panic
  let credentialId ← getBoundedString AUTH_V1_MAX_CREDENTIAL_ID_LEN "credential id too long"
  ensure (1 + 8 + 32 ≤ ·) (.malformedFrame "client hello truncated")
  let modeId ← getU8 .panic
  let mode ← lift (Mode.fromWireId modeId)
  let featureFlags ← getU64 .panic
  let authTag ← take .panic 32
  ensure (· = 0) (.malformedFrame "client hello trailing bytes")
  return ⟨protocolVersion, clientNonce, timestampUnix, credentialId, mode, featureFlags, authTag⟩

/-- `ClientHello::decode` -/
def decode (input : Bytes) : Except Error ClientHello := (read.run input).map Prod.fst

variable {h : ClientHello} {C : Crypto} {secret : SecretString} {tunnelPath : String}
  {channelBinding : Option TlsChannelBinding}

/-- **A decoder accepts exactly the encodings** of messages within its length
limit. -/
theorem decode_eq_ok {input : Bytes} :
    decode input = .ok h ↔
      (utf8 h.credentialId).length ≤ AUTH_V1_MAX_CREDENTIAL_ID_LEN ∧ input = h.encode := by
  have hmax : AUTH_V1_MAX_CREDENTIAL_ID_LEN < 2 ^ 16 := by decide
  rw [decode, map_fst_eq_ok]
  unfold read
  simp only [bind_eq_ok, ensure_eq_ok, getU16_eq_ok, take_eq_ok, getI64_eq_ok,
    getBoundedString_eq_ok hmax, getU8_eq_ok, lift_eq_ok, Mode.fromWireId_eq_ok, getU64_eq_ok,
    pure_eq_ok, decide_eq_true_eq]
  constructor
  · rintro ⟨_, -, _, ⟨-, rfl⟩, version, _, rfl, nonce, _, rfl, time, _, rfl, cred, _, ⟨hcred, rfl⟩,
      -, _, ⟨-, rfl⟩, _, _, rfl, mode, _, ⟨rfl, rfl⟩, flags, _, rfl, tag, _, rfl, -, _, ⟨hend, rfl⟩,
      rfl, rfl⟩
    obtain rfl := List.length_eq_zero_iff.mp hend
    exact ⟨hcred, by simp [encode]⟩
  · rintro ⟨hcred, rfl⟩
    refine ⟨[], (), _, ⟨?_, rfl⟩, _, _, rfl, _, _, rfl, _, _, rfl, h.credentialId, _, ⟨hcred, rfl⟩,
      (), _, ⟨?_, rfl⟩, _, _, rfl, h.mode, _, ⟨rfl, rfl⟩, _, _, rfl, h.authTag, [], by simp, (), _,
      ⟨rfl, rfl⟩, rfl, rfl⟩
    · simp [encode, h.clientNonce.property, h.authTag.property]
      omega
    · simp [h.authTag.property]

theorem tryNew_eq_ok {credentialId : String} {mode : Mode} {featureFlags : UInt64}
    {random : Except Error (Block 32)} {now : Int64} :
    tryNew C credentialId secret tunnelPath mode featureFlags channelBinding random now = .ok h ↔
      (bindingFlag featureFlags = true → channelBinding.isSome = true) ∧
      ∃ nonce, random = .ok nonce ∧
        h = ⟨PROTOCOL_VERSION, nonce, now, credentialId, mode, featureFlags,
          Mac.tag C ⟨secret, .clientV1 ⟨PROTOCOL_VERSION, nonce, now, credentialId, tunnelPath, mode,
            featureFlags, channelBinding⟩⟩⟩ := by
  rw [tryNew, Check.seq_eq_ok, requireBindingMaterial_eq_ok, Check.bind_eq_ok]
  simp only [pure, Except.pure, Except.ok.injEq]
  refine and_congr_right fun _ => exists_congr fun nonce => and_congr_right fun _ => ?_
  exact eq_comm

/-- An accepted tag is the tag of the hello's own transcript, with the binding
that its flags select. -/
theorem verify_iff :
    h.verify C secret tunnelPath channelBinding = true ↔
      ∃ binding, selectedChannelBinding h.featureFlags channelBinding = some binding ∧
        clientAuthTag C secret (h.transcript tunnelPath binding) = h.authTag := by
  unfold verify
  cases selectedChannelBinding h.featureFlags channelBinding <;> simp [Subtype.ext_iff]

/-- Tag and transcript determine a hello and what else was authenticated. -/
theorem eq_of_transcript {h' : ClientHello} {path path' : String}
    {binding binding' : Option TlsChannelBinding} (htag : h.authTag = h'.authTag)
    (ht : h.transcript path binding = h'.transcript path' binding') :
    h = h' ∧ path = path' ∧ binding = binding' := by
  cases h
  cases h'
  simp_all [transcript]

end ClientHello

structure ServerHello where
  protocolVersionSelected : UInt16
  serverNonce : Block 32
  sessionId : Bytes
  maxFrameSize : UInt32
  maxConcurrentFlows : UInt32
  featureFlagsSelected : UInt64
  serverAuthTag : AuthTag
  deriving DecidableEq

namespace ServerHello

/-- What the tag of a hello covers, in reply to a client nonce. -/
def transcript (h : ServerHello) (clientNonce : Block 32) (binding : Option TlsChannelBinding) :
    ServerAuthTranscript :=
  ⟨clientNonce, h.serverNonce, h.sessionId, h.protocolVersionSelected, h.maxFrameSize,
    h.maxConcurrentFlows, h.featureFlagsSelected, binding⟩

/-- `ServerHello::try_new_with_channel_binding`; `random` is what the two calls
of the random generator return. -/
def tryNew (C : Crypto) (secret : SecretString) (clientNonce : Block 32) (maxFrameSize : UInt32)
    (maxConcurrentFlows : UInt32) (featureFlagsSelected : UInt64)
    (channelBinding : Option TlsChannelBinding) (random : Except Error (Block 32 × Block 16)) :
    Except Error ServerHello := do
  requireBindingMaterial featureFlagsSelected channelBinding
  let (serverNonce, sessionId) ← random
  let tag := Maverick.serverAuthTag C secret ⟨clientNonce, serverNonce, sessionId.val, PROTOCOL_VERSION,
    maxFrameSize, maxConcurrentFlows, featureFlagsSelected, channelBinding⟩
  return ⟨PROTOCOL_VERSION, serverNonce, sessionId.val, maxFrameSize, maxConcurrentFlows,
    featureFlagsSelected, tag⟩

/-- `ServerHello::verify_with_channel_binding` -/
def verify (C : Crypto) (h : ServerHello) (secret : SecretString) (clientNonce : Block 32)
    (channelBinding : Option TlsChannelBinding) : Bool :=
  match selectedChannelBinding h.featureFlagsSelected channelBinding with
  | none => false
  | some binding =>
    Maverick.serverAuthTag C secret (h.transcript clientNonce binding) == h.serverAuthTag

/-- `ServerHello::encode` -/
def encode (h : ServerHello) : Bytes :=
  putU16 h.protocolVersionSelected ++ (h.serverNonce.val ++ (prefixed 1 h.sessionId ++
    (putU32 h.maxFrameSize ++ (putU32 h.maxConcurrentFlows ++ (putU64 h.featureFlagsSelected ++
      h.serverAuthTag.val)))))

def read : Reader Error ServerHello := do
  ensure (2 + 32 + 1 + 4 + 4 + 8 + 32 ≤ ·) (.malformedFrame "server hello too short")
  let protocolVersionSelected ← getU16 .panic
  let serverNonce ← take .panic 32
  let sessionId ← getSessionId (4 + 4 + 8 + 32)
  let maxFrameSize ← getU32 .panic
  let maxConcurrentFlows ← getU32 .panic
  let featureFlagsSelected ← getU64 .panic
  let serverAuthTag ← take .panic 32
  ensure (· = 0) (.malformedFrame "server hello trailing bytes")
  return ⟨protocolVersionSelected, serverNonce, sessionId, maxFrameSize, maxConcurrentFlows,
    featureFlagsSelected, serverAuthTag⟩

/-- `ServerHello::decode` -/
def decode (input : Bytes) : Except Error ServerHello := (read.run input).map Prod.fst

variable {h : ServerHello} {C : Crypto} {secret : SecretString} {clientNonce : Block 32}
  {channelBinding : Option TlsChannelBinding}

theorem decode_eq_ok {input : Bytes} :
    decode input = .ok h ↔
      (0 < h.sessionId.length ∧ h.sessionId.length ≤ 32) ∧ input = h.encode := by
  rw [decode, map_fst_eq_ok]
  unfold read
  simp only [bind_eq_ok, ensure_eq_ok, getU16_eq_ok, take_eq_ok, getSessionId_eq_ok, getU32_eq_ok,
    getU64_eq_ok, pure_eq_ok, decide_eq_true_eq]
  constructor
  · rintro ⟨_, -, _, ⟨-, rfl⟩, version, _, rfl, nonce, _, rfl, sid, _, ⟨⟨hsid, -⟩, rfl⟩, frame, _,
      rfl, flows, _, rfl, flags, _, rfl, tag, _, rfl, -, _, ⟨hend, rfl⟩, rfl, rfl⟩
    obtain rfl := List.length_eq_zero_iff.mp hend
    exact ⟨hsid, by simp [encode]⟩
  rintro ⟨hsid, rfl⟩
  refine ⟨[], (), _, ⟨?_, rfl⟩, _, _, rfl, _, _, rfl, h.sessionId, _, ⟨⟨hsid, ?_⟩, rfl⟩, _, _, rfl,
    _, _, rfl, _, _, rfl, h.serverAuthTag, [], by simp, (), _, ⟨rfl, rfl⟩, rfl, rfl⟩
  · simp [encode, h.serverNonce.property, h.serverAuthTag.property]
    omega
  · simp [h.serverAuthTag.property]

theorem tryNew_eq_ok {maxFrameSize maxConcurrentFlows : UInt32} {flags : UInt64}
    {random : Except Error (Block 32 × Block 16)} :
    tryNew C secret clientNonce maxFrameSize maxConcurrentFlows flags channelBinding random =
        .ok h ↔
      (bindingFlag flags = true → channelBinding.isSome = true) ∧
      ∃ r, random = .ok r ∧
        h = ⟨PROTOCOL_VERSION, r.1, r.2.val, maxFrameSize, maxConcurrentFlows, flags,
          Mac.tag C ⟨secret, .serverV1 ⟨clientNonce, r.1, r.2.val, PROTOCOL_VERSION, maxFrameSize,
            maxConcurrentFlows, flags, channelBinding⟩⟩⟩ := by
  rw [tryNew, Check.seq_eq_ok, requireBindingMaterial_eq_ok, Check.bind_eq_ok]
  simp only [pure, Except.pure, Except.ok.injEq]
  refine and_congr_right fun _ => exists_congr fun r => and_congr_right fun _ => ?_
  exact eq_comm

theorem verify_iff :
    h.verify C secret clientNonce channelBinding = true ↔
      ∃ binding, selectedChannelBinding h.featureFlagsSelected channelBinding = some binding ∧
        Maverick.serverAuthTag C secret (h.transcript clientNonce binding) = h.serverAuthTag := by
  unfold verify
  cases selectedChannelBinding h.featureFlagsSelected channelBinding <;> simp [Subtype.ext_iff]

theorem eq_of_transcript {h' : ServerHello} {nonce nonce' : Block 32}
    {binding binding' : Option TlsChannelBinding} (htag : h.serverAuthTag = h'.serverAuthTag)
    (ht : h.transcript nonce binding = h'.transcript nonce' binding') :
    h = h' ∧ nonce = nonce' ∧ binding = binding' := by
  cases h
  cases h'
  simp_all [transcript]

end ServerHello

/-! ## Version 2 -/

structure ClientHelloV2 where
  protocolVersion : UInt16
  authEpoch : UInt64
  clientNonce : Block 32
  timestampUnix : Int64
  credentialHint : Bytes
  mode : Mode
  featureFlags : UInt64
  rotationFlags : UInt32
  authTag : AuthTag
  deriving DecidableEq

namespace ClientHelloV2

/-- What the tag of a hello covers, for a tunnel path and a binding. -/
def transcript (h : ClientHelloV2) (tunnelPath : String) (binding : Option TlsChannelBinding) :
    ClientAuthV2Transcript :=
  ⟨h.protocolVersion, h.authEpoch, h.clientNonce, h.timestampUnix, h.credentialHint, tunnelPath,
    h.mode, h.featureFlags, h.rotationFlags, binding⟩

/-- `ClientHelloV2::new_with_channel_binding` -/
def tryNew (C : Crypto) (credentialHint : Bytes) (secret : SecretString) (authEpoch : UInt64)
    (tunnelPath : String) (mode : Mode) (featureFlags : UInt64) (rotationFlags : UInt32)
    (channelBinding : Option TlsChannelBinding) (random : Except Error (Block 32)) (now : Int64) :
    Except Error ClientHelloV2 := do
  requireBindingMaterial featureFlags channelBinding
  validateCredentialHint credentialHint
  let clientNonce ← random
  let authTag ← clientAuthV2Tag C secret ⟨AUTH_V2_PROTOCOL_VERSION, authEpoch, clientNonce, now,
    credentialHint, tunnelPath, mode, featureFlags, rotationFlags, channelBinding⟩
  return ⟨AUTH_V2_PROTOCOL_VERSION, authEpoch, clientNonce, now, credentialHint, mode,
    featureFlags, rotationFlags, authTag⟩

/-- `ClientHelloV2::verify_with_channel_binding` -/
def verify (C : Crypto) (h : ClientHelloV2) (secret : SecretString) (tunnelPath : String)
    (channelBinding : Option TlsChannelBinding) : Bool :=
  match selectedChannelBinding h.featureFlags channelBinding with
  | none => false
  | some binding =>
    match clientAuthV2Tag C secret (h.transcript tunnelPath binding) with
    | .ok expected => expected == h.authTag
    | .error _ => false

/-- The bytes of `ClientHelloV2::encode`, once the hint has been checked. -/
def bytes (h : ClientHelloV2) : Bytes :=
  putU16 h.protocolVersion ++ (putU64 h.authEpoch ++ (h.clientNonce.val ++
    (putI64 h.timestampUnix ++ (prefixed 2 h.credentialHint ++ (putU8 h.mode.wireId ++
      (putU64 h.featureFlags ++ (putU32 h.rotationFlags ++ h.authTag.val)))))))

/-- `ClientHelloV2::encode` -/
def encode (h : ClientHelloV2) : Except Error Bytes := do
  validateCredentialHint h.credentialHint
  if 65535 < h.credentialHint.length then throw (.malformedFrame "byte string too long")
  return h.bytes

def read : Reader Error ClientHelloV2 := do
  ensure (2 + 8 + 32 + 8 + 2 + 1 + 8 + 4 + 32 ≤ ·) (.malformedFrame "client hello v2 too short")
  let protocolVersion ← getU16 .panic
  let authEpoch ← getU64 .panic
  let clientNonce ← take .panic 32
  let timestampUnix ← getI64 .panic
  let credentialHint ← getBoundedBytes AUTH_V2_MAX_CREDENTIAL_HINT_LEN "empty credential hint"
    "credential hint too long"
  ensure (1 + 8 + 4 + 32 ≤ ·) (.malformedFrame "client hello v2 truncated")
  let modeId ← getU8 .panic
  let mode ← lift (Mode.fromWireId modeId)
  let featureFlags ← getU64 .panic
  let rotationFlags ← getU32 .panic
  let authTag ← take .panic 32
  ensure (· = 0) (.malformedFrame "client hello v2 trailing bytes")
  return ⟨protocolVersion, authEpoch, clientNonce, timestampUnix, credentialHint, mode,
    featureFlags, rotationFlags, authTag⟩

/-- `ClientHelloV2::decode` -/
def decode (input : Bytes) : Except Error ClientHelloV2 := (read.run input).map Prod.fst

variable {h : ClientHelloV2} {C : Crypto} {secret : SecretString} {tunnelPath : String}
  {channelBinding : Option TlsChannelBinding}

theorem decode_eq_ok {input : Bytes} :
    decode input = .ok h ↔
      (0 < h.credentialHint.length ∧ h.credentialHint.length ≤ AUTH_V2_MAX_CREDENTIAL_HINT_LEN) ∧
        input = h.bytes := by
  have hmax : AUTH_V2_MAX_CREDENTIAL_HINT_LEN < 2 ^ 16 := by decide
  rw [decode, map_fst_eq_ok]
  unfold read
  simp only [bind_eq_ok, ensure_eq_ok, getU16_eq_ok, take_eq_ok, getI64_eq_ok,
    getBoundedBytes_eq_ok hmax, getU8_eq_ok, lift_eq_ok, Mode.fromWireId_eq_ok, getU64_eq_ok,
    getU32_eq_ok, pure_eq_ok, decide_eq_true_eq]
  constructor
  · rintro ⟨_, -, _, ⟨-, rfl⟩, version, _, rfl, epoch, _, rfl, nonce, _, rfl, time, _, rfl, hint, _,
      ⟨hhint, rfl⟩, -, _, ⟨-, rfl⟩, _, _, rfl, mode, _, ⟨rfl, rfl⟩, flags, _, rfl, rotation, _, rfl,
      tag, _, rfl, -, _, ⟨hend, rfl⟩, rfl, rfl⟩
    obtain rfl := List.length_eq_zero_iff.mp hend
    exact ⟨hhint, by simp [bytes]⟩
  · rintro ⟨hhint, rfl⟩
    refine ⟨[], (), _, ⟨?_, rfl⟩, _, _, rfl, _, _, rfl, _, _, rfl, _, _, rfl, h.credentialHint, _,
      ⟨hhint, rfl⟩, (), _, ⟨?_, rfl⟩, _, _, rfl, h.mode, _, ⟨rfl, rfl⟩, _, _, rfl, _, _, rfl,
      h.authTag, [], by simp, (), _, ⟨rfl, rfl⟩, rfl, rfl⟩
    · simp [bytes, h.clientNonce.property, h.authTag.property]
      omega
    · simp [h.authTag.property]

theorem tryNew_eq_ok {credentialHint : Bytes} {authEpoch : UInt64} {mode : Mode}
    {featureFlags : UInt64} {rotationFlags : UInt32} {random : Except Error (Block 32)}
    {now : Int64} :
    tryNew C credentialHint secret authEpoch tunnelPath mode featureFlags rotationFlags
        channelBinding random now = .ok h ↔
      (bindingFlag featureFlags = true → channelBinding.isSome = true) ∧
      validateCredentialHint credentialHint = .ok () ∧
      ∃ nonce, random = .ok nonce ∧
        h = ⟨AUTH_V2_PROTOCOL_VERSION, authEpoch, nonce, now, credentialHint, mode, featureFlags,
          rotationFlags, Mac.tag C ⟨secret, .clientV2 ⟨AUTH_V2_PROTOCOL_VERSION, authEpoch, nonce,
            now, credentialHint, tunnelPath, mode, featureFlags, rotationFlags,
            channelBinding⟩⟩⟩ := by
  rw [tryNew, Check.seq_eq_ok, requireBindingMaterial_eq_ok, Check.seq_eq_ok, Check.bind_eq_ok]
  refine and_congr_right fun _ => and_congr_right fun hhint => exists_congr fun nonce =>
    and_congr_right fun _ => ?_
  simp only [Check.bind_eq_ok, Mac.clientAuthV2Tag_eq_ok, hhint, true_and, exists_eq_left', pure,
    Except.pure, Except.ok.injEq]
  exact eq_comm

theorem verify_iff :
    h.verify C secret tunnelPath channelBinding = true ↔
      ∃ binding, selectedChannelBinding h.featureFlags channelBinding = some binding ∧
        clientAuthV2Tag C secret (h.transcript tunnelPath binding) = .ok h.authTag := by
  unfold verify
  cases selectedChannelBinding h.featureFlags channelBinding with
  | none => simp
  | some binding =>
    simp only [Option.some.injEq, exists_eq_left']
    cases clientAuthV2Tag C secret (h.transcript tunnelPath binding) <;> simp [Subtype.ext_iff]

theorem encode_of_valid (hhint : validateCredentialHint h.credentialHint = .ok ()) :
    h.encode = .ok h.bytes := by
  have hlen : h.credentialHint.length ≤ 512 := (length_of_validateCredentialHint hhint).2
  rw [encode, hhint]
  show (if 65535 < h.credentialHint.length then _ else _) = _
  rw [if_neg (by omega)]
  rfl

theorem encode_eq_ok {payload : Bytes} (hok : h.encode = .ok payload) : payload = h.bytes := by
  obtain ⟨-, hok⟩ := Check.seq_eq_ok.mp hok
  split at hok <;> cases hok
  rfl

/-- Tag and transcript determine a hello and what else was authenticated. -/
theorem eq_of_transcript {h' : ClientHelloV2} {path path' : String}
    {binding binding' : Option TlsChannelBinding} (htag : h.authTag = h'.authTag)
    (ht : h.transcript path binding = h'.transcript path' binding') :
    h = h' ∧ path = path' ∧ binding = binding' := by
  cases h
  cases h'
  simp_all [transcript]

end ClientHelloV2

structure ServerHelloV2 where
  protocolVersionSelected : UInt16
  selectedEpoch : UInt64
  serverNonce : Block 32
  sessionId : Bytes
  maxFrameSize : UInt32
  maxConcurrentFlows : UInt32
  featureFlagsSelected : UInt64
  rotationWindowSecs : UInt32
  serverAuthTag : AuthTag
  deriving DecidableEq

namespace ServerHelloV2

/-- What the tag of a hello covers, in reply to a client nonce. -/
def transcript (h : ServerHelloV2) (clientNonce : Block 32) (binding : Option TlsChannelBinding) :
    ServerAuthV2Transcript :=
  ⟨clientNonce, h.serverNonce, h.sessionId, h.protocolVersionSelected, h.selectedEpoch,
    h.maxFrameSize, h.maxConcurrentFlows, h.featureFlagsSelected, h.rotationWindowSecs, binding⟩

/-- `ServerHelloV2::try_new_with_channel_binding`; the `expect` on the tag of a
generated hello cannot fail, since its session id has 16 bytes. -/
def tryNew (C : Crypto) (secret : SecretString) (selectedEpoch : UInt64) (clientNonce : Block 32)
    (maxFrameSize maxConcurrentFlows : UInt32) (featureFlagsSelected : UInt64)
    (rotationWindowSecs : UInt32) (channelBinding : Option TlsChannelBinding)
    (random : Except Error (Block 32 × Block 16)) : Except Error ServerHelloV2 := do
  requireBindingMaterial featureFlagsSelected channelBinding
  let (serverNonce, sessionId) ← random
  let tag ← match serverAuthV2TagChecked C secret ⟨clientNonce, serverNonce, sessionId.val,
      AUTH_V2_PROTOCOL_VERSION, selectedEpoch, maxFrameSize, maxConcurrentFlows,
      featureFlagsSelected, rotationWindowSecs, channelBinding⟩ with
    | .ok tag => pure tag
    | .error _ => throw .panic
  return ⟨AUTH_V2_PROTOCOL_VERSION, selectedEpoch, serverNonce, sessionId.val, maxFrameSize,
    maxConcurrentFlows, featureFlagsSelected, rotationWindowSecs, tag⟩

/-- `ServerHelloV2::verify_with_channel_binding` -/
def verify (C : Crypto) (h : ServerHelloV2) (secret : SecretString) (clientNonce : Block 32)
    (channelBinding : Option TlsChannelBinding) : Bool :=
  match selectedChannelBinding h.featureFlagsSelected channelBinding with
  | none => false
  | some binding =>
    match serverAuthV2TagChecked C secret (h.transcript clientNonce binding) with
    | .ok expected => expected == h.serverAuthTag
    | .error _ => false

/-- The bytes of `ServerHelloV2::encode`, once the session id has been
checked. -/
def bytes (h : ServerHelloV2) : Bytes :=
  putU16 h.protocolVersionSelected ++ (putU64 h.selectedEpoch ++ (h.serverNonce.val ++
    (prefixed 1 h.sessionId ++ (putU32 h.maxFrameSize ++ (putU32 h.maxConcurrentFlows ++
      (putU64 h.featureFlagsSelected ++ (putU32 h.rotationWindowSecs ++ h.serverAuthTag.val)))))))

/-- `ServerHelloV2::encode` -/
def encode (h : ServerHelloV2) : Except Error Bytes :=
  if h.sessionId.isEmpty ∨ 32 < h.sessionId.length then
    .error (.malformedFrame "bad session id length")
  else .ok h.bytes

def read : Reader Error ServerHelloV2 := do
  ensure (2 + 8 + 32 + 1 + 4 + 4 + 8 + 4 + 32 ≤ ·) (.malformedFrame "server hello v2 too short")
  let protocolVersionSelected ← getU16 .panic
  let selectedEpoch ← getU64 .panic
  let serverNonce ← take .panic 32
  let sessionId ← getSessionId (4 + 4 + 8 + 4 + 32)
  let maxFrameSize ← getU32 .panic
  let maxConcurrentFlows ← getU32 .panic
  let featureFlagsSelected ← getU64 .panic
  let rotationWindowSecs ← getU32 .panic
  let serverAuthTag ← take .panic 32
  ensure (· = 0) (.malformedFrame "server hello v2 trailing bytes")
  return ⟨protocolVersionSelected, selectedEpoch, serverNonce, sessionId, maxFrameSize,
    maxConcurrentFlows, featureFlagsSelected, rotationWindowSecs, serverAuthTag⟩

/-- `ServerHelloV2::decode` -/
def decode (input : Bytes) : Except Error ServerHelloV2 := (read.run input).map Prod.fst

variable {h : ServerHelloV2} {C : Crypto} {secret : SecretString} {clientNonce : Block 32}
  {channelBinding : Option TlsChannelBinding}

theorem decode_eq_ok {input : Bytes} :
    decode input = .ok h ↔
      (0 < h.sessionId.length ∧ h.sessionId.length ≤ 32) ∧ input = h.bytes := by
  rw [decode, map_fst_eq_ok]
  unfold read
  simp only [bind_eq_ok, ensure_eq_ok, getU16_eq_ok, take_eq_ok, getSessionId_eq_ok, getU32_eq_ok,
    getU64_eq_ok, pure_eq_ok, decide_eq_true_eq]
  constructor
  · rintro ⟨_, -, _, ⟨-, rfl⟩, version, _, rfl, epoch, _, rfl, nonce, _, rfl, sid, _,
      ⟨⟨hsid, -⟩, rfl⟩, frame, _, rfl, flows, _, rfl, flags, _, rfl, window, _, rfl, tag, _, rfl, -, _,
      ⟨hend, rfl⟩, rfl, rfl⟩
    obtain rfl := List.length_eq_zero_iff.mp hend
    exact ⟨hsid, by simp [bytes]⟩
  · rintro ⟨hsid, rfl⟩
    refine ⟨[], (), _, ⟨?_, rfl⟩, _, _, rfl, _, _, rfl, _, _, rfl, h.sessionId, _,
      ⟨⟨hsid, ?_⟩, rfl⟩, _, _, rfl, _, _, rfl, _, _, rfl, _, _, rfl, h.serverAuthTag, [], by simp,
      (), _, ⟨rfl, rfl⟩, rfl, rfl⟩
    · simp [bytes, h.serverNonce.property, h.serverAuthTag.property]
      omega
    · simp [h.serverAuthTag.property]

theorem tryNew_eq_ok {selectedEpoch : UInt64} {maxFrameSize maxConcurrentFlows : UInt32}
    {flags : UInt64} {rotationWindowSecs : UInt32} {random : Except Error (Block 32 × Block 16)} :
    tryNew C secret selectedEpoch clientNonce maxFrameSize maxConcurrentFlows flags
        rotationWindowSecs channelBinding random = .ok h ↔
      (bindingFlag flags = true → channelBinding.isSome = true) ∧
      ∃ r, random = .ok r ∧
        h = ⟨AUTH_V2_PROTOCOL_VERSION, selectedEpoch, r.1, r.2.val, maxFrameSize,
          maxConcurrentFlows, flags, rotationWindowSecs,
          Mac.tag C ⟨secret, .serverV2 ⟨clientNonce, r.1, r.2.val, AUTH_V2_PROTOCOL_VERSION,
            selectedEpoch, maxFrameSize, maxConcurrentFlows, flags, rotationWindowSecs,
            channelBinding⟩⟩⟩ := by
  rw [tryNew, Check.seq_eq_ok, requireBindingMaterial_eq_ok, Check.bind_eq_ok]
  refine and_congr_right fun _ => exists_congr fun r => and_congr_right fun _ => ?_
  obtain ⟨serverNonce, sessionId⟩ := r
  have hlen : 1 ≤ sessionId.val.length ∧ sessionId.val.length ≤ 32 := by
    rw [sessionId.property]
    decide
  have htag : serverAuthV2TagChecked C secret ⟨clientNonce, serverNonce, sessionId.val,
      AUTH_V2_PROTOCOL_VERSION, selectedEpoch, maxFrameSize, maxConcurrentFlows, flags,
      rotationWindowSecs, channelBinding⟩ = .ok _ :=
    Mac.serverAuthV2TagChecked_eq_ok.mpr ⟨hlen, rfl⟩
  simp only [htag, pure, Except.pure, bind, Except.bind, Except.ok.injEq]
  exact eq_comm

theorem verify_iff :
    h.verify C secret clientNonce channelBinding = true ↔
      ∃ binding, selectedChannelBinding h.featureFlagsSelected channelBinding = some binding ∧
        serverAuthV2TagChecked C secret (h.transcript clientNonce binding) =
          .ok h.serverAuthTag := by
  unfold verify
  cases selectedChannelBinding h.featureFlagsSelected channelBinding with
  | none => simp
  | some binding =>
    simp only [Option.some.injEq, exists_eq_left']
    cases serverAuthV2TagChecked C secret (h.transcript clientNonce binding) <;>
      simp [Subtype.ext_iff]

theorem encode_of_length (hsid : 0 < h.sessionId.length ∧ h.sessionId.length ≤ 32) :
    h.encode = .ok h.bytes := by
  rw [encode, if_neg]
  rw [List.isEmpty_iff, ← List.length_eq_zero_iff]
  omega

theorem encode_eq_ok {payload : Bytes} (hok : h.encode = .ok payload) : payload = h.bytes := by
  unfold encode at hok
  split at hok <;> cases hok
  rfl

theorem eq_of_transcript {h' : ServerHelloV2} {nonce nonce' : Block 32}
    {binding binding' : Option TlsChannelBinding} (htag : h.serverAuthTag = h'.serverAuthTag)
    (ht : h.transcript nonce binding = h'.transcript nonce' binding') :
    h = h' ∧ nonce = nonce' ∧ binding = binding' := by
  cases h
  cases h'
  simp_all [transcript]

end ServerHelloV2

end Maverick
