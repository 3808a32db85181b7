import Maverick.Core.Config
import Maverick.Lib.Wire

/-!
# Authentication transcripts

The byte strings that `maverick_core::auth` feeds to HMAC: one layout for each
of the four hello messages (client and server, version 1 and 2).  Every layout
starts with its own label and concatenates fixed-width fields, length-prefixed
fields and, at the end, an optional TLS channel binding.

* `Transcript.bytes` — the four builders.
* `transcripts_unambiguous` — within the length limits that configuration and
  decoders guarantee, the bytes determine the builder and every field.
-/

namespace Maverick

open Lib

/-- `TlsChannelBinding`: 32 bytes exported from the TLS session. -/
abbrev TlsChannelBinding := Block 32

/-- `[u8; 32]` -/
abbrev AuthTag := Block 32

def PROTOCOL_VERSION : UInt16 := 1
def AUTH_V2_PROTOCOL_VERSION : UInt16 := 2
def CLIENT_HELLO_AUTH_LABEL : Bytes := utf8 "Maverick v1 client hello"
def SERVER_HELLO_AUTH_LABEL : Bytes := utf8 "Maverick v1 server hello"
def CLIENT_HELLO_V2_AUTH_LABEL : Bytes := utf8 "Maverick v2 client hello"
def SERVER_HELLO_V2_AUTH_LABEL : Bytes := utf8 "Maverick v2 server hello"
def FEATURE_TLS_CHANNEL_BINDING : UInt64 := (1 : UInt64) <<< 63
def TLS_CHANNEL_BINDING_EXPORTER_LABEL : Bytes := utf8 "maverick tls channel binding v1"

/-- `update_channel_binding`: nothing, or the exporter label and the binding. -/
def bindingBytes : Option TlsChannelBinding → Bytes
  | none => []
  | some binding => TLS_CHANNEL_BINDING_EXPORTER_LABEL ++ binding.val

structure ClientAuthTranscript where
  version : UInt16
  nonce : Block 32
  timestamp : Int64
  credentialId : String
  tunnelPath : String
  mode : Mode
  featureFlags : UInt64
  channelBinding : Option TlsChannelBinding
  deriving DecidableEq

/-- The input of `client_auth_tag`. -/
def ClientAuthTranscript.bytes (t : ClientAuthTranscript) : Bytes :=
  CLIENT_HELLO_AUTH_LABEL ++ (putU16 t.version ++ (t.nonce.val ++ (putI64 t.timestamp ++
    (prefixed 2 (utf8 t.credentialId) ++ (prefixed 2 (utf8 t.tunnelPath) ++
      (putU8 t.mode.wireId ++ (putU64 t.featureFlags ++ bindingBytes t.channelBinding)))))))

structure ServerAuthTranscript where
  clientNonce : Block 32
  serverNonce : Block 32
  sessionId : Bytes
  protocolVersionSelected : UInt16
  maxFrameSize : UInt32
  maxConcurrentFlows : UInt32
  featureFlagsSelected : UInt64
  channelBinding : Option TlsChannelBinding
  deriving DecidableEq

/-- The input of `server_auth_tag`. -/
def ServerAuthTranscript.bytes (t : ServerAuthTranscript) : Bytes :=
  SERVER_HELLO_AUTH_LABEL ++ (t.clientNonce.val ++ (t.serverNonce.val ++
    (prefixed 1 t.sessionId ++ (putU16 t.protocolVersionSelected ++ (putU32 t.maxFrameSize ++
      (putU32 t.maxConcurrentFlows ++ (putU64 t.featureFlagsSelected ++
        bindingBytes t.channelBinding)))))))

structure ClientAuthV2Transcript where
  version : UInt16
  authEpoch : UInt64
  nonce : Block 32
  timestamp : Int64
  credentialHint : Bytes
  tunnelPath : String
  mode : Mode
  featureFlags : UInt64
  rotationFlags : UInt32
  channelBinding : Option TlsChannelBinding
  deriving DecidableEq

/-- The input of `client_auth_v2_tag`. -/
def ClientAuthV2Transcript.bytes (t : ClientAuthV2Transcript) : Bytes :=
  CLIENT_HELLO_V2_AUTH_LABEL ++ (putU16 t.version ++ (putU64 t.authEpoch ++ (t.nonce.val ++
    (putI64 t.timestamp ++ (prefixed 2 t.credentialHint ++ (prefixed 2 (utf8 t.tunnelPath) ++
      (putU8 t.mode.wireId ++ (putU64 t.featureFlags ++ (putU32 t.rotationFlags ++
        bindingBytes t.channelBinding)))))))))

structure ServerAuthV2Transcript where
  clientNonce : Block 32
  serverNonce : Block 32
  sessionId : Bytes
  protocolVersionSelected : UInt16
  selectedEpoch : UInt64
  maxFrameSize : UInt32
  maxConcurrentFlows : UInt32
  featureFlagsSelected : UInt64
  rotationWindowSecs : UInt32
  channelBinding : Option TlsChannelBinding
  deriving DecidableEq

/-- The input of `server_auth_v2_tag`. -/
def ServerAuthV2Transcript.bytes (t : ServerAuthV2Transcript) : Bytes :=
  SERVER_HELLO_V2_AUTH_LABEL ++ (t.clientNonce.val ++ (t.serverNonce.val ++
    (prefixed 1 t.sessionId ++ (putU16 t.protocolVersionSelected ++ (putU64 t.selectedEpoch ++
      (putU32 t.maxFrameSize ++ (putU32 t.maxConcurrentFlows ++ (putU64 t.featureFlagsSelected ++
        (putU32 t.rotationWindowSecs ++ bindingBytes t.channelBinding)))))))))

/-- The four transcript builders. -/
inductive Builder where
  | clientV1
  | serverV1
  | clientV2
  | serverV2
  deriving DecidableEq

/-- The label a builder starts its transcripts with. -/
def Builder.label : Builder → Bytes
  | clientV1 => CLIENT_HELLO_AUTH_LABEL
  | serverV1 => SERVER_HELLO_AUTH_LABEL
  | clientV2 => CLIENT_HELLO_V2_AUTH_LABEL
  | serverV2 => SERVER_HELLO_V2_AUTH_LABEL

/-- A transcript of any of the four builders. -/
inductive Transcript where
  | clientV1 (t : ClientAuthTranscript)
  | serverV1 (t : ServerAuthTranscript)
  | clientV2 (t : ClientAuthV2Transcript)
  | serverV2 (t : ServerAuthV2Transcript)
  deriving DecidableEq

namespace Transcript

/-- The bytes that are authenticated. -/
def bytes : Transcript → Bytes
  | clientV1 t => t.bytes
  | serverV1 t => t.bytes
  | clientV2 t => t.bytes
  | serverV2 t => t.bytes

/-- The builder a transcript comes from. -/
def builder : Transcript → Builder
  | clientV1 _ => .clientV1
  | serverV1 _ => .serverV1
  | clientV2 _ => .clientV2
  | serverV2 _ => .serverV2

/-- The length limits that configuration validation and the decoders guarantee:
string fields fit their 16-bit length prefix, session ids have 1 to 32 bytes. -/
def WithinLimits : Transcript → Prop
  | clientV1 t => (utf8 t.credentialId).length < 2 ^ 16 ∧ (utf8 t.tunnelPath).length < 2 ^ 16
  | serverV1 t => 1 ≤ t.sessionId.length ∧ t.sessionId.length ≤ 32
  | clientV2 t => t.credentialHint.length < 2 ^ 16 ∧ (utf8 t.tunnelPath).length < 2 ^ 16
  | serverV2 t => 1 ≤ t.sessionId.length ∧ t.sessionId.length ≤ 32

instance : DecidablePred WithinLimits
  | clientV1 _ => inferInstanceAs (Decidable (_ ∧ _))
  | serverV1 _ => inferInstanceAs (Decidable (_ ∧ _))
  | clientV2 _ => inferInstanceAs (Decidable (_ ∧ _))
  | serverV2 _ => inferInstanceAs (Decidable (_ ∧ _))

end Transcript

/-! ## Unambiguity -/

theorem peels_wireId : Peels fun mode : Mode => putU8 mode.wireId := by
  intro a b r s h
  obtain ⟨hid, hrest⟩ := peels_putU8 h
  exact ⟨Mode.wireId_injective hid, hrest⟩

/-- The optional binding ends a transcript, so its presence shows in the
length. -/
theorem bindingBytes_injective : Function.Injective bindingBytes := by
  intro a b h
  have hlen := congrArg List.length h
  cases a with
  | none =>
    cases b with
    | none => rfl
    | some y => simp [bindingBytes, y.property] at hlen
  | some x =>
    cases b with
    | none => simp [bindingBytes, x.property] at hlen
    | some y => rw [Subtype.ext (List.append_cancel_left h)]

theorem ClientAuthTranscript.bytes_inj {s t : ClientAuthTranscript}
    (hs : (Transcript.clientV1 s).WithinLimits) (ht : (Transcript.clientV1 t).WithinLimits)
    (h : s.bytes = t.bytes) : s = t := by
  obtain ⟨hversion, h⟩ := peels_putU16 (List.append_cancel_left h)
  obtain ⟨hnonce, h⟩ := peels_block h
  obtain ⟨htime, h⟩ := peels_putI64 h
  obtain ⟨hcred, h⟩ := peels_prefixed_utf8 2 hs.1 ht.1 h
  obtain ⟨hpath, h⟩ := peels_prefixed_utf8 2 hs.2 ht.2 h
  obtain ⟨hmode, h⟩ := peels_wireId h
  obtain ⟨hflags, h⟩ := peels_putU64 h
  have hbinding := bindingBytes_injective h
  cases s
  cases t
  simp_all

theorem ServerAuthTranscript.bytes_inj {s t : ServerAuthTranscript}
    (hs : (Transcript.serverV1 s).WithinLimits) (ht : (Transcript.serverV1 t).WithinLimits)
    (h : s.bytes = t.bytes) : s = t := by
  obtain ⟨hclient, h⟩ := peels_block (List.append_cancel_left h)
  obtain ⟨hserver, h⟩ := peels_block h
  obtain ⟨hsession, h⟩ := peels_prefixed 1 (lt_of_le_of_lt hs.2 (by decide))
    (lt_of_le_of_lt ht.2 (by decide)) h
  obtain ⟨hversion, h⟩ := peels_putU16 h
  obtain ⟨hframe, h⟩ := peels_putU32 h
  obtain ⟨hflows, h⟩ := peels_putU32 h
  obtain ⟨hflags, h⟩ := peels_putU64 h
  have hbinding := bindingBytes_injective h
  cases s
  cases t
  simp_all

theorem ClientAuthV2Transcript.bytes_inj {s t : ClientAuthV2Transcript}
    (hs : (Transcript.clientV2 s).WithinLimits) (ht : (Transcript.clientV2 t).WithinLimits)
    (h : s.bytes = t.bytes) : s = t := by
  obtain ⟨hversion, h⟩ := peels_putU16 (List.append_cancel_left h)
  obtain ⟨hepoch, h⟩ := peels_putU64 h
  obtain ⟨hnonce, h⟩ := peels_block h
  obtain ⟨htime, h⟩ := peels_putI64 h
  obtain ⟨hhint, h⟩ := peels_prefixed 2 hs.1 ht.1 h
  obtain ⟨hpath, h⟩ := peels_prefixed_utf8 2 hs.2 ht.2 h
  obtain ⟨hmode, h⟩ := peels_wireId h
  obtain ⟨hflags, h⟩ := peels_putU64 h
  obtain ⟨hrotation, h⟩ := peels_putU32 h
  have hbinding := bindingBytes_injective h
  cases s
  cases t
  simp_all

theorem ServerAuthV2Transcript.bytes_inj {s t : ServerAuthV2Transcript}
    (hs : (Transcript.serverV2 s).WithinLimits) (ht : (Transcript.serverV2 t).WithinLimits)
    (h : s.bytes = t.bytes) : s = t := by
  obtain ⟨hclient, h⟩ := peels_block (List.append_cancel_left h)
  obtain ⟨hserver, h⟩ := peels_block h
  obtain ⟨hsession, h⟩ := peels_prefixed 1 (lt_of_le_of_lt hs.2 (by decide))
    (lt_of_le_of_lt ht.2 (by decide)) h
  obtain ⟨hversion, h⟩ := peels_putU16 h
  obtain ⟨hepoch, h⟩ := peels_putU64 h
  obtain ⟨hframe, h⟩ := peels_putU32 h
  obtain ⟨hflows, h⟩ := peels_putU32 h
  obtain ⟨hflags, h⟩ := peels_putU64 h
  obtain ⟨hwindow, h⟩ := peels_putU32 h
  have hbinding := bindingBytes_injective h
  cases s
  cases t
  simp_all

theorem Builder.label_injective : Function.Injective label := by
  intro a b h
  cases a <;> cases b <;> first | rfl | exact absurd h (by decide)

namespace Transcript

/-- The four labels have the same length, so the label is the first 24 bytes
of every transcript. -/
theorem take_bytes (t : Transcript) : t.bytes.take 24 = t.builder.label := by
  cases t <;> exact List.take_left' (by decide)

theorem bytes_injective {s t : Transcript} (hs : s.WithinLimits) (ht : t.WithinLimits)
    (h : s.bytes = t.bytes) : s = t := by
  have hbuilder : s.builder = t.builder := by
    apply Builder.label_injective
    rw [← take_bytes, ← take_bytes, h]
  cases s with
  | clientV1 s =>
    cases t with
    | clientV1 t => rw [ClientAuthTranscript.bytes_inj hs ht h]
    | _ => cases hbuilder
  | serverV1 s =>
    cases t with
    | serverV1 t => rw [ServerAuthTranscript.bytes_inj hs ht h]
    | _ => cases hbuilder
  | clientV2 s =>
    cases t with
    | clientV2 t => rw [ClientAuthV2Transcript.bytes_inj hs ht h]
    | _ => cases hbuilder
  | serverV2 s =>
    cases t with
    | serverV2 t => rw [ServerAuthV2Transcript.bytes_inj hs ht h]
    | _ => cases hbuilder

end Transcript

/-- **Transcripts are unambiguous.**  Two transcripts have the same bytes only
if they come from the same builder with the same value in every field, the
channel binding and its presence included. -/
theorem transcripts_unambiguous (s t : Transcript) (hs : s.WithinLimits) (ht : t.WithinLimits) :
    s.bytes = t.bytes ↔ s = t :=
  ⟨Transcript.bytes_injective hs ht, fun h => by rw [h]⟩

/-- Two version 1 server hellos that differ in the presence of a binding. -/
theorem transcripts_unambiguous_binding :
    (Transcript.serverV1 ⟨⟨List.replicate 32 1, rfl⟩, ⟨List.replicate 32 2, rfl⟩, [7], 1, 65536, 64,
        FEATURE_TLS_CHANNEL_BINDING, some ⟨List.replicate 32 3, rfl⟩⟩).bytes ≠
      (Transcript.serverV1 ⟨⟨List.replicate 32 1, rfl⟩, ⟨List.replicate 32 2, rfl⟩, [7], 1, 65536, 64,
        FEATURE_TLS_CHANNEL_BINDING, none⟩).bytes := by
  intro h
  have hsame := (transcripts_unambiguous _ _ (by decide) (by decide)).mp h
  exact absurd hsame (by decide)

end Maverick
