import Maverick.Lib.Bytes

/-!
# The Noise prologue

`NoisePrologueContext::canonical_prologue`: what both ends of a Noise handshake mix into it
before the first message.  A handshake of two ends with different prologues fails, so that
the prologue has to tell the contexts apart.

* `encode_inj` — a list of fields is read back from its encoding.
* `prologue_binds_context` — equal prologues come from equal contexts.
-/

namespace Maverick

open Lib

inductive CryptoSuiteId where
  | tls13
  | hpkeConfigV1
  | noiseXx25519ChaChaPolyV1
  | mlKem768HybridV1
  deriving DecidableEq

/-- `CryptoSuiteId::as_str` -/
def CryptoSuiteId.asStr : CryptoSuiteId → String
  | tls13 => "tls13"
  | hpkeConfigV1 => "hpke_config_v1"
  | noiseXx25519ChaChaPolyV1 => "noise_xx25519_chacha_poly_v1"
  | mlKem768HybridV1 => "ml_kem_768_hybrid_v1"

inductive NoiseTransportContext where
  | h2
  | h3
  | cloudflareWs
  | nativeNoDomainResearch
  deriving DecidableEq

/-- `NoiseTransportContext::as_str` -/
def NoiseTransportContext.asStr : NoiseTransportContext → String
  | h2 => "h2"
  | h3 => "h3"
  | cloudflareWs => "cloudflare_ws"
  | nativeNoDomainResearch => "native_no_domain_research"

theorem CryptoSuiteId.asStr_inj {a b : CryptoSuiteId} (h : a.asStr = b.asStr) : a = b := by
  cases a <;> cases b <;> first | rfl | exact absurd h (by decide)

theorem NoiseTransportContext.asStr_inj {a b : NoiseTransportContext} (h : a.asStr = b.asStr) :
    a = b := by
  cases a <;> cases b <;> first | rfl | exact absurd h (by decide)

structure NoisePrologueContext where
  suite : CryptoSuiteId
  noiseName : String
  maverickProtocol : String
  maverickProtocolVersion : UInt16
  initiatorRole : String
  responderRole : String
  transportContext : NoiseTransportContext
  purpose : String
  deriving DecidableEq

namespace NoisePrologueContext

/-- `NoisePrologueContext::xx25519_chachapoly_v1` -/
def xx25519ChachapolyV1 (transportContext : NoiseTransportContext) : NoisePrologueContext where
  suite := .noiseXx25519ChaChaPolyV1
  noiseName := "Noise_XX_25519_ChaChaPoly_SHA256"
  maverickProtocol := "maverick-proxy"
  maverickProtocolVersion := 1
  initiatorRole := "maverick-client"
  responderRole := "maverick-server"
  transportContext := transportContext
  purpose := "experimental-research-runtime"

/-- `encode_prologue_field`; `none` is the panic at a text that is too long for its length. -/
def encodePrologueField (name value : String) : Option Bytes :=
  if (utf8 name).length < 65536 ∧ (utf8 value).length < 65536 then
    some (prefixed 2 (utf8 name) ++ prefixed 2 (utf8 value))
  else none

/-- The fields, one behind the other. -/
def encode : List (String × String) → Option Bytes
  | [] => some []
  | field :: fields => do
    let first ← encodePrologueField field.1 field.2
    let rest ← encode fields
    return first ++ rest

def fields (c : NoisePrologueContext) : List (String × String) :=
  [("encoding", "length-prefixed-fields-v1"), ("suite", c.suite.asStr),
    ("noise_name", c.noiseName), ("maverick_protocol", c.maverickProtocol),
    ("maverick_protocol_version", toString c.maverickProtocolVersion.toNat),
    ("initiator_role", c.initiatorRole), ("responder_role", c.responderRole),
    ("transport_context", c.transportContext.asStr), ("purpose", c.purpose)]

/-- `NoisePrologueContext::canonical_prologue` -/
def canonicalPrologue (c : NoisePrologueContext) : Option Bytes :=
  (encode c.fields).map (utf8 "MaverickNoisePrologue" ++ ·)

theorem toString_inj {m n : Nat} (h : toString m = toString n) : m = n := by
  rw [Nat.toString_eq_repr, Nat.toString_eq_repr, Nat.repr_eq_ofList_toDigits,
    Nat.repr_eq_ofList_toDigits, String.ofList_inj] at h
  have hsame := congrArg (Nat.ofDigitChars 10 · 0) h
  simpa only [Nat.ofDigitChars_ten_toDigits] using hsame

theorem encodePrologueField_append_inj {name value name' value' : String} {first first' r s : Bytes}
    (h : encodePrologueField name value = some first)
    (h' : encodePrologueField name' value' = some first') (heq : first ++ r = first' ++ s) :
    (name = name' ∧ value = value') ∧ r = s := by
  obtain ⟨⟨hname, hvalue⟩, ⟨⟩⟩ := Option.ite_none_right_eq_some.mp h
  obtain ⟨⟨hname', hvalue'⟩, ⟨⟩⟩ := Option.ite_none_right_eq_some.mp h'
  rw [List.append_assoc, List.append_assoc] at heq
  obtain ⟨hnames, heq⟩ := prefixed_append_inj hname hname' heq
  obtain ⟨hvalues, heq⟩ := prefixed_append_inj hvalue hvalue' heq
  exact ⟨⟨utf8_inj hnames, utf8_inj hvalues⟩, heq⟩

/-- Lists of equally many fields with one encoding are the same list. -/
theorem encode_inj {l l' : List (String × String)} {bytes : Bytes} (hlength : l.length = l'.length)
    (h : encode l = some bytes) (h' : encode l' = some bytes) : l = l' := by
  induction l generalizing l' bytes with
  | nil => exact (List.length_eq_zero_iff.mp hlength.symm).symm
  | cons field l ih =>
    cases l' with
    | nil => cases hlength
    | cons field' l' =>
      simp only [encode, Option.bind_eq_bind, Option.bind_eq_some_iff, Option.pure_def] at h h'
      obtain ⟨first, hfirst, rest, hrest, ⟨⟩⟩ := h
      obtain ⟨first', hfirst', rest', hrest', heq⟩ := h'
      obtain ⟨hfields, rfl⟩ :=
        encodePrologueField_append_inj hfirst' hfirst (Option.some.inj heq)
      rw [ih (Nat.succ.inj hlength) hrest hrest', Prod.ext hfields.1 hfields.2]

/-- **The prologue determines the context**: the suite, the transport, both roles and all
the rest. -/
theorem prologue_binds_context {c c' : NoisePrologueContext} {prologue : Bytes}
    (h : c.canonicalPrologue = some prologue) (h' : c'.canonicalPrologue = some prologue) :
    c = c' := by
  obtain ⟨bytes, hbytes, rfl⟩ := Option.map_eq_some_iff.mp h
  obtain ⟨bytes', hbytes', heq⟩ := Option.map_eq_some_iff.mp h'
  cases List.append_cancel_left heq
  have hfields : c.fields = c'.fields := encode_inj rfl hbytes hbytes'
  cases c
  cases c'
  simp only [fields, List.cons.injEq, Prod.mk.injEq, true_and, and_true] at hfields
  obtain ⟨hsuite, rfl, rfl, hversion, rfl, rfl, htransport, rfl⟩ := hfields
  cases CryptoSuiteId.asStr_inj hsuite
  cases NoiseTransportContext.asStr_inj htransport
  cases UInt16.toNat_inj.mp (toString_inj hversion)
  rfl

/-- The ends of a handshake over HTTP/2 and over HTTP/3 have prologues, and different ones. -/
theorem prologue_binds_context_transports :
    (canonicalPrologue (xx25519ChachapolyV1 .h2)).isSome ∧
      canonicalPrologue (xx25519ChachapolyV1 .h2) ≠ canonicalPrologue (xx25519ChachapolyV1 .h3) := by
  have hsome : (canonicalPrologue (xx25519ChachapolyV1 .h2)).isSome := by decide +kernel
  obtain ⟨prologue, hprologue⟩ := Option.isSome_iff_exists.mp hsome
  refine ⟨hsome, fun heq => ?_⟩
  have hsame := prologue_binds_context hprologue (heq ▸ hprologue)
  exact absurd hsame (by decide)

end NoisePrologueContext
end Maverick
