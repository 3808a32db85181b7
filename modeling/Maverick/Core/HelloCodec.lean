import Maverick.Core.Hello

/-!
# The hello codecs are canonical

Field after field can be peeled off the front of a hello, so a hello has one encoding,
and no encoding is the beginning of another one.

* `ClientHello.peels_encode` and its siblings — two hellos in front of two rests.
* `hello_codecs_canonical` — round trip and canonicity of all four codecs.
-/

namespace Maverick

open Lib

/-! ## Limits -/

/-- A credential id within its limit. -/
def ClientHello.WithinLimits (h : ClientHello) : Prop :=
  (utf8 h.credentialId).length ≤ AUTH_V1_MAX_CREDENTIAL_ID_LEN

/-- A session id of 1 to 32 bytes. -/
def ServerHello.WithinLimits (h : ServerHello) : Prop :=
  0 < h.sessionId.length ∧ h.sessionId.length ≤ 32

/-- A credential hint that is not empty and within its limit. -/
def ClientHelloV2.WithinLimits (h : ClientHelloV2) : Prop :=
  0 < h.credentialHint.length ∧ h.credentialHint.length ≤ AUTH_V2_MAX_CREDENTIAL_HINT_LEN

def ServerHelloV2.WithinLimits (h : ServerHelloV2) : Prop :=
  0 < h.sessionId.length ∧ h.sessionId.length ≤ 32

/-! ## Peeling -/

/-- Any id that fits its length prefix, also one beyond the limit of the decoder. -/
theorem ClientHello.peels_encode :
    PeelsOn (fun h => (utf8 h.credentialId).length < 256 ^ 2) ClientHello.encode := by
  intro a b r s ha hb h
  simp only [encode, List.append_assoc] at h
  obtain ⟨hversion, h⟩ := peels_putU16 h
  obtain ⟨hnonce, h⟩ := peels_block h
  obtain ⟨htime, h⟩ := peels_putI64 h
  obtain ⟨hcred, h⟩ := peels_prefixed_utf8 2 ha hb h
  obtain ⟨hmode, h⟩ := peels_wireId h
  obtain ⟨hflags, h⟩ := peels_putU64 h
  obtain ⟨htag, hrest⟩ := peels_block h
  refine ⟨?_, hrest⟩
  cases a
  cases b
  simp_all

theorem ServerHello.peels_encode : PeelsOn ServerHello.WithinLimits ServerHello.encode := by
  intro a b r s ha hb h
  have hmax : 32 < 256 ^ 1 := by decide
  simp only [encode, List.append_assoc] at h
  obtain ⟨hversion, h⟩ := peels_putU16 h
  obtain ⟨hnonce, h⟩ := peels_block h
  obtain ⟨hsession, h⟩ := peels_prefixed 1 (lt_of_le_of_lt ha.2 hmax) (lt_of_le_of_lt hb.2 hmax) h
  obtain ⟨hframe, h⟩ := peels_putU32 h
  obtain ⟨hflows, h⟩ := peels_putU32 h
  obtain ⟨hflags, h⟩ := peels_putU64 h
  obtain ⟨htag, hrest⟩ := peels_block h
  refine ⟨?_, hrest⟩
  cases a
  cases b
  simp_all

theorem ClientHelloV2.peels_bytes : PeelsOn ClientHelloV2.WithinLimits ClientHelloV2.bytes := by
  intro a b r s ha hb h
  have hmax : AUTH_V2_MAX_CREDENTIAL_HINT_LEN < 256 ^ 2 := by decide
  simp only [bytes, List.append_assoc] at h
  obtain ⟨hversion, h⟩ := peels_putU16 h
  obtain ⟨hepoch, h⟩ := peels_putU64 h
  obtain ⟨hnonce, h⟩ := peels_block h
  obtain ⟨htime, h⟩ := peels_putI64 h
  obtain ⟨hhint, h⟩ := peels_prefixed 2 (lt_of_le_of_lt ha.2 hmax) (lt_of_le_of_lt hb.2 hmax) h
  obtain ⟨hmode, h⟩ := peels_wireId h
  obtain ⟨hflags, h⟩ := peels_putU64 h
  obtain ⟨hrotation, h⟩ := peels_putU32 h
  obtain ⟨htag, hrest⟩ := peels_block h
  refine ⟨?_, hrest⟩
  cases a
  cases b
  simp_all

theorem ServerHelloV2.peels_bytes : PeelsOn ServerHelloV2.WithinLimits ServerHelloV2.bytes := by
  intro a b r s ha hb h
  have hmax : 32 < 256 ^ 1 := by decide
  simp only [bytes, List.append_assoc] at h
  obtain ⟨hversion, h⟩ := peels_putU16 h
  obtain ⟨hepoch, h⟩ := peels_putU64 h
  obtain ⟨hnonce, h⟩ := peels_block h
  obtain ⟨hsession, h⟩ := peels_prefixed 1 (lt_of_le_of_lt ha.2 hmax) (lt_of_le_of_lt hb.2 hmax) h
  obtain ⟨hframe, h⟩ := peels_putU32 h
  obtain ⟨hflows, h⟩ := peels_putU32 h
  obtain ⟨hflags, h⟩ := peels_putU64 h
  obtain ⟨hwindow, h⟩ := peels_putU32 h
  obtain ⟨htag, hrest⟩ := peels_block h
  refine ⟨?_, hrest⟩
  cases a
  cases b
  simp_all

/-! ## Canonicity -/

theorem validateCredentialHint_of_length {hint : Bytes}
    (h : 0 < hint.length ∧ hint.length ≤ AUTH_V2_MAX_CREDENTIAL_HINT_LEN) :
    validateCredentialHint hint = .ok () := by
  unfold validateCredentialHint
  rw [if_neg, if_neg (not_lt.mpr h.2)]
  rw [List.isEmpty_iff, ← List.length_eq_zero_iff]
  omega

/-- **All four hello codecs are canonical**: they accept the encodings of the hellos within
their limits, and nothing else. -/
theorem hello_codecs_canonical :
    Canonical ClientHello.WithinLimits (fun h => .ok h.encode) ClientHello.decode ∧
      Canonical ServerHello.WithinLimits (fun h => .ok h.encode) ServerHello.decode ∧
      Canonical ClientHelloV2.WithinLimits ClientHelloV2.encode ClientHelloV2.decode ∧
      Canonical ServerHelloV2.WithinLimits ServerHelloV2.encode ServerHelloV2.decode := by
  refine ⟨?_, ?_, ?_, ?_⟩
  · have hmax : AUTH_V1_MAX_CREDENTIAL_ID_LEN < 256 ^ 2 := by decide
    exact canonical_of_bytes (fun _ _ => ClientHello.decode_eq_ok) (fun _ _ => rfl)
      fun ha hb => ClientHello.peels_encode (lt_of_le_of_lt ha hmax) (lt_of_le_of_lt hb hmax)
  · exact canonical_of_bytes (fun _ _ => ServerHello.decode_eq_ok) (fun _ _ => rfl)
      ServerHello.peels_encode
  · refine canonical_of_bytes (fun _ _ => ClientHelloV2.decode_eq_ok) (fun h hlimits => ?_)
      ClientHelloV2.peels_bytes
    exact ClientHelloV2.encode_of_valid (validateCredentialHint_of_length hlimits)
  · exact canonical_of_bytes (fun _ _ => ServerHelloV2.decode_eq_ok)
      (fun _ hlimits => ServerHelloV2.encode_of_length hlimits) ServerHelloV2.peels_bytes

end Maverick
