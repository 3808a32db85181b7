import Maverick.Core.Frame

/-!
# Payloads that name a target

The payloads of OpenTcp, UdpPacket, OpenUdp and Error frames.  A target is written as a type
byte and its address, a domain behind its length; the local SOCKS front end uses the
same layout with a shorter length field, so reader and writer of a target take the width
of that field and the errors of the format.

* `readAddress_eq_ok` — a target is read exactly from its own bytes.
* `OpenTcpPayload.decode_eq_ok` — what is accepted is what would be written.
* `OpenTcpPayload.canonical`, `UdpPacketPayload.canonical` — both codecs are canonical.
-/

namespace Maverick

open Lib
open Lib.Reader

/-! ## Octets -/

def Ipv4Addr.octets (ip : Ipv4Addr) : Bytes := [ip.first, ip.second, ip.third, ip.fourth]

/-- `Ipv4Addr::from([u8; 4])` -/
def Ipv4Addr.ofOctets (octets : Block 4) : Ipv4Addr :=
  ⟨octets.val.getD 0 0, octets.val.getD 1 0, octets.val.getD 2 0, octets.val.getD 3 0⟩

def Ipv6Addr.octets (ip : Ipv6Addr) : Bytes := ip.toList

/-- `Ipv6Addr::from([u8; 16])` -/
def Ipv6Addr.ofOctets (octets : Block 16) : Ipv6Addr :=
  ⟨octets.val.toArray, by rw [List.size_toArray, octets.property]⟩

@[simp] theorem Ipv4Addr.length_octets (ip : Ipv4Addr) : ip.octets.length = 4 := rfl

@[simp] theorem Ipv6Addr.length_octets (ip : Ipv6Addr) : (Ipv6Addr.octets ip).length = 16 := by
  simp [Ipv6Addr.octets]

theorem Ipv4Addr.ofOctets_eq_iff {octets : Block 4} {ip : Ipv4Addr} :
    ofOctets octets = ip ↔ octets.val = ip.octets := by
  obtain ⟨bs, hbs⟩ := octets
  match bs, hbs with
  | [a, b, c, d], _ =>
    obtain ⟨first, second, third, fourth⟩ := ip
    simp [ofOctets, Ipv4Addr.octets]

theorem Ipv6Addr.ofOctets_eq_iff {octets : Block 16} {ip : Ipv6Addr} :
    ofOctets octets = ip ↔ octets.val = Ipv6Addr.octets ip := by
  obtain ⟨bs, hbs⟩ := octets
  constructor
  · rintro rfl
    simp [ofOctets, Ipv6Addr.octets]
  intro h
  apply Vector.toList_inj.mp
  simpa [ofOctets, Ipv6Addr.octets] using h

/-! ## Targets -/

namespace TargetAddr

/-- The type byte. -/
def code : TargetAddr → UInt8
  | ipv4 _ => 0x01
  | domain _ => 0x03
  | ipv6 _ => 0x04

/-- The address behind the type byte, for a length field of this width. -/
def address (width : Nat) : TargetAddr → Bytes
  | ipv4 ip => ip.octets
  | domain host => prefixed width (utf8 host)
  | ipv6 ip => Ipv6Addr.octets ip

/-- A target with its type byte. -/
def bytes (width : Nat) (target : TargetAddr) : Bytes := putU8 target.code ++ target.address width

/-- The limits of a format: a domain is not empty and its length fits its field. -/
def WithinLimits (width : Nat) : TargetAddr → Prop
  | domain host => 0 < (utf8 host).length ∧ (utf8 host).length < 256 ^ width
  | _ => True

variable {width : Nat} {target : TargetAddr}

/-- The longer the length field, the wider the limits. -/
theorem WithinLimits.mono {width' : Nat} (hle : width ≤ width') (h : target.WithinLimits width) :
    target.WithinLimits width' := by
  cases target with
  | domain host => exact ⟨h.1, lt_of_lt_of_le h.2 (Nat.pow_le_pow_right (by decide) hle)⟩
  | _ => trivial

/-- Writing a target; a domain that is too long is refused. -/
def encode {ε : Type} (width : Nat) (tooLong : ε) (target : TargetAddr) : Except ε Bytes :=
  match target with
  | domain host => if 256 ^ width ≤ (utf8 host).length then .error tooLong
      else .ok ((domain host).bytes width)
  | target => .ok (target.bytes width)

theorem encode_eq_ok {ε : Type} {tooLong : ε} (h : target.WithinLimits width) :
    target.encode width tooLong = .ok (target.bytes width) := by
  cases target with
  | domain host => exact if_neg (not_le.mpr h.2)
  | _ => rfl

end TargetAddr

/-- The errors of a format for targets. -/
structure TargetErrors (ε : Type) where
  shortIpv4 : ε
  noDomainLength : ε
  emptyDomain : ε
  shortDomain : ε
  notUtf8 : ε
  shortIpv6 : ε
  unknownType : ε

section Reading

variable {ε : Type} (width : Nat) (E : TargetErrors ε) (short : ε)

/-- The octets of an IPv4 address; here and below `short` is never the answer, since each
length is checked before. -/
def readIpv4 : Reader ε TargetAddr := do
  ensure (4 ≤ ·) E.shortIpv4
  let octets ← take short 4
  return .ipv4 (.ofOctets octets)

/-- A domain behind its length. -/
def readDomain : Reader ε TargetAddr := do
  ensure (width ≤ ·) E.noDomainLength
  let len ← word short width
  reject (len = 0) E.emptyDomain
  ensure (len ≤ ·) E.shortDomain
  let bytes ← take short len
  let host ← lift (match fromUtf8 bytes.val with
    | some host => .ok host
    | none => .error E.notUtf8)
  return .domain host

/-- The octets of an IPv6 address. -/
def readIpv6 : Reader ε TargetAddr := do
  ensure (16 ≤ ·) E.shortIpv6
  let octets ← take short 16
  return .ipv6 (Ipv6Addr.ofOctets octets)

/-- The address behind a type byte. -/
def readAddress (code : UInt8) : Reader ε TargetAddr :=
  if code = 0x01 then readIpv4 E short
  else if code = 0x03 then readDomain width E short
  else if code = 0x04 then readIpv6 E short
  else lift (.error E.unknownType)

variable {width E short} {target : TargetAddr} {buf rest : Bytes}

theorem readIpv4_eq_ok :
    (readIpv4 E short).run buf = .ok (target, rest) ↔
      ∃ ip : Ipv4Addr, target = .ipv4 ip ∧ buf = ip.octets ++ rest := by
  unfold readIpv4
  simp only [bind_eq_ok, ensure_eq_ok, take_eq_ok, pure_eq_ok]
  constructor
  · rintro ⟨-, _, ⟨-, rfl⟩, octets, _, rfl, rfl, rfl⟩
    exact ⟨_, rfl, by rw [← Ipv4Addr.ofOctets_eq_iff.mp rfl]⟩
  rintro ⟨ip, rfl, rfl⟩
  refine ⟨(), _, ⟨by simp, rfl⟩, ⟨ip.octets, rfl⟩, _, rfl, ?_, rfl⟩
  rw [Ipv4Addr.ofOctets_eq_iff.mpr rfl]

theorem readDomain_eq_ok :
    (readDomain width E short).run buf = .ok (target, rest) ↔
      ∃ host, target = .domain host ∧ (TargetAddr.domain host).WithinLimits width ∧
        buf = prefixed width (utf8 host) ++ rest := by
  unfold readDomain
  simp only [bind_eq_ok, ensure_eq_ok, word_eq_ok, reject_eq_ok, take_eq_ok, lift_eq_ok, pure_eq_ok]
  constructor
  · rintro ⟨-, _, ⟨-, rfl⟩, len, _, ⟨hlt, rfl⟩, -, _, ⟨hzero, rfl⟩, -, _, ⟨-, rfl⟩, bytes, _, rfl,
      host, _, ⟨hhost, rfl⟩, rfl, rfl⟩
    have hutf8 : utf8 host = bytes.val := by
      cases hb : fromUtf8 bytes.val with
      | none => rw [hb] at hhost; cases hhost
      | some _ => rw [hb] at hhost; cases hhost; exact utf8_of_fromUtf8 hb
    refine ⟨host, rfl, ⟨?_, ?_⟩, ?_⟩
    · rw [hutf8, bytes.property]
      exact Nat.pos_of_ne_zero hzero
    · rwa [hutf8, bytes.property]
    · rw [hutf8, prefixed, bytes.property, List.append_assoc]
  · rintro ⟨host, rfl, ⟨hpos, hlt⟩, rfl⟩
    have hnonzero : ¬ (utf8 host).length = 0 := by omega
    refine ⟨(), _, ⟨by simp; omega, rfl⟩, (utf8 host).length, utf8 host ++ rest,
      ⟨hlt, by rw [prefixed, List.append_assoc]⟩, (), _, ⟨hnonzero, rfl⟩, (), _, ⟨by simp, rfl⟩,
      ⟨utf8 host, rfl⟩, _, rfl, host, _, ⟨by simp, rfl⟩, rfl, rfl⟩

theorem readIpv6_eq_ok :
    (readIpv6 E short).run buf = .ok (target, rest) ↔
      ∃ ip : Ipv6Addr, target = .ipv6 ip ∧ buf = Ipv6Addr.octets ip ++ rest := by
  unfold readIpv6
  simp only [bind_eq_ok, ensure_eq_ok, take_eq_ok, pure_eq_ok]
  constructor
  · rintro ⟨-, _, ⟨-, rfl⟩, octets, _, rfl, rfl, rfl⟩
    exact ⟨_, rfl, by rw [← Ipv6Addr.ofOctets_eq_iff.mp rfl]⟩
  rintro ⟨ip, rfl, rfl⟩
  refine ⟨(), _, ⟨by simp, rfl⟩, ⟨Ipv6Addr.octets ip, by simp⟩, _, rfl, ?_, rfl⟩
  rw [Ipv6Addr.ofOctets_eq_iff.mpr rfl]

/-- **A target is read exactly from its own bytes.** -/
theorem readAddress_eq_ok {code : UInt8} :
    (readAddress width E short code).run buf = .ok (target, rest) ↔
      target.WithinLimits width ∧ code = target.code ∧ buf = target.address width ++ rest := by
  constructor
  · intro h
    unfold readAddress at h
    split at h
    · next hcode =>
        obtain ⟨ip, rfl, rfl⟩ := readIpv4_eq_ok.mp h
        exact ⟨trivial, hcode, rfl⟩
    split at h
    · next hcode =>
        obtain ⟨host, rfl, hlimits, rfl⟩ := readDomain_eq_ok.mp h
        exact ⟨hlimits, hcode, rfl⟩
    split at h
    · next hcode =>
        obtain ⟨ip, rfl, rfl⟩ := readIpv6_eq_ok.mp h
        exact ⟨trivial, hcode, rfl⟩
    · cases (lift_eq_ok.mp h).1
  · rintro ⟨hlimits, rfl, rfl⟩
    cases target with
    | ipv4 ip => exact readIpv4_eq_ok.mpr ⟨ip, rfl, rfl⟩
    | domain host => exact readDomain_eq_ok.mpr ⟨host, rfl, hlimits, rfl⟩
    | ipv6 ip => exact readIpv6_eq_ok.mpr ⟨ip, rfl, rfl⟩

end Reading

/-- The field of a domain, or the octets of an address, can be peeled off. -/
theorem TargetAddr.peels_bytes (width : Nat) :
    PeelsOn (TargetAddr.WithinLimits width) (TargetAddr.bytes width) := by
  intro a b r s ha hb h
  simp only [bytes, List.append_assoc] at h
  obtain ⟨hcode, h⟩ := peels_putU8 h
  -- reading back what `a` has written gives `b`
  let E : TargetErrors Unit := ⟨(), (), (), (), (), (), ()⟩
  have hreada : (readAddress width E () a.code).run (a.address width ++ r) = .ok (a, r) :=
    readAddress_eq_ok.mpr ⟨ha, rfl, rfl⟩
  have hreadb : (readAddress width E () a.code).run (a.address width ++ r) = .ok (b, s) :=
    readAddress_eq_ok.mpr ⟨hb, hcode, h⟩
  rw [hreada] at hreadb
  simpa using hreadb

/-! ## OpenTcp -/

structure OpenTcpPayload where
  target : TargetAddr
  port : UInt16
  initialData : Bytes
  deriving DecidableEq

/-- The errors of the payload codec. -/
def payloadErrors : TargetErrors Error where
  shortIpv4 := .malformedFrame "truncated ipv4 address"
  noDomainLength := .malformedFrame "missing domain length"
  emptyDomain := .malformedFrame "truncated domain"
  shortDomain := .malformedFrame "truncated domain"
  notUtf8 := .malformedFrame "domain is not utf-8"
  shortIpv6 := .malformedFrame "truncated ipv6 address"
  unknownType := .malformedFrame "unknown address type"

namespace OpenTcpPayload

/-- `OpenTcpPayload::new` -/
def new (target : TargetAddr) (port : UInt16) : OpenTcpPayload := ⟨target, port, []⟩

/-- `OpenTcpPayload::encode`; the length of the data is cut to 32 bits. -/
def encode (p : OpenTcpPayload) : Except Error Bytes := do
  let target ← p.target.encode 2 (.malformedFrame "domain too long")
  return target ++ (putU16 p.port ++ prefixed 4 p.initialData)

def read : Reader Error OpenTcpPayload := do
  ensure (1 ≤ ·) (.malformedFrame "missing address type")
  let code ← getU8 .panic
  let target ← readAddress 2 payloadErrors .panic code
  ensure (2 + 4 ≤ ·) (.malformedFrame "truncated open tcp payload")
  let port ← getU16 .panic
  let initialLen ← getU32 .panic
  ensure (initialLen.toNat ≤ ·) (.malformedFrame "truncated initial data")
  let initialData ← take .panic initialLen.toNat
  ensure (· = 0) (.malformedFrame "open tcp trailing bytes")
  return ⟨target, port, initialData.val⟩

/-- `OpenTcpPayload::decode` -/
def decode (input : Bytes) : Except Error OpenTcpPayload := (read.run input).map Prod.fst

/-- A target within the limits of the format, and data whose length fits its field. -/
def WithinLimits (p : OpenTcpPayload) : Prop :=
  p.target.WithinLimits 2 ∧ p.initialData.length < 2 ^ 32

/-- The layout of a payload within the limits. -/
def bytes (p : OpenTcpPayload) : Bytes :=
  p.target.bytes 2 ++ (putU16 p.port ++ prefixed 4 p.initialData)

variable {p : OpenTcpPayload}

theorem encode_eq_ok (h : p.WithinLimits) : p.encode = .ok p.bytes := by
  rw [encode, TargetAddr.encode_eq_ok h.1]
  rfl

/-- **What is accepted is what would be written.** -/
theorem decode_eq_ok {input : Bytes} : decode input = .ok p ↔ p.WithinLimits ∧ input = p.bytes := by
  rw [decode, map_fst_eq_ok]
  unfold read
  simp only [bind_eq_ok, ensure_eq_ok, getU8_eq_ok, readAddress_eq_ok, getU16_eq_ok, getU32_eq_ok,
    take_eq_ok, pure_eq_ok, decide_eq_true_eq]
  constructor
  · rintro ⟨_, -, _, ⟨-, rfl⟩, _, _, rfl, target, _, ⟨htarget, rfl, rfl⟩, -, _, ⟨-, rfl⟩, port, _,
      rfl, len, _, rfl, -, _, ⟨-, rfl⟩, data, _, rfl, -, _, ⟨hend, rfl⟩, rfl, rfl⟩
    rw [List.length_eq_zero_iff] at hend
    subst hend
    refine ⟨⟨htarget, ?_⟩, ?_⟩
    · show data.val.length < 2 ^ 32
      rw [data.property]
      exact len.toNat_lt
    · simp [bytes, TargetAddr.bytes, prefixed, putU32, data.property]
  · rintro ⟨⟨htarget, hdata⟩, rfl⟩
    have hlen : (UInt32.ofNat p.initialData.length).toNat = p.initialData.length :=
      UInt32.toNat_ofNat_of_lt' hdata
    refine ⟨[], (), _, ⟨by simp [bytes, TargetAddr.bytes], rfl⟩, p.target.code,
      p.target.address 2 ++ (putU16 p.port ++ prefixed 4 p.initialData),
      by simp [bytes, TargetAddr.bytes], p.target, _, ⟨htarget, rfl, rfl⟩, (), _,
      ⟨by simp; omega, rfl⟩, p.port, _, rfl, UInt32.ofNat p.initialData.length, p.initialData, ?_,
      (), _, ⟨by rw [hlen], rfl⟩, ⟨p.initialData, hlen.symm⟩, [], by simp, (), [], ⟨rfl, rfl⟩, rfl,
      rfl⟩
    rw [prefixed, putU32, hlen]

theorem peels_bytes : PeelsOn WithinLimits bytes := by
  intro a b r s ha hb h
  simp only [bytes, List.append_assoc] at h
  obtain ⟨htarget, h⟩ := TargetAddr.peels_bytes 2 ha.1 hb.1 h
  obtain ⟨hport, h⟩ := peels_putU16 h
  obtain ⟨hdata, hrest⟩ := peels_prefixed 4 ha.2 hb.2 h
  refine ⟨?_, hrest⟩
  cases a
  cases b
  simp_all

/-- **The OpenTcp codec is canonical.** -/
theorem canonical : Canonical WithinLimits encode decode :=
  canonical_of_bytes (fun _ _ => decode_eq_ok) (fun _ => encode_eq_ok) peels_bytes

theorem length_bytes_domain {host : String} {port : UInt16} {data : Bytes} :
    (bytes ⟨.domain host, port, data⟩).length = 9 + (utf8 host).length + data.length := by
  simp [bytes, TargetAddr.bytes, TargetAddr.address]
  omega

/-- A payload takes at most 23 bytes besides a domain and the data. -/
theorem length_bytes_le (p : OpenTcpPayload) {n : Nat} (hn : 14 ≤ n)
    (h : ∀ host, p.target = .domain host → (utf8 host).length ≤ n) :
    p.bytes.length ≤ 9 + n + p.initialData.length := by
  obtain ⟨target, port, data⟩ := p
  cases target with
  | domain host =>
    have hhost := h host rfl
    rw [length_bytes_domain]
    dsimp only
    omega
  | ipv4 ip | ipv6 ip =>
    simp [bytes, TargetAddr.bytes, TargetAddr.address]
    omega

end OpenTcpPayload

/-! ## UdpPacket -/

namespace UdpPacketPayload

/-- The payload with the same layout that `UdpPacketPayload` is encoded as. -/
def tcpLike (p : UdpPacketPayload) : OpenTcpPayload := ⟨p.target, p.port, p.data⟩

/-- `UdpPacketPayload::encode` -/
def encode (p : UdpPacketPayload) : Except Error Bytes := p.tcpLike.encode

/-- `UdpPacketPayload::decode` -/
def decode (input : Bytes) : Except Error UdpPacketPayload := do
  let decoded ← OpenTcpPayload.decode input
  return ⟨decoded.target, decoded.port, decoded.initialData⟩

def WithinLimits (p : UdpPacketPayload) : Prop := p.tcpLike.WithinLimits

def bytes (p : UdpPacketPayload) : Bytes := p.tcpLike.bytes

variable {p : UdpPacketPayload}

theorem encode_eq_ok (h : p.WithinLimits) : p.encode = .ok p.bytes :=
  OpenTcpPayload.encode_eq_ok h

theorem decode_eq_ok {input : Bytes} : decode input = .ok p ↔ p.WithinLimits ∧ input = p.bytes := by
  unfold decode
  rw [Check.bind_eq_ok]
  constructor
  · rintro ⟨decoded, hdecoded, hp⟩
    cases hp
    exact OpenTcpPayload.decode_eq_ok.mp hdecoded
  · intro h
    exact ⟨p.tcpLike, OpenTcpPayload.decode_eq_ok.mpr h, rfl⟩

theorem peels_bytes : PeelsOn WithinLimits bytes := by
  intro a b r s ha hb h
  obtain ⟨hsame, hrest⟩ := OpenTcpPayload.peels_bytes ha hb h
  refine ⟨?_, hrest⟩
  cases a
  cases b
  simp_all [tcpLike]

/-- **The UdpPacket codec is canonical.** -/
theorem canonical : Canonical WithinLimits encode decode :=
  canonical_of_bytes (fun _ _ => decode_eq_ok) (fun _ => encode_eq_ok) peels_bytes

end UdpPacketPayload

/-! ## OpenUdp -/

structure OpenUdpPayload where
  idleTimeoutMs : UInt64
  deriving DecidableEq

namespace OpenUdpPayload

/-- `OpenUdpPayload::encode` -/
def encode (p : OpenUdpPayload) : Bytes := putU64 p.idleTimeoutMs

def read : Reader Error OpenUdpPayload := do
  ensure (· = 8) (.malformedFrame "invalid open udp payload")
  let idleTimeoutMs ← getU64 .panic
  return ⟨idleTimeoutMs⟩

/-- `OpenUdpPayload::decode` -/
def decode (input : Bytes) : Except Error OpenUdpPayload := (read.run input).map Prod.fst

end OpenUdpPayload

/-! ## Errors -/

inductive ErrorCode where
  | targetConnectFailed
  | flowNotFound
  | flowLimitExceeded
  | protocolError
  | internalError
  deriving DecidableEq

namespace ErrorCode

/-- `code as u16` -/
def value : ErrorCode → UInt16
  | targetConnectFailed => 1
  | flowNotFound => 2
  | flowLimitExceeded => 3
  | protocolError => 4
  | internalError => 5

/-- `ErrorCode::encode` -/
def encode (code : ErrorCode) : Bytes := putU16 code.value

end ErrorCode

/-- `error_frame` -/
def errorFrame (flowId : UInt64) (code : ErrorCode) : Frame := ⟨.error, 0, flowId, code.encode⟩

end Maverick
