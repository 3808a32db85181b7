import Maverick.Core.Payload

/-!
# The SOCKS5 front end

`maverick_client::socks5`: the request of a local client, and the datagrams of a UDP
association in both directions.  What the local client sends is given as a whole; a read
past its end fails.

* `readRequest_eq_ok` — the byte streams from which a request is read.
* `decodeUdpRequest_eq_ok` — the datagrams that are accepted.
* `payload_codecs_bijective` — the payload codecs are inverse to each other, and a
  datagram goes through them unchanged.
-/

namespace Maverick
namespace Client

open Lib
open Lib.Reader

/-! ## Requests -/

inductive SocksCommand where
  | connect
  | udpAssociate
  deriving DecidableEq

structure SocksRequest where
  command : SocksCommand
  target : TargetAddr
  port : UInt16
  deriving DecidableEq

/-- A request that is not read: the error, and what the local client has been sent about
it. -/
structure SocksFailure where
  message : String
  reply : Bytes := []
  deriving DecidableEq

/-- The reply that `write_reply` sends. -/
def socksReply (code : UInt8) : Bytes := [0x05, code, 0x00, 0x01, 0, 0, 0, 0, 0, 0]

/-- The stream of the local client ends too early. -/
def earlyEof : SocksFailure := ⟨"early eof", []⟩

/-- The errors of the address in a request. -/
def requestErrors : TargetErrors SocksFailure where
  shortIpv4 := earlyEof
  noDomainLength := earlyEof
  emptyDomain := ⟨"empty domain", socksReply 0x04⟩
  shortDomain := earlyEof
  notUtf8 := ⟨"invalid domain", []⟩
  shortIpv6 := earlyEof
  unknownType := ⟨"unsupported address type", socksReply 0x08⟩

/-- The command of a request. -/
def requestCommand (command : UInt8) : Except SocksFailure SocksCommand :=
  if command = 0x01 then .ok .connect
  else if command = 0x03 then .ok .udpAssociate
  else .error ⟨"unsupported SOCKS command", socksReply 0x07⟩

/-- `read_request`; `selected` is how writing the selected method ends. -/
def readRequest (selected : Except SocksFailure Unit) : Reader SocksFailure SocksRequest := do
  let version ← getU8 earlyEof
  let methodCount ← getU8 earlyEof
  reject (version ≠ 0x05) ⟨"unsupported SOCKS version", []⟩
  let methods ← take earlyEof methodCount.toNat
  reject (0x00 ∉ methods.val) ⟨"SOCKS no-auth method not offered", [0x05, 0xFF]⟩
  lift selected
  let requestVersion ← getU8 earlyEof
  let commandCode ← getU8 earlyEof
  let reserved ← getU8 earlyEof
  let addressType ← getU8 earlyEof
  reject (requestVersion ≠ 0x05) ⟨"unsupported SOCKS request version", []⟩
  let command ← lift (requestCommand commandCode)
  reject (reserved ≠ 0x00) ⟨"malformed SOCKS request", socksReply 0x01⟩
  let target ← readAddress 1 requestErrors earlyEof addressType
  let port ← getU16 earlyEof
  return ⟨command, target, port⟩

/-- The code of a command. -/
def SocksCommand.code : SocksCommand → UInt8
  | connect => 0x01
  | udpAssociate => 0x03

theorem requestCommand_eq_ok {code : UInt8} {command : SocksCommand} :
    requestCommand code = .ok command ↔ code = command.code := by
  constructor
  · intro h
    unfold requestCommand at h
    split at h
    · next hcode => cases h; exact hcode
    split at h
    · next hcode => cases h; exact hcode
    · cases h
  · rintro rfl
    cases command <;> rfl

/-- **The streams from which a request is read**: a greeting that offers the method, and
a request with an address within the limits of the format. -/
theorem readRequest_eq_ok {selected : Except SocksFailure Unit} {input rest : Bytes}
    {request : SocksRequest} :
    (readRequest selected).run input = .ok (request, rest) ↔
      selected = .ok () ∧ request.target.WithinLimits 1 ∧
        ∃ methods : Bytes, methods.length < 2 ^ 8 ∧ 0x00 ∈ methods ∧
          input = putU8 0x05 ++ (prefixed 1 methods ++ ([0x05, request.command.code, 0x00] ++
            (request.target.bytes 1 ++ (putU16 request.port ++ rest)))) := by
  unfold readRequest
  simp only [bind_eq_ok, getU8_eq_ok, reject_eq_ok, take_eq_ok, lift_eq_ok, requestCommand_eq_ok,
    readAddress_eq_ok, getU16_eq_ok, pure_eq_ok, not_not]
  constructor
  · rintro ⟨_, _, rfl, count, _, rfl, -, _, ⟨rfl, rfl⟩, methods, _, rfl, -, _, ⟨hoffered, rfl⟩, ⟨⟩, _,
      ⟨hselected, rfl⟩, _, _, rfl, _, _, rfl, _, _, rfl, _, _, rfl, -, _, ⟨rfl, rfl⟩, command, _,
      ⟨rfl, rfl⟩, -, _, ⟨rfl, rfl⟩, target, _, ⟨htarget, rfl, rfl⟩, port, _, rfl, rfl, rfl⟩
    refine ⟨hselected, htarget, methods.val, ?_, hoffered, ?_⟩
    · rw [methods.property]
      exact count.toNat_lt
    · simp [prefixed, methods.property, putU8, toBe, TargetAddr.bytes]
  · rintro ⟨hselected, htarget, methods, hshort, hoffered, rfl⟩
    obtain ⟨count, hcount, hput⟩ := prefixed_eq_putU8 hshort
    rw [hput]
    exact ⟨0x05, _, rfl, count, _, List.append_assoc _ _ _, (), _, ⟨rfl, rfl⟩,
      ⟨methods, hcount.symm⟩, _, rfl, (), _, ⟨hoffered, rfl⟩, (), _, ⟨hselected, rfl⟩, 0x05, _, rfl,
      request.command.code, _, rfl, 0x00, _, rfl, request.target.code,
      request.target.address 1 ++ (putU16 request.port ++ rest), by simp [TargetAddr.bytes], (), _,
      ⟨rfl, rfl⟩, request.command, _, ⟨rfl, rfl⟩, (), _, ⟨rfl, rfl⟩, request.target, _,
      ⟨htarget, rfl, rfl⟩, request.port, _, rfl, rfl, rfl⟩

/-! ## Datagrams -/

inductive UdpRequestError where
  | rejected (message : String)
  /-- not an error of the source: `Buf` panics on a short buffer -/
  | panic
  deriving DecidableEq

/-- The errors of the address in a datagram. -/
def datagramErrors : TargetErrors UdpRequestError where
  shortIpv4 := .rejected "truncated UDP IPv4 address"
  noDomainLength := .rejected "missing UDP domain length"
  emptyDomain := .rejected "truncated UDP domain"
  shortDomain := .rejected "truncated UDP domain"
  notUtf8 := .rejected "invalid UDP domain"
  shortIpv6 := .rejected "truncated UDP IPv6 address"
  unknownType := .rejected "unsupported UDP address type"

def readUdpRequest : Reader UdpRequestError UdpPacketPayload := do
  ensure (4 ≤ ·) (.rejected "SOCKS UDP packet too short")
  let reserved ← getU16 .panic
  let frag ← getU8 .panic
  reject (reserved ≠ 0 ∨ frag ≠ 0) (.rejected "fragmented SOCKS UDP packets are not supported")
  let addressType ← getU8 .panic
  let target ← readAddress 1 datagramErrors .panic addressType
  ensure (2 ≤ ·) (.rejected "missing UDP port")
  let port ← getU16 .panic
  let data ← Reader.rest
  return ⟨target, port, data⟩

/-- `decode_udp_request` -/
def decodeUdpRequest (input : Bytes) : Except UdpRequestError UdpPacketPayload :=
  (readUdpRequest.run input).map Prod.fst

/-- `encode_udp_response` -/
def encodeUdpResponse (packet : UdpPacketPayload) : Except String Bytes := do
  let target ← packet.target.encode 1 "UDP domain too long"
  return putU16 0 ++ (putU8 0 ++ (target ++ (putU16 packet.port ++ packet.data)))

/-- The layout of a datagram. -/
def datagramBytes (packet : UdpPacketPayload) : Bytes :=
  putU16 0 ++ (putU8 0 ++ (packet.target.bytes 1 ++ (putU16 packet.port ++ packet.data)))

variable {packet : UdpPacketPayload}

/-- **The datagrams that are accepted.** -/
theorem decodeUdpRequest_eq_ok {d : Bytes} :
    decodeUdpRequest d = .ok packet ↔
      packet.target.WithinLimits 1 ∧ d = datagramBytes packet := by
  rw [decodeUdpRequest, map_fst_eq_ok]
  unfold readUdpRequest
  simp only [bind_eq_ok, ensure_eq_ok, getU16_eq_ok, getU8_eq_ok, reject_eq_ok, readAddress_eq_ok,
    rest_eq_ok, pure_eq_ok, not_or, not_not]
  constructor
  · rintro ⟨_, -, _, ⟨-, rfl⟩, _, _, rfl, _, _, rfl, -, _, ⟨⟨rfl, rfl⟩, rfl⟩, _, _, rfl, target, _,
      ⟨htarget, rfl, rfl⟩, -, _, ⟨-, rfl⟩, port, _, rfl, data, _, ⟨rfl, rfl⟩, rfl, rfl⟩
    exact ⟨htarget, by simp [datagramBytes, TargetAddr.bytes]⟩
  rintro ⟨htarget, rfl⟩
  exact ⟨[], (), _, ⟨by simp [datagramBytes, TargetAddr.bytes]; omega, rfl⟩, 0, _, rfl, 0, _, rfl,
    (), _, ⟨⟨rfl, rfl⟩, rfl⟩, packet.target.code,
    packet.target.address 1 ++ (putU16 packet.port ++ packet.data), by simp [TargetAddr.bytes],
    packet.target, _, ⟨htarget, rfl, rfl⟩, (), _, ⟨by simp, rfl⟩, packet.port, _, rfl,
    packet.data, [], ⟨rfl, rfl⟩, rfl, rfl⟩

theorem encodeUdpResponse_eq_ok (h : packet.target.WithinLimits 1) :
    encodeUdpResponse packet = .ok (datagramBytes packet) := by
  rw [encodeUdpResponse, TargetAddr.encode_eq_ok h]
  rfl

/-- **The payload codecs are bijections.**  Within the limits a payload comes back out of
its encoding, and whatever is accepted is the encoding of its result.  So a datagram of
the local client comes back out of the tunnel's encoding as it was. -/
theorem payload_codecs_bijective :
    (∀ p : OpenTcpPayload, p.WithinLimits → ∃ b, p.encode = .ok b ∧ OpenTcpPayload.decode b = .ok p) ∧
    (∀ b p, OpenTcpPayload.decode b = .ok p → p.encode = .ok b) ∧
    (∀ p : UdpPacketPayload, p.WithinLimits →
      ∃ b, p.encode = .ok b ∧ UdpPacketPayload.decode b = .ok p) ∧
    (∀ b p, UdpPacketPayload.decode b = .ok p → p.encode = .ok b) ∧
    ∀ d p, decodeUdpRequest d = .ok p → p.data.length < 2 ^ 32 →
      ∃ b q, p.encode = .ok b ∧ UdpPacketPayload.decode b = .ok q ∧ encodeUdpResponse q = .ok d := by
  refine ⟨OpenTcpPayload.canonical.roundTrip, ?_, UdpPacketPayload.canonical.roundTrip, ?_, ?_⟩
  · intro b p h
    exact (OpenTcpPayload.canonical.encoded b p h).2
  · intro b p h
    exact (UdpPacketPayload.canonical.encoded b p h).2
  intro d p h hdata
  obtain ⟨htarget, rfl⟩ := decodeUdpRequest_eq_ok.mp h
  have hlimits : p.WithinLimits := ⟨htarget.mono (by decide), hdata⟩
  obtain ⟨b, hencode, hdecode⟩ := UdpPacketPayload.canonical.roundTrip p hlimits
  exact ⟨b, p, hencode, hdecode, encodeUdpResponse_eq_ok htarget⟩

/-- A datagram to `a.b`, port 53, with two bytes of data. -/
theorem payload_codecs_bijective_datagram :
    decodeUdpRequest [0, 0, 0, 3, 3, 97, 46, 98, 0, 53, 7, 8] =
      .ok ⟨.domain "a.b", 53, [7, 8]⟩ ∧
    ∃ b q, (UdpPacketPayload.mk (.domain "a.b") 53 [7, 8]).encode = .ok b ∧
      UdpPacketPayload.decode b = .ok q ∧
      encodeUdpResponse q = .ok [0, 0, 0, 3, 3, 97, 46, 98, 0, 53, 7, 8] := by
  have hdecode : decodeUdpRequest [0, 0, 0, 3, 3, 97, 46, 98, 0, 53, 7, 8] =
      .ok ⟨.domain "a.b", 53, [7, 8]⟩ := by decide +kernel
  exact ⟨hdecode, payload_codecs_bijective.2.2.2.2 _ _ hdecode (by decide)⟩

end Client
end Maverick
