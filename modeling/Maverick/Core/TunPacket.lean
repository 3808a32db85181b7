import Maverick.Core.Egress
import Maverick.Core.Error
import Maverick.Lib.Bytes
import Maverick.Lib.Check

/-!
# Classification of packets

`classify_tun_packet`: the flow that an IP packet belongs to.  An index or a range that is
not inside the packet is a panic of the program and yields `Error.panic`.

* `Classifies` — a computation does not panic, and yields a flow exactly when a condition
  on that flow holds; one rule for each kind of step.
* `IsFlow` — the packets of a flow, by what stands at which position.
* `packet_classification_exact` — the flows that are found.
-/

namespace Maverick

open Lib Lib.Check

inductive TunTransportProtocol where
  | tcp
  | udp
  deriving DecidableEq

structure TunPacketFlow where
  protocol : TunTransportProtocol
  source : IpAddr
  destination : IpAddr
  sourcePort : UInt16
  destinationPort : UInt16
  payloadOffset : Nat
  deriving DecidableEq

inductive TunPacketClassification where
  | flow (flow : TunPacketFlow)
  | unsupported (ipVersion : UInt8) (protocol : Option UInt8) (reason : String)
  deriving DecidableEq

/-! ## Reading -/

/-- `packet[i]` -/
def byteAt (packet : Bytes) (i : Nat) : Except Error UInt8 :=
  match packet[i]? with
  | some b => .ok b
  | none => .error .panic

/-- `u16::from_be_bytes([packet[i], packet[i + 1]])` -/
def wordAt (packet : Bytes) (i : Nat) : Except Error UInt16 := do
  return UInt16.ofNat (ofBe [← byteAt packet i, ← byteAt packet (i + 1)])

/-- `Ipv4Addr::new` of the four octets from `i` on -/
def ipv4At (packet : Bytes) (i : Nat) : Except Error IpAddr := do
  return .v4 ⟨← byteAt packet i, ← byteAt packet (i + 1), ← byteAt packet (i + 2),
    ← byteAt packet (i + 3)⟩

/-- `packet[start..stop]` -/
def sliceAt (packet : Bytes) (start stop : Nat) : Except Error Bytes :=
  if start ≤ stop ∧ stop ≤ packet.length then .ok ((packet.take stop).drop start)
  else .error .panic

/-- `Ipv6Addr::from` of the sixteen octets from `i` on -/
def ipv6At (packet : Bytes) (i : Nat) : Except Error IpAddr := do
  let octets ← sliceAt packet i (i + 16)
  return .v6 (Vector.ofFn fun k => octets.getD k 0)

/-! ## The classifier -/

def classifyTcp (source destination : IpAddr) (segment : Bytes) (baseOffset : Nat) :
    Except Error TunPacketClassification := do
  failIf (segment.length < 20) (.malformedFrame "truncated tcp segment")
  let offset ← byteAt segment 12
  let headerLen := (offset >>> 4).toNat * 4
  failIf (headerLen < 20 ∨ segment.length < headerLen) (.malformedFrame "invalid tcp header length")
  let sourcePort ← wordAt segment 0
  let destinationPort ← wordAt segment 2
  return .flow ⟨.tcp, source, destination, sourcePort, destinationPort, baseOffset + headerLen⟩

def classifyUdp (source destination : IpAddr) (segment : Bytes) (baseOffset : Nat) :
    Except Error TunPacketClassification := do
  failIf (segment.length < 8) (.malformedFrame "truncated udp datagram")
  let udpLen ← wordAt segment 4
  failIf (udpLen.toNat < 8 ∨ segment.length < udpLen.toNat) (.malformedFrame "invalid udp length")
  let sourcePort ← wordAt segment 0
  let destinationPort ← wordAt segment 2
  return .flow ⟨.udp, source, destination, sourcePort, destinationPort, baseOffset + 8⟩

def classifyTransport (ipVersion protocol : UInt8) (source destination : IpAddr) (segment : Bytes)
    (baseOffset : Nat) : Except Error TunPacketClassification :=
  if protocol = 6 then classifyTcp source destination segment baseOffset
  else if protocol = 17 then classifyUdp source destination segment baseOffset
  else .ok (.unsupported ipVersion (some protocol) "unsupported transport protocol")

def classifyIpv4Packet (packet : Bytes) : Except Error TunPacketClassification := do
  failIf (packet.length < 20) (.malformedFrame "truncated ipv4 packet")
  let first ← byteAt packet 0
  let ihl := (first &&& 0x0f).toNat * 4
  failIf (ihl < 20 ∨ packet.length < ihl) (.malformedFrame "invalid ipv4 header length")
  let totalLen ← wordAt packet 2
  failIf (totalLen.toNat < ihl ∨ packet.length < totalLen.toNat)
    (.malformedFrame "invalid ipv4 total length")
  let fragment ← wordAt packet 6
  let protocol ← byteAt packet 9
  if fragment &&& 0x3fff ≠ 0 then
    return .unsupported 4 (some protocol) "fragmented ipv4 packet"
  let source ← ipv4At packet 12
  let destination ← ipv4At packet 16
  let segment ← sliceAt packet ihl totalLen.toNat
  classifyTransport 4 protocol source destination segment ihl

def classifyIpv6Packet (packet : Bytes) : Except Error TunPacketClassification := do
  failIf (packet.length < 40) (.malformedFrame "truncated ipv6 packet")
  let payloadLen ← wordAt packet 4
  let totalLen := 40 + payloadLen.toNat
  failIf (packet.length < totalLen) (.malformedFrame "invalid ipv6 payload length")
  let source ← ipv6At packet 8
  let destination ← ipv6At packet 24
  let protocol ← byteAt packet 6
  let segment ← sliceAt packet 40 totalLen
  classifyTransport 6 protocol source destination segment 40

def classifyTunPacket (packet : Bytes) : Except Error TunPacketClassification :=
  match packet.head? with
  | none => .error (.malformedFrame "tun packet is empty")
  | some first =>
    if first >>> 4 = 4 then classifyIpv4Packet packet
    else if first >>> 4 = 6 then classifyIpv6Packet packet
    else .ok (.unsupported (first >>> 4) none "unsupported ip version")

/-! ## What the packets of a flow look like -/

namespace TunPacket

section Positions

variable (bytes : Bytes)

/-- The byte at a position. -/
def octet (i : Nat) : UInt8 := bytes.getD i 0

/-- The word at a position. -/
def port (i : Nat) : UInt16 := UInt16.ofNat (ofBe [octet bytes i, octet bytes (i + 1)])

def ipv4 (i : Nat) : IpAddr :=
  .v4 ⟨octet bytes i, octet bytes (i + 1), octet bytes (i + 2), octet bytes (i + 3)⟩

def ipv6 (i : Nat) : IpAddr := .v6 (Vector.ofFn fun k => octet bytes (i + k))

/-- A TCP segment, with the flow it belongs to. -/
def IsTcp (source destination : IpAddr) (base : Nat) (flow : TunPacketFlow) : Prop :=
  let dataOffset := (octet bytes 12 >>> 4).toNat * 4
  20 ≤ bytes.length ∧ 20 ≤ dataOffset ∧ dataOffset ≤ bytes.length ∧
    flow = ⟨.tcp, source, destination, port bytes 0, port bytes 2, base + dataOffset⟩

/-- A UDP datagram, with the flow it belongs to. -/
def IsUdp (source destination : IpAddr) (base : Nat) (flow : TunPacketFlow) : Prop :=
  let length := (port bytes 4).toNat
  8 ≤ bytes.length ∧ 8 ≤ length ∧ length ≤ bytes.length ∧
    flow = ⟨.udp, source, destination, port bytes 0, port bytes 2, base + 8⟩

/-- A header of `base` bytes in front of a segment that ends at `total`. -/
def segment (base total : Nat) : Bytes := (bytes.take total).drop base

def IsTransport (protocol : UInt8) (source destination : IpAddr) (base : Nat)
    (flow : TunPacketFlow) : Prop :=
  protocol = 6 ∧ IsTcp bytes source destination base flow ∨
    protocol = 17 ∧ IsUdp bytes source destination base flow

/-- An IPv4 packet with a header of `base` bytes and `total` bytes in all, which is not a
fragment: the flag for more fragments and the offset, the lower 14 bits, are zero. -/
structure IsIpv4 (base total : Nat) : Prop where
  length : 20 ≤ bytes.length
  version : octet bytes 0 >>> 4 = 4
  header : base = (octet bytes 0 &&& 0x0f).toNat * 4
  header_le : 20 ≤ base ∧ base ≤ total
  total_eq : total = (port bytes 2).toNat
  total_le : total ≤ bytes.length
  whole : port bytes 6 &&& 0x3fff = 0

/-- An IPv6 packet of `total` bytes. -/
structure IsIpv6 (total : Nat) : Prop where
  length : 40 ≤ bytes.length
  version : octet bytes 0 >>> 4 = 6
  total_eq : total = 40 + (port bytes 4).toNat
  total_le : total ≤ bytes.length

def IsIpv4Flow (flow : TunPacketFlow) (total : Nat) : Prop :=
  ∃ base, IsIpv4 bytes base total ∧ IsTransport (segment bytes base total) (octet bytes 9)
    (ipv4 bytes 12) (ipv4 bytes 16) base flow

def IsIpv6Flow (flow : TunPacketFlow) (total : Nat) : Prop :=
  IsIpv6 bytes total ∧ IsTransport (segment bytes 40 total) (octet bytes 6) (ipv6 bytes 8)
    (ipv6 bytes 24) 40 flow

/-- A packet of a flow, with its declared length. -/
def IsFlow (flow : TunPacketFlow) (total : Nat) : Prop :=
  IsIpv4Flow bytes flow total ∨ IsIpv6Flow bytes flow total

end Positions

/-! ## The rules -/

section Rules

variable {packet : Bytes} {i start stop : Nat}

theorem byteAt_eq (h : i < packet.length) : byteAt packet i = .ok (octet packet i) := by
  simp [byteAt, octet, h]

theorem wordAt_eq (h : i + 1 < packet.length) : wordAt packet i = .ok (port packet i) := by
  rw [wordAt, byteAt_eq (by omega), byteAt_eq h]
  rfl

theorem ipv4At_eq (h : i + 3 < packet.length) : ipv4At packet i = .ok (ipv4 packet i) := by
  rw [ipv4At, byteAt_eq (by omega), byteAt_eq (by omega), byteAt_eq (by omega), byteAt_eq h]
  rfl

theorem sliceAt_eq (hstart : start ≤ stop) (hstop : stop ≤ packet.length) :
    sliceAt packet start stop = .ok (segment packet start stop) := if_pos ⟨hstart, hstop⟩

theorem ipv6At_eq (h : i + 16 ≤ packet.length) : ipv6At packet i = .ok (ipv6 packet i) := by
  have hoctets : (fun k : Fin 16 => (segment packet i (i + 16)).getD k 0) =
      fun k : Fin 16 => octet packet (i + k) := by
    funext k
    rw [octet, segment, List.getD_eq_getElem?_getD, List.getElem?_drop, List.getElem?_take,
      if_pos (by omega), List.getD_eq_getElem?_getD]
  rw [ipv6At, sliceAt_eq (Nat.le_add_right _ _) h, ipv6, ← hoctets]
  rfl

/-- No panic, and the flows that satisfy a condition. -/
structure Classifies (result : Except Error TunPacketClassification) (P : TunPacketFlow → Prop) :
    Prop where
  safe : result ≠ .error .panic
  exact : ∀ flow, result = .ok (.flow flow) ↔ P flow

variable {result : Except Error TunPacketClassification} {P Q : TunPacketFlow → Prop}

theorem Classifies.congr (h : Classifies result P) (hiff : ∀ flow, P flow ↔ Q flow) :
    Classifies result Q :=
  ⟨h.safe, fun flow => (h.exact flow).trans (hiff flow)⟩

theorem Classifies.check {c : Prop} [Decidable c] {text : String}
    {rest : Unit → Except Error TunPacketClassification} (hnot : ∀ flow, P flow → ¬ c)
    (h : ¬ c → Classifies (rest ()) P) :
    Classifies (failIf c (.malformedFrame text) >>= rest) P := by
  by_cases hc : c
  · rw [failIf, if_pos hc]
    exact ⟨by rintro ⟨⟩, fun flow => ⟨by rintro ⟨⟩, fun hp => absurd hc (hnot flow hp)⟩⟩
  · rw [failIf, if_neg hc]
    exact h hc

theorem Classifies.read {α : Type} {x : Except Error α} {a : α}
    {rest : α → Except Error TunPacketClassification} (hx : x = .ok a)
    (h : Classifies (rest a) P) : Classifies (x >>= rest) P := by
  subst hx
  exact h

theorem Classifies.unsupported {version : UInt8} {protocol : Option UInt8} {reason : String}
    (hnot : ∀ flow, ¬ P flow) : Classifies (.ok (.unsupported version protocol reason)) P :=
  ⟨nofun, fun flow => ⟨nofun, fun hp => absurd hp (hnot flow)⟩⟩

theorem Classifies.found {flow : TunPacketFlow} (h : ∀ flow', P flow' ↔ flow' = flow) :
    Classifies (.ok (.flow flow)) P := by
  refine ⟨nofun, fun flow' => ?_⟩
  rw [h, Except.ok.injEq, TunPacketClassification.flow.injEq, eq_comm]

end Rules

/-! ## The proof, layer by layer -/

section Layers

variable {bytes : Bytes} {source destination : IpAddr} {base : Nat}

theorem classifies_tcp : Classifies (classifyTcp source destination bytes base)
    (IsTcp bytes source destination base) := by
  refine .check (fun _ h => not_lt.mpr h.1) fun hlen => ?_
  refine .read (byteAt_eq (by omega)) ?_
  refine .check (fun _ h => not_or.mpr ⟨not_lt.mpr h.2.1, not_lt.mpr h.2.2.1⟩) fun hheader => ?_
  refine .read (wordAt_eq (by omega)) (.read (wordAt_eq (by omega)) (.found fun flow => ?_))
  obtain ⟨hmin, hmax⟩ := not_or.mp hheader
  exact ⟨fun h => h.2.2.2, fun h => ⟨not_lt.mp hlen, not_lt.mp hmin, not_lt.mp hmax, h⟩⟩

theorem classifies_udp : Classifies (classifyUdp source destination bytes base)
    (IsUdp bytes source destination base) := by
  refine .check (fun _ h => not_lt.mpr h.1) fun hlen => ?_
  refine .read (wordAt_eq (by omega)) ?_
  refine .check (fun _ h => not_or.mpr ⟨not_lt.mpr h.2.1, not_lt.mpr h.2.2.1⟩) fun hlength => ?_
  refine .read (wordAt_eq (by omega)) (.read (wordAt_eq (by omega)) (.found fun flow => ?_))
  obtain ⟨hmin, hmax⟩ := not_or.mp hlength
  exact ⟨fun h => h.2.2.2, fun h => ⟨not_lt.mp hlen, not_lt.mp hmin, not_lt.mp hmax, h⟩⟩

variable {protocol : UInt8} {flow : TunPacketFlow} {total : Nat}

theorem classifies_transport {version : UInt8} :
    Classifies (classifyTransport version protocol source destination bytes base)
      (IsTransport bytes protocol source destination base) := by
  unfold classifyTransport
  split_ifs with htcp hudp
  · exact classifies_tcp.congr fun flow => by simp [IsTransport, htcp]
  · exact classifies_udp.congr fun flow => by simp [IsTransport, hudp]
  · exact .unsupported fun flow => by simp [IsTransport, htcp, hudp]

/-- The transport header ends inside the segment. -/
theorem IsTransport.payloadOffset_le (h : IsTransport bytes protocol source destination base flow) :
    flow.payloadOffset ≤ base + bytes.length := by
  rcases h with ⟨-, hlen, -, hmax, rfl⟩ | ⟨-, hlen, -, -, rfl⟩
  exacts [Nat.add_le_add_left hmax base, Nat.add_le_add_left hlen base]

theorem IsFlow.payloadOffset_le (h : IsFlow bytes flow total) :
    flow.payloadOffset ≤ total ∧ total ≤ bytes.length := by
  have hsegment (base : Nat) : (segment bytes base total).length ≤ total - base := by
    rw [segment, List.length_drop, List.length_take]
    omega
  rcases h with ⟨base, hip, htransport⟩ | ⟨hip, htransport⟩
  · have hbase := hip.header_le
    have hlen := hsegment base
    have hoffset := htransport.payloadOffset_le
    exact ⟨by omega, hip.total_le⟩
  have hbase := hip.total_eq
  have hlen := hsegment 40
  have hoffset := htransport.payloadOffset_le
  exact ⟨by omega, hip.total_le⟩

theorem classifies_ipv4 (hversion : octet bytes 0 >>> 4 = 4) :
    Classifies (classifyIpv4Packet bytes) fun flow => ∃ total, IsIpv4Flow bytes flow total := by
  refine .check ?_ fun hlen => .read (byteAt_eq (by omega)) (.check ?_ fun hihl =>
    .read (wordAt_eq (by omega)) (.check ?_ fun htotal => .read (wordAt_eq (by omega))
      (.read (byteAt_eq (by omega)) ?_)))
  · rintro flow ⟨total, base, hip, -⟩
    exact not_lt.mpr hip.length
  · rintro flow ⟨total, base, hip, -⟩
    rw [← hip.header]
    have := hip.header_le
    have := hip.total_le
    omega
  · rintro flow ⟨total, base, hip, -⟩
    rw [← hip.header, ← hip.total_eq]
    have := hip.header_le
    have := hip.total_le
    omega
  split_ifs with hfragment
  · refine .unsupported ?_
    rintro flow ⟨total, base, hip, -⟩
    exact hfragment hip.whole
  refine .read (ipv4At_eq (by omega)) (.read (ipv4At_eq (by omega)) (.read
    (sliceAt_eq (by omega) (by omega)) (classifies_transport.congr fun flow => ⟨fun h => ?_, ?_⟩)))
  · exact ⟨_, _, ⟨not_lt.mp hlen, hversion, rfl, by omega, rfl, by omega, not_not.mp hfragment⟩, h⟩
  rintro ⟨total, base, hip, h⟩
  obtain rfl := hip.header
  obtain rfl := hip.total_eq
  exact h

theorem classifies_ipv6 (hversion : octet bytes 0 >>> 4 = 6) :
    Classifies (classifyIpv6Packet bytes) fun flow => ∃ total, IsIpv6Flow bytes flow total := by
  refine .check ?_ fun hlen => .read (wordAt_eq (by omega)) (.check ?_ fun htotal =>
    .read (ipv6At_eq (by omega)) (.read (ipv6At_eq (by omega)) (.read (byteAt_eq (by omega))
      (.read (sliceAt_eq (by omega) (by omega)) (classifies_transport.congr fun flow =>
        ⟨fun h => ?_, ?_⟩)))))
  · rintro flow ⟨total, hip, -⟩
    exact not_lt.mpr hip.length
  · rintro flow ⟨total, hip, -⟩
    rw [← hip.total_eq]
    exact not_lt.mpr hip.total_le
  · exact ⟨_, ⟨not_lt.mp hlen, hversion, rfl, not_lt.mp htotal⟩, h⟩
  rintro ⟨total, hip, h⟩
  obtain rfl := hip.total_eq
  exact h

/-- A flow is found by the classifier of its version only. -/
theorem IsFlow.version (h : IsFlow bytes flow total) :
    octet bytes 0 >>> 4 = 4 ∧ IsIpv4Flow bytes flow total ∨
      octet bytes 0 >>> 4 = 6 ∧ IsIpv6Flow bytes flow total :=
  h.imp (fun h => ⟨h.choose_spec.1.version, h⟩) fun h => ⟨h.1.version, h⟩

theorem classifies_packet : Classifies (classifyTunPacket bytes) fun flow =>
    ∃ total, IsFlow bytes flow total := by
  cases bytes with
  | nil =>
    refine ⟨nofun, fun flow => ⟨nofun, ?_⟩⟩
    rintro ⟨total, h⟩
    rcases h.version with ⟨hversion, -⟩ | ⟨hversion, -⟩
    exacts [absurd hversion (by decide), absurd hversion (by decide)]
  | cons first rest =>
    show Classifies (if octet (first :: rest) 0 >>> 4 = 4 then classifyIpv4Packet (first :: rest)
      else if octet (first :: rest) 0 >>> 4 = 6 then classifyIpv6Packet (first :: rest) else _) _
    split_ifs with h4 h6
    · refine (classifies_ipv4 h4).congr fun flow => exists_congr fun total => ⟨.inl, fun h => ?_⟩
      exact h.version.elim And.right fun h => absurd (h4.symm.trans h.1) (by decide)
    · refine (classifies_ipv6 h6).congr fun flow => exists_congr fun total => ⟨.inr, fun h => ?_⟩
      exact h.version.elim (fun h => absurd h.1 h4) And.right
    refine .unsupported ?_
    rintro flow ⟨total, h⟩
    exact h.version.elim (fun h => h4 h.1) fun h => h6 h.1

/-- **Packets are classified safely and exactly.** -/
theorem packet_classification_exact (packet : Bytes) :
    classifyTunPacket packet ≠ .error .panic ∧
    (∀ flow, classifyTunPacket packet = .ok (.flow flow) ↔ ∃ total, IsFlow packet flow total) ∧
    ∀ flow total, IsFlow packet flow total →
      flow.payloadOffset ≤ total ∧ total ≤ packet.length :=
  ⟨classifies_packet.safe, classifies_packet.exact, fun _ _ h => h.payloadOffset_le⟩

/-- A UDP datagram without payload, from port 53 to port 54. -/
def datagram : Bytes :=
  [0x45, 0, 0, 28, 0, 0, 0, 0, 64, 17, 0, 0, 10, 0, 0, 1, 10, 0, 0, 2, 0, 53, 0, 54, 0, 8, 0, 0]

theorem packet_classification_exact_datagram :
    ∃ flow total, classifyTunPacket datagram = .ok (.flow flow) ∧ flow.sourcePort = 53 ∧
      flow.payloadOffset ≤ total ∧ total ≤ datagram.length := by
  obtain ⟨-, hexact, hoffset⟩ := packet_classification_exact datagram
  obtain ⟨total, hflow⟩ := (hexact ⟨.udp, .v4 ⟨10, 0, 0, 1⟩, .v4 ⟨10, 0, 0, 2⟩, 53, 54, 28⟩).mp rfl
  exact ⟨_, total, rfl, rfl, hoffset _ total hflow⟩

end Layers

end TunPacket
end Maverick
