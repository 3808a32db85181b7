import Maverick.Lib.Check
import Maverick.Lib.Machine

/-!
# Configuration of the packet runtime

`PacketRuntimeConfig` with its check and the number of bytes that the runtime may
buffer under it.

* `bufferCapacityBytes_eq_ok` — where no product or sum overflows, the capacity is
  the sum of the eight terms.
* `limits_of_validate` — what a validated configuration promises.
-/

namespace Maverick
namespace Tun

open Lib

inductive DnsInterception where
  | disabled
  | port53
  deriving DecidableEq, Repr

/-- Durations are in nanoseconds. -/
structure PacketRuntimeConfig where
  mtu : Nat
  ipv4Enabled : Bool
  ipv6Enabled : Bool
  dnsInterception : DnsInterception
  maxTcpFlows : Nat
  maxUdpTargets : Nat
  maxUdpAssociations : Nat
  maxDnsQueries : Nat
  packetQueueDepth : Nat
  eventQueueDepth : Nat
  tcpBufferBytes : Nat
  tcpChannelDepth : Nat
  udpBufferBytes : Nat
  udpMessageDepth : Nat
  udpChannelDepth : Nat
  maxUdpPayloadBytes : Nat
  maxDnsPayloadBytes : Nat
  connectTimeout : Nat
  tcpIdleTimeout : Nat
  udpIdleTimeout : Nat
  dnsTimeout : Nat
  shutdownTimeout : Nat
  pollInterval : Nat
  deriving DecidableEq, Repr

inductive PacketRuntimeError where
  /-- `invalid packet runtime configuration: {0}` -/
  | invalidConfig (message : String)
  deriving DecidableEq, Repr

/-- The buffer sizes that `smoltcp` was built with. -/
structure EngineBuild where
  assemblerMaxSegmentCount : Nat
  fragmentationBufferSize : Nat
  reassemblyBufferCount : Nat
  reassemblyBufferSize : Nat
  deriving DecidableEq, Repr

/-- The features of the workspace manifest. -/
def smoltcpBuild : EngineBuild := ⟨4, 1500, 1, 1500⟩

def ENGINE_ASSEMBLER_MAX_SEGMENTS : Nat := 4
def ENGINE_FRAGMENTATION_BUFFER_BYTES : Nat := 1500
def ENGINE_REASSEMBLY_BUFFER_COUNT : Nat := 1
def ENGINE_REASSEMBLY_BUFFER_BYTES : Nat := 1500

/-- Nanoseconds. -/
def seconds (n : Nat) : Nat := n * 1000000000
def milliseconds (n : Nat) : Nat := n * 1000000

/-- The size of `usize`. -/
def usizeBits : Nat := 64

def validateEngineBuild (build : EngineBuild) : Except PacketRuntimeError Unit :=
  Check.failIf
    (build.assemblerMaxSegmentCount ≠ ENGINE_ASSEMBLER_MAX_SEGMENTS ∨
      build.fragmentationBufferSize ≠ ENGINE_FRAGMENTATION_BUFFER_BYTES ∨
      build.reassemblyBufferCount ≠ ENGINE_REASSEMBLY_BUFFER_COUNT ∨
      build.reassemblyBufferSize ≠ ENGINE_REASSEMBLY_BUFFER_BYTES)
    (.invalidConfig "smoltcp build-time buffer configuration drifted")

def validateLimit (value maximum : Nat) : Except PacketRuntimeError Unit :=
  Check.failIf (value = 0 ∨ value > maximum)
    (.invalidConfig "configured resource limit is zero or exceeds its hard maximum")

/-- One turn of the loop over the durations. -/
def validateTimeout (value : Nat) (message : String) : Except PacketRuntimeError Unit :=
  Check.failIf (value = 0 ∨ value > seconds (24 * 60 * 60)) (.invalidConfig message)

namespace PacketRuntimeConfig

/-- `PacketRuntimeConfig::default`. -/
def default : PacketRuntimeConfig where
  mtu := 1500
  ipv4Enabled := true
  ipv6Enabled := true
  dnsInterception := .port53
  maxTcpFlows := 128
  maxUdpTargets := 64
  maxUdpAssociations := 64
  maxDnsQueries := 32
  packetQueueDepth := 64
  eventQueueDepth := 256
  tcpBufferBytes := 64 * 1024
  tcpChannelDepth := 2
  udpBufferBytes := 64 * 1024
  udpMessageDepth := 32
  udpChannelDepth := 8
  maxUdpPayloadBytes := 1452
  maxDnsPayloadBytes := 1232
  connectTimeout := seconds 10
  tcpIdleTimeout := seconds 300
  udpIdleTimeout := seconds 60
  dnsTimeout := seconds 10
  shutdownTimeout := seconds 5
  pollInterval := milliseconds 5

/-! ## The buffer capacity -/

/-- `TCP_WORK_CHUNK`, and the size of the read buffer of a TCP worker. -/
def tcpWorkChunk : Nat := 16 * 1024

def checkedAdd (a b : Option Nat) : Option Nat :=
  a.bind fun a => b.bind fun b => addChecked usizeBits a b

def checkedMul (a : Option Nat) (b : Nat) : Option Nat := a.bind fun a => mulChecked usizeBits a b

def bufferCapacityBytes (config : PacketRuntimeConfig) : Except PacketRuntimeError Nat :=
  let engineFragmentation :=
    checkedAdd (mulChecked usizeBits ENGINE_REASSEMBLY_BUFFER_COUNT ENGINE_REASSEMBLY_BUFFER_BYTES)
      (some ENGINE_FRAGMENTATION_BUFFER_BYTES)
  let packetQueues :=
    checkedMul (checkedAdd (mulChecked usizeBits config.packetQueueDepth 4) (some 1)) config.mtu
  let tcp := checkedMul (mulChecked usizeBits config.maxTcpFlows config.tcpBufferBytes) 2
  let udp := checkedMul (mulChecked usizeBits config.maxUdpTargets config.udpBufferBytes) 2
  let tcpWork :=
    checkedMul (mulChecked usizeBits config.maxTcpFlows (satAdd usizeBits config.tcpChannelDepth 2))
      tcpWorkChunk
  let udpWork :=
    checkedMul
      (mulChecked usizeBits config.maxUdpAssociations (satAdd usizeBits config.udpChannelDepth 1))
      config.maxUdpPayloadBytes
  let dnsWork := checkedMul (mulChecked usizeBits config.maxDnsQueries config.maxDnsPayloadBytes) 2
  let eventWork :=
    mulChecked usizeBits config.eventQueueDepth (max tcpWorkChunk config.maxUdpPayloadBytes)
  let total :=
    checkedAdd (checkedAdd (checkedAdd (checkedAdd (checkedAdd (checkedAdd
      (checkedAdd packetQueues engineFragmentation) tcp) udp) tcpWork) udpWork) dnsWork) eventWork
  match total with
  | some bytes => .ok bytes
  | none => .error (.invalidConfig "configured packet runtime buffer capacity overflowed")

variable {a : Option Nat} {n b : Nat} {config : PacketRuntimeConfig}

theorem checkedAdd_eq_some {b : Option Nat} (h : checkedAdd a b = some n) :
    ∃ x y, a = some x ∧ b = some y ∧ n = x + y := by
  obtain ⟨x, hx, h⟩ := Option.bind_eq_some_iff.mp h
  obtain ⟨y, hy, h⟩ := Option.bind_eq_some_iff.mp h
  exact ⟨x, y, hx, hy, (addChecked_eq_some.mp h).2⟩

theorem checkedMul_eq_some (h : checkedMul a b = some n) : ∃ x, a = some x ∧ n = x * b := by
  obtain ⟨x, hx, h⟩ := Option.bind_eq_some_iff.mp h
  exact ⟨x, hx, (mulChecked_eq_some.mp h).2⟩

/-- A product of two factors and a constant. -/
theorem checkedMul_mulChecked {a c : Nat} (h : checkedMul (mulChecked usizeBits a b) c = some n) :
    n = a * b * c := by
  obtain ⟨x, hx, rfl⟩ := checkedMul_eq_some h
  rw [(mulChecked_eq_some.mp hx).2]

/-- **The buffer capacity is the sum of its terms.** -/
theorem bufferCapacityBytes_eq_ok {bytes : Nat} (h : config.bufferCapacityBytes = .ok bytes) :
    bytes =
      (config.packetQueueDepth * 4 + 1) * config.mtu + 3000 +
      config.maxTcpFlows * config.tcpBufferBytes * 2 +
      config.maxUdpTargets * config.udpBufferBytes * 2 +
      config.maxTcpFlows * satAdd usizeBits config.tcpChannelDepth 2 * tcpWorkChunk +
      config.maxUdpAssociations * satAdd usizeBits config.udpChannelDepth 1 *
        config.maxUdpPayloadBytes +
      config.maxDnsQueries * config.maxDnsPayloadBytes * 2 +
      config.eventQueueDepth * max tcpWorkChunk config.maxUdpPayloadBytes := by
  unfold bufferCapacityBytes at h
  dsimp only at h
  split at h
  · rename_i total htotal
    cases h
    obtain ⟨_, _, h₁, hevents, rfl⟩ := checkedAdd_eq_some htotal
    obtain ⟨_, _, h₂, hdns, rfl⟩ := checkedAdd_eq_some h₁
    obtain ⟨_, _, h₃, hudpWork, rfl⟩ := checkedAdd_eq_some h₂
    obtain ⟨_, _, h₄, htcpWork, rfl⟩ := checkedAdd_eq_some h₃
    obtain ⟨_, _, h₅, hudp, rfl⟩ := checkedAdd_eq_some h₄
    obtain ⟨_, _, h₆, htcp, rfl⟩ := checkedAdd_eq_some h₅
    obtain ⟨_, _, hpackets, hengine, rfl⟩ := checkedAdd_eq_some h₆
    obtain ⟨_, hcount, rfl⟩ := checkedMul_eq_some hpackets
    obtain ⟨_, _, hfour, hone, rfl⟩ := checkedAdd_eq_some hcount
    cases hone
    cases hengine
    rw [(mulChecked_eq_some.mp hfour).2, (mulChecked_eq_some.mp hevents).2,
      checkedMul_mulChecked hdns, checkedMul_mulChecked hudpWork, checkedMul_mulChecked htcpWork,
      checkedMul_mulChecked hudp, checkedMul_mulChecked htcp]
    rfl
  · cases h

/-! ## Validation -/

def validate (config : PacketRuntimeConfig) : Except PacketRuntimeError Unit := do
  validateEngineBuild smoltcpBuild
  Check.failIf (!config.ipv4Enabled ∧ !config.ipv6Enabled)
    (.invalidConfig "at least one IP family must be enabled")
  Check.failIf (config.mtu < (if config.ipv6Enabled then 1280 else 576) ∨ 65535 < config.mtu)
    (.invalidConfig "MTU is outside the enabled IP-family range")
  validateLimit config.maxTcpFlows 4096
  validateLimit config.maxUdpTargets 4096
  validateLimit config.maxUdpAssociations 4096
  validateLimit config.maxDnsQueries 4096
  validateLimit config.packetQueueDepth 4096
  validateLimit config.eventQueueDepth 16384
  validateLimit config.tcpChannelDepth 64
  validateLimit config.udpMessageDepth 1024
  validateLimit config.udpChannelDepth 1024
  Check.failIf (config.tcpBufferBytes < config.mtu ∨ 4 * 1024 * 1024 < config.tcpBufferBytes)
    (.invalidConfig "TCP buffer size must be at least the MTU and at most 4 MiB")
  Check.failIf (config.udpBufferBytes < config.mtu ∨ 4 * 1024 * 1024 < config.udpBufferBytes)
    (.invalidConfig "UDP buffer size must be at least the MTU and at most 4 MiB")
  Check.failIf
    (config.maxUdpPayloadBytes = 0 ∨ config.maxUdpPayloadBytes > config.mtu - 48 ∨
      config.maxUdpPayloadBytes > config.udpBufferBytes)
    (.invalidConfig "maximum UDP payload exceeds the unfragmented packet budget")
  Check.failIf
    (config.maxDnsPayloadBytes = 0 ∨ config.maxDnsPayloadBytes > config.maxUdpPayloadBytes)
    (.invalidConfig "maximum DNS payload exceeds the UDP payload limit")
  validateTimeout config.connectTimeout "connect timeout must be between zero and 24 hours"
  validateTimeout config.tcpIdleTimeout "TCP idle timeout must be between zero and 24 hours"
  validateTimeout config.udpIdleTimeout "UDP idle timeout must be between zero and 24 hours"
  validateTimeout config.dnsTimeout "DNS timeout must be between zero and 24 hours"
  validateTimeout config.shutdownTimeout "shutdown timeout must be between zero and 24 hours"
  validateTimeout config.pollInterval "poll interval must be between zero and 24 hours"
  Check.failIf (config.pollInterval > seconds 1)
    (.invalidConfig "poll interval must not exceed one second")
  let capacity ← config.bufferCapacityBytes
  Check.failIf (capacity > 256 * 1024 * 1024)
    (.invalidConfig "configured packet runtime buffer capacity exceeds 256 MiB")

/-- What the budget relies on. -/
structure Limits (config : PacketRuntimeConfig) : Prop where
  tcpChannelDepth : config.tcpChannelDepth ≤ 64
  udpChannelDepth : 0 < config.udpChannelDepth ∧ config.udpChannelDepth ≤ 1024
  maxDnsPayloadBytes : config.maxDnsPayloadBytes ≤ config.maxUdpPayloadBytes

/-- **A validated configuration keeps to its limits.** -/
theorem limits_of_validate (h : config.validate = .ok ()) : config.Limits := by
  unfold validate validateLimit at h
  simp only [Check.seq_eq_ok, Check.failIf_eq_ok] at h
  obtain ⟨_, _, _, _, _, _, _, _, _, htcpDepth, _, hudpDepth, _, _, _, hdns, _⟩ := h
  exact ⟨by omega, by omega, by omega⟩

/-- **A validated configuration lets a socket send any datagram that it may be given.** -/
theorem udp_limits_of_validate (h : config.validate = .ok ()) :
    0 < config.udpMessageDepth ∧ config.maxUdpPayloadBytes ≤ config.udpBufferBytes := by
  unfold validate validateLimit at h
  simp only [Check.seq_eq_ok, Check.failIf_eq_ok] at h
  obtain ⟨_, _, _, _, _, _, _, _, _, _, hdepth, _, _, _, hpayload, _⟩ := h
  exact ⟨by omega, by omega⟩

example : validate .default = .ok () := by decide

end PacketRuntimeConfig

end Tun
end Maverick
