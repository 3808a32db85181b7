import Mathlib.Data.UInt
import Mathlib.Data.Fintype.Fin
import Mathlib.Tactic.FinCases

/-!
# The egress policy

The server decides by `ServerEgressPolicyConfig.allowsIp` which addresses it may
contact.  An IPv6 address that carries an IPv4 address in one of five known
forms is judged as that IPv4 address.

* `WrapForm.Wraps` — what it means for an IPv6 address to be a given wrapping of
  an IPv4 address; the octets a form does not fix are free.
* `embeddedIpv4ForEgress_of_wraps` — the decoder finds the wrapped address.
* `allowsIp_of_wraps` — hence a wrapped address is judged as the address itself.
* `not_allowsIp_default_of_wraps` — under the default policy no wrapping of a
  special address is allowed, also where the wrapping is `::` or `::1`.
-/

namespace Maverick

/-! ## Addresses -/

/-- An IPv4 address, octet by octet. -/
structure Ipv4Addr where
  first : UInt8
  second : UInt8
  third : UInt8
  fourth : UInt8
  deriving DecidableEq, Repr

namespace Ipv4Addr

def isLoopback (ip : Ipv4Addr) : Bool := ip.first == 127

def isUnspecified (ip : Ipv4Addr) : Bool := ip == ⟨0, 0, 0, 0⟩

def isMulticast (ip : Ipv4Addr) : Bool := 224 ≤ ip.first && ip.first ≤ 239

def isLinkLocal (ip : Ipv4Addr) : Bool := ip.first == 169 && ip.second == 254

def isPrivate (ip : Ipv4Addr) : Bool :=
  ip.first == 10
    || (ip.first == 172 && 16 ≤ ip.second && ip.second ≤ 31)
    || (ip.first == 192 && ip.second == 168)

end Ipv4Addr

/-- An IPv6 address as its sixteen octets. -/
abbrev Ipv6Addr := Vector UInt8 16

namespace Ipv6Addr

/-- `segments()[i]`, for the segments the policy reads. -/
def segment (ip : Ipv6Addr) (i : Fin 8) : UInt16 :=
  (ip[2 * i.val]).toUInt16 <<< 8 ||| (ip[2 * i.val + 1]).toUInt16

/-- `octets[..n] == bytes`, with `n` the length of `bytes`. -/
def startsWith (ip : Ipv6Addr) (bytes : List UInt8) : Prop :=
  ip.toList.take bytes.length = bytes

instance (ip : Ipv6Addr) (bytes : List UInt8) : Decidable (ip.startsWith bytes) :=
  inferInstanceAs (Decidable (_ = _))

def unspecified : Ipv6Addr := #v[0, 0, 0, 0, 0, 0, 0, 0, 0, 0, 0, 0, 0, 0, 0, 0]

def localhost : Ipv6Addr := #v[0, 0, 0, 0, 0, 0, 0, 0, 0, 0, 0, 0, 0, 0, 0, 1]

def isLoopback (ip : Ipv6Addr) : Bool := ip == localhost

def isUnspecified (ip : Ipv6Addr) : Bool := ip == unspecified

def isMulticast (ip : Ipv6Addr) : Bool := ip[0] == 0xff

variable {ip : Ipv6Addr} {bytes : List UInt8} {i : Nat}

theorem getElem_of_startsWith (h : ip.startsWith bytes) (hi : i < bytes.length) (hip : i < 16) :
    ip[i] = bytes[i] := by
  have htake : (ip.toList.take bytes.length)[i]? = bytes[i]? := by rw [h]
  simpa [List.getElem?_take, hi, hip] using htake

theorem not_startsWith (hi : i < bytes.length) (hip : i < 16) (hne : ip[i] ≠ bytes[i]) :
    ¬ ip.startsWith bytes := by
  intro h
  exact hne (getElem_of_startsWith h hi hip)

end Ipv6Addr

inductive IpAddr where
  | v4 (ip : Ipv4Addr)
  | v6 (ip : Ipv6Addr)
  deriving DecidableEq, Repr

namespace IpAddr

def isLoopback : IpAddr → Bool
  | v4 ip => ip.isLoopback
  | v6 ip => Ipv6Addr.isLoopback ip

def isUnspecified : IpAddr → Bool
  | v4 ip => ip.isUnspecified
  | v6 ip => Ipv6Addr.isUnspecified ip

def isMulticast : IpAddr → Bool
  | v4 ip => ip.isMulticast
  | v6 ip => Ipv6Addr.isMulticast ip

end IpAddr

structure SocketAddr where
  ip : IpAddr
  port : UInt16
  deriving DecidableEq, Repr

def SocketAddr.isIpv4 (addr : SocketAddr) : Bool :=
  match addr.ip with
  | .v4 _ => true
  | .v6 _ => false

def SocketAddr.isIpv6 (addr : SocketAddr) : Bool := !addr.isIpv4

/-! ## The policy -/

/-- The IPv4 address that an IPv6 address carries, in the order the policy
looks for it. -/
def embeddedIpv4ForEgress (octets : Ipv6Addr) : Option Ipv4Addr :=
  if octets.startsWith (List.replicate 10 0) ∧ octets[10] = 0xff ∧ octets[11] = 0xff then
    some ⟨octets[12], octets[13], octets[14], octets[15]⟩
  else if octets.startsWith (List.replicate 12 0)
      ∧ [octets[12], octets[13], octets[14], octets[15]] ≠ [0, 0, 0, 0]
      ∧ [octets[12], octets[13], octets[14], octets[15]] ≠ [0, 0, 0, 1] then
    some ⟨octets[12], octets[13], octets[14], octets[15]⟩
  else if octets.startsWith [0x00, 0x64, 0xff, 0x9b, 0, 0, 0, 0, 0, 0, 0, 0] then
    some ⟨octets[12], octets[13], octets[14], octets[15]⟩
  else if octets[0] = 0x20 ∧ octets[1] = 0x02 then
    some ⟨octets[2], octets[3], octets[4], octets[5]⟩
  else if octets.startsWith [0x20, 0x01, 0x00, 0x00] then
    some ⟨~~~octets[12], ~~~octets[13], ~~~octets[14], ~~~octets[15]⟩
  else
    none

def canonicalizeEgressIp : IpAddr → IpAddr
  | .v4 ip => .v4 ip
  | .v6 ip => ((embeddedIpv4ForEgress ip).map IpAddr.v4).getD (.v6 ip)

def isLinkLocalIp : IpAddr → Bool
  | .v4 ip => ip.isLinkLocal
  | .v6 ip => Ipv6Addr.segment ip 0 &&& 0xffc0 == 0xfe80

def isSharedIpv4 (ip : Ipv4Addr) : Bool := ip.first == 100 && ip.second &&& 0xc0 == 64

def isLocalUseNat64Ip (ip : Ipv6Addr) : Bool :=
  Ipv6Addr.segment ip 0 == 0x0064 && Ipv6Addr.segment ip 1 == 0xff9b
    && Ipv6Addr.segment ip 2 == 0x0001

def isPrivateIp : IpAddr → Bool
  | .v4 ip => ip.isPrivate || isSharedIpv4 ip
  | .v6 ip => Ipv6Addr.segment ip 0 &&& 0xfe00 == 0xfc00 || isLocalUseNat64Ip ip

def isReservedOrSpecialIpv4 (ip : Ipv4Addr) : Bool :=
  ip.first == 0
    || ip.first ≥ 240
    || ip == ⟨255, 255, 255, 255⟩
    || (ip.first == 192 && ip.second == 0 && ip.third == 0)
    || (ip.first == 192 && ip.second == 0 && ip.third == 2)
    || (ip.first == 198 && (ip.second == 18 || ip.second == 19))
    || (ip.first == 198 && ip.second == 51 && ip.third == 100)
    || (ip.first == 203 && ip.second == 0 && ip.third == 113)
    || (ip.first == 192 && ip.second == 88 && ip.third == 99)

def isReservedOrSpecialIp : IpAddr → Bool
  | .v4 ip => isReservedOrSpecialIpv4 ip
  | .v6 ip => Ipv6Addr.segment ip 0 == 0x2001 && Ipv6Addr.segment ip 1 == 0x0db8

/-- The server's egress policy; the default allows none of the special classes. -/
structure ServerEgressPolicyConfig where
  allowLoopback : Bool := false
  allowPrivate : Bool := false
  allowLinkLocal : Bool := false
  allowMulticast : Bool := false
  allowUnspecified : Bool := false
  deriving DecidableEq, Repr

namespace ServerEgressPolicyConfig

/-- The verdict on an address that has been unwrapped. -/
def allowsCanonical (policy : ServerEgressPolicyConfig) (ip : IpAddr) : Bool :=
  if ip.isLoopback then policy.allowLoopback
  else if ip.isUnspecified then policy.allowUnspecified
  else if ip.isMulticast then policy.allowMulticast
  else if isLinkLocalIp ip then policy.allowLinkLocal
  else if isPrivateIp ip then policy.allowPrivate
  else if isReservedOrSpecialIp ip then false
  else true

def allowsIp (policy : ServerEgressPolicyConfig) (ip : IpAddr) : Bool :=
  policy.allowsCanonical (canonicalizeEgressIp ip)

end ServerEgressPolicyConfig

/-! ## Wrapped addresses -/

/-- The forms in which an IPv6 address carries an IPv4 address. -/
inductive WrapForm where
  | ipv4Mapped
  | ipv4Compatible
  | nat64
  | sixToFour
  | teredo
  deriving DecidableEq, Repr

/-- The IPv6 address is the given form of the IPv4 address.  The octets that a
form leaves open (the subnet and interface of a 6to4 address, the server, flags
and port of a Teredo address) are not constrained. -/
def WrapForm.Wraps : WrapForm → Ipv6Addr → Ipv4Addr → Prop
  | .ipv4Mapped, ip, a =>
    ip = #v[0, 0, 0, 0, 0, 0, 0, 0, 0, 0, 0xff, 0xff, a.first, a.second, a.third, a.fourth]
  | .ipv4Compatible, ip, a =>
    ip = #v[0, 0, 0, 0, 0, 0, 0, 0, 0, 0, 0, 0, a.first, a.second, a.third, a.fourth]
  | .nat64, ip, a =>
    ip = #v[0, 0x64, 0xff, 0x9b, 0, 0, 0, 0, 0, 0, 0, 0, a.first, a.second, a.third, a.fourth]
  | .sixToFour, ip, a =>
    ip[0] = 0x20 ∧ ip[1] = 0x02 ∧ ip[2] = a.first ∧ ip[3] = a.second ∧ ip[4] = a.third
      ∧ ip[5] = a.fourth
  | .teredo, ip, a =>
    ip[0] = 0x20 ∧ ip[1] = 0x01 ∧ ip[2] = 0x00 ∧ ip[3] = 0x00 ∧ ip[12] = ~~~a.first
      ∧ ip[13] = ~~~a.second ∧ ip[14] = ~~~a.third ∧ ip[15] = ~~~a.fourth

instance (form : WrapForm) (ip : Ipv6Addr) (a : Ipv4Addr) : Decidable (form.Wraps ip a) := by
  cases form <;> unfold WrapForm.Wraps <;> infer_instance

variable {ip : Ipv6Addr}

/-- The three forms that begin with a zero octet are excluded by the first octet. -/
theorem not_startsWith_of_head {bytes : List UInt8} (h : ip[0] = 0x20) :
    ¬ ip.startsWith (0 :: bytes) := by
  apply Ipv6Addr.not_startsWith (i := 0)
  · rw [h]
    show (0x20 : UInt8) ≠ 0
    decide
  · exact Nat.succ_pos _

/-- **The decoder finds the wrapped address.**  Only `::` and `::1` are not read
as IPv4-compatible addresses. -/
theorem embeddedIpv4ForEgress_of_wraps {form : WrapForm} {a : Ipv4Addr} (h : form.Wraps ip a)
    (hcompat : form = .ipv4Compatible → a ≠ ⟨0, 0, 0, 0⟩ ∧ a ≠ ⟨0, 0, 0, 1⟩) :
    embeddedIpv4ForEgress ip = some a := by
  cases form with
  | ipv4Mapped | nat64 =>
    subst h
    simp [embeddedIpv4ForEgress, Ipv6Addr.startsWith]
  | ipv4Compatible =>
    subst h
    obtain ⟨h0, h1⟩ := hcompat rfl
    obtain ⟨a0, a1, a2, a3⟩ := a
    simp only [ne_eq, Ipv4Addr.mk.injEq] at h0 h1
    simp [embeddedIpv4ForEgress, Ipv6Addr.startsWith, h0, h1]
  | sixToFour =>
    obtain ⟨h0, h1, h2, h3, h4, h5⟩ := h
    simp [embeddedIpv4ForEgress, List.replicate_succ, not_startsWith_of_head h0, h0, h1, h2, h3,
      h4, h5]
  | teredo =>
    obtain ⟨h0, h1, h2, h3, h12, h13, h14, h15⟩ := h
    have hstart : ip.startsWith [0x20, 0x01, 0x00, 0x00] := by
      apply List.ext_getElem
      · simp
      intro i _ hi
      have hcases : i = 0 ∨ i = 1 ∨ i = 2 ∨ i = 3 := by simp at hi; omega
      rcases hcases with rfl | rfl | rfl | rfl <;> simp [h0, h1, h2, h3]
    simp [embeddedIpv4ForEgress, List.replicate_succ, not_startsWith_of_head h0, h1, hstart, h12,
      h13, h14, h15]

namespace ServerEgressPolicyConfig

variable {ip : Ipv6Addr} {a : Ipv4Addr} {form : WrapForm}

theorem allowsIp_of_embedded (policy : ServerEgressPolicyConfig)
    (h : embeddedIpv4ForEgress ip = some a) : policy.allowsIp (.v6 ip) = policy.allowsIp (.v4 a) := by
  simp [allowsIp, canonicalizeEgressIp, h]

/-- **Wrapping does not change the verdict.** -/
theorem allowsIp_of_wraps (policy : ServerEgressPolicyConfig) (h : form.Wraps ip a)
    (h0 : a ≠ ⟨0, 0, 0, 0⟩) (h1 : a ≠ ⟨0, 0, 0, 1⟩) :
    policy.allowsIp (.v6 ip) = policy.allowsIp (.v4 a) :=
  policy.allowsIp_of_embedded (embeddedIpv4ForEgress_of_wraps h fun _ => ⟨h0, h1⟩)

/-! ## The default policy -/

/-- The IPv4 addresses in a class that the default policy refuses. -/
def isSpecialIpv4 (a : Ipv4Addr) : Bool :=
  a.isLoopback || a.isUnspecified || a.isMulticast || a.isLinkLocal || a.isPrivate
    || isSharedIpv4 a || isReservedOrSpecialIpv4 a

theorem allowsIp_default_v4 (a : Ipv4Addr) :
    ({} : ServerEgressPolicyConfig).allowsIp (.v4 a) = !isSpecialIpv4 a := by
  simp only [allowsIp, canonicalizeEgressIp, allowsCanonical, isSpecialIpv4, IpAddr.isLoopback,
    IpAddr.isUnspecified, IpAddr.isMulticast, isLinkLocalIp, isPrivateIp, isReservedOrSpecialIp]
  grind

/-- **No wrapping of a special address passes the default policy.**  The two
IPv4-compatible forms that are not unwrapped are the IPv6 unspecified and
loopback addresses, which the default policy refuses as such. -/
theorem not_allowsIp_default_of_wraps (h : form.Wraps ip a) (ha : isSpecialIpv4 a = true) :
    ({} : ServerEgressPolicyConfig).allowsIp (.v6 ip) = false := by
  by_cases hcompat : form = .ipv4Compatible → a ≠ ⟨0, 0, 0, 0⟩ ∧ a ≠ ⟨0, 0, 0, 1⟩
  · rw [allowsIp_of_embedded _ (embeddedIpv4ForEgress_of_wraps h hcompat), allowsIp_default_v4, ha]
    rfl
  simp only [Classical.not_imp, not_and_or, ne_eq, not_not] at hcompat
  obtain ⟨rfl, rfl | rfl⟩ := hcompat
  · subst h
    decide
  · subst h
    decide

end ServerEgressPolicyConfig

end Maverick
