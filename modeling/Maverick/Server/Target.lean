import Maverick.Core.Frame
import Maverick.Server.Connect

/-!
# Reaching a target

The three ways in which the server contacts an address that a client has named:
opening a TCP flow (`open_target_inner`), relaying a DNS query and relaying a
UDP packet.  All of them resolve a name, filter the answers by the egress policy
and use only what is left.  What the resolver answers and when, and the result of
every socket operation, are given by the environment.

* `resolveAllowedAddresses_eq_ok` — resolution succeeds exactly when some answer
  is allowed, and then gives the allowed answers.
* `openTarget` — the runs of `open_target_inner`, over the racing connects.
* `Contacts` — an address is contacted, in one of the three ways.
* `egress_enforced` — only allowed answers are contacted, and wrapping an
  address in IPv6 does not get it past the policy.
-/

namespace Maverick
namespace Server

open Lib

section
variable {ε T : Type}

/-! ## Resolution -/

inductive TargetOpenFailureKind where
  | resolutionTimeout
  | resolutionFailure
  | egressPolicyRejected
  | connectTimeout
  | connectFailure
  deriving DecidableEq, Repr

structure TargetOpenFailure (ε : Type) where
  kind : TargetOpenFailureKind
  source : Option (IoError ε) := none

/-- How the resolution of a name ends, under its timeout. -/
inductive Resolution (ε : Type) where
  | timedOut
  | failed (error : IoError ε)
  | answered (addrs : List SocketAddr)

/-- The addresses that the resolver has given. -/
def Resolution.answers : Resolution ε → List SocketAddr
  | timedOut => []
  | failed _ => []
  | answered addrs => addrs

def resolveAllowedAddresses (resolved : Resolution ε) (egress : ServerEgressPolicyConfig) :
    Except (TargetOpenFailure ε) (List SocketAddr) :=
  match resolved with
  | .timedOut => .error { kind := .resolutionTimeout }
  | .failed source => .error { kind := .resolutionFailure, source := some source }
  | .answered resolved =>
    if resolved = [] then .error { kind := .resolutionFailure }
    else
      let allowed := resolved.filter fun addr => egress.allowsIp addr.ip
      if allowed = [] then .error { kind := .egressPolicyRejected }
      else .ok allowed

variable {resolved : Resolution ε} {egress : ServerEgressPolicyConfig} {addrs : List SocketAddr}
  {addr : SocketAddr}

theorem resolveAllowedAddresses_eq_ok :
    resolveAllowedAddresses resolved egress = .ok addrs ↔
      addrs ≠ [] ∧ addrs = resolved.answers.filter fun addr => egress.allowsIp addr.ip := by
  cases resolved with
  | timedOut => simp [resolveAllowedAddresses, Resolution.answers]
  | failed source => simp [resolveAllowedAddresses, Resolution.answers]
  | answered resolved =>
    rw [resolveAllowedAddresses, Resolution.answers]
    by_cases hempty : resolved = []
    · simp [hempty]
    rw [if_neg hempty]
    dsimp only
    split
    · next hnone => simp [hnone]
    next hsome =>
      rw [Except.ok.injEq]
      refine ⟨?_, fun h => h.2.symm⟩
      intro h
      exact ⟨h ▸ hsome, h.symm⟩

theorem mem_of_resolveAllowedAddresses (h : resolveAllowedAddresses resolved egress = .ok addrs)
    (hmem : addr ∈ addrs) : addr ∈ resolved.answers ∧ egress.allowsIp addr.ip = true := by
  rw [(resolveAllowedAddresses_eq_ok.mp h).2] at hmem
  exact List.mem_filter.mp hmem

/-! ## TCP flows -/

/-- Where `open_target_inner` stands; the resolver's answer is remembered. -/
inductive OpenTarget (ε T : Type) where
  | resolving
  | connecting (resolved : Resolution ε) (c : Connecting ε T)
  | finished (resolved : Resolution ε) (started : List ConnectCandidate)
      (result : Except (TargetOpenFailure ε) T)

inductive OpenTargetEvent (ε T : Type) where
  | resolved (resolution : Resolution ε)
  | connect (event : ConnectEvent ε T)
  | connectTimeout

namespace OpenTarget

/-- What the resolver has answered so far. -/
def answers : OpenTarget ε T → List SocketAddr
  | resolving => []
  | connecting resolved _ => resolved.answers
  | finished resolved _ _ => resolved.answers

/-- The addresses to which a connection attempt has been made. -/
def contacted : OpenTarget ε T → List SocketAddr
  | resolving => []
  | connecting _ c => c.started.map ConnectCandidate.addr
  | finished _ started _ => started.map ConnectCandidate.addr

/-- `connect_with_timeout`, once the inner call has moved. -/
def settle (resolved : Resolution ε) (c : Connecting ε T) : OpenTarget ε T :=
  match c.attempts with
  | .returned (.ok connected) => .finished resolved c.started (.ok connected)
  | .returned (.error source) =>
    .finished resolved c.started
      (.error { kind := .connectFailure, source := some source })
  | _ => .connecting resolved c

def next (egress : ServerEgressPolicyConfig) :
    OpenTarget ε T → OpenTargetEvent ε T → Option (OpenTarget ε T)
  | .resolving, .resolved resolution =>
    match resolveAllowedAddresses resolution egress with
    | .error failure => some (.finished resolution [] (.error failure))
    | .ok addrs => some (settle resolution (connectTargetAddresses addrs))
  | .connecting resolved c, .connect event => (c.next event).map (settle resolved)
  | .connecting resolved c, .connectTimeout =>
    some (.finished resolved c.started (.error { kind := .connectTimeout }))
  | _, _ => none

end OpenTarget

/-- The runs of `open_target_inner`. -/
def openTarget (egress : ServerEgressPolicyConfig) :
    System (OpenTarget ε T) (OpenTargetEvent ε T) where
  start := .resolving
  next := OpenTarget.next egress

namespace OpenTarget

variable {egress : ServerEgressPolicyConfig}

/-- Everything that a call has contacted or may still contact is an allowed
answer of the resolver. -/
def Filtered (egress : ServerEgressPolicyConfig) : OpenTarget ε T → Prop
  | resolving => True
  | connecting resolved c =>
    ∀ k ∈ c.order, k.addr ∈ resolved.answers ∧ egress.allowsIp k.addr.ip = true
  | finished resolved started _ =>
    ∀ k ∈ started, k.addr ∈ resolved.answers ∧ egress.allowsIp k.addr.ip = true

theorem filtered_settle {resolved : Resolution ε} {c : Connecting ε T}
    (h : ∀ k ∈ c.order, k.addr ∈ resolved.answers ∧ egress.allowsIp k.addr.ip = true) :
    (settle resolved c).Filtered egress := by
  have hstarted : ∀ k ∈ c.started, k.addr ∈ resolved.answers ∧ egress.allowsIp k.addr.ip = true :=
    fun k hk => h k (List.mem_append_left _ hk)
  unfold settle
  split
  exacts [hstarted, hstarted, h]

variable {s : OpenTarget ε T}

theorem filtered_next {s' : OpenTarget ε T} {e : OpenTargetEvent ε T} (hs : s.Filtered egress)
    (h : s.next egress e = some s') : s'.Filtered egress := by
  unfold next at h
  split at h
  · split at h
    · cases h
      intro k hk
      cases hk
    next addrs haddrs =>
      cases h
      apply filtered_settle
      intro k hk
      rw [order_connectTargetAddresses] at hk
      exact mem_of_resolveAllowedAddresses haddrs (addr_mem_of_mem_connectOrder hk)
  · obtain ⟨c', hnext, rfl⟩ := Option.map_eq_some_iff.mp h
    apply filtered_settle
    intro k hk
    exact hs k ((Connecting.next_order hnext).subset hk)
  · cases h
    intro k hk
    exact hs k (List.mem_append_left _ hk)
  · cases h

/-- **A flow contacts only allowed answers.** -/
theorem contacted_allowed (h : (openTarget egress).Reach s) {addr : SocketAddr}
    (hmem : addr ∈ s.contacted) : addr ∈ s.answers ∧ egress.allowsIp addr.ip = true := by
  have hs : s.Filtered egress := by
    refine h.invariant (I := fun s => s.Filtered egress) trivial ?_
    intro s e s' hs _ hnext
    exact filtered_next hs hnext
  cases s with
  | resolving => cases hmem
  | connecting resolved c =>
    obtain ⟨k, hk, rfl⟩ := List.mem_map.mp hmem
    exact hs k (List.mem_append_left _ hk)
  | finished resolved started result =>
    obtain ⟨k, hk, rfl⟩ := List.mem_map.mp hmem
    exact hs k hk

end OpenTarget

/-! ## Datagrams -/

/-- How the operations of a datagram exchange end: binding a socket, connecting
it, sending, and receiving under the timeout. -/
structure UdpIo (ε : Type) where
  bind : Except (IoError ε) Unit
  connect : Except (IoError ε) Unit
  send : Except (IoError ε) Unit
  /-- `none` when the timeout passes first -/
  recv : Option (Except (IoError ε) Bytes)

inductive RelayFailure (ε : Type) where
  | resolve (failure : TargetOpenFailure ε)
  | context (message : String)
  | io (error : IoError ε)

/-- A datagram exchange: what was sent where, and the result. -/
structure Exchange (ε α : Type) where
  sent : List (SocketAddr × Bytes)
  result : Except (RelayFailure ε) α

def firstAllowedAddr (resolved : Resolution ε) (egress : ServerEgressPolicyConfig) :
    Except (RelayFailure ε) SocketAddr :=
  match resolveAllowedAddresses resolved egress with
  | .error failure => .error (.resolve failure)
  | .ok [] => .error (.context "allowed address set unexpectedly empty")
  | .ok (addr :: _) => .ok addr

/-- The body that the DNS and the UDP relay share.  A failed `send` may have put
the datagram on the wire, so it counts as sent. -/
def exchangeDatagram (data : Bytes) (timedOut : String) (resolved : Resolution ε) (io : UdpIo ε)
    (egress : ServerEgressPolicyConfig) : Exchange ε Bytes :=
  match firstAllowedAddr resolved egress with
  | .error failure => ⟨[], .error failure⟩
  | .ok target =>
    match io.bind, io.connect with
    | .error error, _ => ⟨[], .error (.io error)⟩
    | .ok _, .error error => ⟨[], .error (.io error)⟩
    | .ok _, .ok _ =>
      match io.send, io.recv with
      | .error error, _ => ⟨[(target, data)], .error (.io error)⟩
      | .ok _, none => ⟨[(target, data)], .error (.context timedOut)⟩
      | .ok _, some (.error error) => ⟨[(target, data)], .error (.io error)⟩
      | .ok _, some (.ok reply) => ⟨[(target, data)], .ok reply⟩

def relayDnsQuery (query : Bytes) (resolved : Resolution ε) (io : UdpIo ε)
    (egress : ServerEgressPolicyConfig) : Exchange ε Bytes :=
  exchangeDatagram query "DNS upstream timed out" resolved io egress

def relayUdpPacket (packet : UdpPacketPayload) (resolved : Resolution ε) (io : UdpIo ε)
    (egress : ServerEgressPolicyConfig) : Exchange ε UdpPacketPayload :=
  let exchange := exchangeDatagram packet.data "UDP target timed out" resolved io egress
  ⟨exchange.sent, exchange.result.map fun reply => ⟨packet.target, packet.port, reply⟩⟩

theorem mem_of_firstAllowedAddr (h : firstAllowedAddr resolved egress = .ok addr) :
    addr ∈ resolved.answers ∧ egress.allowsIp addr.ip = true := by
  unfold firstAllowedAddr at h
  split at h
  · cases h
  · cases h
  next hallowed =>
    cases h
    exact mem_of_resolveAllowedAddresses hallowed (List.mem_cons_self ..)

/-- **A datagram goes to an allowed answer.** -/
theorem sent_allowed {data : Bytes} {timedOut : String} {io : UdpIo ε} {datagram : Bytes}
    (h : (addr, datagram) ∈ (exchangeDatagram data timedOut resolved io egress).sent) :
    addr ∈ resolved.answers ∧ egress.allowsIp addr.ip = true := by
  unfold exchangeDatagram at h
  split at h
  · cases h
  next target htarget =>
    have haddr : addr = target := by
      split at h
      · cases h
      · cases h
      · split at h <;> simp_all
    rw [haddr]
    exact mem_of_firstAllowedAddr htarget

/-- The refused answer is passed over; the allowed one is used. -/
example :
    (relayDnsQuery (ε := Unit) [1]
      (.answered [⟨.v4 ⟨127, 0, 0, 1⟩, 53⟩, ⟨.v4 ⟨8, 8, 8, 8⟩, 53⟩])
      ⟨.ok (), .ok (), .ok (), none⟩ {}).sent = [(⟨.v4 ⟨8, 8, 8, 8⟩, 53⟩, [1])] := by
  decide

end

/-! ## The policy holds end to end -/

/-- The server contacts the address, having been given these answers: it opens a
TCP connection to it, or sends a DNS query or a UDP packet to it. -/
inductive Contacts (egress : ServerEgressPolicyConfig) : List SocketAddr → SocketAddr → Prop where
  | tcp {ε T : Type} {s : OpenTarget ε T} {addr : SocketAddr} :
      (openTarget egress).Reach s → addr ∈ s.contacted → Contacts egress s.answers addr
  | dns {ε : Type} {query datagram : Bytes} {resolved : Resolution ε} {io : UdpIo ε}
      {addr : SocketAddr} : (addr, datagram) ∈ (relayDnsQuery query resolved io egress).sent →
      Contacts egress resolved.answers addr
  | udp {ε : Type} {packet : UdpPacketPayload} {datagram : Bytes} {resolved : Resolution ε}
      {io : UdpIo ε} {addr : SocketAddr} :
      (addr, datagram) ∈ (relayUdpPacket packet resolved io egress).sent →
      Contacts egress resolved.answers addr

theorem Contacts.allowed {egress : ServerEgressPolicyConfig} {answers : List SocketAddr}
    {addr : SocketAddr} (h : Contacts egress answers addr) :
    addr ∈ answers ∧ egress.allowsIp addr.ip = true := by
  cases h with
  | tcp hreach hmem => exact OpenTarget.contacted_allowed hreach hmem
  | dns hmem => exact sent_allowed hmem
  | udp hmem => exact sent_allowed hmem

/-- **The egress policy is enforced end to end.**  Every address the server
contacts is an answer of the resolver that the policy allows.  The policy judges
each of the five IPv6 forms of an IPv4 address as the address itself, whatever
the open octets hold.  So under the default policy no contacted address carries
a special IPv4 address. -/
theorem egress_enforced :
    (∀ (egress : ServerEgressPolicyConfig) (answers : List SocketAddr) (addr : SocketAddr),
      Contacts egress answers addr → addr ∈ answers ∧ egress.allowsIp addr.ip = true) ∧
    (∀ (egress : ServerEgressPolicyConfig) (a : Ipv4Addr), a ≠ ⟨0, 0, 0, 0⟩ → a ≠ ⟨0, 0, 0, 1⟩ →
      ∀ (form : WrapForm) (ip : Ipv6Addr), form.Wraps ip a →
        egress.allowsIp (.v6 ip) = egress.allowsIp (.v4 a)) ∧
    (∀ (answers : List SocketAddr) (addr : SocketAddr), Contacts {} answers addr →
      ∀ a : Ipv4Addr, ServerEgressPolicyConfig.isSpecialIpv4 a = true →
        addr.ip ≠ .v4 a ∧
        ∀ (form : WrapForm) (ip : Ipv6Addr), form.Wraps ip a → addr.ip ≠ .v6 ip) := by
  refine ⟨fun _ _ _ h => h.allowed, ?_, ?_⟩
  · intro egress a h0 h1 form ip hwraps
    exact egress.allowsIp_of_wraps hwraps h0 h1
  intro answers addr hcontacts a ha
  have hallowed := hcontacts.allowed.2
  refine ⟨?_, ?_⟩
  · intro hip
    rw [hip, ServerEgressPolicyConfig.allowsIp_default_v4, ha] at hallowed
    cases hallowed
  intro form ip hwraps hip
  rw [hip, ServerEgressPolicyConfig.not_allowsIp_default_of_wraps hwraps ha] at hallowed
  cases hallowed

end Server
end Maverick
