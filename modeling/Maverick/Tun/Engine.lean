import Maverick.Core.Egress
import Maverick.Lib.Bytes
import Maverick.Lib.Slots

/-!
# The packet engine

The packet runtime hands packets to the `smoltcp` engine and reads and writes the
sockets of the engine.  The engine itself is not part of the repository: what one
of its polls does to a socket is chosen by the environment, within the moves that
`TcpSocket.polls` and `UdpSocket.polls` allow.  The operations of a socket that
the runtime calls and the device between the two are modelled as they are.

* `Engine.poll` — a poll as a sequence of steps: a packet taken from the device and
  given to a socket, a packet put into it, a timer of a socket.
* `Engine.poll_invariant` — what every step of a poll keeps, the poll keeps.
* `Engine.kind_poll` — a poll changes no socket into one of the other kind, and
  neither opens nor removes one.
-/

namespace Maverick
namespace Tun

open Lib

/-! ## Packets

A packet is its length and what the engine's header views read out of its bytes. -/

structure TcpHeader where
  srcPort : UInt16
  dstPort : UInt16
  syn : Bool
  ack : Bool
  rst : Bool
  deriving DecidableEq, Repr

/-- The payload of an IP packet, by its protocol number. -/
inductive Transport where
  /-- `TcpPacket::new_checked`, where it accepts the payload. -/
  | tcp (header : Option TcpHeader)
  /-- The length of the payload, whether `UdpPacket::new_checked` accepts it, and
  the two ports at its start. -/
  | udp (length : Nat) (checked : Bool) (srcPort dstPort : UInt16)
  | other
  deriving DecidableEq, Repr

inductive IpHeader where
  | v4 (source destination : Ipv4Addr) (fragOffset : Nat) (moreFrags : Bool)
  | v6 (source destination : Ipv6Addr)
  deriving DecidableEq, Repr

structure Packet where
  length : Nat
  /-- The header, where the version is 4 or 6 and `new_checked` accepts the packet. -/
  header : Option IpHeader
  transport : Transport
  deriving DecidableEq, Repr

/-- The address that a SYN comes from and the address it goes to. -/
def Packet.syn (packet : Packet) : Option (SocketAddr × SocketAddr) :=
  match packet.header, packet.transport with
  | some (.v4 source destination 0 _), .tcp (some header) =>
    if header.syn && !header.ack && !header.rst then
      some (⟨.v4 source, header.srcPort⟩, ⟨.v4 destination, header.dstPort⟩)
    else none
  | some (.v6 source destination), .tcp (some header) =>
    if header.syn && !header.ack && !header.rst then
      some (⟨.v6 source, header.srcPort⟩, ⟨.v6 destination, header.dstPort⟩)
    else none
  | _, _ => none

/-- The ends of an IPv4 packet that is a part of a larger one. -/
def Packet.fragment (packet : Packet) : Option (Ipv4Addr × Ipv4Addr) :=
  match packet.header with
  | some (.v4 source destination offset more) =>
    if offset = 0 ∧ more = false then none else some (source, destination)
  | _ => none

/-- The engine may read this SYN out of the packet.  A fragment may complete any segment between
its two addresses. -/
def Packet.mayCarry (packet : Packet) (source destination : SocketAddr) : Bool :=
  match packet.fragment with
  | none => packet.syn == some (source, destination)
  | some (sourceIp, destinationIp) =>
    source.ip == .v4 sourceIp && destination.ip == .v4 destinationIp

/-! ## TCP sockets -/

inductive TcpState where
  | closed
  | listen
  | synSent
  | synReceived
  | established
  | finWait1
  | finWait2
  | closeWait
  | closing
  | lastAck
  | timeWait
  deriving DecidableEq, Repr

/-- The states that a segment or a timer takes a socket to, besides its own. -/
def TcpState.successors : TcpState → List TcpState
  | .closed => []
  -- only a SYN moves a listening socket
  | .listen => [.synReceived]
  | .synSent => [.established, .synReceived, .closed]
  -- a reset returns the socket to the state it was opened in
  | .synReceived => [.established, .closeWait, .listen, .closed]
  | .established => [.closeWait, .closed]
  | .finWait1 => [.finWait2, .closing, .timeWait, .closed]
  | .finWait2 => [.timeWait, .closed]
  | .closeWait => [.closed]
  | .closing => [.timeWait, .closed]
  | .lastAck => [.closed]
  | .timeWait => [.closed]

/-- The states in which the engine takes bytes of the application. -/
def TcpState.takesData : TcpState → Bool
  | .synReceived | .established | .finWait1 | .finWait2 => true
  | _ => false

structure TcpSocket where
  listenEndpoint : SocketAddr
  /-- The other end, while the socket belongs to a connection. -/
  remote : Option SocketAddr
  state : TcpState
  /-- Received bytes that the runtime has not read yet. -/
  rx : Bytes
  /-- Bytes that the engine has not sent, or that are not acknowledged yet. -/
  tx : Bytes
  /-- The size of each of the two buffers. -/
  capacity : Nat
  /-- Everything that the application has sent on the connection; no operation of the
  socket reads it. -/
  received : Bytes
  deriving DecidableEq, Repr

namespace TcpSocket

/-- `Socket::new` and `listen`; port 0 is not an address to listen on. -/
def listen (capacity : Nat) (endpoint : SocketAddr) : Option TcpSocket :=
  if endpoint.port = 0 then none else some ⟨endpoint, none, .listen, [], [], capacity, []⟩

def isActive (socket : TcpSocket) : Bool :=
  match socket.state with
  | .closed | .timeWait | .listen => false
  | _ => true

def maySend (socket : TcpSocket) : Bool :=
  socket.state == .established || socket.state == .closeWait

def canSend (socket : TcpSocket) : Bool :=
  socket.maySend && decide (socket.tx.length < socket.capacity)

/-- `may_recv` holds whenever the receive buffer is not empty. -/
def canRecv (socket : TcpSocket) : Bool := !socket.rx.isEmpty

def close (socket : TcpSocket) : TcpSocket :=
  match socket.state with
  | .listen | .synSent => { socket with state := .closed }
  | .synReceived | .established => { socket with state := .finWait1 }
  | .closeWait => { socket with state := .lastAck }
  | _ => socket

def abort (socket : TcpSocket) : TcpSocket := { socket with state := .closed }

/-- As much of `data` as the transmit buffer has room for, and how much that is. -/
def sendSlice (socket : TcpSocket) (data : Bytes) : Option (TcpSocket × Nat) :=
  if socket.maySend then
    let written := min data.length (socket.capacity - socket.tx.length)
    some ({ socket with tx := socket.tx ++ data.take written }, written)
  else
    none

/-- Up to `amount` bytes of the receive buffer. -/
def recvSlice (socket : TcpSocket) (amount : Nat) : TcpSocket × Bytes :=
  ({ socket with rx := socket.rx.drop amount }, socket.rx.take amount)

/-- The two ends after a move of the engine: a listening socket gets the source of a
SYN to its address, and as long as the connection lasts both ends stay.  A closed
socket may have forgotten the connection. -/
def endsKept (packet : Option Packet) (socket socket' : TcpSocket) : Bool :=
  match socket.state, socket'.state with
  | _, .closed =>
    socket'.remote == none ||
      (socket'.remote == socket.remote && socket'.listenEndpoint == socket.listenEndpoint)
  | .listen, .synReceived =>
    socket'.listenEndpoint == socket.listenEndpoint && packet.any fun packet =>
      socket'.remote.any fun source => packet.mayCarry source socket.listenEndpoint
  | .synReceived, .listen =>
    socket'.listenEndpoint == socket.listenEndpoint && socket'.remote == none
  | _, _ => socket'.listenEndpoint == socket.listenEndpoint && socket'.remote == socket.remote

/-- Bytes of the application go to the end of the receive buffer, and none come after
its FIN.  A socket that leaves TIME-WAIT is emptied. -/
def receivedKept (socket socket' : TcpSocket) : Bool :=
  socket.received.isPrefixOf socket'.received &&
    (socket.state.takesData || socket'.received == socket.received) &&
    (socket'.rx == socket.rx ++ socket'.received.drop socket.received.length ||
      (socket.state == .timeWait && socket'.state == .closed && socket'.rx.isEmpty))

/-- One move of the engine, with the packet that caused it if there is one: at most
one transition of the state machine, bytes added to the receive buffer, bytes taken
from the front of the transmit buffer. -/
def polls (packet : Option Packet) (socket socket' : TcpSocket) : Bool :=
  socket'.capacity == socket.capacity &&
    (socket'.state == socket.state || socket.state.successors.contains socket'.state) &&
    endsKept packet socket socket' && receivedKept socket socket' &&
    decide (socket'.rx.length ≤ socket'.capacity) && socket'.tx.isSuffixOf socket.tx

end TcpSocket

/-! ## UDP sockets -/

structure UdpSocket where
  endpoint : SocketAddr
  /-- Received datagrams with the address they came from. -/
  rx : List (SocketAddr × Bytes)
  /-- Datagrams to be sent with the address they go to. -/
  tx : List (SocketAddr × Bytes)
  messageDepth : Nat
  bufferBytes : Nat
  deriving DecidableEq, Repr

namespace UdpSocket

def bind (messageDepth bufferBytes : Nat) (endpoint : SocketAddr) : Option UdpSocket :=
  if endpoint.port = 0 then none else some ⟨endpoint, [], [], messageDepth, bufferBytes⟩

def payloadBytes (datagrams : List (SocketAddr × Bytes)) : Nat :=
  (datagrams.map fun d => d.2.length).sum

def canSend (socket : UdpSocket) : Bool := decide (socket.tx.length < socket.messageDepth)

/-- `send_slice`; it fails on a destination that cannot be addressed and when
the datagram does not fit. -/
def sendSlice (socket : UdpSocket) (payload : Bytes) (destination : SocketAddr) :
    Option UdpSocket :=
  if destination.port = 0 || destination.ip.isUnspecified then none
  else if socket.canSend &&
      decide (payloadBytes socket.tx + payload.length ≤ socket.bufferBytes) then
    some { socket with tx := socket.tx ++ [(destination, payload)] }
  else none

/-- One move of the engine: datagrams added to the receive buffer and taken from
the front of the transmit buffer. -/
def polls (socket socket' : UdpSocket) : Bool :=
  socket'.endpoint == socket.endpoint && socket'.messageDepth == socket.messageDepth &&
    socket'.bufferBytes == socket.bufferBytes &&
    socket.rx.isPrefixOf socket'.rx && decide (socket'.rx.length ≤ socket'.messageDepth) &&
    decide (payloadBytes socket'.rx ≤ socket'.bufferBytes) && socket'.tx.isSuffixOf socket.tx

end UdpSocket

/-! ## The socket set -/

inductive Socket where
  | tcp (socket : TcpSocket)
  | udp (socket : UdpSocket)
  deriving DecidableEq, Repr

inductive SocketKind where
  | tcp
  | udp
  deriving DecidableEq, Repr

namespace Socket

/-- `recv_queue() + send_queue()`. -/
def queuedBytes : Socket → Nat
  | tcp socket => socket.rx.length + socket.tx.length
  | udp socket => UdpSocket.payloadBytes socket.rx + UdpSocket.payloadBytes socket.tx

def kind : Socket → SocketKind
  | tcp _ => .tcp
  | udp _ => .udp

def polls (packet : Option Packet) : Socket → Socket → Bool
  | tcp socket, tcp socket' => socket.polls packet socket'
  | udp socket, udp socket' => socket.polls socket'
  | _, _ => false

def mapTcp (f : TcpSocket → TcpSocket) : Socket → Socket
  | tcp socket => tcp (f socket)
  | udp socket => udp socket

def mapUdp (f : UdpSocket → UdpSocket) : Socket → Socket
  | tcp socket => tcp socket
  | udp socket => udp (f socket)

@[simp] theorem kind_mapTcp (f : TcpSocket → TcpSocket) (socket : Socket) :
    (socket.mapTcp f).kind = socket.kind := by
  cases socket <;> rfl

@[simp] theorem kind_mapUdp (f : UdpSocket → UdpSocket) (socket : Socket) :
    (socket.mapUdp f).kind = socket.kind := by
  cases socket <;> rfl

theorem kind_eq_of_polls {packet : Option Packet} {socket socket' : Socket}
    (h : socket.polls packet socket') :
    socket'.kind = socket.kind := by
  cases socket <;> cases socket' <;> first | rfl | cases h

end Socket

abbrev SocketHandle := Nat

abbrev SocketSet := Slots Socket

namespace SocketSet

def tcp (sockets : SocketSet) (handle : SocketHandle) : Option TcpSocket :=
  match sockets.get handle with
  | some (.tcp socket) => some socket
  | _ => none

def udp (sockets : SocketSet) (handle : SocketHandle) : Option UdpSocket :=
  match sockets.get handle with
  | some (.udp socket) => some socket
  | _ => none

def modifyTcp (sockets : SocketSet) (handle : SocketHandle) (f : TcpSocket → TcpSocket) :
    SocketSet :=
  sockets.modify handle (Socket.mapTcp f)

def modifyUdp (sockets : SocketSet) (handle : SocketHandle) (f : UdpSocket → UdpSocket) :
    SocketSet :=
  sockets.modify handle (Socket.mapUdp f)

/-- The bytes in the buffers of a socket. -/
def queuedBytes (sockets : SocketSet) (handle : SocketHandle) : Nat :=
  ((sockets.get handle).map Socket.queuedBytes).getD 0

/-- What kind of socket a handle refers to. -/
def kind (sockets : SocketSet) (handle : SocketHandle) : Option SocketKind :=
  (sockets.get handle).map Socket.kind

@[simp] theorem kind_modifyTcp (sockets : SocketSet) (h : SocketHandle)
    (f : TcpSocket → TcpSocket) : (modifyTcp sockets h f).kind = sockets.kind := by
  funext g
  simp only [kind, modifyTcp, Slots.get_modify]
  split
  · cases sockets.get g <;> simp
  · rfl

@[simp] theorem kind_modifyUdp (sockets : SocketSet) (h : SocketHandle)
    (f : UdpSocket → UdpSocket) : (modifyUdp sockets h f).kind = sockets.kind := by
  funext g
  simp only [kind, modifyUdp, Slots.get_modify]
  split
  · cases sockets.get g <;> simp
  · rfl

theorem kind_add (sockets : SocketSet) (socket : Socket) (h : SocketHandle) :
    SocketSet.kind (sockets.add socket).1 h =
      if h = (sockets.add socket).2 then some socket.kind else sockets.kind h := by
  simp only [kind, Slots.get_add]
  split <;> rfl

theorem kind_add_handle (sockets : SocketSet) (socket : Socket) :
    sockets.kind (sockets.add socket).2 = none := by
  rw [kind, Slots.get_add_handle]
  rfl

theorem kind_remove (sockets : SocketSet) (h g : SocketHandle) :
    SocketSet.kind (sockets.remove h) g = if g = h then none else sockets.kind g := by
  simp only [kind, Slots.get_remove]
  split <;> rfl

variable {sockets sockets' : SocketSet} {g h : SocketHandle}

theorem get_modifyTcp_of_ne (hne : g ≠ h) (f : TcpSocket → TcpSocket) :
    (modifyTcp sockets h f).get g = sockets.get g := by
  rw [modifyTcp, Slots.get_modify, if_neg hne]

theorem tcp_eq_some {socket : TcpSocket} :
    sockets.tcp h = some socket ↔ sockets.get h = some (.tcp socket) := by
  unfold tcp
  rcases sockets.get h with _ | _ | _ <;> simp

theorem udp_eq_some {socket : UdpSocket} :
    sockets.udp h = some socket ↔ sockets.get h = some (.udp socket) := by
  unfold udp
  rcases sockets.get h with _ | _ | _ <;> simp

theorem tcp_modifyTcp (sockets : SocketSet) (h : SocketHandle) (f : TcpSocket → TcpSocket)
    (g : SocketHandle) :
    (modifyTcp sockets h f).tcp g = if g = h then (sockets.tcp g).map f else sockets.tcp g := by
  simp only [tcp, modifyTcp, Slots.get_modify]
  by_cases hg : g = h <;> rcases sockets.get g with _ | _ | _ <;> simp [hg, Socket.mapTcp]

@[simp] theorem tcp_modifyUdp (sockets : SocketSet) (h : SocketHandle) (f : UdpSocket → UdpSocket)
    (g : SocketHandle) : (modifyUdp sockets h f).tcp g = sockets.tcp g := by
  simp only [tcp, modifyUdp, Slots.get_modify]
  by_cases hg : g = h <;> rcases sockets.get g with _ | _ | _ <;> simp [hg, Socket.mapUdp]

theorem tcp_add (sockets : SocketSet) (socket : Socket) {t : TcpSocket}
    (hg : sockets.tcp g = some t) : SocketSet.tcp (sockets.add socket).1 g = some t :=
  tcp_eq_some.mpr (Slots.get_add_of_get (tcp_eq_some.mp hg) socket)

theorem tcp_remove_of_ne (hne : g ≠ h) : SocketSet.tcp (sockets.remove h) g = sockets.tcp g := by
  rw [tcp, Slots.get_remove, if_neg hne, tcp]

theorem udp_modifyUdp (sockets : SocketSet) (h : SocketHandle) (f : UdpSocket → UdpSocket)
    (g : SocketHandle) :
    (modifyUdp sockets h f).udp g = if g = h then (sockets.udp g).map f else sockets.udp g := by
  simp only [udp, modifyUdp, Slots.get_modify]
  by_cases hg : g = h <;> rcases sockets.get g with _ | _ | _ <;> simp [hg, Socket.mapUdp]

@[simp] theorem udp_modifyTcp (sockets : SocketSet) (h : SocketHandle) (f : TcpSocket → TcpSocket)
    (g : SocketHandle) : (modifyTcp sockets h f).udp g = sockets.udp g := by
  simp only [udp, modifyTcp, Slots.get_modify]
  by_cases hg : g = h <;> rcases sockets.get g with _ | _ | _ <;> simp [hg, Socket.mapTcp]

theorem udp_add (sockets : SocketSet) (socket : Socket) {t : UdpSocket}
    (hg : sockets.udp g = some t) : SocketSet.udp (sockets.add socket).1 g = some t :=
  udp_eq_some.mpr (Slots.get_add_of_get (udp_eq_some.mp hg) socket)

theorem udp_remove_of_ne (hne : g ≠ h) : SocketSet.udp (sockets.remove h) g = sockets.udp g := by
  rw [udp, Slots.get_remove, if_neg hne, udp]

theorem exists_udp (hkind : sockets.kind h = some .udp) :
    ∃ socket, sockets.udp h = some socket := by
  obtain ⟨socket, hget, hsocket⟩ := Option.map_eq_some_iff.mp hkind
  cases socket with
  | tcp socket => cases hsocket
  | udp socket => exact ⟨socket, udp_eq_some.mpr hget⟩

end SocketSet

/-! ## The device -/

structure BoundedDevice where
  incoming : List Packet
  outgoing : List Packet
  queueLimit : Nat
  mtu : Nat
  deriving DecidableEq, Repr

namespace BoundedDevice

def new (mtu queueLimit : Nat) : BoundedDevice := ⟨[], [], queueLimit, mtu⟩

def tryAdmit (device : BoundedDevice) (packet : Packet) : Option BoundedDevice :=
  if device.incoming.length ≥ device.queueLimit then none
  else some { device with incoming := device.incoming ++ [packet] }

def takeOutgoing (device : BoundedDevice) : Option (Packet × BoundedDevice) :=
  match device.outgoing with
  | [] => none
  | packet :: rest => some (packet, { device with outgoing := rest })

def putOutgoingFront (device : BoundedDevice) (packet : Packet) : BoundedDevice :=
  { device with outgoing := packet :: device.outgoing }

theorem putOutgoingFront_of_take {device device' : BoundedDevice} {packet : Packet}
    (h : device.takeOutgoing = some (packet, device')) : device'.putOutgoingFront packet = device := by
  obtain ⟨incoming, outgoing, queueLimit, mtu⟩ := device
  cases outgoing with
  | nil => cases h
  | cons first rest =>
    cases h
    rfl

def bufferedBytes (device : BoundedDevice) : Nat :=
  ((device.incoming ++ device.outgoing).map Packet.length).sum

def isEmpty (device : BoundedDevice) : Bool := device.incoming.isEmpty && device.outgoing.isEmpty

/-- `receive`: the engine gets the first packet, and with it the right to send one. -/
def receive (device : BoundedDevice) : Option (Packet × BoundedDevice) :=
  if device.outgoing.length ≥ device.queueLimit then none
  else
    match device.incoming with
    | [] => none
    | packet :: rest => some (packet, { device with incoming := rest })

/-- `transmit`, with the packet that the engine puts into the token. -/
def transmit (device : BoundedDevice) (packet : Packet) : Option BoundedDevice :=
  if device.outgoing.length ≥ device.queueLimit then none
  else some { device with outgoing := device.outgoing ++ [packet] }

end BoundedDevice

/-! ## Polling -/

/-- What the interface does to the device and the sockets: it takes a packet and gives
it to one socket or to none, it sends a packet, or a timer of a socket runs out. -/
inductive PollStep where
  | receive (delivered : Option (SocketHandle × Socket))
  | transmit (packet : Packet)
  | socket (handle : SocketHandle) (after : Socket)
  deriving DecidableEq, Repr

structure Engine where
  device : BoundedDevice
  sockets : SocketSet
  deriving DecidableEq, Repr

namespace Engine

/-- One socket makes a move. -/
def move (engine : Engine) (packet : Option Packet) (handle : SocketHandle) (after : Socket) :
    Option Engine :=
  match engine.sockets.get handle with
  | none => none
  | some socket =>
    if socket.polls packet after then
      some { engine with sockets := engine.sockets.modify handle fun _ => after }
    else none

def pollStep (engine : Engine) : PollStep → Option Engine
  | .receive delivered =>
    match engine.device.receive with
    | none => none
    | some (packet, device) =>
      match delivered with
      | none => some { engine with device := device }
      | some (handle, after) => { engine with device := device }.move packet handle after
  | .transmit packet =>
    -- the engine keeps to the MTU in the capabilities of the device
    if packet.length ≤ engine.device.mtu then
      (engine.device.transmit packet).map fun device => { engine with device := device }
    else none
  | .socket handle after => engine.move none handle after

/-- `interface.poll`. -/
def poll : Engine → List PollStep → Option Engine
  | engine, [] => some engine
  | engine, step :: steps =>
    match engine.pollStep step with
    | none => none
    | some engine' => poll engine' steps

/-- The sockets after the move of one of them, or of none. -/
inductive Moved (packet : Option Packet) (sockets : SocketSet) :
    Option (SocketHandle × Socket) → SocketSet → Prop where
  | none : Moved packet sockets none sockets
  | one {handle : SocketHandle} {socket after : Socket} : sockets.get handle = some socket →
      socket.polls packet after →
      Moved packet sockets (some (handle, after)) (sockets.modify handle fun _ => after)

/-- What one step of a poll can do. -/
inductive PollEffect (engine : Engine) : PollStep → Engine → Prop where
  | receive {packet : Packet} {rest : List Packet} {delivered : Option (SocketHandle × Socket)}
      {sockets : SocketSet} : engine.device.incoming = packet :: rest →
      engine.device.outgoing.length < engine.device.queueLimit →
      Moved (some packet) engine.sockets delivered sockets →
      PollEffect engine (.receive delivered) ⟨{ engine.device with incoming := rest }, sockets⟩
  | transmit {packet : Packet} : engine.device.outgoing.length < engine.device.queueLimit →
      packet.length ≤ engine.device.mtu →
      PollEffect engine (.transmit packet)
        ⟨{ engine.device with outgoing := engine.device.outgoing ++ [packet] }, engine.sockets⟩
  | timer {handle : SocketHandle} {after : Socket} {sockets : SocketSet} :
      Moved none engine.sockets (some (handle, after)) sockets →
      PollEffect engine (.socket handle after) ⟨engine.device, sockets⟩

variable {engine engine' : Engine} {packet : Option Packet} {handle : SocketHandle}
  {steps : List PollStep} {sockets sockets' : SocketSet}
  {delivered : Option (SocketHandle × Socket)}

theorem move_moved {after : Socket} (h : engine.move packet handle after = some engine') :
    ∃ sockets, Moved packet engine.sockets (some (handle, after)) sockets ∧
      engine' = ⟨engine.device, sockets⟩ := by
  unfold move at h
  split at h
  · cases h
  rename_i hget
  obtain ⟨hp, h⟩ := Option.ite_none_right_eq_some.mp h
  exact ⟨_, .one hget hp, (Option.some.inj h).symm⟩

theorem pollStep_effect {step : PollStep} (h : engine.pollStep step = some engine') :
    PollEffect engine step engine' := by
  cases step with
  | receive delivered =>
    simp only [pollStep, BoundedDevice.receive] at h
    by_cases hfull : engine.device.outgoing.length ≥ engine.device.queueLimit
    · simp [if_pos hfull] at h
    cases hin : engine.device.incoming with
    | nil => simp [hin] at h
    | cons packet rest =>
      simp only [if_neg hfull, hin] at h
      cases delivered with
      | none =>
        cases h
        exact .receive hin (Nat.lt_of_not_le hfull) .none
      | some delivered =>
        obtain ⟨sockets, hmoved, rfl⟩ := move_moved h
        exact .receive hin (Nat.lt_of_not_le hfull) hmoved
  | transmit packet =>
    obtain ⟨hlength, h⟩ := Option.ite_none_right_eq_some.mp h
    obtain ⟨device, hdevice, rfl⟩ := Option.map_eq_some_iff.mp h
    obtain ⟨hfull, hdevice⟩ := Option.ite_none_left_eq_some.mp hdevice
    cases hdevice
    exact .transmit (Nat.lt_of_not_le hfull) hlength
  | socket handle after =>
    obtain ⟨sockets, hmoved, rfl⟩ := move_moved h
    exact .timer hmoved

/-- **The rule for polls**: what every step keeps, a poll keeps. -/
theorem poll_invariant {I : Engine → Prop}
    (hstep : ∀ {engine step engine'}, step ∈ steps → PollEffect engine step engine' → I engine →
      I engine') (h : engine.poll steps = some engine') (hengine : I engine) : I engine' := by
  induction steps generalizing engine with
  | nil =>
    cases h
    exact hengine
  | cons step steps ih =>
    rw [poll] at h
    split at h
    · cases h
    rename_i hpoll
    refine ih (fun hmem => hstep (List.mem_cons_of_mem _ hmem)) h ?_
    exact hstep List.mem_cons_self (pollStep_effect hpoll) hengine

theorem kind_moved (h : Moved packet sockets delivered sockets') :
    sockets'.kind = sockets.kind := by
  cases h with
  | none => rfl
  | @one handle socket after hget hp =>
    funext g
    simp only [SocketSet.kind, Slots.get_modify]
    split
    · rename_i hg
      rw [hg, hget]
      exact congrArg some (Socket.kind_eq_of_polls hp)
    · rfl

/-- A socket after the move of a socket: it made the move, or is as before. -/
theorem get_moved (h : Moved packet sockets delivered sockets') {socket : Socket}
    (hget : sockets.get handle = some socket) :
    sockets'.get handle = some socket ∨ ∃ after, delivered = some (handle, after) ∧
      socket.polls packet after ∧ sockets'.get handle = some after := by
  cases h with
  | none => exact .inl hget
  | @one moved before after hbefore hp =>
    rw [Slots.get_modify]
    by_cases hmoved : handle = moved
    · subst hmoved
      obtain rfl : before = socket := Option.some.inj (hbefore.symm.trans hget)
      exact .inr ⟨after, rfl, hp, by rw [if_pos rfl, hget]; rfl⟩
    · exact .inl (by rw [if_neg hmoved, hget])

theorem tcp_moved (h : Moved packet sockets delivered sockets') {socket : TcpSocket}
    (hget : sockets.tcp handle = some socket) :
    sockets'.tcp handle = some socket ∨ ∃ after, delivered = some (handle, .tcp after) ∧
      socket.polls packet after ∧ sockets'.tcp handle = some after := by
  simp only [SocketSet.tcp_eq_some] at hget ⊢
  rcases get_moved h hget with hsame | ⟨after | after, hafter, hp, hget'⟩
  · exact .inl hsame
  · exact .inr ⟨after, hafter, hp, hget'⟩
  · cases hp

/-- The same for the UDP sockets. -/
theorem udp_moved (h : Moved packet sockets delivered sockets') {socket : UdpSocket}
    (hget : sockets.udp handle = some socket) :
    sockets'.udp handle = some socket ∨ ∃ after, delivered = some (handle, .udp after) ∧
      socket.polls after ∧ sockets'.udp handle = some after := by
  simp only [SocketSet.udp_eq_some] at hget ⊢
  rcases get_moved h hget with hsame | ⟨after | after, hafter, hp, hget'⟩
  · exact .inl hsame
  · cases hp
  · exact .inr ⟨after, hafter, hp, hget'⟩

/-- **A poll neither opens nor removes a socket, and none changes its kind.** -/
theorem kind_poll (h : engine.poll steps = some engine') :
    engine'.sockets.kind = engine.sockets.kind := by
  refine poll_invariant (I := fun e => e.sockets.kind = engine.sockets.kind) ?_ h rfl
  intro e step e' _ heffect he
  cases heffect with
  | receive _ _ hmoved => rw [kind_moved hmoved, he]
  | transmit _ _ => exact he
  | timer hmoved => rw [kind_moved hmoved, he]

end Engine
end Tun
end Maverick
