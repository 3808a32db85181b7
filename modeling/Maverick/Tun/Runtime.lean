import Maverick.Lib.System
import Maverick.Lib.Table
import Maverick.Tun.Workers

/-!
# The actor of the packet runtime

`Runtime` is the state of one packet runtime: the fields of the actor, the queues
it shares with other tasks, and the tasks.  The functions below are the methods of
the actor in the order of the source.  Where a method polls the engine, the moves
of the engine are an argument; where it goes through a hash map, so is the order of
the keys.

Counters that the runtime only reports are left out; `fetchSub` is the wrapping
subtraction on the counters it also reads.
-/

namespace Maverick
namespace Tun

open Lib

/-! ## State -/

inductive PacketRuntimeFailure where
  | packetRead
  | packetWrite
  | task
  deriving DecidableEq, Repr

inductive PacketClass where
  | tcp (key : TcpFlowKey) (newSyn : Bool)
  | udp (target : SocketAddr)
  | fragment (destination : IpAddr)
  | unsupported
  deriving DecidableEq, Repr

/-- Remote bytes that the socket has not taken completely. -/
structure PendingTcpData where
  data : Bytes
  offset : Nat
  accepted : Option WorkerId
  deriving DecidableEq, Repr

/-- `commands` and `cancel` are the ends of channels to one worker: `worker`. -/
structure TcpEntry where
  handle : SocketHandle
  worker : WorkerId
  opened : Bool
  localFinSent : Bool
  workerDone : Bool
  pendingRemote : Option PendingTcpData
  deriving DecidableEq, Repr

structure UdpTargetEntry where
  handle : SocketHandle
  target : SocketAddr
  lastActivity : Nat
  deriving DecidableEq, Repr

structure PendingUdpResponse where
  app : SocketAddr
  target : SocketAddr
  payload : Bytes
  accepted : Option WorkerId
  deriving DecidableEq, Repr

structure UdpAssociationEntry where
  worker : WorkerId
  pendingResponse : Option PendingUdpResponse
  deriving DecidableEq, Repr

/-- `packet_reader_task`, and the monitor that reports its panic. -/
inductive ReaderPhase where
  | reading
  | queueing (packet : Packet)
  | reporting (eof : Bool)
  | panicked
  | ended
  deriving DecidableEq, Repr

/-- `packet_writer_task`, and the monitor that reports its panic. -/
inductive WriterPhase where
  | waiting
  | writing (packet : Packet)
  | reporting (packet : Packet)
  | panicked
  | ended
  deriving DecidableEq, Repr

/-- Where the loop of `Runtime::run` is.  `drivingTcp` is the loop of `drive_tcp`
with the keys that are still to come and the flows to be removed after it. -/
inductive Phase where
  | select
  | reapTasks
  | firstPoll
  | driveTcp
  | drivingTcp (keys : List TcpFlowKey) (remove : List (TcpFlowKey × SocketHandle))
  | driveUdp
  | secondPoll
  | flush
  | reapTargets
  | checkStop
  | stopped
  deriving DecidableEq, Repr

structure Runtime where
  engine : Engine
  ingress : List Packet
  egress : List Packet
  events : List Posted
  /-- All tasks that were started, ended ones too. -/
  workers : List Worker
  /-- The tasks in the join set. -/
  tasks : List WorkerId
  reader : ReaderPhase
  writer : WriterPhase
  ingressOpen : Bool
  readerEofSeen : Bool
  tcp : Table TcpFlowKey TcpEntry
  udpTargets : Table SocketAddr UdpTargetEntry
  udpAssociations : Table UdpAssociationKey UdpAssociationEntry
  pendingDnsResponses : List PendingUdpResponse
  nextUdpReap : Nat
  accepting : Bool
  drainingDeadline : Option Nat
  fatalFailure : Option PacketRuntimeFailure
  /-- The token of the handle; its children are the token of the packet tasks and
  that of the UDP and DNS tasks. -/
  cancel : Bool
  udpDnsCancel : Bool
  activeTcpFlows : Nat
  activeUdpAssociations : Nat
  activeDnsQueries : Nat
  ingressQueueDepth : Nat
  egressQueueDepth : Nat
  /-- As of the last turn of the loop. -/
  actorBufferedBytes : Nat
  forced : Bool
  phase : Phase
  now : Nat

/-- `fetch_sub(1)` on a 64-bit counter. -/
def fetchSub (n : Nat) : Nat := if n = 0 then 2 ^ 64 - 1 else n - 1

/-- The flow that a packet belongs to. -/
def classifyTransport (source destination : IpAddr) (fragmented : Bool) :
    Transport → Option PacketClass
  | .tcp none => none
  | .tcp (some header) =>
    some (.tcp ⟨⟨source, header.srcPort⟩, ⟨destination, header.dstPort⟩⟩
      (header.syn && !header.ack && !header.rst))
  | .udp length checked _ dstPort =>
    if fragmented then
      if length < 8 then none else some (.udp ⟨destination, dstPort⟩)
    else if checked then some (.udp ⟨destination, dstPort⟩)
    else none
  | .other => some .unsupported

def classifyPacket (packet : Packet) : Option PacketClass :=
  match packet.header with
  | none => none
  | some (.v4 source destination fragOffset moreFrags) =>
    if fragOffset ≠ 0 then some (.fragment (.v4 destination))
    else classifyTransport (.v4 source) (.v4 destination) moreFrags packet.transport
  | some (.v6 source destination) =>
    classifyTransport (.v6 source) (.v6 destination) false packet.transport

def udpReapInterval (config : PacketRuntimeConfig) : Nat :=
  max (min config.udpIdleTimeout (seconds 1)) config.pollInterval

namespace Runtime

def start (config : PacketRuntimeConfig) : Runtime where
  engine := ⟨.new config.mtu config.packetQueueDepth, []⟩
  ingress := []
  egress := []
  events := []
  workers := []
  tasks := []
  reader := .reading
  writer := .waiting
  ingressOpen := true
  readerEofSeen := false
  tcp := ∅
  udpTargets := ∅
  udpAssociations := ∅
  pendingDnsResponses := []
  nextUdpReap := udpReapInterval config
  accepting := true
  drainingDeadline := none
  fatalFailure := none
  cancel := false
  udpDnsCancel := false
  activeTcpFlows := 0
  activeUdpAssociations := 0
  activeDnsQueries := 0
  ingressQueueDepth := 0
  egressQueueDepth := 0
  actorBufferedBytes := 0
  forced := false
  phase := .select
  now := 0

/-! ## Channels to the workers -/

def modifyWorker (s : Runtime) (id : WorkerId) (f : Worker → Worker) : Runtime :=
  { s with workers := s.workers.modify id f }

/-- Use (`true`) or drop (`false`) the sending end of a `oneshot` channel. -/
def answer (s : Runtime) (accepted : Option WorkerId) (ok : Bool) : Runtime :=
  match accepted with
  | none => s
  | some id => s.modifyWorker id (Worker.answer ok)

/-- What cancelling the token of an entry and dropping the entry does to its worker. -/
def release : Worker → Worker
  | .tcp w => .tcp { w with cancelled := true, senderAlive := false }
  | .udp w => .udp { w with cancelled := true, senderAlive := false }
  | .dns w => .dns w

def spawn (s : Runtime) (worker : Worker) : Runtime :=
  { s with workers := s.workers ++ [worker], tasks := s.tasks ++ [s.workers.length] }

/-! ## Draining -/

/-- The tokens of the associations are children of `udp_dns_cancel`, so cancelling
each of them as well changes nothing. -/
def beginDraining (config : PacketRuntimeConfig) (s : Runtime) (immediate : Bool) : Runtime :=
  if s.drainingDeadline.isSome then
    if immediate then { s with drainingDeadline := some s.now } else s
  else
    { s with
      accepting := false
      udpDnsCancel := true
      drainingDeadline := some (if immediate then s.now else s.now + config.shutdownTimeout) }

def recordFailure (config : PacketRuntimeConfig) (s : Runtime) (failure : PacketRuntimeFailure) :
    Runtime :=
  beginDraining config
    { s with fatalFailure := if s.fatalFailure.isNone then some failure else s.fatalFailure } true

/-- `connectorQuiet`: the connector has neither tasks nor buffered bytes. -/
def quiescent (s : Runtime) (connectorQuiet : Bool) : Bool :=
  s.tcp.entries.isEmpty && s.udpAssociations.entries.isEmpty && s.activeDnsQueries == 0 &&
    s.ingressQueueDepth == 0 && s.egressQueueDepth == 0 && s.events.isEmpty && s.tasks.isEmpty &&
    s.pendingDnsResponses.isEmpty && s.engine.device.isEmpty && connectorQuiet

/-- `should_stop` and the `break` after it. -/
def checkStop (s : Runtime) (connectorQuiet : Bool) : Runtime :=
  match s.drainingDeadline with
  | none => { s with phase := .select }
  | some deadline =>
    if s.quiescent connectorQuiet then { s with phase := .stopped }
    else if s.now ≥ deadline then { s with forced := true, phase := .stopped }
    else { s with phase := .select }

/-- Whether a task in the join set has ended. -/
def workerEnded (s : Runtime) (id : WorkerId) : Bool :=
  match s.workers[id]? with
  | some worker => worker.isEnded
  | none => false

def workerPanicked (s : Runtime) (id : WorkerId) : Bool :=
  match s.workers[id]? with
  | some worker => worker.panicked
  | none => false

def joined (config : PacketRuntimeConfig) (s : Runtime) (id : WorkerId) : Runtime :=
  let t := { s with tasks := s.tasks.filter (· != id) }
  if s.workerPanicked id then recordFailure config t .task else t

/-- `reap_completed_tasks`. -/
def reapCompletedTasks (config : PacketRuntimeConfig) (s : Runtime) : Runtime :=
  (s.tasks.filter s.workerEnded).foldl (joined config) s

/-! ## Events -/

def removeUdpAssociation (s : Runtime) (key : UdpAssociationKey) : Runtime :=
  match s.udpAssociations.lookup key with
  | none => s
  | some entry =>
    let s := s.answer (entry.pendingResponse.bind (·.accepted)) false
    { s.modifyWorker entry.worker release with
      udpAssociations := s.udpAssociations.erase key
      activeUdpAssociations := fetchSub s.activeUdpAssociations }

def handleEvent (config : PacketRuntimeConfig) (s : Runtime) : EngineEvent → Runtime
  | .packetReadFailed => recordFailure config s .packetRead
  | .packetWriteFailed => recordFailure config s .packetWrite
  | .packetEof =>
    let s := { s with readerEofSeen := true }
    if s.ingressOpen then s else beginDraining config s false
  | .tcpOpened key =>
    match s.tcp.lookup key with
    | none => s
    | some entry => { s with tcp := s.tcp.insert key { entry with opened := true } }
  | .tcpData key data accepted =>
    match s.tcp.lookup key with
    -- the event is dropped, and `accepted` with it
    | none => s.answer (some accepted) false
    | some entry =>
      if entry.pendingRemote.isNone then
        { s with
          tcp := s.tcp.insert key { entry with pendingRemote := some ⟨data, 0, some accepted⟩ } }
      else s.answer (some accepted) false
  | .tcpRemoteFin key =>
    match s.tcp.lookup key with
    | none => s
    | some entry =>
      { s with
        engine.sockets := s.engine.sockets.modifyTcp entry.handle TcpSocket.close }
  | .tcpDone key failed =>
    match s.tcp.lookup key with
    | none => s
    | some entry =>
      { s with
        tcp := s.tcp.insert key { entry with workerDone := true }
        engine.sockets :=
          if failed then s.engine.sockets.modifyTcp entry.handle TcpSocket.abort
          else s.engine.sockets }
  | .udpResponse key endpoint payload accepted =>
    if endpoint ≠ key.target then s.answer (some accepted) true
    else
      match s.udpAssociations.lookup key with
      | none => s.answer (some accepted) false
      | some entry =>
        if entry.pendingResponse.isNone then
          { s with
            udpAssociations := s.udpAssociations.insert key
              { entry with
                pendingResponse := some ⟨key.app, key.target, payload, some accepted⟩ } }
        else s.answer (some accepted) false
  | .udpDone key _ => s.removeUdpAssociation key
  | .dnsResponse target app response =>
    -- the active guard of the event is released either way
    let s := { s with activeDnsQueries := fetchSub s.activeDnsQueries }
    if s.pendingDnsResponses.length < config.maxDnsQueries then
      { s with
        pendingDnsResponses := s.pendingDnsResponses ++ [⟨app, target, response, none⟩] }
    else s

/-! ## Packets -/

def familyEnabled (config : PacketRuntimeConfig) (packetClass : PacketClass) : Bool :=
  let enabled : IpAddr → Bool
    | .v4 _ => config.ipv4Enabled
    | .v6 _ => config.ipv6Enabled
  match packetClass with
  | .tcp key _ => enabled key.target.ip
  | .udp target => enabled target.ip
  | .fragment destination => enabled destination
  | .unsupported => true

def addTcpListener (config : PacketRuntimeConfig) (s : Runtime) (key : TcpFlowKey) :
    Option (Runtime × SocketHandle) :=
  match TcpSocket.listen config.tcpBufferBytes key.target with
  | none => none
  | some socket =>
    let added := s.engine.sockets.add (.tcp socket)
    some ({ s with engine.sockets := added.1 }, added.2)

def startTcpWorker (s : Runtime) (key : TcpFlowKey) (handle : SocketHandle) : Runtime :=
  { s.spawn (.tcp (.start key)) with
    tcp := s.tcp.insert key ⟨handle, s.workers.length, false, false, false, none⟩
    activeTcpFlows := s.activeTcpFlows + 1 }

def ensureUdpTarget (config : PacketRuntimeConfig) (s : Runtime) (target : SocketAddr) : Runtime :=
  match s.udpTargets.lookup target with
  | some entry =>
    { s with udpTargets := s.udpTargets.insert target { entry with lastActivity := s.now } }
  | none =>
    if !s.accepting || decide (s.udpTargets.size ≥ config.maxUdpTargets) then s
    else
      match UdpSocket.bind config.udpMessageDepth config.udpBufferBytes target with
      | none => s
      | some socket =>
        let added := s.engine.sockets.add (.udp socket)
        { s with
          engine.sockets := added.1
          udpTargets := s.udpTargets.insert target ⟨added.2, target, s.now⟩ }

def removeSocket (s : Runtime) (handle : SocketHandle) : Runtime :=
  { s with engine.sockets := s.engine.sockets.remove handle }

/-- The part of `handle_packet` up to the device: the listener for a new flow. -/
def prepareTcp (config : PacketRuntimeConfig) (s : Runtime) (key : TcpFlowKey) (newSyn : Bool) :
    Runtime × Option (TcpFlowKey × SocketHandle) :=
  if newSyn && (s.tcp.lookup key).isNone && s.accepting &&
      decide (s.tcp.size < config.maxTcpFlows) then
    match s.addTcpListener config key with
    | none => (s, none)
    | some (s, handle) => (s, some (key, handle))
  else (s, none)

/-- The part of `handle_packet` from the device on. -/
def admitPacket (s : Runtime) (packet : Packet) (pendingTcp : Option (TcpFlowKey × SocketHandle))
    (steps : List PollStep) : Option Runtime :=
  match s.engine.device.tryAdmit packet with
  | none =>
    match pendingTcp with
    | none => some s
    | some (_, handle) => some (s.removeSocket handle)
  | some device =>
    match { s.engine with device := device }.poll steps with
    | none => none
    | some engine =>
      match pendingTcp with
      | none => some { s with engine := engine }
      | some (key, handle) =>
        -- a listener that did not take the SYN is removed again
        if (engine.sockets.tcp handle).any (·.state == .listen) then
          some ({ s with engine := engine }.removeSocket handle)
        else some ({ s with engine := engine }.startTcpWorker key handle)

def handlePacket (config : PacketRuntimeConfig) (s : Runtime) (packet : Packet)
    (steps : List PollStep) : Option Runtime :=
  let s := { s with ingressQueueDepth := fetchSub s.ingressQueueDepth }
  if packet.length = 0 ∨ packet.length > config.mtu then some s
  else
    match classifyPacket packet with
    | none => some s
    | some packetClass =>
      if !familyEnabled config packetClass then some s
      else
        match packetClass with
        | .tcp key newSyn =>
          let prepared := s.prepareTcp config key newSyn
          prepared.1.admitPacket packet prepared.2 steps
        | .udp target => (s.ensureUdpTarget config target).admitPacket packet none steps
        | .fragment _ => s.admitPacket packet none steps
        | .unsupported => some s

/-! ## Driving TCP flows -/

/-- One turn of the loop of `drive_tcp`: the entry, its socket, the other end of
its channels, and the worker whose data the socket has taken completely. -/
structure TcpDrive where
  entry : TcpEntry
  socket : TcpSocket
  worker : TcpWorker
  accepted : Option WorkerId

namespace TcpDrive

/-- Remote bytes go to the socket. -/
def sendPending (d : TcpDrive) : TcpDrive :=
  match d.entry.pendingRemote with
  | none => d
  | some pending =>
    if d.socket.canSend then
      match d.socket.sendSlice (pending.data.drop pending.offset) with
      | none => { d with socket := d.socket.abort }
      | some (socket, written) =>
        if pending.offset + written = pending.data.length then
          { d with
            socket := socket
            entry.pendingRemote := none
            accepted := pending.accepted }
        else
          { d with
            socket := socket
            entry.pendingRemote := some { pending with offset := pending.offset + written } }
    else d

def hasCapacity (depth : Nat) (d : TcpDrive) : Bool := decide (d.worker.commands.length < depth)

/-- `try_send`; it fails when the worker has ended or the channel is full. -/
def trySend (depth : Nat) (d : TcpDrive) (command : TcpCommand) : Option TcpDrive :=
  if d.worker.isEnded || !d.hasCapacity depth then none
  else
    some { d with
      worker.commands := d.worker.commands ++ [command]
      worker.sent := d.worker.sent ++ [command] }

/-- Local bytes go to the worker. -/
def receive (depth : Nat) (d : TcpDrive) : TcpDrive :=
  if d.entry.opened && d.socket.canRecv && d.hasCapacity depth then
    let (socket, data) := d.socket.recvSlice (min d.socket.rx.length (16 * 1024))
    match { d with socket := socket }.trySend depth (.data data) with
    | some d => d
    | none => { d with socket := socket.abort }
  else d

/-- The end of the local bytes goes to the worker. -/
def sendLocalFin (depth : Nat) (d : TcpDrive) : TcpDrive :=
  if d.entry.opened && !d.entry.localFinSent && d.socket.state == .closeWait &&
      !d.socket.canRecv && d.hasCapacity depth then
    match d.trySend depth .localFin with
    | some d => { d with entry.localFinSent := true }
    | none => d
  else d

/-- Whether the flow is to be removed. -/
def finished (d : TcpDrive) : Bool :=
  d.socket.state == .closed ||
    (d.entry.workerDone && d.entry.pendingRemote.isNone && !d.socket.isActive)

def drive (depth : Nat) (d : TcpDrive) : TcpDrive :=
  ((d.sendPending.receive depth).sendLocalFin depth)

end TcpDrive

def tcpWorker (s : Runtime) (id : WorkerId) : Option TcpWorker :=
  match s.workers[id]? with
  | some (.tcp worker) => some worker
  | _ => none

/-- The state after one turn of the loop.  The token of a flow that is to be
removed is cancelled. -/
def applyDrive (s : Runtime) (key : TcpFlowKey) (d : TcpDrive) : Runtime :=
  let worker := { d.worker with cancelled := d.worker.cancelled || d.finished }
  let s :=
    { s with
      tcp := s.tcp.insert key d.entry
      engine.sockets := s.engine.sockets.modifyTcp d.entry.handle fun _ => d.socket }
  (s.modifyWorker d.entry.worker fun _ => .tcp worker).answer d.accepted true

/-- One turn of the loop, and the socket of the flow where it is to be removed. -/
def driveTcpKey (config : PacketRuntimeConfig) (s : Runtime) (key : TcpFlowKey) :
    Runtime × Option SocketHandle :=
  match s.tcp.lookup key with
  | none => (s, none)
  | some entry =>
    match s.engine.sockets.tcp entry.handle, s.tcpWorker entry.worker with
    | some socket, some worker =>
      let d := TcpDrive.drive config.tcpChannelDepth ⟨entry, socket, worker, none⟩
      (s.applyDrive key d, if d.finished then some d.entry.handle else none)
    -- an entry without its socket or its worker: `get_mut` would panic
    | _, _ => (s, none)

/-- Removing an entry drops the ends of its channels. -/
def removeTcp (s : Runtime) (key : TcpFlowKey) (handle : SocketHandle) : Runtime :=
  let s :=
    match s.tcp.lookup key with
    | none => s
    | some entry =>
      (s.answer (entry.pendingRemote.bind (·.accepted)) false).modifyWorker entry.worker release
  { s.removeSocket handle with
    tcp := s.tcp.erase key
    activeTcpFlows := fetchSub s.activeTcpFlows }

def removeFinished (s : Runtime) (remove : List (TcpFlowKey × SocketHandle)) : Runtime :=
  remove.foldl (fun s r => s.removeTcp r.1 r.2) s

/-! ## Driving UDP -/

def startDnsQuery (config : PacketRuntimeConfig) (s : Runtime) (app target : SocketAddr)
    (query : Bytes) : Runtime :=
  if !s.accepting || decide (query.length > config.maxDnsPayloadBytes) ||
      decide (s.activeDnsQueries ≥ config.maxDnsQueries) then s
  else
    { s.spawn (.dns ⟨target, app, query, .querying⟩) with
      activeDnsQueries := s.activeDnsQueries + 1 }

def startUdpWorker (s : Runtime) (key : UdpAssociationKey) : Runtime :=
  { s.spawn (.udp (.start key)) with
    udpAssociations := s.udpAssociations.insert key ⟨s.workers.length, none⟩
    activeUdpAssociations := s.activeUdpAssociations + 1 }

/-- `try_send` on the command channel of an association. -/
def sendUdpCommand (depth : Nat) (command : UdpCommand) : Worker → Worker
  | .udp w =>
    if w.isEnded || decide (w.commands.length ≥ depth) then .udp w
    else .udp { w with commands := w.commands ++ [command] }
  | worker => worker

/-- The part of `dispatch_udp` after the association is known to exist. -/
def forwardUdp (config : PacketRuntimeConfig) (s : Runtime) (key : UdpAssociationKey)
    (payload : Bytes) : Runtime :=
  match s.udpAssociations.lookup key with
  | none => s
  | some entry =>
    s.modifyWorker entry.worker (sendUdpCommand config.udpChannelDepth ⟨key.target, payload⟩)

def dispatchUdp (config : PacketRuntimeConfig) (s : Runtime) (app target : SocketAddr)
    (payload : Bytes) : Runtime :=
  let key : UdpAssociationKey := ⟨app, target⟩
  if (s.udpAssociations.lookup key).isSome then s.forwardUdp config key payload
  else if !s.accepting || decide (s.udpAssociations.size ≥ config.maxUdpAssociations) then s
  else (s.startUdpWorker key).forwardUdp config key payload

/-- A datagram of an application: dropped, a DNS query, or for an association. -/
def dispatchReceived (config : PacketRuntimeConfig) (s : Runtime)
    (received : SocketAddr × SocketAddr × Bytes) : Runtime :=
  let (app, target, payload) := received
  if payload.length > config.maxUdpPayloadBytes then s
  else if config.dnsInterception = .port53 ∧ target.port = 53 then
    s.startDnsQuery config app target payload
  else s.dispatchUdp config app target payload

/-- All datagrams that the socket of a target has received. -/
def receiveUdp (s : Runtime) (target : SocketAddr) :
    Runtime × List (SocketAddr × SocketAddr × Bytes) :=
  match s.udpTargets.lookup target with
  | none => (s, [])
  | some entry =>
    match s.engine.sockets.udp entry.handle with
    | none => (s, [])
    | some socket =>
      if socket.rx.isEmpty then (s, [])
      else
        ({ s with
            udpTargets := s.udpTargets.insert target { entry with lastActivity := s.now }
            engine.sockets :=
              s.engine.sockets.modifyUdp entry.handle fun socket => { socket with rx := [] } },
          socket.rx.map fun d => (d.1, entry.target, d.2))

def receiveAllUdp (s : Runtime) :
    List SocketAddr → Runtime × List (SocketAddr × SocketAddr × Bytes)
  | [] => (s, [])
  | target :: targets =>
    let first := s.receiveUdp target
    let rest := receiveAllUdp first.1 targets
    (rest.1, first.2 ++ rest.2)

def drainUdpRequests (config : PacketRuntimeConfig) (s : Runtime) (targets : List SocketAddr) :
    Runtime :=
  let received := s.receiveAllUdp targets
  received.2.foldl (dispatchReceived config) received.1

/-- The sockets after the attempt, where the response is done with; `none` where
it stays pending. -/
def trySendUdpResponse (s : Runtime) (pending : PendingUdpResponse) : Option SocketSet :=
  match s.udpTargets.lookup pending.target with
  | none => some s.engine.sockets
  | some target =>
    match s.engine.sockets.udp target.handle with
    | none => none
    | some socket =>
      if !socket.canSend then none
      else (socket.sendSlice pending.payload pending.app).map fun socket =>
        s.engine.sockets.modifyUdp target.handle fun _ => socket

def sendUdpResponse (s : Runtime) (key : UdpAssociationKey) : Runtime :=
  match s.udpAssociations.lookup key with
  | none => s
  | some entry =>
    match entry.pendingResponse with
    | none => s
    | some pending =>
      match s.trySendUdpResponse pending with
      | none => s
      | some sockets =>
        let s :=
          { s with
            engine.sockets := sockets
            udpAssociations := s.udpAssociations.insert key
              { entry with pendingResponse := none } }
        s.answer pending.accepted true

/-- The loop over the pending DNS responses; one that cannot be sent goes to the
end of the queue and ends the loop. -/
def sendDnsResponses : Nat → Runtime → Runtime
  | 0, s => s
  | count + 1, s =>
    match s.pendingDnsResponses with
    | [] => s
    | pending :: rest =>
      match s.trySendUdpResponse pending with
      | none => { s with pendingDnsResponses := rest ++ [pending] }
      | some sockets =>
        sendDnsResponses count
          { s with pendingDnsResponses := rest, engine.sockets := sockets }

def sendUdpResponses (s : Runtime) (keys : List UdpAssociationKey) : Runtime :=
  let s := keys.foldl sendUdpResponse s
  sendDnsResponses s.pendingDnsResponses.length s

/-! ## Output -/

/-- A target that no association and no DNS query needs and that has been idle. -/
def isIdle (config : PacketRuntimeConfig) (s : Runtime) (entry : UdpTargetEntry) : Bool :=
  let associationInUse := s.udpAssociations.keys.any (·.target == entry.target)
  let dnsInUse :=
    (decide (s.activeDnsQueries > 0) && entry.target.port == 53) ||
      s.pendingDnsResponses.any (·.target == entry.target)
  !(associationInUse || dnsInUse) && decide (s.now - entry.lastActivity ≥ config.udpIdleTimeout)

def removeUdpTarget (s : Runtime) (target : SocketAddr) : Runtime :=
  match s.udpTargets.lookup target with
  | none => s
  | some entry => { s.removeSocket entry.handle with udpTargets := s.udpTargets.erase target }

def reapUdpTargets (config : PacketRuntimeConfig) (s : Runtime) : Runtime :=
  if s.now < s.nextUdpReap then s
  else
    let s := { s with nextUdpReap := s.now + udpReapInterval config }
    let remove := s.udpTargets.entries.filterMap fun entry =>
      if s.isIdle config entry.2 then some entry.1 else none
    remove.foldl removeUdpTarget s

/-- Packets on their way to the writer; each holds one permit. -/
def inFlight (s : Runtime) : Nat :=
  s.egress.length +
    match s.writer with
    | .writing _ | .reporting _ => 1
    | _ => 0

/-- The loop of `flush_device_output`; at most `count` packets are taken. -/
def flushDeviceOutput (config : PacketRuntimeConfig) : Nat → Runtime → Runtime
  | 0, s => s
  | count + 1, s =>
    match s.engine.device.takeOutgoing with
    | none => s
    | some (packet, device) =>
      if s.inFlight ≥ config.packetQueueDepth then
        { s with engine.device := device.putOutgoingFront packet }
      else if s.writer = .panicked ∨ s.writer = .ended then
        -- the channel is closed and the packet is lost
        recordFailure config { s with engine.device := device } .packetWrite
      else
        flushDeviceOutput config count
          { s with
            engine.device := device
            egress := s.egress ++ [packet]
            egressQueueDepth := s.egressQueueDepth + 1 }

/-- `refresh_actor_buffered_bytes`. -/
def refreshActorBufferedBytes (s : Runtime) : Runtime :=
  { s with
    actorBufferedBytes :=
      s.engine.device.bufferedBytes +
        (s.tcp.entries.map fun e => s.engine.sockets.queuedBytes e.2.handle).sum +
        (s.udpTargets.entries.map fun e => s.engine.sockets.queuedBytes e.2.handle).sum }

end Runtime
end Tun
end Maverick
