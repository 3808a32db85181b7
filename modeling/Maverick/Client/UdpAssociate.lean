import Maverick.Client.Shaping
import Maverick.Client.Socks5
import Maverick.Lib.Total

/-!
# SOCKS UDP associations

`serve_udp_associate_with_pool` on H2 tunnels.  The datagrams of the associated peer are
relayed one at a time: a UdpPacket frame is sent as capacity is granted, and the next
packet of the flow that the server sends is taken as its response.  A read from the
control connection drops a relay wherever it is.  What arrives, what capacity is granted and
what the server sends are actions; the server answers the packets that it reads one by one.

* `udpAssociate` — the system.
* `Forwarded.Matched` — a forwarded response is the answer to the request being relayed.
* `H2Sender.WholeFrames` — what was sent is whole frames, and a part of the current one.
* `udp_exchanges_matched` — both, if the control connection is silent while it matters.
* `dropped_relay_mismatched` — neither, otherwise.
-/

namespace Maverick
namespace Client

open Lib Server

/-! ## Sending -/

/-- Where a call of `send_frame` waits. -/
inductive SendCall where
  /-- `prepare_outgoing_frames` sleeps -/
  | delayed (prepared : Prepared) (call : Call)
  /-- the rest of a frame waits for capacity; the others follow -/
  | writing (f : Frame) (rest : Bytes) (endStream : Bool) (queue : List (Frame × Bool))

inductive SendError where
  | frame (error : Error)
  /-- the stream has failed or stalled -/
  | stream
  deriving DecidableEq

/-- What a call waits for. -/
inductive SendEvent where
  /-- the delay of `prepare_outgoing_frames` is over -/
  | elapsed
  | capacity (n : Nat)
  | failed
  deriving DecidableEq

structure H2Sender where
  shaper : Shaper
  /-- the DATA sent since the handshake -/
  sent : List Wire

namespace H2Sender

def maxFrameSize (s : H2Sender) : Nat := s.shaper.maxFrameSize

def sentBytes (s : H2Sender) : Bytes := s.sent.flatMap Wire.bytes

def withBatcher (s : H2Sender) (batcher : RuntimeBatcher) : H2Sender :=
  { s with shaper := { s.shaper with batcher := batcher } }

/-- A sender, and where its call waits next, if anywhere. -/
abbrev Sent := H2Sender × Except SendError (Option SendCall)

/-- The next frame of a call is encoded, if there is one. -/
def writeNext (s : H2Sender) : List (Frame × Bool) → Except SendError (Option SendCall)
  | [] => .ok none
  | (f, endStream) :: queue =>
    match encodeGrpcFrame f s.maxFrameSize with
    | .error error => .error (.frame error)
    | .ok bytes => .ok (some (.writing f bytes endStream queue))

/-- `send_frame` behind `prepare_outgoing_frames` -/
def write (s : H2Sender) (prepared : Prepared) (call : Call) : Sent :=
  (s.withBatcher prepared.batcher, s.writeNext (s.shaper.items call prepared.frames))

/-- `send_frame` up to its first wait -/
def sendFrame (s : H2Sender) (call : Call) : Sent :=
  let prepared := prepareOutgoingFrames call.frame s.shaper.batcher s.shaper.padding
  match prepared.sleptMs with
  | none => s.write prepared call
  | some _ =>
    -- during the delay a batched frame is in the batcher, and stays there if the call is dropped
    let batcher := if s.shaper.batcher.enabled then (s.shaper.batcher.push call.frame).2
      else s.shaper.batcher
    (s.withBatcher batcher, .ok (some (.delayed prepared call)))

/-- One turn of the loop of `send_h2_bytes_with_capacity`. -/
def writeChunk (s : H2Sender) (f : Frame) (rest : Bytes) (endStream : Bool)
    (queue : List (Frame × Bool)) (capacity : Nat) : Sent :=
  let chunkLen := min (max 1 capacity) rest.length
  let chunk := .data (rest.take chunkLen) (endStream && (rest.drop chunkLen).isEmpty)
  ({ s with sent := s.sent ++ [chunk] },
    if rest.drop chunkLen = [] then s.writeNext queue
    else .ok (some (.writing f (rest.drop chunkLen) endStream queue)))

/-- A call goes on. -/
def resume (s : H2Sender) : SendCall → SendEvent → Option Sent
  | .delayed prepared call, .elapsed => some (s.write prepared call)
  | .writing f rest endStream queue, .capacity n =>
    some (s.writeChunk f rest endStream queue n)
  | .writing _ _ _ _, .failed => some (s, .error .stream)
  | _, _ => none

end H2Sender

/-! ## The association -/

def UDP_FLOW_ID : UInt64 := 1

/-- A packet of the flow, in either direction. -/
def isFlowPacket (f : Frame) : Bool := f.frameType = .udpPacket ∧ f.flowId = UDP_FLOW_ID

/-- An association: the client's end of its tunnel, and what the server has done. -/
structure UdpAssociation where
  sender : H2Sender
  recvBuf : Bytes
  /-- sent by the server and not yet received -/
  inFlight : Bytes
  /-- the server's answers, in order -/
  answers : List Frame

namespace UdpAssociation

def new (mode : Mode) (shaping : ShapingConfig) (maxFrameSize : Nat) : UdpAssociation :=
  ⟨⟨.fromConfig mode shaping maxFrameSize, []⟩, [], [], []⟩

def maxFrameSize (a : UdpAssociation) : Nat := a.sender.maxFrameSize

/-- The packets of the flow that the server reads. -/
def requests (a : UdpAssociation) : List Frame :=
  ((grpcDecoder a.maxFrameSize).drain a.sender.sentBytes).1.filter isFlowPacket

/-- `read_next_h2_frame` on what has arrived -/
def readNext (a : UdpAssociation) : Except Error (Option Frame × Bytes) :=
  (grpcDecoder a.maxFrameSize).next Relay.isPadding a.recvBuf

/-- A DATA chunk of the response arrives, behind what is left in the buffer. -/
def receive (a : UdpAssociation) (rest : Bytes) (n : Nat) : UdpAssociation :=
  { a with recvBuf := rest ++ a.inFlight.take n, inFlight := a.inFlight.drop n }

/-- The server answers the next packet that it has read. -/
def answer (a : UdpAssociation) (f : Frame) : Option UdpAssociation :=
  if a.answers.length < a.requests.length ∧ (isFlowPacket f ∨ f.frameType = .error) ∧
      f.payload.length ≤ a.maxFrameSize then
    some { a with
      answers := a.answers ++ [f]
      inFlight := a.inFlight ++ Framing.grpc.bytes f }
  else none

/-- The server sends a frame that is no packet of the flow. -/
def serverFrame (a : UdpAssociation) (f : Frame) : Option UdpAssociation :=
  if isFlowPacket f = false ∧ f.payload.length ≤ a.maxFrameSize then
    some { a with inFlight := a.inFlight ++ Framing.grpc.bytes f }
  else none

end UdpAssociation

/-! ## The loop -/

inductive UdpRelayError where
  | payload (error : Error)
  /-- a `bail!` with this text -/
  | message (text : String)
  deriving DecidableEq

/-- `udp_response_from_frame` -/
def udpResponseFromFrame (f : Frame) (flowId : UInt64) :
    Except UdpRelayError (Option UdpPacketPayload) :=
  if f.frameType = .udpPacket ∧ f.flowId = flowId then
    ((UdpPacketPayload.decode f.payload).map some).mapError .payload
  else if f.frameType = .error then .error (.message "UDP relay failed")
  else if f.frameType = .closeFlow ∨ f.frameType = .tcpFin then
    .error (.message "UDP flow closed")
  else .ok none

/-- The frame of `relay_packet`. -/
def packetFrame (packet : UdpPacketPayload) : Except Error Frame :=
  packet.encode.map fun payload => ⟨.udpPacket, 0, UDP_FLOW_ID, payload⟩

structure UdpAssociateConfig where
  mode : Mode
  shaping : ShapingConfig
  udpIdleTimeoutMs : UInt64
  controlPeer : Option SocketAddr

/-- `accept_udp_peer`: whether the peer is accepted, and the associated peer after it. -/
def acceptUdpPeer (associated : Option SocketAddr) (peer : SocketAddr)
    (controlPeer : Option SocketAddr) : Bool × Option SocketAddr :=
  if controlPeer.any (fun control => peer.ip ≠ control.ip) then (false, associated)
  else
    match associated with
    | some allowed => (allowed = peer, associated)
    | none => (true, some peer)

/-- What is done with the association. -/
inductive UdpTask where
  /-- `UdpAssociation::open_with_tunnel` -/
  | opening (peer : SocketAddr) (packet : UdpPacketPayload)
  /-- `relay_packet` -/
  | relaying (peer : SocketAddr) (packet : UdpPacketPayload)
  /-- `close` -/
  | closing
  deriving DecidableEq

/-- The frame that is sent. -/
def UdpTask.frame (config : UdpAssociateConfig) : UdpTask → Except Error Frame
  | opening _ _ => .ok ⟨.openUdp, 0, UDP_FLOW_ID, OpenUdpPayload.encode ⟨config.udpIdleTimeoutMs⟩⟩
  | relaying _ packet => packetFrame packet
  | closing => .ok ⟨.closeFlow, 0, UDP_FLOW_ID, []⟩

/-- How far a task is. -/
inductive UdpStage where
  /-- the future is not polled yet -/
  | starting
  | sending (call : SendCall)
  /-- `read_next_frame` -/
  | awaiting
  /-- `finish_response` -/
  | finishing

inductive UdpPhase where
  /-- the `select!` of the loop -/
  | waiting
  /-- `ClientTunnelPool::open` -/
  | connecting (peer : SocketAddr) (packet : UdpPacketPayload)
  | busy (task : UdpTask) (stage : UdpStage)
  | returned (failed : Bool)

/-- A response that was forwarded, with the request that was being relayed and the association
at that moment. -/
structure Forwarded where
  peer : SocketAddr
  datagram : Bytes
  request : UdpPacketPayload
  response : UdpPacketPayload
  association : UdpAssociation

structure UdpAssociate where
  phase : UdpPhase
  associatedUdpPeer : Option SocketAddr
  /-- also while it is being opened -/
  association : Option UdpAssociation
  forwarded : List Forwarded

/-- A read from the control connection. -/
inductive ControlRead where
  | byte
  | closed
  | failed
  deriving DecidableEq

inductive TunnelEvent where
  /-- the task is polled for the first time -/
  | start (random cover : Nat → RandomBytes)
  | send (event : SendEvent)
  /-- a DATA chunk of this length arrives -/
  | receive (n : Nat)
  /-- a complete frame is in the buffer -/
  | frame
  | responseEnd
  /-- `response_timeout` -/
  | timedOut
  | finished

inductive UdpAssociateAction where
  | control (read : ControlRead)
  | datagram (input : Bytes) (peer : SocketAddr)
  | socketFailed
  | connected (maxFrameSize : Nat)
  | connectFailed
  | tunnel (event : TunnelEvent)
  | answer (f : Frame)
  | serverFrame (f : Frame)

namespace UdpAssociate

def start : UdpAssociate := ⟨.waiting, none, none, []⟩

/-- A `?` of the loop. -/
def fail (s : UdpAssociate) : UdpAssociate :=
  { s with phase := .returned true, association := none }

/-- Behind the loop. -/
def close (s : UdpAssociate) : UdpAssociate :=
  match s.association with
  | none => { s with phase := .returned false }
  | some _ => { s with phase := .busy .closing .starting }

/-- The task has failed, or has closed the association. -/
def abandon (s : UdpAssociate) : UdpTask → UdpAssociate
  | .opening _ _ | .relaying _ _ => { s with phase := .waiting, association := none }
  | .closing => { s with phase := .returned false, association := none }

def become (s : UdpAssociate) (a : UdpAssociation) (phase : UdpPhase) : UdpAssociate :=
  { s with phase := phase, association := some a }

def onControl (s : UdpAssociate) : ControlRead → Option UdpAssociate
  | .byte =>
    match s.phase with
    | .waiting => some s
    -- the relay is dropped where it is
    | .busy (.relaying _ _) _ => some { s with phase := .waiting }
    | _ => none
  | .closed =>
    match s.phase with
    | .waiting | .busy (.relaying _ _) _ => some s.close
    | _ => none
  | .failed =>
    match s.phase with
    | .waiting | .busy (.relaying _ _) _ => some s.fail
    | _ => none

def onDatagram (config : UdpAssociateConfig) (s : UdpAssociate) (input : Bytes)
    (peer : SocketAddr) : UdpAssociate :=
  match decodeUdpRequest input with
  | .error _ => s
  | .ok packet =>
    let (accepted, associated) := acceptUdpPeer s.associatedUdpPeer peer config.controlPeer
    let s := { s with associatedUdpPeer := associated }
    if accepted = false then s
    else if s.association.isNone then { s with phase := .connecting peer packet }
    else { s with phase := .busy (.relaying peer packet) .starting }

/-- How a task goes on after a step of `send_frame`. -/
def afterSend (s : UdpAssociate) (task : UdpTask) (a : UdpAssociation) :
    H2Sender.Sent → UdpAssociate
  | (_, .error _) => s.abandon task
  | (sender, .ok (some call)) => s.become { a with sender } (.busy task (.sending call))
  | (sender, .ok none) =>
    s.become { a with sender } (.busy task (if task = .closing then .finishing else .awaiting))

/-- The response is sent to the peer, if it can be encoded. -/
def forward (s : UdpAssociate) (a : UdpAssociation) (peer : SocketAddr)
    (request response : UdpPacketPayload) : UdpAssociate :=
  match encodeUdpResponse response with
  | .error _ => s
  | .ok datagram =>
    { s with forwarded := s.forwarded ++ [⟨peer, datagram, request, response, a⟩] }

/-- A frame of the server. -/
def onFrame (s : UdpAssociate) (task : UdpTask) (a : UdpAssociation) (f : Frame) : UdpAssociate :=
  match task with
  | .opening peer packet =>
    if f.frameType = .windowUpdate ∧ f.flowId = UDP_FLOW_ID then
      s.become a (.busy (.relaying peer packet) .starting)
    else if f.frameType = .error then s.become a (.busy task .finishing)
    else s.abandon task
  | .relaying peer packet =>
    if f.frameType = .closeFlow then s.become a (.busy task .finishing)
    else
      match udpResponseFromFrame f UDP_FLOW_ID with
      | .error _ => s.abandon task
      | .ok none => s.become a (.busy task .awaiting)
      | .ok (some response) => (s.forward a peer packet response).become a .waiting
  | .closing => s.abandon task

/-- `read_next_frame`, as far as it gets with what has arrived. -/
def onRead (s : UdpAssociate) (task : UdpTask) (a : UdpAssociation) (event : TunnelEvent) :
    Option UdpAssociate :=
  match event, a.readNext with
  | .frame, .error _ => some (s.abandon task)
  | .frame, .ok (some f, rest) => some (s.onFrame task { a with recvBuf := rest } f)
  | .receive n, .ok (none, rest) => some (s.become (a.receive rest n) (.busy task .awaiting))
  | .responseEnd, .ok (none, _) => some (s.abandon task)
  | .timedOut, _ =>
    match task with
    | .relaying _ _ => some (s.abandon task)
    | _ => none
  | _, _ => none

def onTunnel (config : UdpAssociateConfig) (s : UdpAssociate) (task : UdpTask)
    (a : UdpAssociation) : UdpStage → TunnelEvent → Option UdpAssociate
  | .starting, .start random cover =>
    match task.frame config with
    | .error _ => some (s.abandon task)
    | .ok f =>
      -- the capacity is granted step by step
      some (s.afterSend task a
        (a.sender.sendFrame ⟨f, task = .closing, random, cover, fun _ _ => 0⟩))
  | .sending call, .send event => (a.sender.resume call event).map (s.afterSend task a)
  | .awaiting, event => s.onRead task a event
  | .finishing, .finished | .finishing, .timedOut => some (s.abandon task)
  | _, _ => none

def next (config : UdpAssociateConfig) (s : UdpAssociate) :
    UdpAssociateAction → Option UdpAssociate
  | .control read => s.onControl read
  | .datagram input peer =>
    match s.phase with
    | .waiting => some (s.onDatagram config input peer)
    | _ => none
  | .socketFailed =>
    match s.phase with
    | .waiting => some s.fail
    | _ => none
  | .connected maxFrameSize =>
    match s.phase with
    | .connecting peer packet =>
      if maxFrameSize ≤ MAX_NEGOTIATED_FRAME_SIZE then
        some (s.become (.new config.mode config.shaping maxFrameSize)
          (.busy (.opening peer packet) .starting))
      else none
    | _ => none
  | .connectFailed =>
    match s.phase with
    | .connecting _ _ => some { s with phase := .waiting }
    | _ => none
  | .tunnel event =>
    match s.phase, s.association with
    | .busy task stage, some a => s.onTunnel config task a stage event
    | _, _ => none
  | .answer f =>
    match s.association with
    | some a => (a.answer f).map fun a => { s with association := some a }
    | none => none
  | .serverFrame f =>
    match s.association with
    | some a => (a.serverFrame f).map fun a => { s with association := some a }
    | none => none

end UdpAssociate

/-- `serve_udp_associate_with_pool` -/
def udpAssociate (config : UdpAssociateConfig) : System UdpAssociate UdpAssociateAction where
  start := .start
  next := UdpAssociate.next config

/-! ## Matched exchanges and whole frames -/

/-- The server's answer to the request being relayed, which is the last that it has read. -/
structure Forwarded.Matched (e : Forwarded) : Prop where
  request : ∃ g, packetFrame e.request = .ok g ∧ e.association.requests.getLast? = some g
  answer : ∃ f, e.association.answers[e.association.requests.length - 1]? = some f ∧
    UdpPacketPayload.decode f.payload = .ok e.response
  datagram : encodeUdpResponse e.response = .ok e.datagram

/-- The frame that is being sent, and what is left of it. -/
def UdpPhase.unsent : UdpPhase → Option (Frame × Bytes)
  | busy _ (.sending (.writing f rest _ _)) => some (f, rest)
  | _ => none

/-- What was sent is a sequence of complete frames, and the part of a frame that is being
sent. -/
def H2Sender.WholeFrames (s : H2Sender) (unsent : Option (Frame × Bytes)) : Prop :=
  ∃ (frames : List Frame) (part : Bytes), (∀ f ∈ frames, f.payload.length ≤ s.maxFrameSize) ∧
    s.sentBytes = frames.flatMap Framing.grpc.bytes ++ part ∧
    match unsent with
    | none => part = []
    | some (f, rest) => part ++ rest = Framing.grpc.bytes f

namespace UdpAssociate

def isRelaying (s : UdpAssociate) : Bool :=
  match s.phase with
  | .busy (.relaying _ _) _ => true
  | _ => false

/-- No byte is read from the control connection while a packet is relayed, and its end is not
read in the middle of a frame. -/
def Undisturbed (s : UdpAssociate) : UdpAssociateAction → Prop
  | .control .byte => s.isRelaying = false
  | .control .closed => s.phase.unsent = none
  | _ => True

instance (s : UdpAssociate) : (action : UdpAssociateAction) → Decidable (s.Undisturbed action)
  | .control .byte => inferInstanceAs (Decidable (_ = _))
  | .control .closed => inferInstanceAs (Decidable (_ = _))
  | .control .failed | .datagram _ _ | .socketFailed | .connected _ | .connectFailed | .tunnel _
  | .answer _ | .serverFrame _ => inferInstanceAs (Decidable True)

end UdpAssociate

/-! ## One call of `send_frame` -/

namespace H2Sender

/-- These frames were sent, and then this part of one. -/
structure Holds (s : H2Sender) (frames : List Frame) (part : Bytes) : Prop where
  size : s.maxFrameSize ≤ MAX_NEGOTIATED_FRAME_SIZE
  fits : ∀ f ∈ frames, f.payload.length ≤ s.maxFrameSize
  sent : s.sentBytes = frames.flatMap Framing.grpc.bytes ++ part

/-- Behind these frames a call sends those items; what is left of it. -/
def Sends (s : H2Sender) (frames items : List Frame) : Option SendCall → Prop
  | none => s.Holds (frames ++ items) []
  | some (.delayed prepared call) =>
    s.Holds frames [] ∧ (s.shaper.items call prepared.frames).map Prod.fst = items
  | some (.writing f rest _ queue) =>
    ∃ done part, items = done ++ f :: queue.map Prod.fst ∧ s.Holds (frames ++ done) part ∧
      f.payload.length ≤ s.maxFrameSize ∧ part ++ rest = Framing.grpc.bytes f

/-- The batcher behind a call. -/
def batcherAfter (s : H2Sender) : Option SendCall → RuntimeBatcher
  | some (.delayed prepared _) => prepared.batcher
  | _ => s.shaper.batcher

/-- A step of a call that sends these items and leaves this batcher. -/
structure Step (s : H2Sender) (frames items : List Frame) (batcher : RuntimeBatcher) (p : Sent) :
    Prop where
  size : p.1.maxFrameSize = s.maxFrameSize
  grows : s.sent <+: p.1.sent
  sends : ∀ o, p.2 = .ok o → p.1.Sends frames items o ∧ p.1.batcherAfter o = batcher

section
variable {s : H2Sender} {frames items : List Frame} {o : Option SendCall}

variable {f : Frame} {queue : List (Frame × Bool)}

theorem decode_fitting (hsize : s.maxFrameSize ≤ MAX_NEGOTIATED_FRAME_SIZE)
    (hfits : f.payload.length ≤ s.maxFrameSize) (x : Bytes) :
    (grpcDecoder s.maxFrameSize).decode (Framing.grpc.bytes f ++ x) = .ok (some (f, x)) := by
  have hmax : FRAME_HEADER_LEN + s.maxFrameSize < 2 ^ 32 := by
    simp only [MAX_NEGOTIATED_FRAME_SIZE, FRAME_HEADER_LEN] at hsize ⊢
    omega
  have hdecode : (Framing.grpc.decoder s.maxFrameSize).decode (Framing.grpc.bytes f ++ x) =
      .ok (some (f, x)) := Framing.decode_bytes hmax hfits x
  exact hdecode

/-- The next frame of a call. -/
theorem sends_writeNext {done : List Frame} (h : s.Holds (frames ++ done) [])
    (hnext : s.writeNext queue = .ok o) :
    s.Sends frames (done ++ queue.map Prod.fst) o ∧ s.batcherAfter o = s.shaper.batcher := by
  match queue with
  | [] =>
    cases hnext
    rw [List.map_nil, List.append_nil]
    exact ⟨h, rfl⟩
  | (f, endStream) :: queue =>
    rw [writeNext] at hnext
    by_cases hfits : f.payload.length ≤ s.maxFrameSize
    · have hencode : encodeGrpcFrame f s.maxFrameSize = .ok (Framing.grpc.bytes f) :=
        Framing.grpc.encode_eq_ok hfits
      rw [hencode] at hnext
      cases hnext
      exact ⟨⟨done, [], rfl, h, hfits, rfl⟩, rfl⟩
    · rw [encodeGrpcFrame, Frame.encode, if_pos (not_le.mp hfits)] at hnext
      cases hnext

/-- The frames of a call that is not delayed, or not any more. -/
theorem step_write (h : s.Holds frames []) (prepared : Prepared) (call : Call) :
    s.Step frames ((s.shaper.items call prepared.frames).map Prod.fst) prepared.batcher
      (s.write prepared call) where
  size := rfl
  grows := List.prefix_rfl
  sends o hwrite := by
    have hall : (s.withBatcher prepared.batcher).Holds (frames ++ []) [] := by
      rw [List.append_nil]
      exact ⟨h.size, h.fits, h.sent⟩
    exact sends_writeNext hall hwrite

/-- A call starts. -/
theorem step_sendFrame (h : s.Holds frames []) (call : Call) :
    s.Step frames ((s.shaper.items call
        (prepareOutgoingFrames call.frame s.shaper.batcher s.shaper.padding).frames).map Prod.fst)
      (prepareOutgoingFrames call.frame s.shaper.batcher s.shaper.padding).batcher
      (s.sendFrame call) := by
  unfold sendFrame
  dsimp only
  split
  · exact step_write h _ call
  refine ⟨rfl, List.prefix_rfl, fun o hsend => ?_⟩
  cases hsend
  exact ⟨⟨⟨h.size, h.fits, h.sent⟩, rfl⟩, rfl⟩

theorem sentBytes_chunk (s : H2Sender) (chunk : Bytes) (mark : Bool) :
    sentBytes { s with sent := s.sent ++ [.data chunk mark] } = s.sentBytes ++ chunk := by
  rw [sentBytes, List.flatMap_append, List.flatMap_singleton]
  rfl

/-- A chunk of the current frame. -/
theorem step_writeChunk {rest : Bytes} {endStream : Bool} (capacity : Nat)
    (h : s.Sends frames items (some (.writing f rest endStream queue))) :
    s.Step frames items s.shaper.batcher (s.writeChunk f rest endStream queue capacity) := by
  obtain ⟨done, part, rfl, hholds, hfits, hpart⟩ := h
  refine ⟨rfl, List.prefix_append _ _, fun o hwrite => ?_⟩
  unfold writeChunk at hwrite ⊢
  dsimp only at hwrite ⊢
  generalize min (max 1 capacity) rest.length = chunkLen at hwrite ⊢
  generalize (endStream && (rest.drop chunkLen).isEmpty) = mark
  have hsent := s.sentBytes_chunk (rest.take chunkLen) mark
  rw [hholds.sent, List.append_assoc] at hsent
  have hsplit : part ++ rest.take chunkLen ++ rest.drop chunkLen = Framing.grpc.bytes f := by
    rw [List.append_assoc, List.take_append_drop, hpart]
  split at hwrite
  · next hlast =>
      rw [hlast, List.append_nil] at hsplit
      have hwhole : (frames ++ done).flatMap Framing.grpc.bytes ++ (part ++ rest.take chunkLen) =
          (frames ++ (done ++ [f])).flatMap Framing.grpc.bytes ++ [] := by
        rw [hsplit]
        simp
      have hfits : ∀ g ∈ frames ++ (done ++ [f]), g.payload.length ≤ s.maxFrameSize := by
        rw [← List.append_assoc]
        exact forall_mem_snoc hholds.fits hfits
      have hdone : Holds { s with sent := s.sent ++ [.data (rest.take chunkLen) mark] }
        (frames ++ (done ++ [f])) [] := ⟨hholds.size, hfits, hsent.trans hwhole⟩
      rw [List.append_cons done]
      exact sends_writeNext hdone hwrite
  · cases hwrite
    exact ⟨⟨done, _, rfl, ⟨hholds.size, hholds.fits, hsent⟩, hfits, hsplit⟩, rfl⟩

/-- **A call goes on as it began.** -/
theorem step_resume {call : SendCall} {event : SendEvent} {p : Sent}
    (h : s.Sends frames items (some call)) (hresume : s.resume call event = some p) :
    s.Step frames items (s.batcherAfter (some call)) p := by
  match call, event, hresume with
  | .delayed prepared call, .elapsed, hresume =>
    cases hresume
    obtain ⟨hholds, rfl⟩ := h
    exact step_write hholds prepared call
  | .writing f rest endStream queue, .capacity n, hresume =>
    cases hresume
    exact step_writeChunk n h
  | .writing f rest endStream queue, .failed, hresume =>
    cases hresume
    exact ⟨rfl, List.prefix_rfl, fun o ho => by cases ho⟩

end
end H2Sender

/-! ## Frames of the flow -/

/-- What is taken as a response is a packet of the flow, and nothing else of it is ignored. -/
theorem udpResponseFromFrame_eq_ok {f : Frame} {o : Option UdpPacketPayload}
    (h : udpResponseFromFrame f UDP_FLOW_ID = .ok o) :
    match o with
    | none => isFlowPacket f = false
    | some response => isFlowPacket f = true ∧ UdpPacketPayload.decode f.payload = .ok response := by
  unfold udpResponseFromFrame at h
  split at h
  · next hpacket =>
      obtain ⟨response, hdecode, rfl⟩ := Check.map_eq_ok.mp (Check.mapError_eq_ok.mp h)
      exact ⟨decide_eq_true hpacket, hdecode⟩
  next hother =>
    split at h <;> (try split at h) <;> cases h
    exact decide_eq_false hother

/-! ## Requests and answers -/

namespace UdpAssociation

/-- The answers to all requests but the first `n` are not read yet. -/
structure Level (a : UdpAssociation) (n : Nat) : Prop where
  counted : n ≤ a.answers.length
  bounded : a.answers.length ≤ a.requests.length
  unread : ∃ left : List Frame, (∀ f ∈ left, f.payload.length ≤ a.maxFrameSize) ∧
    a.recvBuf ++ a.inFlight = left.flatMap Framing.grpc.bytes ∧
    left.filter isFlowPacket = (a.answers.drop n).filter isFlowPacket

section
variable {a a' : UdpAssociation} {n : Nat} {f : Frame} {rest : Bytes}

variable {frames : List Frame}

/-- The server reads the complete frames. -/
theorem requests_eq (h : a.sender.Holds frames []) : a.requests = frames.filter isFlowPacket := by
  rw [requests, maxFrameSize, h.sent, List.append_nil, Decoder.drain_encoded fun f hf x =>
    H2Sender.decode_fitting h.size (h.fits f hf) x]

/-- What is sent does not change what was read. -/
theorem Level.step {items : List Frame} {batcher : RuntimeBatcher} {p : H2Sender.Sent}
    (h : a.Level n) (hstep : a.sender.Step frames items batcher p) :
    Level { a with sender := p.1 } n := by
  obtain ⟨more, hmore⟩ := hstep.grows
  have hsize : maxFrameSize { a with sender := p.1 } = a.maxFrameSize := hstep.size
  have hbytes : p.1.sentBytes = a.sender.sentBytes ++ more.flatMap Wire.bytes := by
    rw [H2Sender.sentBytes, ← hmore, List.flatMap_append]
    rfl
  refine ⟨h.counted, h.bounded.trans ?_, by rw [hsize]; exact h.unread⟩
  rw [requests, requests, hsize, hbytes]
  exact ((Decoder.drain_isPrefix _ _).filter _).length_le

theorem filter_padding {skipped : List Frame} (h : ∀ g ∈ skipped, Relay.isPadding g = true) :
    skipped.filter isFlowPacket = [] := by
  refine List.filter_eq_nil_iff.mpr fun g hg => ?_
  have hpadding : g.frameType = .padding := of_decide_eq_true (h g hg)
  simp [isFlowPacket, hpadding]

/-- What is behind the frames that `read_next_frame` has passed over. -/
theorem Level.next {o : Option Frame} (hsize : a.maxFrameSize ≤ MAX_NEGOTIATED_FRAME_SIZE)
    (h : a.Level n) (hnext : a.readNext = .ok (o, rest)) :
    ∃ left : List Frame, (∀ f ∈ left, f.payload.length ≤ a.maxFrameSize) ∧
      rest ++ a.inFlight = left.flatMap Framing.grpc.bytes ∧
      (o.toList ++ left).filter isFlowPacket = (a.answers.drop n).filter isFlowPacket := by
  obtain ⟨all, hfits, hbytes, hpackets⟩ := h.unread
  obtain ⟨skipped, left, hskipped, rfl, hleft⟩ := Decoder.next_encoded
    (fun f hf x => H2Sender.decode_fitting hsize (hfits f hf) x) hbytes hnext
  refine ⟨left, fun f hf => hfits f (by simp [hf]), hleft, ?_⟩
  rw [← hpackets, List.filter_append skipped, filter_padding hskipped, List.nil_append]

/-- More of the response arrives. -/
theorem Level.receive (hsize : a.maxFrameSize ≤ MAX_NEGOTIATED_FRAME_SIZE) (h : a.Level n)
    (hnext : a.readNext = .ok (none, rest)) (len : Nat) : (a.receive rest len).Level n := by
  obtain ⟨left, hfits, hleft, hpackets⟩ := h.next hsize hnext
  refine ⟨h.counted, h.bounded, left, hfits, ?_, hpackets⟩
  rw [UdpAssociation.receive, List.append_assoc, List.take_append_drop, hleft]

/-- A frame that is no packet of the flow is read. -/
theorem Level.other (hsize : a.maxFrameSize ≤ MAX_NEGOTIATED_FRAME_SIZE) (h : a.Level n)
    (hnext : a.readNext = .ok (some f, rest)) (hf : isFlowPacket f = false) :
    Level { a with recvBuf := rest } n := by
  obtain ⟨left, hfits, hleft, hpackets⟩ := h.next hsize hnext
  rw [Option.toList_some, List.singleton_append, List.filter_cons_of_neg (by simp [hf])] at hpackets
  exact ⟨h.counted, h.bounded, left, hfits, hleft, hpackets⟩

/-- **A packet of the flow is read.**  If one request was left, it is the answer to that. -/
theorem Level.packet (hsize : a.maxFrameSize ≤ MAX_NEGOTIATED_FRAME_SIZE) (h : a.Level n)
    (hone : a.requests.length = n + 1) (hnext : a.readNext = .ok (some f, rest))
    (hf : isFlowPacket f = true) :
    a.answers[n]? = some f ∧ Level { a with recvBuf := rest } (n + 1) := by
  obtain ⟨left, hfits, hleft, hpackets⟩ := h.next hsize hnext
  rw [Option.toList_some, List.singleton_append, List.filter_cons_of_pos hf] at hpackets
  have hmem : f ∈ a.answers.drop n := List.mem_of_mem_filter (hpackets ▸ List.mem_cons_self)
  have hbounded := h.bounded
  have hlength : (a.answers.drop n).length ≤ 1 := by
    rw [List.length_drop]
    omega
  obtain ⟨answer, hdrop⟩ :=
    List.length_eq_one_iff.mp (hlength.antisymm (List.length_pos_of_mem hmem))
  rw [hdrop] at hmem hpackets
  obtain rfl := List.mem_singleton.mp hmem
  have hanswer : a.answers[n]? = some f := by
    rw [← List.head?_drop, hdrop]
    rfl
  rw [List.filter_cons_of_pos hf] at hpackets
  refine ⟨hanswer, (List.getElem?_eq_some_iff.mp hanswer).1, h.bounded, left, hfits, hleft, ?_⟩
  rw [(List.cons.inj hpackets).2, ← List.drop_drop, hdrop]
  rfl

/-- The server sends a frame. -/
theorem Level.sent (h : a.Level n) (hfit : f.payload.length ≤ a.maxFrameSize)
    {answers : List Frame} (hcounted : n ≤ answers.length)
    (hbounded : answers.length ≤ a.requests.length)
    (hanswers : (answers.drop n).filter isFlowPacket =
      (a.answers.drop n).filter isFlowPacket ++ [f].filter isFlowPacket) :
    Level { a with answers, inFlight := a.inFlight ++ Framing.grpc.bytes f } n := by
  obtain ⟨left, hfits, hbytes, hpackets⟩ := h.unread
  refine ⟨hcounted, hbounded, left ++ [f], ?_, ?_, ?_⟩
  · exact forall_mem_snoc hfits hfit
  · rw [← List.append_assoc, hbytes, List.flatMap_append, List.flatMap_singleton]
  · rw [List.filter_append, hpackets, hanswers]

/-- The server answers a request. -/
theorem Level.answer (h : a.Level n) (hanswer : a.answer f = some a') : a'.Level n := by
  obtain ⟨⟨hless, -, hfit⟩, hsame⟩ := Option.ite_none_right_eq_some.mp hanswer
  cases hsame
  refine h.sent hfit ?_ ?_ ?_
  · rw [List.length_append]
    exact Nat.le_add_right_of_le h.counted
  · rwa [List.length_append]
  · rw [List.drop_append_of_le_length h.counted, List.filter_append]

/-- The server sends something else. -/
theorem Level.serverFrame (h : a.Level n) (hframe : a.serverFrame f = some a') : a'.Level n := by
  obtain ⟨⟨hother, hfit⟩, hsame⟩ := Option.ite_none_right_eq_some.mp hframe
  cases hsame
  refine h.sent hfit h.counted h.bounded ?_
  rw [List.filter_cons_of_neg (by simp [hother]), List.filter_nil, List.append_nil]

end

/-! ## Between two requests, and during one -/

/-- Nothing is being sent; and unless the association is closed, all requests are answered,
the answers are read and no frame is held back. -/
def Ready (a : UdpAssociation) (closing : Prop) : Prop :=
  ∃ frames, a.sender.Holds frames [] ∧
    (¬ closing → a.Level (frames.filter isFlowPacket).length ∧ a.sender.shaper.batcher.pending = [])

/-- What a call is for: it sends the frame of the task, and all requests before it are
answered. -/
structure Duty (config : UdpAssociateConfig) (a : UdpAssociation) (task : UdpTask)
    (frames items : List Frame) (batcher : RuntimeBatcher) : Prop where
  last : ∃ g padding, task.frame config = .ok g ∧ items = padding ++ [g] ∧
    padding.filter isFlowPacket = []
  level : a.Level (frames.filter isFlowPacket).length
  pending : batcher.pending = []

/-- During the call of a task, or behind it. -/
def Calls (config : UdpAssociateConfig) (a : UdpAssociation) (task : UdpTask)
    (o : Option SendCall) : Prop :=
  ∃ frames items, a.sender.Sends frames items o ∧
    (task ≠ .closing → a.Duty config task frames items (a.sender.batcherAfter o))

/-- What holds of the association in each phase. -/
def Sound (config : UdpAssociateConfig) (a : UdpAssociation) : UdpPhase → Prop
  | .busy task .starting => a.Ready (task = .closing)
  | .busy task (.sending call) => a.Calls config task (some call)
  | .busy task .awaiting => a.Calls config task none
  | .busy _ .finishing => a.Ready True
  | _ => a.Ready False

section
variable {a a' : UdpAssociation} {config : UdpAssociateConfig} {task : UdpTask}
  {o : Option SendCall} {closing : Prop} {phase : UdpPhase} {f : Frame} {rest : Bytes}

theorem ready_new (mode : Mode) (shaping : ShapingConfig) {maxFrameSize : Nat}
    (h : maxFrameSize ≤ MAX_NEGOTIATED_FRAME_SIZE) (closing : Prop) :
    (new mode shaping maxFrameSize).Ready closing :=
  ⟨[], ⟨h, nofun, rfl⟩, fun _ => ⟨⟨Nat.le_refl _, Nat.zero_le _, [], nofun, rfl, rfl⟩,
    RuntimeBatcher.pending_fromConfig mode shaping⟩⟩

theorem Ready.toClose (h : a.Ready closing) : a.Ready True := by
  obtain ⟨frames, hholds, -⟩ := h
  exact ⟨frames, hholds, fun hno => (hno trivial).elim⟩

/-- What arrives does not change what is sent. -/
theorem Ready.of_same (h : a.Ready closing) (hsender : a'.sender = a.sender)
    (hlevel : ∀ n, a.Level n → a'.Level n) : a'.Ready closing := by
  obtain ⟨frames, hholds, hidle⟩ := h
  rw [Ready, hsender]
  exact ⟨frames, hholds, fun hno => ⟨hlevel _ (hidle hno).1, (hidle hno).2⟩⟩

theorem Calls.of_same (h : a.Calls config task o) (hsender : a'.sender = a.sender)
    (hlevel : ∀ n, a.Level n → a'.Level n) : a'.Calls config task o := by
  obtain ⟨frames, items, hsends, hduty⟩ := h
  rw [Calls, hsender]
  exact ⟨frames, items, hsends, fun hno =>
    ⟨(hduty hno).last, hlevel _ (hduty hno).level, (hduty hno).pending⟩⟩

/-- Behind a call all its frames are sent. -/
theorem Calls.ready (h : a.Calls config task none) : a.Ready True := by
  obtain ⟨frames, items, hsends, -⟩ := h
  exact ⟨frames ++ items, hsends, fun hno => (hno trivial).elim⟩

variable {p : H2Sender.Sent}

/-- A step of the call of a task. -/
theorem Calls.step {frames items : List Frame} {batcher : RuntimeBatcher}
    (hstep : a.sender.Step frames items batcher p)
    (hduty : task ≠ .closing → a.Duty config task frames items batcher) (ho : p.2 = .ok o) :
    Calls config { a with sender := p.1 } task o := by
  obtain ⟨hsends, hbatcher⟩ := hstep.sends o ho
  refine ⟨frames, items, hsends, fun hno => ?_⟩
  obtain ⟨hlast, hlevel, hpending⟩ := hduty hno
  exact ⟨hlast, hlevel.step hstep, hbatcher ▸ hpending⟩

theorem Calls.start {call : Call} (h : a.Ready (task = .closing))
    (hframe : task.frame config = .ok call.frame) (ho : (a.sender.sendFrame call).2 = .ok o) :
    Calls config { a with sender := (a.sender.sendFrame call).1 } task o := by
  obtain ⟨frames, hholds, hidle⟩ := h
  refine Calls.step (H2Sender.step_sendFrame hholds call) (fun hno => ?_) ho
  obtain ⟨hlevel, hpending⟩ := hidle hno
  obtain ⟨hframes, hafter⟩ :=
    prepareOutgoingFrames_spec call.frame a.sender.shaper.padding fun _ => hpending
  refine ⟨⟨call.frame, a.sender.shaper.fillers call, hframe, ?_, ?_⟩, hlevel, hafter⟩
  · rw [hframes, hpending, List.nil_append, Shaper.items_frame, Shaper.map_fst_itemsOf]
  · exact filter_padding fun p hp =>
      decide_eq_true (a.sender.shaper.fillers_spec call p hp).1

/-- What the server has read once the frame of the task is sent. -/
theorem Calls.sent (h : a.Calls config task none) (htask : task ≠ .closing) :
    ∃ g frames requests, task.frame config = .ok g ∧ a.sender.Holds frames [] ∧
      frames.filter isFlowPacket = requests ++ [g].filter isFlowPacket ∧
      a.Level requests.length ∧ a.sender.shaper.batcher.pending = [] := by
  obtain ⟨frames, items, hholds, hduty⟩ := h
  obtain ⟨⟨g, padding, hframe, rfl, hpadding⟩, hlevel, hpending⟩ := hduty htask
  refine ⟨g, _, frames.filter isFlowPacket, hframe, hholds, ?_, hlevel, hpending⟩
  rw [List.filter_append, List.filter_append, hpadding, List.nil_append]

/-- A frame that is no packet is sent, and the server has sent no packet either. -/
theorem Calls.opened (h : a.Calls config task none) (htask : task ≠ .closing)
    (hg : ∀ g, task.frame config = .ok g → isFlowPacket g = false)
    (hnext : a.readNext = .ok (some f, rest)) (hf : isFlowPacket f = false) (closing : Prop) :
    Ready { a with recvBuf := rest } closing := by
  obtain ⟨g, frames, requests, hframe, hholds, hframes, hlevel, hpending⟩ := h.sent htask
  rw [List.filter_cons_of_neg (by simp [hg g hframe]), List.filter_nil, List.append_nil] at hframes
  refine ⟨frames, hholds, fun _ => ⟨?_, hpending⟩⟩
  rw [hframes]
  exact hlevel.other hholds.size hnext hf

/-- **A packet is sent and a packet arrives.**  It is the answer, and all is done. -/
theorem Calls.answered {peer : SocketAddr} {packet : UdpPacketPayload}
    (h : a.Calls config (.relaying peer packet) none) (hnext : a.readNext = .ok (some f, rest))
    (hf : isFlowPacket f = true) :
    (∃ g, packetFrame packet = .ok g ∧ a.requests.getLast? = some g) ∧
      a.answers[a.requests.length - 1]? = some f ∧ Ready { a with recvBuf := rest } False := by
  obtain ⟨g, frames, requests, hframe, hholds, hframes, hlevel, hpending⟩ := h.sent nofun
  have hg : isFlowPacket g = true := by
    obtain ⟨payload, -, rfl⟩ := Check.map_eq_ok.mp hframe
    rfl
  rw [List.filter_cons_of_pos hg, List.filter_nil] at hframes
  have hrequests : a.requests = requests ++ [g] := (requests_eq hholds).trans hframes
  have hlength : a.requests.length = requests.length + 1 := by rw [hrequests]; simp
  obtain ⟨hanswer, hidle⟩ := hlevel.packet hholds.size hlength hnext hf
  refine ⟨⟨g, hframe, by rw [hrequests]; simp⟩, by rw [hlength]; exact hanswer, frames, hholds,
    fun _ => ⟨?_, hpending⟩⟩
  rwa [hframes, List.length_append]

/-- **What the server does is allowed for in every phase.** -/
theorem Sound.of_same (h : a.Sound config phase) (hsender : a'.sender = a.sender)
    (hlevel : ∀ n, a.Level n → a'.Level n) : a'.Sound config phase := by
  cases phase with
  | waiting | connecting _ _ | returned _ => exact Ready.of_same h hsender hlevel
  | busy task stage =>
    cases stage with
    | sending _ | awaiting => exact Calls.of_same h hsender hlevel
    | _ => exact Ready.of_same h hsender hlevel

/-- Where no frame is being sent, the association can be closed. -/
theorem Sound.ready (h : a.Sound config phase) (hunsent : phase.unsent = none) :
    a.Ready True := by
  cases phase with
  | waiting | connecting _ _ | returned _ => exact Ready.toClose h
  | busy task stage =>
    cases stage with
    | awaiting => exact Calls.ready h
    | sending call =>
      cases call with
      | delayed prepared call =>
        obtain ⟨frames, items, ⟨hholds, -⟩, -⟩ := h
        exact ⟨frames, hholds, fun hno => (hno trivial).elim⟩
      | writing f rest endStream queue => cases hunsent
    | _ => exact Ready.toClose h

/-- **Whole frames in every phase.** -/
theorem Sound.whole (h : a.Sound config phase) : a.sender.WholeFrames phase.unsent := by
  cases hunsent : phase.unsent with
  | none =>
    obtain ⟨frames, hholds, -⟩ := h.ready hunsent
    exact ⟨frames, [], hholds.fits, hholds.sent, rfl⟩
  | some unsent =>
    unfold UdpPhase.unsent at hunsent
    split at hunsent <;> cases hunsent
    obtain ⟨frames, items, ⟨done, part, -, hholds, -, hpart⟩, -⟩ := h
    exact ⟨frames ++ done, part, hholds.fits, hholds.sent, hpart⟩

end
end UdpAssociation

/-! ## Runs -/

namespace UdpAssociate

/-- The invariant of the runs in which the control connection is silent while it matters. -/
structure Inv (config : UdpAssociateConfig) (s : UdpAssociate) : Prop where
  matched : ∀ e ∈ s.forwarded, e.Matched
  sound : ∀ a, s.association = some a → a.Sound config s.phase

section
variable {config : UdpAssociateConfig} {s s' : UdpAssociate} {a : UdpAssociation} {task : UdpTask}
  {f : Frame} {rest : Bytes}

theorem Inv.become (h : s.Inv config) {phase : UdpPhase} (hsound : a.Sound config phase) :
    (s.become a phase).Inv config := by
  refine ⟨h.matched, fun a' ha' => ?_⟩
  cases ha'
  exact hsound

/-- Without an association there is nothing more to show. -/
theorem Inv.of_none (hmatched : ∀ e ∈ s.forwarded, e.Matched) (hnone : s.association = none) :
    s.Inv config := by
  refine ⟨hmatched, fun a ha => ?_⟩
  cases hnone.symm.trans ha

theorem Inv.abandon (h : s.Inv config) (task : UdpTask) : (s.abandon task).Inv config := by
  cases task with
  | _ => exact .of_none h.matched rfl

theorem Inv.fail (h : s.Inv config) : s.fail.Inv config := .of_none h.matched rfl

theorem Inv.close (h : s.Inv config) (hunsent : s.phase.unsent = none) : s.close.Inv config := by
  unfold UdpAssociate.close
  split
  · next hnone => exact .of_none h.matched hnone
  refine ⟨h.matched, fun a ha => ?_⟩
  obtain ⟨frames, hholds, -⟩ := (h.sound a ha).ready hunsent
  exact ⟨frames, hholds, fun hno => (hno rfl).elim⟩

theorem Inv.afterSend (h : s.Inv config) {p : H2Sender.Sent}
    (hcalls : ∀ o, p.2 = .ok o → UdpAssociation.Calls config { a with sender := p.1 } task o) :
    (s.afterSend task a p).Inv config := by
  match p, hcalls with
  | (_, .error _), _ => exact h.abandon task
  | (_, .ok (some call)), hcalls => exact h.become (hcalls _ rfl)
  | (_, .ok none), hcalls =>
    cases task with
    | closing => exact h.become (hcalls _ rfl).ready
    | _ => exact h.become (hcalls _ rfl)

/-- **A response is forwarded.** -/
theorem Inv.forward (h : s.Inv config) {peer : SocketAddr} {request response : UdpPacketPayload}
    (hmatched : ∀ datagram, encodeUdpResponse response = .ok datagram →
      Forwarded.Matched ⟨peer, datagram, request, response, a⟩) (hready : a.Ready False) :
    ((s.forward a peer request response).become a .waiting).Inv config := by
  refine ⟨?_, fun a' ha' => by cases ha'; exact hready⟩
  show ∀ e ∈ (s.forward a peer request response).forwarded, e.Matched
  unfold UdpAssociate.forward
  split
  · exact h.matched
  · next datagram hdatagram =>
      exact forall_mem_snoc h.matched (hmatched datagram hdatagram)

theorem Inv.onFrame (h : s.Inv config) (hcalls : a.Calls config task none)
    (hnext : a.readNext = .ok (some f, rest)) :
    (s.onFrame task { a with recvBuf := rest } f).Inv config := by
  obtain ⟨frames, hholds, hidle⟩ := hcalls.ready
  have hfinish : UdpAssociation.Ready { a with recvBuf := rest } True :=
    ⟨frames, hholds, fun hno => (hno trivial).elim⟩
  cases task with
  | closing => exact h.abandon .closing
  | opening peer packet =>
    simp only [UdpAssociate.onFrame]
    split
    · next hopened =>
        refine h.become (hcalls.opened nofun (fun g hg => ?_) hnext ?_ _)
        · cases hg
          rfl
        · simp [isFlowPacket, hopened.1]
    · split
      exacts [h.become hfinish, h.abandon _]
  | relaying peer packet =>
    simp only [UdpAssociate.onFrame]
    split
    · exact h.become hfinish
    split
    · exact h.abandon _
    · next hother =>
        have hf := udpResponseFromFrame_eq_ok hother
        exact h.become (hcalls.of_same rfl fun n hlevel => hlevel.other hholds.size hnext hf)
    next response hresponse =>
      obtain ⟨hf, hdecode⟩ := udpResponseFromFrame_eq_ok hresponse
      obtain ⟨hrequest, hanswer, hready⟩ := hcalls.answered hnext hf
      exact h.forward (fun datagram hdatagram =>
        ⟨hrequest, ⟨f, hanswer, hdecode⟩, hdatagram⟩) hready

variable {event : TunnelEvent}

theorem Inv.onRead (h : s.Inv config) (hcalls : a.Calls config task none)
    (hstep : s.onRead task a event = some s') : s'.Inv config := by
  obtain ⟨frames, hholds, -⟩ := hcalls.ready
  unfold UdpAssociate.onRead at hstep
  split at hstep <;> (try split at hstep) <;> cases hstep
  · exact h.abandon task
  · exact h.onFrame hcalls ‹_›
  · next n _ hnext =>
      exact h.become (hcalls.of_same rfl fun _ hlevel => hlevel.receive hholds.size hnext n)
  · exact h.abandon task
  · exact h.abandon _

theorem Inv.onTunnel (h : s.Inv config) {stage : UdpStage}
    (hsound : a.Sound config (.busy task stage))
    (hstep : s.onTunnel config task a stage event = some s') : s'.Inv config := by
  unfold UdpAssociate.onTunnel at hstep
  split at hstep
  · split at hstep <;> cases hstep
    exacts [h.abandon task, h.afterSend fun o ho => UdpAssociation.Calls.start hsound ‹_› ho]
  · obtain ⟨p, hresume, rfl⟩ := Option.map_eq_some_iff.mp hstep
    obtain ⟨frames, items, hsends, hduty⟩ := hsound
    exact h.afterSend fun o ho =>
      UdpAssociation.Calls.step (H2Sender.step_resume hsends hresume) hduty ho
  · exact h.onRead hsound hstep
  all_goals cases hstep
  exacts [h.abandon task, h.abandon task]

theorem Inv.onControl (h : s.Inv config) {read : ControlRead}
    (hgood : s.Undisturbed (.control read)) (hstep : s.onControl read = some s') :
    s'.Inv config := by
  cases read with
  | byte =>
    simp only [UdpAssociate.onControl] at hstep
    split at hstep <;> cases hstep
    · exact h
    · simp [Undisturbed, isRelaying, ‹s.phase = _›] at hgood
  | closed =>
    simp only [UdpAssociate.onControl] at hstep
    split at hstep <;> cases hstep <;> exact h.close hgood
  | failed =>
    simp only [UdpAssociate.onControl] at hstep
    split at hstep <;> cases hstep <;> exact h.fail

theorem Inv.onDatagram (h : s.Inv config) (hphase : s.phase = .waiting) (input : Bytes)
    (peer : SocketAddr) : (s.onDatagram config input peer).Inv config := by
  have hready : ∀ a, s.association = some a → a.Ready False := by
    intro a ha
    have hsound := h.sound a ha
    rwa [hphase] at hsound
  unfold UdpAssociate.onDatagram
  split <;> (try dsimp only) <;> (try split) <;> (try split)
  · exact h
  · exact ⟨h.matched, h.sound⟩
  · exact ⟨h.matched, hready⟩
  refine ⟨h.matched, fun a ha => ?_⟩
  obtain ⟨frames, hholds, hidle⟩ := hready a ha
  exact ⟨frames, hholds, fun _ => hidle not_false⟩

/-- The server's steps. -/
theorem Inv.server (h : s.Inv config) (ha : s.association = some a) {a' : UdpAssociation}
    (hsender : a'.sender = a.sender) (hlevel : ∀ n, a.Level n → a'.Level n) :
    Inv config { s with association := some a' } := by
  refine ⟨h.matched, fun b hb => ?_⟩
  cases hb
  exact (h.sound a ha).of_same hsender hlevel

/-- **Every step keeps the invariant**, if the control connection does not disturb it. -/
theorem Inv.next (h : s.Inv config) {action : UdpAssociateAction} (hgood : s.Undisturbed action)
    (hstep : s.next config action = some s') : s'.Inv config := by
  cases action with
  | control read => exact h.onControl hgood hstep
  | datagram input peer =>
    simp only [UdpAssociate.next] at hstep
    split at hstep <;> cases hstep
    next hphase => exact h.onDatagram hphase input peer
  | socketFailed =>
    simp only [UdpAssociate.next] at hstep
    split at hstep <;> cases hstep
    exact h.fail
  | connected maxFrameSize =>
    simp only [UdpAssociate.next] at hstep
    split at hstep
    · obtain ⟨hsize, hstep⟩ := Option.ite_none_right_eq_some.mp hstep
      cases hstep
      exact h.become (UdpAssociation.ready_new _ _ hsize _)
    · cases hstep
  | connectFailed =>
    simp only [UdpAssociate.next] at hstep
    split at hstep <;> cases hstep
    next hphase =>
      refine ⟨h.matched, fun a ha => ?_⟩
      have hsound := h.sound a ha
      rwa [hphase] at hsound
  | tunnel event =>
    simp only [UdpAssociate.next] at hstep
    split at hstep
    · next hphase ha =>
        have hsound := h.sound _ ha
        rw [hphase] at hsound
        exact h.onTunnel hsound hstep
    · cases hstep
  | answer f =>
    simp only [UdpAssociate.next] at hstep
    split at hstep
    · next a ha =>
        obtain ⟨a', hanswer, rfl⟩ := Option.map_eq_some_iff.mp hstep
        obtain ⟨-, hsame⟩ := Option.ite_none_right_eq_some.mp hanswer
        cases hsame
        exact h.server ha rfl fun n hlevel => hlevel.answer hanswer
    · cases hstep
  | serverFrame f =>
    simp only [UdpAssociate.next] at hstep
    split at hstep
    · next a ha =>
        obtain ⟨a', hframe, rfl⟩ := Option.map_eq_some_iff.mp hstep
        obtain ⟨-, hsame⟩ := Option.ite_none_right_eq_some.mp hframe
        cases hsame
        exact h.server ha rfl fun n hlevel => hlevel.serverFrame hframe
    · cases hstep

theorem inv_of_reachBy (h : (udpAssociate config).ReachBy Undisturbed s) : s.Inv config :=
  h.invariant (.of_none (List.forall_mem_nil _) rfl) fun _ _ _ hs hgood hnext => hs.next hgood hnext

end
end UdpAssociate

/-- **Exchanges stay matched.**  In every run in which no byte of the control connection is
read while a packet is relayed, and its end is not read in the middle of a frame: every
response that was forwarded is the server's answer to the request that was being relayed, and
what was sent on the tunnel of the association is a sequence of complete frames, except for
the frame that is being sent. -/
theorem udp_exchanges_matched (config : UdpAssociateConfig) {s : UdpAssociate}
    (h : (udpAssociate config).ReachBy UdpAssociate.Undisturbed s) :
    (∀ e ∈ s.forwarded, e.Matched) ∧
      ∀ a, s.association = some a → a.sender.WholeFrames s.phase.unsent := by
  have hinv := UdpAssociate.inv_of_reachBy h
  exact ⟨hinv.matched, fun a ha => (hinv.sound a ha).whole⟩

/-! Two datagrams of one peer, and what happens on the control connection between them. -/

namespace TwoDatagrams

def config : UdpAssociateConfig := ⟨.stable, {}, 1000, none⟩

def peer : SocketAddr := ⟨.v4 ⟨127, 0, 0, 1⟩, 5000⟩

def datagram (content : UInt8) : UdpAssociateAction :=
  .datagram [0, 0, 0, 1, 192, 0, 2, 1, 0, 53, content] peer

def reply (content : UInt8) : UdpAssociateAction :=
  .answer ⟨.udpPacket, 0, UDP_FLOW_ID, UdpPacketPayload.bytes ⟨.ipv4 ⟨192, 0, 2, 1⟩, 53, [content]⟩⟩

def poll : UdpAssociateAction := .tunnel (.start (fun _ => Plain.zeros) fun _ => Plain.zeros)

def capacity (n : Nat) : UdpAssociateAction := .tunnel (.send (.capacity n))

/-- What the server has sent arrives and is read. -/
def read : List UdpAssociateAction := [.tunnel (.receive 1000), .tunnel .frame]

/-- The first datagram opens the association. -/
def opened : List UdpAssociateAction :=
  [datagram 1, .connected 65536, poll, capacity 1000,
    .serverFrame ⟨.windowUpdate, 0, UDP_FLOW_ID, []⟩] ++ read

/-- Both datagrams are answered in their turn, and the control connection ends. -/
def answered : List UdpAssociateAction :=
  opened ++ [poll, capacity 1000, reply 1] ++ read ++
    [.control .byte, datagram 2, poll, capacity 1, capacity 1000, reply 2] ++ read ++
    [.control .closed]

/-- A byte is read before the first answer. -/
def overtaken : List UdpAssociateAction :=
  opened ++ [poll, capacity 1000, .control .byte, datagram 2, poll, capacity 1000, reply 1] ++ read

/-- A byte is read in the middle of the first frame. -/
def torn : List UdpAssociateAction :=
  opened ++ [poll, capacity 1, .control .byte, datagram 2, poll, capacity 1000]

/-- The control connection ends in the middle of the first frame. -/
def closedEarly : List UdpAssociateAction :=
  opened ++ [poll, capacity 1, .control .closed, poll, capacity 1000]

/-- More requests than answers, when a response is forwarded. -/
def early (s : UdpAssociate) : Bool :=
  s.forwarded.any fun e => e.association.answers.length < e.association.requests.length

/-- No frame is being sent, and what was sent cannot be decoded. -/
def undecodable (s : UdpAssociate) : Bool :=
  s.phase.unsent.isNone && s.association.any fun a =>
    a.maxFrameSize == 65536 && !((grpcDecoder a.maxFrameSize).drain a.sender.sentBytes).2.isOk

/-- The answer to the last request has not been sent yet. -/
theorem not_matched_of_early {e : Forwarded}
    (h : e.association.answers.length < e.association.requests.length) : ¬ e.Matched := by
  rintro ⟨-, ⟨f, hanswer, -⟩, -⟩
  have hindex := (List.getElem?_eq_some_iff.mp hanswer).1
  omega

/-- Complete frames can be decoded. -/
theorem not_whole_of_undecodable {s : UdpAssociate} (h : undecodable s = true) :
    ∃ a, s.association = some a ∧ ¬ a.sender.WholeFrames s.phase.unsent := by
  rw [undecodable, Bool.and_eq_true, Option.any_eq_true] at h
  obtain ⟨hnone, a, ha, hundecodable⟩ := h
  refine ⟨a, ha, ?_⟩
  rw [Option.isNone_iff_eq_none.mp hnone]
  rintro ⟨frames, part, hfits, hsent, rfl⟩
  rw [Bool.and_eq_true, beq_iff_eq] at hundecodable
  obtain ⟨hsize, herror⟩ := hundecodable
  have hmax : a.maxFrameSize ≤ MAX_NEGOTIATED_FRAME_SIZE := by rw [hsize]; decide
  rw [UdpAssociation.maxFrameSize, hsent, List.append_nil, Decoder.drain_encoded fun f hf x =>
    H2Sender.decode_fitting hmax (hfits f hf) x] at herror
  cases herror

end TwoDatagrams

/-- Two datagrams are relayed and answered, with a byte on the control connection between
them, which then ends. -/
theorem udp_exchanges_matched_twoDatagrams : ∃ s : UdpAssociate,
    s.forwarded.length = 2 ∧ (∀ e ∈ s.forwarded, e.Matched) ∧
      ∃ a, s.association = some a ∧ a.sender.WholeFrames s.phase.unsent := by
  obtain ⟨s, hreach, hlength, hsome⟩ := (udpAssociate TwoDatagrams.config).exists_reachBy
    UdpAssociate.Undisturbed (fun s => s.forwarded.length = 2 ∧ s.association.isSome)
    TwoDatagrams.answered (by decide +kernel)
  obtain ⟨a, ha⟩ := Option.isSome_iff_exists.mp hsome
  obtain ⟨hmatched, hwhole⟩ := udp_exchanges_matched TwoDatagrams.config hreach
  exact ⟨s, hlength, hmatched, a, ha, hwhole a ha⟩

/-- **A dropped relay leaves its request and its frame behind.**  A byte on the control
connection makes the next response an answer to an earlier request, or tears a frame apart; so
does its end. -/
theorem dropped_relay_mismatched :
    (∃ s : UdpAssociate, (udpAssociate TwoDatagrams.config).Reach s ∧
      ∃ e ∈ s.forwarded, ¬ e.Matched) ∧
    (∃ s : UdpAssociate, (udpAssociate TwoDatagrams.config).Reach s ∧
      ∃ a, s.association = some a ∧ ¬ a.sender.WholeFrames s.phase.unsent) ∧
    ∃ s : UdpAssociate, (udpAssociate TwoDatagrams.config).ReachBy
        (fun _ action => ¬ action matches .control .byte) s ∧
      ∃ a, s.association = some a ∧ ¬ a.sender.WholeFrames s.phase.unsent := by
  refine ⟨?_, ?_, ?_⟩
  · obtain ⟨s, hreach, hs⟩ := (udpAssociate TwoDatagrams.config).exists_reach
      (TwoDatagrams.early · = true) TwoDatagrams.overtaken (by decide +kernel)
    obtain ⟨e, he, hearly⟩ := List.any_eq_true.mp hs
    exact ⟨s, hreach, e, he, TwoDatagrams.not_matched_of_early (of_decide_eq_true hearly)⟩
  · obtain ⟨s, hreach, hs⟩ := (udpAssociate TwoDatagrams.config).exists_reach
      (TwoDatagrams.undecodable · = true) TwoDatagrams.torn (by decide +kernel)
    exact ⟨s, hreach, TwoDatagrams.not_whole_of_undecodable hs⟩
  obtain ⟨s, hreach, hs⟩ := (udpAssociate TwoDatagrams.config).exists_reachBy
    (fun _ action => ¬ action matches .control .byte) (TwoDatagrams.undecodable · = true)
    TwoDatagrams.closedEarly (by decide +kernel)
  exact ⟨s, hreach, TwoDatagrams.not_whole_of_undecodable hs⟩

end Client
end Maverick
