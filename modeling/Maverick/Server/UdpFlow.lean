import Maverick.Core.Payload
import Maverick.Server.RelayDownlink
import Maverick.Server.Target

/-!
# A UDP flow on H2

`handle_udp_flow`: after the OpenUdp frame is confirmed, the frames of the request are taken
one at a time, and each is answered before the next is read.  What the targets do, what
arrives of the request and when the idle timeout passes are actions.  While the stream is
usable a send is one step; how a frame is cut into DATA chunks is left out.

* `udpFlow` — the system.
* `Answers` — the answers that a frame can get.
* `Lockstep` — what was received and what was sent, frame by frame.
* `udp_flow_lockstep` — every run in which the replies fit is in lockstep.
* `oversized_reply_ends` — a reply that does not fit ends the flow without an answer.
-/

namespace Maverick
namespace Server

open Lib

/-! ## The flow -/

inductive OpenUdpError where
  | payload (error : Error)
  /-- `UDP idle timeout must be non-zero` -/
  | zeroTimeout
  deriving DecidableEq

/-- `udp_idle_timeout_ms`, for the limit of the configuration -/
def udpIdleTimeoutMs (limit : UInt64) (frame : Frame) : Except OpenUdpError UInt64 :=
  match OpenUdpPayload.decode frame.payload with
  | .error error => .error (.payload error)
  | .ok requested =>
    if requested.idleTimeoutMs = 0 then .error .zeroTimeout
    else .ok (min requested.idleTimeoutMs limit)

/-- How a flow ends. -/
inductive UdpFlowEnd where
  /-- the OpenUdp frame was refused -/
  | refused
  /-- the client has closed the flow -/
  | closed
  | idle
  | requestEnded
  /-- the request cannot be decoded -/
  | malformed (error : Error)
  /-- a response cannot be encoded -/
  | unsendable (error : Error)
  /-- the H2 stream has failed -/
  | streamFailed
  deriving DecidableEq

inductive UdpFlowPhase where
  | reading
  /-- the packet of this frame is with its target -/
  | relaying (frame : Frame) (packet : UdpPacketPayload)
  | ended (how : UdpFlowEnd)
  deriving DecidableEq

structure UdpFlow where
  phase : UdpFlowPhase
  idleTimeoutMs : UInt64
  recvBuf : Bytes
  /-- all bytes of the request so far, with those that were in the buffer at first -/
  request : Bytes
  /-- the frames of the request that were read -/
  received : List Frame
  sent : List Frame
  /-- trailers with `grpc-status` 0 were sent -/
  trailers : Bool
  deriving DecidableEq

inductive UdpFlowAction (ε : Type) where
  /-- a complete frame is in the buffer -/
  | frame (random cover : RandomBytes)
  /-- a DATA chunk of the request arrives -/
  | requestData (chunk : Bytes)
  | requestEnd
  | idle (random cover : RandomBytes)
  /-- what the resolver and the target do -/
  | relayed (resolved : Resolution ε) (io : UdpIo ε) (random cover : RandomBytes)
  | streamFailed

namespace UdpFlow

/-- `send_frame` for each of the frames; the frames sent before one that cannot be
encoded stay sent. -/
def sendEach (maxFrameSize : Nat) : List Frame → List Frame × Except Error Unit
  | [] => ([], .ok ())
  | f :: frames =>
    match encodeGrpcFrame f maxFrameSize with
    | .error error => ([], .error error)
    | .ok _ => (f :: (sendEach maxFrameSize frames).1, (sendEach maxFrameSize frames).2)

section
variable (policy : TunnelRelayPolicy) (maxFrameSize : Nat)

/-- `send_h2_server_frame`, and how the flow goes on after it. -/
def send (s : UdpFlow) (random cover : RandomBytes) (f : Frame) (andThen : UdpFlow → UdpFlow) :
    UdpFlow :=
  let (frames, result) :=
    sendEach maxFrameSize (allPaddingBefore policy random cover f maxFrameSize ++ [f])
  let s := { s with sent := s.sent ++ frames }
  match result with
  | .error error => { s with phase := .ended (.unsendable error) }
  | .ok () => andThen s

/-- The flow ends with trailers. -/
def finish (how : UdpFlowEnd) (s : UdpFlow) : UdpFlow :=
  { s with trailers := true, phase := .ended how }

/-- The loop goes on. -/
def again (s : UdpFlow) : UdpFlow := { s with phase := .reading }

/-- What is done with a frame of the request. -/
def onFrame (s : UdpFlow) (random cover : RandomBytes) (f : Frame) : UdpFlow :=
  if f.frameType = .closeFlow then s.finish .closed
  else if f.frameType ≠ .udpPacket then
    s.send policy maxFrameSize random cover (errorFrame f.flowId .protocolError) again
  else
    match UdpPacketPayload.decode f.payload with
    | .error _ => s.send policy maxFrameSize random cover (errorFrame f.flowId .protocolError) again
    | .ok packet => { s with phase := .relaying f packet }

variable {ε : Type} (egress : ServerEgressPolicyConfig)

/-- The end of `send_udp_packet_response`. -/
def onRelayed (s : UdpFlow) (f : Frame) (packet : UdpPacketPayload) (resolved : Resolution ε)
    (io : UdpIo ε) (random cover : RandomBytes) : UdpFlow :=
  match (relayUdpPacket packet resolved io egress).result with
  | .error _ =>
    s.send policy maxFrameSize random cover (errorFrame f.flowId .targetConnectFailed) again
  | .ok response =>
    match response.encode with
    | .error error => { s with phase := .ended (.unsendable error) }
    | .ok payload => s.send policy maxFrameSize random cover ⟨.udpPacket, 0, f.flowId, payload⟩ again

/-- The buffer into which a reply is received. -/
def REPLY_BUFFER_LEN : Nat := 65535

/-- A reply is no longer than the buffer. -/
def ReplyReceived (io : UdpIo ε) : Prop :=
  ∀ reply ∈ io.recv.bind Except.toOption, reply.length ≤ REPLY_BUFFER_LEN

instance (io : UdpIo ε) : Decidable (ReplyReceived io) :=
  inferInstanceAs (Decidable (∀ reply ∈ io.recv.bind Except.toOption, _))

def next (flowId : UInt64) (s : UdpFlow) (action : UdpFlowAction ε) : Option UdpFlow :=
  match s.phase, action with
  | .ended _, _ => none
  | .reading, .frame random cover =>
    match (grpcDecoder maxFrameSize).next Relay.isPadding s.recvBuf with
    | .error error => some { s with phase := .ended (.malformed error) }
    | .ok (none, _) => none
    | .ok (some f, rest) =>
      some ({ s with recvBuf := rest, received := s.received ++ [f] }.onFrame policy
        maxFrameSize random cover f)
  | .reading, .requestData chunk =>
    match (grpcDecoder maxFrameSize).next Relay.isPadding s.recvBuf with
    | .ok (none, rest) => some { s with recvBuf := rest ++ chunk, request := s.request ++ chunk }
    | _ => none
  | .reading, .requestEnd =>
    match (grpcDecoder maxFrameSize).next Relay.isPadding s.recvBuf with
    | .ok (none, _) => some { s with phase := .ended .requestEnded }
    | _ => none
  | .reading, .idle random cover =>
    match (grpcDecoder maxFrameSize).next Relay.isPadding s.recvBuf with
    | .ok (none, _) =>
      some (s.send policy maxFrameSize random cover ⟨.closeFlow, 0, flowId, []⟩ (finish .idle))
    | _ => none
  | .relaying f packet, .relayed resolved io random cover =>
    if ReplyReceived io then
      some (s.onRelayed policy maxFrameSize egress f packet resolved io random cover)
    else none
  | _, .streamFailed => some { s with phase := .ended .streamFailed }
  | _, _ => none

/-- The flow up to its first wait, with what is left in the receive buffer. -/
def init (limit : UInt64) (openFrame : Frame) (recvBuf : Bytes) (random cover : RandomBytes) :
    UdpFlow :=
  let s : UdpFlow := ⟨.reading, 0, recvBuf, recvBuf, [], [], false⟩
  match udpIdleTimeoutMs limit openFrame with
  | .error _ =>
    s.send policy maxFrameSize random cover (errorFrame openFrame.flowId .protocolError)
      (finish .refused)
  | .ok idleTimeoutMs =>
    { s with idleTimeoutMs }.send policy maxFrameSize random cover
      ⟨.windowUpdate, 0, openFrame.flowId, []⟩ again

end
end UdpFlow

/-- `handle_udp_flow` -/
def udpFlow {ε : Type} (policy : TunnelRelayPolicy) (maxFrameSize : Nat)
    (egress : ServerEgressPolicyConfig) (limit : UInt64) (openFrame : Frame) (recvBuf : Bytes)
    (random cover : RandomBytes) : System UdpFlow (UdpFlowAction ε) where
  start := .init policy maxFrameSize limit openFrame recvBuf random cover
  next := UdpFlow.next policy maxFrameSize egress openFrame.flowId

/-! ## Sending -/

namespace UdpFlow

section
variable {maxFrameSize : Nat} {f : Frame} (policy : TunnelRelayPolicy) (random cover : RandomBytes)
  (s : UdpFlow) (andThen : UdpFlow → UdpFlow)

theorem sendEach_of_fits {frames : List Frame}
    (h : ∀ f ∈ frames, f.payload.length ≤ maxFrameSize) (rest : List Frame) :
    sendEach maxFrameSize (frames ++ rest) =
      (frames ++ (sendEach maxFrameSize rest).1, (sendEach maxFrameSize rest).2) := by
  induction frames with
  | nil => rfl
  | cons f frames ih =>
    obtain ⟨hf, hframes⟩ := List.forall_mem_cons.mp h
    have hencode : Framing.grpc.encode maxFrameSize f = .ok (Framing.grpc.bytes f) :=
      Framing.encode_eq_ok hf
    rw [Framing.encode] at hencode
    rw [List.cons_append, sendEach, hencode, ih hframes]
    rfl

/-- A frame that fits is sent behind its padding. -/
theorem send_of_fits (h : f.payload.length ≤ maxFrameSize) :
    ∃ padding : List Frame, visible padding = [] ∧
      s.send policy maxFrameSize random cover f andThen =
        andThen { s with sent := s.sent ++ (padding ++ [f]) } := by
  refine ⟨allPaddingBefore policy random cover f maxFrameSize,
    visible_padding fun g hg => (allPaddingBefore_spec g hg).1, ?_⟩
  have hall : sendEach maxFrameSize (allPaddingBefore policy random cover f maxFrameSize ++ [f]) =
      (allPaddingBefore policy random cover f maxFrameSize ++ [f], .ok ()) := by
    rw [sendEach_of_fits fun g hg => (allPaddingBefore_spec g hg).2,
      ← List.append_nil [f], sendEach_of_fits (by simpa using h)]
    rfl
  simp only [send, hall]

/-- A frame that does not fit ends the flow behind its padding. -/
theorem send_of_exceeds (h : maxFrameSize < f.payload.length) :
    ∃ padding : List Frame, visible padding = [] ∧
      s.send policy maxFrameSize random cover f andThen =
        { s with
          sent := s.sent ++ padding
          phase := .ended (.unsendable (.frameTooLarge f.payload.length maxFrameSize)) } := by
  refine ⟨allPaddingBefore policy random cover f maxFrameSize,
    visible_padding fun g hg => (allPaddingBefore_spec g hg).1, ?_⟩
  have hencode : encodeGrpcFrame f maxFrameSize =
      .error (.frameTooLarge f.payload.length maxFrameSize) := by
    rw [encodeGrpcFrame, Frame.encode, if_pos h]
    rfl
  have hall : sendEach maxFrameSize (allPaddingBefore policy random cover f maxFrameSize ++ [f]) =
      (allPaddingBefore policy random cover f maxFrameSize,
        .error (.frameTooLarge f.payload.length maxFrameSize)) := by
    rw [sendEach_of_fits fun g hg => (allPaddingBefore_spec g hg).2, sendEach, hencode,
      List.append_nil]
  simp only [send, hall]

end
end UdpFlow

/-! ## Lockstep -/

/-- The answers that a frame can get. -/
inductive Answers (f : Frame) : Frame → Prop where
  | reply {packet : UdpPacketPayload} {data payload : Bytes} (htype : f.frameType = .udpPacket)
      (hpacket : UdpPacketPayload.decode f.payload = .ok packet)
      (hpayload : UdpPacketPayload.encode ⟨packet.target, packet.port, data⟩ = .ok payload) :
      Answers f ⟨.udpPacket, 0, f.flowId, payload⟩
  | failed (htype : f.frameType = .udpPacket) (code : ErrorCode) :
      Answers f (errorFrame f.flowId code)
  | unexpected (htype : f.frameType ≠ .udpPacket) (hclose : f.frameType ≠ .closeFlow) :
      Answers f (errorFrame f.flowId .protocolError)

theorem Answers.not_padding {f answer : Frame} (h : Answers f answer) :
    Relay.isPadding answer = false := by
  cases h <;> rfl

/-- What was received of the request and what was sent of the response, Padding apart. -/
inductive Lockstep (limit : UInt64) (openFrame : Frame) :
    List Frame → List Frame → Bool → UdpFlowPhase → Prop where
  | reading {received answers : List Frame} (answered : List.Forall₂ Answers received answers) :
      Lockstep limit openFrame received (⟨.windowUpdate, 0, openFrame.flowId, []⟩ :: answers) false
        .reading
  /-- one frame is not answered yet -/
  | relaying {received answers : List Frame} {f : Frame} {packet : UdpPacketPayload}
      (answered : List.Forall₂ Answers received answers) (htype : f.frameType = .udpPacket)
      (hpacket : UdpPacketPayload.decode f.payload = .ok packet) :
      Lockstep limit openFrame (received ++ [f])
        (⟨.windowUpdate, 0, openFrame.flowId, []⟩ :: answers) false (.relaying f packet)
  /-- a CloseFlow is answered by the trailers -/
  | closed {received answers : List Frame} {f : Frame}
      (answered : List.Forall₂ Answers received answers) (htype : f.frameType = .closeFlow) :
      Lockstep limit openFrame (received ++ [f])
        (⟨.windowUpdate, 0, openFrame.flowId, []⟩ :: answers) true (.ended .closed)
  | idle {received answers : List Frame} (answered : List.Forall₂ Answers received answers) :
      Lockstep limit openFrame received
        (⟨.windowUpdate, 0, openFrame.flowId, []⟩ :: answers ++
          [⟨.closeFlow, 0, openFrame.flowId, []⟩]) true (.ended .idle)
  | requestEnded {received answers : List Frame}
      (answered : List.Forall₂ Answers received answers) :
      Lockstep limit openFrame received (⟨.windowUpdate, 0, openFrame.flowId, []⟩ :: answers) false
        (.ended .requestEnded)
  | malformed {received answers : List Frame} (answered : List.Forall₂ Answers received answers)
      (error : Error) :
      Lockstep limit openFrame received (⟨.windowUpdate, 0, openFrame.flowId, []⟩ :: answers) false
        (.ended (.malformed error))
  /-- the OpenUdp frame itself was no valid one -/
  | refused (invalid : ∀ idle, udpIdleTimeoutMs limit openFrame ≠ .ok idle) :
      Lockstep limit openFrame [] [errorFrame openFrame.flowId .protocolError] true
        (.ended .refused)

theorem Lockstep.sendable {limit : UInt64} {openFrame : Frame} {received sent : List Frame}
    {trailers : Bool} {phase : UdpFlowPhase}
    (h : Lockstep limit openFrame received sent trailers phase) (error : Error) :
    phase ≠ .ended (.unsendable error) := by
  intro hphase
  cases h <;> cases hphase

namespace UdpFlow

/-- The flow is in lockstep with its request. -/
structure InStep (maxFrameSize : Nat) (limit : UInt64) (openFrame : Frame) (s : UdpFlow) : Prop where
  lockstep : Lockstep limit openFrame s.received (visible s.sent) s.trailers s.phase
  taken : (grpcDecoder maxFrameSize).Taken Relay.isPadding s.request s.recvBuf s.received

/-- A frame is received, and those before it are answered. -/
structure Asked (maxFrameSize : Nat) (openFrame : Frame) (s : UdpFlow) (f : Frame) : Prop where
  answered : ∃ received answers, s.received = received ++ [f] ∧
    List.Forall₂ Answers received answers ∧
    visible s.sent = ⟨.windowUpdate, 0, openFrame.flowId, []⟩ :: answers
  trailers : s.trailers = false
  taken : (grpcDecoder maxFrameSize).Taken Relay.isPadding s.request s.recvBuf s.received

section
variable {ε : Type} {policy : TunnelRelayPolicy} {maxFrameSize : Nat}
  {egress : ServerEgressPolicyConfig} {limit : UInt64} {openFrame : Frame}
  {random cover : RandomBytes} {s s' : UdpFlow}

variable {f : Frame} {io : UdpIo ε} {response : UdpPacketPayload}

theorem visible_sent {padding : List Frame} (hpadding : visible padding = [])
    (hf : Relay.isPadding f = false) (sent : List Frame) :
    visible (sent ++ (padding ++ [f])) = visible sent ++ [f] := by
  have hone : visible [f] = [f] := List.filter_eq_self.mpr (by simp [hf])
  rw [visible_append, visible_append, hpadding, List.nil_append, hone]

/-- The frame is answered. -/
theorem Asked.answer (h : Asked maxFrameSize openFrame s f) {answer : Frame}
    (hanswer : Answers f answer) (hfits : answer.payload.length ≤ maxFrameSize) :
    InStep maxFrameSize limit openFrame (s.send policy maxFrameSize random cover answer again) := by
  obtain ⟨⟨received, answers, hreceived, answered, hsent⟩, htrailers, htaken⟩ := h
  obtain ⟨padding, hpadding, hsend⟩ := send_of_fits policy random cover s again hfits
  rw [hsend]
  refine ⟨?_, htaken⟩
  show Lockstep limit openFrame s.received (visible (s.sent ++ (padding ++ [answer]))) s.trailers
    .reading
  rw [visible_sent hpadding hanswer.not_padding, hsent, hreceived, htrailers, List.cons_append]
  exact .reading (List.rel_append answered (.cons hanswer .nil))

/-- While the next frame is awaited, all are answered. -/
theorem InStep.reading (hs : InStep maxFrameSize limit openFrame s) (hphase : s.phase = .reading) :
    ∃ answers, List.Forall₂ Answers s.received answers ∧
      visible s.sent = ⟨.windowUpdate, 0, openFrame.flowId, []⟩ :: answers ∧
        s.trailers = false := by
  have hlockstep := hs.lockstep
  rw [hphase] at hlockstep
  generalize s.received = received at hlockstep ⊢
  generalize visible s.sent = sent at hlockstep ⊢
  generalize s.trailers = trailers at hlockstep ⊢
  cases hlockstep with
  | reading answered => exact ⟨_, answered, rfl, rfl⟩

/-- While a packet is with its target, all frames before it are answered. -/
theorem InStep.relaying (hs : InStep maxFrameSize limit openFrame s) {packet : UdpPacketPayload}
    (hphase : s.phase = .relaying f packet) :
    Asked maxFrameSize openFrame s f ∧ f.frameType = .udpPacket ∧
      UdpPacketPayload.decode f.payload = .ok packet := by
  have hlockstep := hs.lockstep
  rw [hphase] at hlockstep
  generalize hreceived : s.received = received at hlockstep
  generalize hsent : visible s.sent = sent at hlockstep
  generalize htrailers : s.trailers = trailers at hlockstep
  cases hlockstep with
  | relaying answered htype hpacket =>
    exact ⟨⟨⟨_, _, hreceived, answered, hsent⟩, htrailers, hs.taken⟩, htype, hpacket⟩

/-- An Error frame fits every frame size that a configuration can have. -/
theorem errorFrame_fits (hmax : DEFAULT_MAX_FRAME_SIZE ≤ maxFrameSize) (flowId : UInt64)
    (code : ErrorCode) : (errorFrame flowId code).payload.length ≤ maxFrameSize := by
  have hlength : (errorFrame flowId code).payload.length = 2 := length_putU16 _
  have hdefault : 2 ≤ DEFAULT_MAX_FRAME_SIZE := by decide
  omega

/-! ### One action -/

theorem Asked.onFrame (hmax : DEFAULT_MAX_FRAME_SIZE ≤ maxFrameSize)
    (h : Asked maxFrameSize openFrame s f) :
    InStep maxFrameSize limit openFrame (s.onFrame policy maxFrameSize random cover f) := by
  have herror := errorFrame_fits hmax f.flowId
  obtain ⟨received, answers, hreceived, answered, hsent⟩ := h.answered
  unfold UdpFlow.onFrame
  split
  · next hclose =>
      refine ⟨?_, h.taken⟩
      show Lockstep limit openFrame s.received (visible s.sent) true (.ended .closed)
      rw [hsent, hreceived]
      exact .closed answered hclose
  · next hclose =>
      split
      · next htype => exact h.answer (.unexpected htype hclose) (herror _)
      next htype =>
        rw [not_not] at htype
        split
        · exact h.answer (.failed htype _) (herror _)
        next packet hpacket =>
          refine ⟨?_, h.taken⟩
          show Lockstep limit openFrame s.received (visible s.sent) s.trailers
            (.relaying f packet)
          rw [hsent, hreceived, h.trailers]
          exact .relaying answered htype hpacket

theorem recv_of_exchangeDatagram {data reply : Bytes} {timedOut : String} {resolved : Resolution ε}
    (h : (exchangeDatagram data timedOut resolved io egress).result = .ok reply) :
    io.recv = some (.ok reply) := by
  unfold exchangeDatagram at h
  split at h
  · cases h
  split at h
  · cases h
  · cases h
  split at h
  · cases h
  · cases h
  · cases h
  next hrecv =>
    cases h
    exact hrecv

/-- What a target sends back is put into a packet for the same target. -/
theorem relayUdpPacket_eq_ok {packet : UdpPacketPayload} {resolved : Resolution ε}
    (h : (relayUdpPacket packet resolved io egress).result = .ok response) :
    ∃ reply, io.recv = some (.ok reply) ∧ response = ⟨packet.target, packet.port, reply⟩ := by
  unfold relayUdpPacket at h
  cases hresult : (exchangeDatagram packet.data "UDP target timed out" resolved io egress).result with
  | error failure =>
    simp only [hresult] at h
    cases h
  | ok reply =>
    simp only [hresult] at h
    cases h
    exact ⟨reply, recv_of_exchangeDatagram hresult, rfl⟩

/-- A reply that was received can be put into a packet. -/
theorem encode_reply {packet : UdpPacketPayload}
    (hpacket : UdpPacketPayload.decode f.payload = .ok packet) {resolved : Resolution ε}
    (hio : ReplyReceived io) (h : (relayUdpPacket packet resolved io egress).result = .ok response) :
    response.encode = .ok response.bytes := by
  obtain ⟨reply, hreply, rfl⟩ := relayUdpPacket_eq_ok h
  have hlength : reply.length ≤ REPLY_BUFFER_LEN := hio reply (by rw [hreply]; rfl)
  refine UdpPacketPayload.encode_eq_ok ⟨(UdpPacketPayload.decode_eq_ok.mp hpacket).1.1, ?_⟩
  exact lt_of_le_of_lt hlength (by decide)

/-- The stream stays usable, and a reply fits a frame. -/
def usable (maxFrameSize : Nat) (egress : ServerEgressPolicyConfig) (s : UdpFlow) :
    UdpFlowAction ε → Bool
  | .relayed resolved io _ _ =>
    match s.phase with
    | .relaying _ packet =>
      match (relayUdpPacket packet resolved io egress).result with
      | .ok response => response.bytes.length ≤ maxFrameSize
      | .error _ => true
    | _ => true
  | .streamFailed => false
  | _ => true

theorem InStep.onRelayed (hmax : DEFAULT_MAX_FRAME_SIZE ≤ maxFrameSize)
    (hs : InStep maxFrameSize limit openFrame s) {packet : UdpPacketPayload}
    (hphase : s.phase = .relaying f packet) {resolved : Resolution ε} (hio : ReplyReceived io)
    (hfits : ∀ response, (relayUdpPacket packet resolved io egress).result = .ok response →
      response.bytes.length ≤ maxFrameSize) :
    InStep maxFrameSize limit openFrame
      (s.onRelayed policy maxFrameSize egress f packet resolved io random cover) := by
  obtain ⟨hasked, htype, hpacket⟩ := hs.relaying hphase
  unfold UdpFlow.onRelayed
  split
  · exact hasked.answer (.failed htype _) (errorFrame_fits hmax _ _)
  next response hresponse =>
    have hencode := encode_reply hpacket hio hresponse
    simp only [hencode]
    obtain ⟨reply, -, rfl⟩ := relayUdpPacket_eq_ok hresponse
    exact hasked.answer (.reply htype hpacket hencode) (hfits _ hresponse)

/-- **Every action keeps the lockstep**, as long as the stream is usable and replies fit. -/
theorem InStep.next (hmax : DEFAULT_MAX_FRAME_SIZE ≤ maxFrameSize)
    (hs : InStep maxFrameSize limit openFrame s) {action : UdpFlowAction ε}
    (husable : usable maxFrameSize egress s action = true)
    (hnext : s.next policy maxFrameSize egress openFrame.flowId action = some s') :
    InStep maxFrameSize limit openFrame s' := by
  unfold UdpFlow.next at hnext
  split at hnext
  · cases hnext
  · next random cover hphase =>
      obtain ⟨answers, answered, hsent, htrailers⟩ := hs.reading hphase
      split at hnext
      · next error _ =>
          cases hnext
          refine ⟨?_, hs.taken⟩
          rw [hsent, htrailers]
          exact .malformed answered error
      · cases hnext
      · next hframe =>
          cases hnext
          exact Asked.onFrame hmax ⟨⟨_, _, rfl, answered, hsent⟩, htrailers, hs.taken.item hframe⟩
  · next chunk hphase =>
      split at hnext
      · next hmore =>
          cases hnext
          exact ⟨hs.lockstep, hs.taken.chunk hmore chunk⟩
      · cases hnext
  · next hphase =>
      obtain ⟨answers, answered, hsent, htrailers⟩ := hs.reading hphase
      split at hnext
      · cases hnext
        refine ⟨?_, hs.taken⟩
        rw [hsent, htrailers]
        exact .requestEnded answered
      · cases hnext
  · next random cover hphase =>
      obtain ⟨answers, answered, hsent, htrailers⟩ := hs.reading hphase
      split at hnext
      · cases hnext
        obtain ⟨padding, hpadding, hsend⟩ := send_of_fits policy random cover s (finish .idle)
          (f := ⟨.closeFlow, 0, openFrame.flowId, []⟩) (Nat.zero_le maxFrameSize)
        rw [hsend]
        refine ⟨?_, hs.taken⟩
        show Lockstep limit openFrame s.received (visible (s.sent ++ (padding ++ [_]))) true
          (.ended .idle)
        rw [visible_sent hpadding rfl, hsent]
        exact .idle answered
      · cases hnext
  · next f packet resolved io random cover hphase =>
      obtain ⟨hio, hnext⟩ := Option.ite_none_right_eq_some.mp hnext
      cases hnext
      refine hs.onRelayed hmax hphase hio fun response hresponse => ?_
      simp only [usable, hphase, hresponse] at husable
      exact of_decide_eq_true husable
  · cases husable
  · cases hnext

theorem InStep.init (hmax : DEFAULT_MAX_FRAME_SIZE ≤ maxFrameSize) (policy : TunnelRelayPolicy)
    (limit : UInt64) (openFrame : Frame) (recvBuf : Bytes) (random cover : RandomBytes) :
    InStep maxFrameSize limit openFrame
      (.init policy maxFrameSize limit openFrame recvBuf random cover) := by
  have htaken : (grpcDecoder maxFrameSize).Taken Relay.isPadding recvBuf recvBuf [] := .start _ _
  unfold UdpFlow.init
  dsimp only
  split
  · next hinvalid =>
      obtain ⟨padding, hpadding, hsend⟩ := send_of_fits policy random cover
        ⟨.reading, 0, recvBuf, recvBuf, [], [], false⟩ (finish .refused)
        (errorFrame_fits hmax openFrame.flowId .protocolError)
      rw [hsend]
      refine ⟨?_, htaken⟩
      show Lockstep limit openFrame [] (visible ([] ++ (padding ++ [_]))) true (.ended .refused)
      rw [visible_sent hpadding rfl]
      exact .refused fun idle hvalid => by rw [hinvalid] at hvalid; cases hvalid
  · next idleTimeoutMs _ =>
      obtain ⟨padding, hpadding, hsend⟩ := send_of_fits policy random cover
        ⟨.reading, idleTimeoutMs, recvBuf, recvBuf, [], [], false⟩ again
        (f := ⟨.windowUpdate, 0, openFrame.flowId, []⟩) (Nat.zero_le maxFrameSize)
      rw [hsend]
      refine ⟨?_, htaken⟩
      show Lockstep limit openFrame [] (visible ([] ++ (padding ++ [_]))) false .reading
      rw [visible_sent hpadding rfl]
      exact .reading .nil

/-- A packet that is with its target is answered, and the next frame is awaited. -/
theorem InStep.continues (hmax : DEFAULT_MAX_FRAME_SIZE ≤ maxFrameSize)
    (hs : InStep maxFrameSize limit openFrame s) {packet : UdpPacketPayload}
    (hphase : s.phase = .relaying f packet) (resolved : Resolution ε) (io : UdpIo ε)
    (random cover : RandomBytes) (hio : ReplyReceived io)
    (husable : usable maxFrameSize egress s (.relayed resolved io random cover) = true) :
    ∃ s', s.next policy maxFrameSize egress openFrame.flowId
      (.relayed resolved io random cover) = some s' ∧ s'.phase = .reading := by
  obtain ⟨-, -, hpacket⟩ := hs.relaying hphase
  refine ⟨s.onRelayed policy maxFrameSize egress f packet resolved io random cover, ?_, ?_⟩
  · simp only [UdpFlow.next, hphase, hio, if_true]
  unfold UdpFlow.onRelayed
  split
  · obtain ⟨padding, -, hsend⟩ := send_of_fits policy random cover s again
      (errorFrame_fits hmax f.flowId .targetConnectFailed)
    rw [hsend]
    rfl
  next response hresponse =>
    simp only [usable, hphase, hresponse] at husable
    simp only [encode_reply hpacket hio hresponse]
    obtain ⟨padding, -, hsend⟩ := send_of_fits policy random cover s again
      (f := ⟨.udpPacket, 0, f.flowId, response.bytes⟩) (of_decide_eq_true husable)
    rw [hsend]
    rfl

/-- **A reply that does not fit ends the flow**, and nothing but Padding is sent for it. -/
theorem oversized_reply_ends {packet : UdpPacketPayload}
    (hs : InStep maxFrameSize limit openFrame s) (hphase : s.phase = .relaying f packet)
    {resolved : Resolution ε} (hio : ReplyReceived io)
    (hresponse : (relayUdpPacket packet resolved io egress).result = .ok response)
    (hexceeds : maxFrameSize < response.bytes.length) (random cover : RandomBytes) :
    ∃ s', s.next policy maxFrameSize egress openFrame.flowId
        (.relayed resolved io random cover) = some s' ∧
      s'.phase = .ended (.unsendable (.frameTooLarge response.bytes.length maxFrameSize)) ∧
      s'.received = s.received ∧ visible s'.sent = visible s.sent := by
  obtain ⟨-, -, hpacket⟩ := hs.relaying hphase
  refine ⟨s.onRelayed policy maxFrameSize egress f packet resolved io random cover, ?_, ?_⟩
  · simp only [UdpFlow.next, hphase, hio, if_true]
  obtain ⟨padding, hpadding, hsend⟩ := send_of_exceeds policy random cover s again
    (f := ⟨.udpPacket, 0, f.flowId, response.bytes⟩) hexceeds
  simp only [UdpFlow.onRelayed, hresponse, encode_reply hpacket hio hresponse, hsend, true_and]
  rw [visible_append, hpadding, List.append_nil]

end
end UdpFlow

/-! ## Whole runs -/

section
variable {ε : Type}

/-- A flow answers its frames one by one. -/
structure UdpFlow.AnswersEach (policy : TunnelRelayPolicy) (maxFrameSize : Nat)
    (egress : ServerEgressPolicyConfig) (limit : UInt64) (openFrame : Frame) (s : UdpFlow) :
    Prop where
  /-- What was sent answers what was received, and the flow ends in the known ways only. -/
  lockstep : Lockstep limit openFrame s.received (visible s.sent) s.trailers s.phase
  /-- The frames received are the frames of the request, Padding apart. -/
  received : s.received <+: visible ((grpcDecoder maxFrameSize).drain s.request).1
  /-- A frame that is being relayed is answered, whatever the target does, and the flow
  goes on. -/
  continues : ∀ f packet, s.phase = .relaying f packet →
    ∀ (resolved : Resolution ε) (io : UdpIo ε) (random cover : RandomBytes), UdpFlow.ReplyReceived io →
      UdpFlow.usable maxFrameSize egress s (.relayed resolved io random cover) = true →
      ∃ s', s.next policy maxFrameSize egress openFrame.flowId
        (.relayed resolved io random cover) = some s' ∧ s'.phase = .reading

theorem inStep_of_reachBy {policy : TunnelRelayPolicy} {maxFrameSize : Nat}
    {egress : ServerEgressPolicyConfig} {limit : UInt64} {openFrame : Frame} {recvBuf : Bytes}
    {random cover : RandomBytes} {s : UdpFlow} (hmax : DEFAULT_MAX_FRAME_SIZE ≤ maxFrameSize)
    (h : (udpFlow policy maxFrameSize egress limit openFrame recvBuf random cover :
      System UdpFlow (UdpFlowAction ε)).ReachBy
        (fun s action => UdpFlow.usable maxFrameSize egress s action = true) s) :
    UdpFlow.InStep maxFrameSize limit openFrame s := by
  refine h.invariant (.init hmax policy limit openFrame recvBuf random cover) ?_
  intro s action s' hs husable hnext
  exact hs.next hmax husable hnext

/-- **UDP flows answer in lockstep**, in every run in which the stream stays usable and
every reply fits a frame. -/
theorem udp_flow_lockstep (policy : TunnelRelayPolicy) {maxFrameSize : Nat}
    (hmax : DEFAULT_MAX_FRAME_SIZE ≤ maxFrameSize) (egress : ServerEgressPolicyConfig)
    (limit : UInt64) (openFrame : Frame) (recvBuf : Bytes) (random cover : RandomBytes)
    {s : UdpFlow}
    (h : (udpFlow policy maxFrameSize egress limit openFrame recvBuf random cover :
      System UdpFlow (UdpFlowAction ε)).ReachBy
        (fun s action => UdpFlow.usable maxFrameSize egress s action = true) s) :
    s.AnswersEach (ε := ε) policy maxFrameSize egress limit openFrame := by
  have hstep := inStep_of_reachBy hmax h
  exact ⟨hstep.lockstep, hstep.taken.isPrefix, fun f packet hphase resolved io random cover =>
    hstep.continues hmax hphase resolved io random cover⟩

end

/-! ## One packet -/

namespace OnePacket

open Plain

def openFrame : Frame := ⟨.openUdp, 0, 1, OpenUdpPayload.encode ⟨1000⟩⟩

/-- A packet for a host with a name of 23 bytes. -/
def packet : UdpPacketPayload := ⟨.domain "a.host.with-a-long.name", 53, [1]⟩

def packetFrame : Frame := ⟨.udpPacket, 0, 1, packet.bytes⟩

def flow : System UdpFlow (UdpFlowAction Unit) :=
  udpFlow policy 65536 {} 60000 openFrame (Framing.grpc.bytes packetFrame) zeros zeros

def resolved : Resolution Unit := .answered [⟨.v4 ⟨8, 8, 8, 8⟩, 53⟩]

def replied (reply : Bytes) : UdpIo Unit := ⟨.ok (), .ok (), .ok (), some (.ok reply)⟩

theorem relay_replied (reply : Bytes) :
    (relayUdpPacket packet resolved (replied reply) {}).result =
      .ok ⟨packet.target, packet.port, reply⟩ := rfl

/-- The longest datagram. -/
def longest : Bytes := List.replicate 65507 0

theorem replyReceived_longest : UdpFlow.ReplyReceived (replied longest) := by
  intro reply hreply
  cases hreply
  rw [longest, List.length_replicate]
  decide

theorem length_reply_longest :
    (UdpPacketPayload.mk packet.target packet.port longest).bytes.length = 65539 := by
  have hhost : (utf8 "a.host.with-a-long.name").length = 23 := by decide
  have hlength : (OpenTcpPayload.bytes ⟨packet.target, packet.port, longest⟩).length =
      9 + (utf8 "a.host.with-a-long.name").length + longest.length :=
    OpenTcpPayload.length_bytes_domain
  rwa [longest, List.length_replicate, hhost] at hlength

end OnePacket

/-- A packet is answered, and the flow goes on. -/
theorem udp_flow_lockstep_onePacket : ∃ s : UdpFlow,
    s.AnswersEach (ε := Unit) Plain.policy 65536 {} 60000 OnePacket.openFrame ∧
      s.phase = .reading ∧ s.received = [OnePacket.packetFrame] ∧ s.sent.length = 2 := by
  obtain ⟨s, hreach, hs⟩ := OnePacket.flow.exists_reachBy
    (fun s action => UdpFlow.usable 65536 {} s action = true)
    (fun s => s.phase = .reading ∧ s.received = [OnePacket.packetFrame] ∧ s.sent.length = 2)
    [.frame Plain.zeros Plain.zeros, .relayed OnePacket.resolved
      (OnePacket.replied [2, 3]) Plain.zeros Plain.zeros] (by decide +kernel)
  exact ⟨s, udp_flow_lockstep Plain.policy (by decide) {} 60000 OnePacket.openFrame _ _ _ hreach,
    hs⟩

/-- **A long reply is not answered**: the flow has read one packet and ends with an error
while its stream is usable. -/
theorem oversized_reply_unanswered : ∃ s : UdpFlow,
    OnePacket.flow.ReachBy (fun _ action => ¬ action matches .streamFailed) s ∧
    s.received = [OnePacket.packetFrame] ∧ visible s.sent = [⟨.windowUpdate, 0, 1, []⟩] ∧
    s.phase = .ended (.unsendable (.frameTooLarge 65539 65536)) ∧
    ¬ Lockstep 60000 OnePacket.openFrame s.received (visible s.sent) s.trailers s.phase := by
  obtain ⟨s, hnext, hphase, hreceived, hsent⟩ : ∃ s ∈ OnePacket.flow.next OnePacket.flow.start
      (.frame Plain.zeros Plain.zeros),
      s.phase = .relaying OnePacket.packetFrame OnePacket.packet ∧
      s.received = [OnePacket.packetFrame] ∧ visible s.sent = [⟨.windowUpdate, 0, 1, []⟩] := by
    decide +kernel
  have hreach : OnePacket.flow.ReachBy (fun _ action => ¬ action matches .streamFailed) s :=
    .step .start (by decide) hnext
  have hstep : UdpFlow.InStep 65536 60000 OnePacket.openFrame s :=
    inStep_of_reachBy (by decide) (.step .start rfl hnext)
  obtain ⟨s', hnext', hphase', hreceived', hsent'⟩ :=
    UdpFlow.oversized_reply_ends hstep hphase OnePacket.replyReceived_longest
      (OnePacket.relay_replied _) (by rw [OnePacket.length_reply_longest]; decide)
      Plain.zeros Plain.zeros
  rw [OnePacket.length_reply_longest] at hphase'
  refine ⟨s', .step hreach (by decide) hnext', hreceived'.trans hreceived, hsent'.trans hsent,
    hphase', fun hlockstep => hlockstep.sendable _ hphase'⟩

end Server
end Maverick
