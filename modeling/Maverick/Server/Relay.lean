import Maverick.Core.Padding
import Maverick.Lib.System

/-!
# The relay of a TCP flow on H2

The loop of `relay_halves_and_tunnel`: one task relays between the target's
socket and the H2 stream of the tunnel.  An action is one branch of its `select!`
that completes, or one piece of progress inside a branch (a partial write to the
target, a DATA chunk of the request).  Capacities, the cuts of reads and writes,
failures and the order of all these are the environment's.

* `prepareFrameWithPadding` — what is queued for one frame.
* `relay` — the system; `Relay.outcome` tells a failed `expect` from a return.
* `SameUp`, `SameDown` — what a step of one direction leaves alone of the other.
-/

namespace Maverick
namespace Server

open Lib

/-! ## Frames to send -/

structure PaddingEmission where
  paddingFrames : Nat := 0
  paddingBytes : Nat := 0
  coverTrafficPaddingFrames : Nat := 0
  coverTrafficPaddingBytes : Nat := 0
  deriving DecidableEq

structure PendingH2Send where
  frames : List Bytes
  endStream : Bool
  emission : PaddingEmission
  deriving DecidableEq

structure TunnelRelayPolicy where
  padding : RuntimePadding
  coverTraffic : RuntimeCoverTraffic

namespace Plain

/-- No Padding; and random bytes that are all zero. -/
def policy : TunnelRelayPolicy := ⟨.disabled, .disabled⟩
def zeros : RandomBytes := fun len => Block.fill len 0

end Plain

/-- The encodings of some frames, one queue entry for each. -/
def encodeEach (maxFrameSize : Nat) : List Frame → Except Error (List Bytes)
  | [] => .ok []
  | f :: fs => do
    let head ← encodeGrpcFrame f maxFrameSize
    let tail ← encodeEach maxFrameSize fs
    return head :: tail

/-- The Padding frames that go in front of a frame. -/
def paddingBefore (policy : TunnelRelayPolicy) (random cover : RandomBytes) (f : Frame)
    (maxFrameSize : Nat) : List Frame × List Frame :=
  ((policy.padding.paddingFrame random f.frameType f.payload.length maxFrameSize).toList,
    policy.coverTraffic.paddingFrames cover f.frameType f.payload.length maxFrameSize)

/-- `prepare_frame_with_padding` -/
def prepareFrameWithPadding (policy : TunnelRelayPolicy) (random cover : RandomBytes) (f : Frame)
    (maxFrameSize : Nat) (endStream : Bool) : Except Error PendingH2Send := do
  let (padding, covers) := paddingBefore policy random cover f maxFrameSize
  let frames ← encodeEach maxFrameSize (padding ++ covers ++ [f])
  return {
    frames
    endStream
    emission := {
      paddingFrames := padding.length
      paddingBytes := (padding.map (·.payload.length)).sum
      coverTrafficPaddingFrames := covers.length
      coverTrafficPaddingBytes := (covers.map (·.payload.length)).sum } }

/-! ## The state of the loop -/

/-- What is handed to the H2 send stream. -/
inductive H2Send where
  | data (chunk : Bytes)
  /-- trailers with `grpc-status` 0 -/
  | okTrailers
  deriving DecidableEq

inductive RelayError where
  | h2SendStall
  /-- `target relay write timed out` -/
  | writeTimedOut
  /-- `relay writer closed before the frame was complete` -/
  | writerClosed
  /-- `h2 send stream closed before capacity was available` -/
  | capacityClosed
  | frame (error : Error)
  /-- an error of a socket or of the H2 stream -/
  | transport (message : String)
  deriving DecidableEq

inductive RelayOutcome where
  | running
  | returned (result : Except RelayError Unit)
  /-- an `expect` with this message has failed -/
  | panicked (message : String)
  deriving DecidableEq

structure Relay where
  /-- the writer, unless it is in the pending write -/
  targetWrite : Option Unit
  /-- what the pending write has yet to write -/
  pendingTargetWrite : Option Bytes
  clientEof : Bool
  targetEof : Bool
  responseEnded : Bool
  pendingSend : Option PendingH2Send
  recvBuf : Bytes
  outcome : RelayOutcome
  /-- all bytes of the request so far, with those that were in the buffer at first -/
  request : Bytes
  /-- what the target has been sent -/
  written : Bytes
  /-- `shutdown` was called on the writer -/
  shutDown : Bool
  /-- what was read from the target -/
  read : Bytes
  sent : List H2Send
  /-- the emissions that were recorded -/
  recorded : List PaddingEmission

/-- Progress of `write_all_with_idle_timeout`. -/
inductive WriteProgress where
  /-- the target takes `n` bytes -/
  | took (n : Nat)
  | timedOut
  | failed (message : String)
  /-- there is nothing left to write -/
  | complete
  deriving DecidableEq

inductive RelayAction where
  /-- nothing happens for the idle timeout -/
  | idle
  /-- the pending write goes on -/
  | write (progress : WriteProgress)
  /-- capacity is assigned; whether `send_data` and `send_trailers` succeed -/
  | capacity (assigned : Nat) (dataOk trailersOk : Bool)
  | capacityFailed
  /-- a read from the target, of nothing at its end -/
  | targetRead (data : Bytes) (random cover : RandomBytes)
  | targetReadFailed (message : String)
  /-- a complete frame is in the buffer -/
  | frame
  /-- a DATA chunk of the request arrives -/
  | requestData (chunk : Bytes)
  | requestEnd
  | requestFailed (message : String)

namespace Relay

/-- The loop returns. -/
def ret (s : Relay) (result : Except RelayError Unit) : Relay :=
  { s with outcome := .returned result }

/-- The head of the loop. -/
def again (s : Relay) : Relay :=
  if s.clientEof = true ∧ s.responseEnded = true then s.ret (.ok ()) else s

/-- A shutdown of the writer, whose result is ignored. -/
def shutdownWriter (s : Relay) : Relay :=
  match s.targetWrite with
  | none => { s with outcome := .panicked "available target writer" }
  | some _ => { s with shutDown := true }

/-- Go on unless an `expect` has failed. -/
def andThen (s : Relay) (f : Relay → Relay) : Relay :=
  match s.outcome with
  | .running => f s
  | _ => s

/-- The pending write goes on; a writer takes at most what it is given. -/
def onWrite (s : Relay) (progress : WriteProgress) : Option Relay :=
  match s.pendingTargetWrite with
  | none => some { s with outcome := .panicked "pending target write" }
  | some bytes =>
    match progress with
    | .complete =>
      if bytes = [] then some { s with targetWrite := some (), pendingTargetWrite := none }.again
      else none
    | .took n =>
      if bytes = [] ∨ bytes.length < n then none
      else if n = 0 then some (s.ret (.error .writerClosed))
      else some { s with
        pendingTargetWrite := some (bytes.drop n), written := s.written ++ bytes.take n }
    | .timedOut => if bytes = [] then none else some (s.ret (.error .writeTimedOut))
    | .failed message => if bytes = [] then none else some (s.ret (.error (.transport message)))

/-- What is done with the next frame of the request. -/
def onFrame (flowId : UInt64) (f : Frame) (s : Relay) : Relay :=
  if f.flowId = flowId then
    match f.frameType with
    | .tcpData =>
      match s.targetWrite with
      | none => { s with outcome := .panicked "available target writer" }
      | some _ => { s with targetWrite := none, pendingTargetWrite := some f.payload }.again
    | .tcpFin => s.shutdownWriter.andThen fun s => { s with clientEof := true }.again
    | .closeFlow => s.shutdownWriter.andThen fun s => { s with clientEof := true }.again
    | .tcpReset => s.shutdownWriter.andThen fun s => s.ret (.ok ())
    | _ => s.again
  else s.again

/-- The queue after the front entry has been cut. -/
def cutFront (front : Bytes) (rest : List Bytes) (n : Nat) : List Bytes :=
  if (front.drop n).isEmpty then rest else front.drop n :: rest

/-- The chunk is handed to the stream and `frames` are left to send.  With the
last of them the emission is recorded; after the terminal frame the response is
closed by trailers. -/
def sendChunk (s : Relay) (pending : PendingH2Send) (chunk : Bytes) (frames : List Bytes)
    (trailersOk : Bool) : Relay :=
  if frames.isEmpty then
    let completed : Relay := { s with
      sent := s.sent ++ [H2Send.data chunk]
      pendingSend := none
      recorded := s.recorded ++ [pending.emission] }
    if pending.endStream then
      if trailersOk = false then completed.ret (.error (.transport "send_trailers"))
      else { completed with
        sent := completed.sent ++ [H2Send.okTrailers], responseEnded := true }.again
    else completed.again
  else
    { s with
      sent := s.sent ++ [H2Send.data chunk]
      pendingSend := some { pending with frames } }.again

/-- What is done with capacity for the pending send. -/
def onCapacity (capacity : Nat) (dataOk trailersOk : Bool) (s : Relay) : Relay :=
  if capacity = 0 then s.again
  else
    match s.pendingSend with
    | none => { s with outcome := .panicked "pending H2 send" }
    | some pending =>
      match pending.frames with
      | [] => { s with outcome := .panicked "pending H2 frame" }
      | front :: rest =>
        let n := min capacity front.length
        if dataOk = false then s.ret (.error (.transport "send_data"))
        else s.sendChunk pending (front.take n) (cutFront front rest n) trailersOk

/-- The frame for what was read from the target is queued, or cannot be. -/
def queue (s : Relay) : Except Error PendingH2Send → Relay
  | .error e => s.ret (.error (.frame e))
  | .ok pending => { s with pendingSend := some pending }.again

section
variable (policy : TunnelRelayPolicy) (maxFrameSize : Nat) (flowId : UInt64)

/-- The length of the front of the queue. -/
def desiredCapacity (s : Relay) : Nat :=
  match s.pendingSend with
  | some pending => (pending.frames.head?.map List.length).getD 0
  | none => 0

/-- What is done with bytes read from the target. -/
def onTargetRead (data : Bytes) (random cover : RandomBytes) (s : Relay) : Relay :=
  if data = [] then
    { s with targetEof := true }.queue
      (prepareFrameWithPadding policy random cover ⟨.tcpFin, 0, flowId, []⟩ maxFrameSize true)
  else
    { s with read := s.read ++ data }.queue
      (prepareFrameWithPadding policy random cover ⟨.tcpData, 0, flowId, data⟩ maxFrameSize false)

/-- The frames that `read_next_frame` passes over. -/
def isPadding (f : Frame) : Bool := f.frameType = .padding

def next (s : Relay) (a : RelayAction) : Option Relay :=
  if s.outcome ≠ .running then none
  else
    match a with
    | .idle =>
      if s.pendingTargetWrite.isNone then
        some (s.ret (if s.pendingSend.isSome then .error .h2SendStall else .ok ()))
      else none
    | .write progress => if s.pendingTargetWrite.isSome then s.onWrite progress else none
    | .capacity assigned dataOk trailersOk =>
      if s.pendingSend.isSome then
        some (s.onCapacity (min assigned s.desiredCapacity) dataOk trailersOk)
      else none
    | .capacityFailed =>
      if s.pendingSend.isSome then some (s.ret (.error .capacityClosed)) else none
    | .targetRead data random cover =>
      if s.pendingSend.isNone ∧ s.targetEof = false ∧ data.length ≤ 16 * 1024 then
        some (s.onTargetRead policy maxFrameSize flowId data random cover)
      else none
    | .targetReadFailed message =>
      if s.pendingSend.isNone ∧ s.targetEof = false then
        some (s.ret (.error (.transport message)))
      else none
    | .frame =>
      if s.clientEof = false ∧ s.pendingTargetWrite.isNone then
        match (grpcDecoder maxFrameSize).next isPadding s.recvBuf with
        | .error e => some (s.ret (.error (.frame e)))
        | .ok (none, _) => none
        | .ok (some f, rest) => some ({ s with recvBuf := rest }.onFrame flowId f)
      else none
    | .requestData chunk =>
      if s.clientEof = false ∧ s.pendingTargetWrite.isNone then
        match (grpcDecoder maxFrameSize).next isPadding s.recvBuf with
        | .ok (none, rest) =>
          some { s with recvBuf := rest ++ chunk, request := s.request ++ chunk }
        | _ => none
      else none
    | .requestEnd =>
      if s.clientEof = false ∧ s.pendingTargetWrite.isNone then
        match (grpcDecoder maxFrameSize).next isPadding s.recvBuf with
        | .ok (none, rest) =>
          some ({ s with recvBuf := rest }.shutdownWriter.andThen fun s => s.ret (.ok ()))
        | _ => none
      else none
    | .requestFailed message =>
      if s.clientEof = false ∧ s.pendingTargetWrite.isNone then
        match (grpcDecoder maxFrameSize).next isPadding s.recvBuf with
        | .ok (none, _) => some (s.ret (.error (.transport message)))
        | _ => none
      else none

end

/-- The loop is entered with what is left in the receive buffer. -/
def init (recvBuf : Bytes) : Relay where
  targetWrite := some ()
  pendingTargetWrite := none
  clientEof := false
  targetEof := false
  responseEnded := false
  pendingSend := none
  recvBuf := recvBuf
  outcome := .running
  request := recvBuf
  written := []
  shutDown := false
  read := []
  sent := []
  recorded := []

end Relay

/-- `relay_halves_and_tunnel` -/
def relay (policy : TunnelRelayPolicy) (maxFrameSize : Nat) (flowId : UInt64) (recvBuf : Bytes) :
    System Relay RelayAction where
  start := .init recvBuf
  next := Relay.next policy maxFrameSize flowId

/-! ## Steps of one direction -/

/-- No `expect` has failed. -/
def NoPanic (s : Relay) : Prop := ∀ message, s.outcome ≠ .panicked message

theorem NoPanic.ret (s : Relay) (result : Except RelayError Unit) : NoPanic (s.ret result) := by
  intro message h
  cases h

variable {s s' : Relay}

theorem NoPanic.again (h : NoPanic s) : NoPanic s.again := by
  unfold Relay.again
  split
  exacts [.ret s _, h]

theorem noPanic_of_running (h : s.outcome = .running) : NoPanic s := by
  intro message hp
  cases h.symm.trans hp

/-- The outcome is as before, or the loop has ended. -/
def Later (s s' : Relay) : Prop := s'.outcome = s.outcome ∨ s'.outcome ≠ .running

/-- The step leaves the direction to the target alone. -/
structure SameUp (s s' : Relay) : Prop where
  targetWrite : s'.targetWrite = s.targetWrite
  pendingTargetWrite : s'.pendingTargetWrite = s.pendingTargetWrite
  clientEof : s'.clientEof = s.clientEof
  recvBuf : s'.recvBuf = s.recvBuf
  request : s'.request = s.request
  written : s'.written = s.written
  shutDown : s'.shutDown = s.shutDown
  outcome : Later s s'

theorem SameUp.refl (s : Relay) : SameUp s s := ⟨rfl, rfl, rfl, rfl, rfl, rfl, rfl, .inl rfl⟩

theorem SameUp.ret (h : SameUp s s') (result : Except RelayError Unit) : SameUp s (s'.ret result) :=
  ⟨h.targetWrite, h.pendingTargetWrite, h.clientEof, h.recvBuf, h.request, h.written, h.shutDown,
    .inr nofun⟩

theorem SameUp.again (h : SameUp s s') : SameUp s s'.again := by
  unfold Relay.again
  split
  exacts [h.ret _, h]

/-- The step leaves the direction from the target alone. -/
structure SameDown (s s' : Relay) : Prop where
  pendingSend : s'.pendingSend = s.pendingSend
  targetEof : s'.targetEof = s.targetEof
  responseEnded : s'.responseEnded = s.responseEnded
  sent : s'.sent = s.sent
  read : s'.read = s.read
  outcome : Later s s'

theorem SameDown.ret (h : SameDown s s') (result : Except RelayError Unit) :
    SameDown s (s'.ret result) :=
  ⟨h.pendingSend, h.targetEof, h.responseEnded, h.sent, h.read, .inr nofun⟩

theorem SameDown.again (h : SameDown s s') : SameDown s s'.again := by
  unfold Relay.again
  split
  exacts [h.ret _, h]

end Server
end Maverick
