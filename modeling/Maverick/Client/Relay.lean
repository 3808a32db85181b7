import Maverick.Client.Shaping

/-!
# The client's relay of a TCP flow

`relay_stream_and_tunnel` joins a local stream and a tunnel.  On H2 (`relay_h2`) and H3
(`H3ClientTunnel::relay`) an upload and a download run side by side; on WebSocket one loop
does both in turn.  An action is one piece of progress: a read or a partial write of the local
stream, a frame handed to the carrier, bytes or an item from it, the end of the response.

* `ClientRelay.next` — the three relays; `clientRelay` is the system.
* `ClientEffect`, `ClientRelay.next_effect` — what a step can do.
* `ClientJoined` — both directions are faithful, and what a relay that has returned has seen.
-/

namespace Maverick
namespace Client

open Lib Server

/-! ## The state -/

inductive RelayClose where
  | graceful
  | reset
  deriving DecidableEq

inductive ClientRelayError where
  /-- a `bail!` or `context` with this text -/
  | message (text : String)
  /-- an error of the frame codec or the frame channel -/
  | frame (error : Error)
  /-- an error of the local stream or the carrier -/
  | io (text : String)
  deriving DecidableEq

inductive ClientRelayOutcome where
  | returned (close : RelayClose)
  /-- `Ok(RelayClose::Graceful)` at the idle timeout -/
  | idle
  | failed (error : ClientRelayError)
  deriving DecidableEq

structure ClientRelay where
  /-- local reads, and the frames for the carrier -/
  up : Outlet Frame
  /-- frames from the carrier, and local writes -/
  down : Inlet Frame
  /-- H2 and WebSocket: bytes not decoded yet -/
  recvBuf : Bytes
  /-- the response was read to its end after the frame that ended the download -/
  finished : Bool
  outcome : Option ClientRelayOutcome
  deriving DecidableEq

inductive ClientRelayAction where
  /-- H2: DATA of the response; WebSocket: a binary message -/
  | chunk (bytes : Bytes)
  /-- H2 and WebSocket: the next frame of the buffer -/
  | decode
  /-- H2 and WebSocket: the end of the response, with the values of `grpc-status` if there
  are trailers -/
  | streamEnd (trailers : Option (List Bytes))
  /-- H3: what the driver's channel gives -/
  | item (item : ChannelItem)
  | receiveFailed (text : String)
  /-- the local stream takes `n` bytes -/
  | write (n : Nat)
  | writeTimedOut
  | writeFailed (text : String)
  | shutdown (result : Except String Unit)
  | finishTimedOut
  /-- a read from the local stream, of nothing at its end -/
  | read (data : Bytes) (random cover : RandomBytes)
  | readFailed (text : String)
  /-- H3: the driver has closed the channel of the request -/
  | requestClosed
  | send
  | sendFailed (text : String)
  | idle

/-- What the relays do with a frame of the response. -/
def downloadVerdict (flowId : UInt64) (f : Frame) : Verdict :=
  if f.flowId = flowId then
    match f.frameType with
    | .tcpData => .carry f.payload
    | .tcpFin | .closeFlow | .error | .tcpReset => .stop
    | _ => .skip
  else .skip

def closeOf (f : Frame) : RelayClose :=
  if f.frameType = .tcpFin ∨ f.frameType = .closeFlow then .graceful else .reset

/-- The decoder of `read_next_frame`. -/
def Carrier.decode (max : Nat) (buf : Bytes) : Carrier → Except Error (Option (Frame × Bytes))
  | .h2 => decodeGrpcFrameFrom max buf
  | .cloudflareWs | .h3 => Frame.decodeFrom max buf

/-- The end of `finish_h2_response`: no trailers, or one status `0`. -/
def checkTrailers : Option (List Bytes) → Except String Unit
  | none => .ok ()
  | some [] => .error "gRPC response trailers missing status"
  | some [status] =>
    if status = [48] then .ok () else .error "gRPC response status was not successful"
  | some _ => .error "gRPC response status was not successful"

namespace ClientRelay

def start (recvBuf : Bytes) : ClientRelay := ⟨.start, .start, recvBuf, false, none⟩

def fail (s : ClientRelay) (error : ClientRelayError) : ClientRelay :=
  { s with outcome := some (.failed error) }

def ret (s : ClientRelay) (close : RelayClose) : ClientRelay :=
  { s with outcome := some (.returned close) }

/-- The writer is shut down and the end of the response is awaited. -/
def Finishing (s : ClientRelay) : Prop :=
  s.down.isStopped = true ∧ s.down.shutDown = true ∧ s.finished = false

instance (s : ClientRelay) : Decidable s.Finishing := inferInstanceAs (Decidable (_ ∧ _))

section
variable (carrier : Carrier)

/-- The carrier is read; on WebSocket the loop is at its `select!`. -/
def Receiving (s : ClientRelay) : Prop :=
  match carrier with
  | .cloudflareWs => s.down.phase = .reading ∧ s.up.queue = []
  | .h2 | .h3 => s.down.phase = .reading ∨ s.Finishing

instance (s : ClientRelay) : Decidable (s.Receiving carrier) :=
  match carrier with
  | .cloudflareWs => inferInstanceAs (Decidable (_ ∧ _))
  | .h2 | .h3 => inferInstanceAs (Decidable (_ ∨ _))

/-- The upload may go on: on H2 a frame that closes both directions stops it, on WebSocket it
waits for the download. -/
def uploading (s : ClientRelay) : Bool :=
  match carrier with
  | .h3 => true
  | .cloudflareWs => s.down.phase = .reading
  | .h2 =>
    match s.down.phase with
    | .stopped f => f.frameType = .tcpFin
    | _ => true

/-- The relay returns when the response has ended, and after a TcpFin the request too. -/
def settle (s : ClientRelay) : ClientRelay :=
  match s.down.phase with
  | .stopped f =>
    if s.finished = true ∧
        (carrier = .cloudflareWs ∨ f.frameType ≠ .tcpFin ∨ s.up.phase = .done) then
      s.ret (closeOf f)
    else s
  | _ => s

variable (flowId : UInt64)

/-- A frame while the download goes on. -/
def takeFrame (s : ClientRelay) (f : Frame) : ClientRelay :=
  let s := { s with down := s.down.take (downloadVerdict flowId) f }
  if f.flowId = flowId then
    match carrier, f.frameType with
    | .h3, .error | .h3, .tcpReset => s.fail (.message "server reset H3 TCP flow")
    -- `response_frame_is_complete` is false: nothing is shut down or awaited
    | .h2, .tcpReset => s.ret .reset
    | _, _ => s
  else s

/-- After the download's end only Padding may follow. -/
def onFrame (s : ClientRelay) (f : Frame) : ClientRelay :=
  if s.down.phase = .reading then s.takeFrame carrier flowId f
  else if f.frameType = .padding then s
  else
    s.fail (.message (
      match carrier with
      | .h3 => "unexpected H3 frame after flow completion"
      | _ => "gRPC response contained data after terminal frame"))

/-- The end of an H2 or WebSocket response. -/
def onEnd (s : ClientRelay) (trailers : Option (List Bytes)) : ClientRelay :=
  if s.down.phase = .reading then s.ret .graceful
  else if s.recvBuf ≠ [] then s.fail (.message "gRPC response ended with incomplete data")
  else
    match checkTrailers trailers with
    | .error text => s.fail (.message text)
    | .ok () => { s with finished := true }.settle carrier

/-- `read_frame` on H3, and what the download does with the result. -/
def onItem (max : Nat) (s : ClientRelay) : ChannelItem → ClientRelay
  | .closed => s.fail (.io "UnexpectedEof")
  | .failed error => s.fail (.frame error)
  | .ended =>
    if s.down.phase = .reading then s.fail (.message "H3 response ended without TCP FIN")
    else { s with finished := true }.settle carrier
  | .frame f =>
    if max < f.payload.length then s.fail (.frame (.frameTooLarge f.payload.length max))
    else s.onFrame carrier flowId f

/-- `shutdown` of the local writer.  Its failure matters on H3, and on H2 after a TcpFin. -/
def onShutdown (s : ClientRelay) (f : Frame) (result : Except String Unit) : ClientRelay :=
  let s' := { s with down := s.down.shut }
  match carrier, result with
  | .cloudflareWs, _ => { s' with finished := true }.settle carrier
  | .h2, .error text => if f.frameType = .tcpFin then s.fail (.io text) else s'
  | .h3, .error text => s.fail (.io text)
  | _, .ok () => s'

variable (policy : TunnelRelayPolicy) (max : Nat)

def onSend (s : ClientRelay) : Option ClientRelay :=
  match s.up.queue with
  | [] => none
  | (f, _) :: _ =>
    if max < f.payload.length then some (s.fail (.frame (.frameTooLarge f.payload.length max)))
    else s.up.sendNext.map fun up => { s with up := up }.settle carrier

def onWrite (s : ClientRelay) (n : Nat) : Option ClientRelay :=
  if n = 0 then
    some (s.fail (.message "local relay writer closed before the frame was complete"))
  else (s.down.wrote n).map fun down => { s with down := down }

def readLimit : Nat :=
  match carrier with
  | .h3 => min (16 * 1024) max
  | _ => 16 * 1024

def next (s : ClientRelay) (action : ClientRelayAction) : Option ClientRelay :=
  if s.outcome.isSome then none
  else
    match action with
    | .chunk bytes =>
      if carrier ≠ .h3 ∧ s.Receiving carrier ∧ carrier.decode max s.recvBuf = .ok none then
        some { s with recvBuf := s.recvBuf ++ bytes }
      else none
    | .decode =>
      if carrier ≠ .h3 ∧ s.Receiving carrier then
        match carrier.decode max s.recvBuf with
        | .error error => some (s.fail (.frame error))
        | .ok none => none
        | .ok (some (f, rest)) => some ({ s with recvBuf := rest }.onFrame carrier flowId f)
      else none
    | .streamEnd trailers =>
      if carrier ≠ .h3 ∧ s.Receiving carrier ∧ carrier.decode max s.recvBuf = .ok none then
        some (s.onEnd carrier trailers)
      else none
    | .item item =>
      if carrier = .h3 ∧ s.Receiving carrier then some (s.onItem carrier flowId max item)
      else none
    | .receiveFailed text =>
      if carrier ≠ .h3 ∧ s.Receiving carrier then some (s.fail (.io text)) else none
    | .write n => if s.down.rest ≠ [] then s.onWrite n else none
    | .writeTimedOut =>
      if s.down.rest ≠ [] then some (s.fail (.message "local relay write timed out")) else none
    | .writeFailed text => if s.down.rest ≠ [] then some (s.fail (.io text)) else none
    | .shutdown result =>
      match s.down.phase with
      | .stopped f =>
        if s.down.shutDown = false then some (s.onShutdown carrier f result) else none
      | _ => none
    | .finishTimedOut =>
      if s.Finishing then some (s.fail (.message "response completion timed out")) else none
    | .read data random cover =>
      if s.up.phase = .reading ∧ s.uploading carrier = true ∧ data.length ≤ readLimit carrier max then
        some { s with
          up := s.up.filled data
            (dress policy random cover (downlinkFrame flowId data) max (data = [])) }
      else none
    | .readFailed text =>
      if s.up.phase = .reading ∧ s.uploading carrier = true then some (s.fail (.io text)) else none
    | .requestClosed =>
      if carrier = .h3 ∧ s.up.phase = .reading then
        some (s.fail (.message "H3 request transport closed"))
      else none
    | .send => if s.uploading carrier = true then s.onSend carrier max else none
    | .sendFailed text =>
      if s.up.queue ≠ [] ∧ s.uploading carrier = true then some (s.fail (.io text)) else none
    | .idle =>
      match carrier with
      | .h3 => some (s.fail (.message "H3 relay idle timeout"))
      | .h2 => if s.uploading carrier = true then some { s with outcome := some .idle } else none
      | .cloudflareWs =>
        if s.Receiving carrier then some { s with outcome := some .idle } else none

end
end ClientRelay

/-- The relay of a flow whose tunnel has these bytes in its buffer. -/
def clientRelay (carrier : Carrier) (policy : TunnelRelayPolicy) (max : Nat) (flowId : UInt64)
    (recvBuf : Bytes) : System ClientRelay ClientRelayAction where
  start := .start recvBuf
  next := ClientRelay.next carrier flowId policy max

/-! ## What a step can do -/

/-- The frame that a step hands to the relay. -/
def ClientRelay.handed (carrier : Carrier) (max : Nat) (s : ClientRelay) :
    ClientRelayAction → Option Frame
  | .decode =>
    match carrier.decode max s.recvBuf with
    | .ok (some (f, _)) => some f
    | _ => none
  | .item (.frame f) => some f
  | _ => none

inductive ClientEffect (carrier : Carrier) (max : Nat) (flowId : UInt64) (s : ClientRelay) :
    ClientRelayAction → ClientRelay → Prop
  | failed {action : ClientRelayAction} (error : ClientRelayError) (buf : Bytes) :
      ClientEffect carrier max flowId s action ({ s with recvBuf := buf }.fail error)
  | buffered {action : ClientRelayAction} (buf : Bytes) :
      ClientEffect carrier max flowId s action { s with recvBuf := buf }
  | took {action : ClientRelayAction} (f : Frame) (buf : Bytes)
      (hphase : s.down.phase = .reading) (hws : carrier = .cloudflareWs → s.up.queue = [])
      (hhanded : s.handed carrier max action = some f) :
      ClientEffect carrier max flowId s action
        ({ s with recvBuf := buf }.takeFrame carrier flowId f)
  | ended (trailers : Option (List Bytes)) (hphase : s.down.phase = .reading)
      (hcarrier : carrier ≠ .h3) :
      ClientEffect carrier max flowId s (.streamEnd trailers) (s.ret .graceful)
  | finished {action : ClientRelayAction} (hfinishing : s.Finishing) :
      ClientEffect carrier max flowId s action ({ s with finished := true }.settle carrier)
  | wrote {action : ClientRelayAction} {n : Nat} {down : Inlet Frame}
      (hwrote : s.down.wrote n = some down) :
      ClientEffect carrier max flowId s action { s with down := down }
  | shut {action : ClientRelayAction} (hstopped : s.down.isStopped = true) :
      ClientEffect carrier max flowId s action { s with down := s.down.shut }
  | shutWs {action : ClientRelayAction} (hstopped : s.down.isStopped = true)
      (hcarrier : carrier = .cloudflareWs) :
      ClientEffect carrier max flowId s action
        ({ s with down := s.down.shut, finished := true }.settle carrier)
  | filled {action : ClientRelayAction} {data : Bytes} {queue : List (Frame × Bool)}
      (hphase : s.up.phase = .reading)
      (hqueue : Dressed Relay.isPadding (downlinkFrame flowId data) (data = []) queue)
      (hws : carrier = .cloudflareWs → s.down.phase = .reading) :
      ClientEffect carrier max flowId s action { s with up := s.up.filled data queue }
  | sent {action : ClientRelayAction} {up : Outlet Frame} (hsent : s.up.sendNext = some up) :
      ClientEffect carrier max flowId s action ({ s with up := up }.settle carrier)
  | idle (hcarrier : carrier ≠ .h3) :
      ClientEffect carrier max flowId s .idle { s with outcome := some .idle }

section
variable {carrier : Carrier} {policy : TunnelRelayPolicy} {max : Nat} {flowId : UInt64}
  {s s' : ClientRelay} {action : ClientRelayAction}

theorem ClientRelay.Receiving.finishing (h : s.Receiving carrier) (hphase : s.down.phase ≠ .reading) :
    s.Finishing := by
  cases carrier with
  | cloudflareWs => exact absurd h.1 hphase
  | _ => exact h.resolve_left hphase

theorem ClientRelay.Receiving.idle_upload (h : s.Receiving carrier) :
    carrier = .cloudflareWs → s.up.queue = [] := by
  rintro rfl
  exact h.2

variable {f : Frame}

theorem onFrame_effect (h : s.Receiving carrier) {buf : Bytes}
    (hhanded : s.handed carrier max action = some f) :
    ClientEffect carrier max flowId s action
      ({ s with recvBuf := buf }.onFrame carrier flowId f) := by
  unfold ClientRelay.onFrame
  split
  · rename_i hphase
    exact .took f buf hphase h.idle_upload hhanded
  split
  exacts [.buffered buf, .failed _ buf]

theorem onEnd_effect (h : s.Receiving carrier) (hcarrier : carrier ≠ .h3)
    (trailers : Option (List Bytes)) :
    ClientEffect carrier max flowId s (.streamEnd trailers) (s.onEnd carrier trailers) := by
  unfold ClientRelay.onEnd
  split
  · exact .ended trailers ‹_› hcarrier
  split
  · exact .failed _ s.recvBuf
  split
  exacts [.failed _ s.recvBuf, .finished (h.finishing ‹_›)]

theorem onItem_effect (h : s.Receiving carrier) (item : ChannelItem) :
    ClientEffect carrier max flowId s (.item item) (s.onItem carrier flowId max item) := by
  cases item with
  | ended =>
    simp only [ClientRelay.onItem]
    split
    exacts [.failed _ s.recvBuf, .finished (h.finishing ‹_›)]
  | frame f =>
    simp only [ClientRelay.onItem]
    split
    exacts [.failed _ s.recvBuf, onFrame_effect h rfl]
  | _ => exact .failed _ s.recvBuf

theorem onShutdown_effect (hphase : s.down.phase = .stopped f) (result : Except String Unit) :
    ClientEffect carrier max flowId s action (s.onShutdown carrier f result) := by
  have hstopped : s.down.isStopped = true := by rw [Inlet.isStopped, hphase]
  cases carrier with
  | cloudflareWs => exact .shutWs hstopped rfl
  | h2 =>
    cases result with
    | ok _ => exact .shut hstopped
    | error text =>
      simp only [ClientRelay.onShutdown]
      split
      exacts [.failed _ s.recvBuf, .shut hstopped]
  | h3 =>
    cases result with
    | ok _ => exact .shut hstopped
    | error text => exact .failed _ s.recvBuf

/-- **What a step can do.** -/
theorem ClientRelay.next_effect (hnext : s.next carrier flowId policy max action = some s') :
    s.outcome = none ∧ ClientEffect carrier max flowId s action s' := by
  unfold ClientRelay.next at hnext
  split at hnext
  · cases hnext
  rename_i houtcome
  refine ⟨Option.not_isSome_iff_eq_none.mp houtcome, ?_⟩
  cases action with
  | chunk bytes =>
    obtain ⟨-, hnext⟩ := Option.ite_none_right_eq_some.mp hnext
    cases hnext
    exact .buffered _
  | decode =>
    obtain ⟨⟨-, hreceiving⟩, hnext⟩ := Option.ite_none_right_eq_some.mp hnext
    split at hnext
    · cases hnext
      exact .failed _ s.recvBuf
    · cases hnext
    rename_i f rest hdecode
    cases hnext
    refine onFrame_effect hreceiving ?_
    simp only [ClientRelay.handed, hdecode]
  | streamEnd trailers =>
    obtain ⟨⟨hcarrier, hreceiving, -⟩, hnext⟩ := Option.ite_none_right_eq_some.mp hnext
    cases hnext
    exact onEnd_effect hreceiving hcarrier trailers
  | item item =>
    obtain ⟨⟨-, hreceiving⟩, hnext⟩ := Option.ite_none_right_eq_some.mp hnext
    cases hnext
    exact onItem_effect hreceiving item
  | write n =>
    obtain ⟨-, hnext⟩ := Option.ite_none_right_eq_some.mp hnext
    unfold ClientRelay.onWrite at hnext
    split at hnext
    · cases hnext
      exact .failed _ s.recvBuf
    · obtain ⟨down, hdown, rfl⟩ := Option.map_eq_some_iff.mp hnext
      exact .wrote hdown
  | shutdown result =>
    dsimp only at hnext
    split at hnext
    · rename_i f hphase
      obtain ⟨-, hnext⟩ := Option.ite_none_right_eq_some.mp hnext
      cases hnext
      exact onShutdown_effect hphase result
    · cases hnext
  | read data random cover =>
    obtain ⟨⟨hphase, huploading, -⟩, hnext⟩ := Option.ite_none_right_eq_some.mp hnext
    cases hnext
    refine .filled hphase (dressed_dress ..) ?_
    rintro rfl
    exact of_decide_eq_true huploading
  | send =>
    obtain ⟨-, hnext⟩ := Option.ite_none_right_eq_some.mp hnext
    unfold ClientRelay.onSend at hnext
    split at hnext
    · cases hnext
    split at hnext
    · cases hnext
      exact .failed _ s.recvBuf
    · obtain ⟨up, hup, rfl⟩ := Option.map_eq_some_iff.mp hnext
      exact .sent hup
  | idle =>
    cases carrier with
    | h3 =>
      cases hnext
      exact .failed _ s.recvBuf
    | _ =>
      obtain ⟨-, hnext⟩ := Option.ite_none_right_eq_some.mp hnext
      cases hnext
      exact .idle nofun
  | receiveFailed _ | writeTimedOut | writeFailed _ | finishTimedOut | readFailed _
  | requestClosed | sendFailed _ =>
    obtain ⟨-, hnext⟩ := Option.ite_none_right_eq_some.mp hnext
    cases hnext
    exact .failed _ s.recvBuf

end

/-! ## What every step keeps -/

/-- Both directions are faithful; a relay that has returned was told to close, or the response
has ended without that. -/
structure ClientJoined (carrier : Carrier) (flowId : UInt64) (s : ClientRelay) : Prop where
  up : s.up.Faithful Relay.isPadding (downlinkFrame flowId)
  down : s.down.Faithful (downloadVerdict flowId)
  finished : s.finished = true → s.down.isStopped = true
  /-- H3 does not shut down the local writer after an Error or TcpReset. -/
  h3 : carrier = .h3 → s.outcome = none → ∀ f, s.down.phase = .stopped f → closeOf f = .graceful
  returned : ∀ close, s.outcome = some (.returned close) →
    (s.down.phase = .reading ∧ carrier ≠ .h3) ∨
    ∃ f, s.down.phase = .stopped f ∧ close = closeOf f ∧
      (f.frameType = .tcpFin → carrier ≠ .cloudflareWs → s.up.phase = .done)

theorem Carrier.eq_cloudflareWs {carrier : Carrier} (hh2 : carrier ≠ .h2) (hh3 : carrier ≠ .h3) :
    carrier = .cloudflareWs := by
  cases carrier with
  | h2 => exact absurd rfl hh2
  | cloudflareWs => rfl
  | h3 => exact absurd rfl hh3

/-- What `takeFrame` makes of the outcome. -/
theorem ClientRelay.takeFrame_cases (s : ClientRelay) (carrier : Carrier) (flowId : UInt64)
    (f : Frame) :
    (∃ error, s.takeFrame carrier flowId f =
      { s with down := s.down.take (downloadVerdict flowId) f }.fail error) ∨
    (f.flowId = flowId ∧ f.frameType = .tcpReset ∧ s.takeFrame carrier flowId f =
      { s with down := s.down.take (downloadVerdict flowId) f }.ret .reset) ∨
    ((carrier = .h3 → f.flowId = flowId → f.frameType ≠ .error) ∧
      (carrier ≠ .cloudflareWs → f.flowId = flowId → f.frameType ≠ .tcpReset) ∧
      s.takeFrame carrier flowId f =
        { s with down := s.down.take (downloadVerdict flowId) f }) := by
  unfold takeFrame
  dsimp only
  split
  · rename_i hflow
    split
    · exact .inl ⟨_, rfl⟩
    · exact .inl ⟨_, rfl⟩
    · rename_i htype
      exact .inr (.inl ⟨hflow, htype, rfl⟩)
    rename_i herror hh3 hh2
    refine .inr (.inr ⟨fun hcarrier _ htype => herror hcarrier htype,
      fun hcarrier _ htype => hcarrier ?_, rfl⟩)
    exact Carrier.eq_cloudflareWs (fun h => hh2 h htype) fun h => hh3 h htype
  · rename_i hflow
    exact .inr (.inr ⟨fun _ h => absurd h hflow, fun _ h => absurd h hflow, rfl⟩)

/-- What `settle` does. -/
theorem ClientRelay.settle_cases (s : ClientRelay) (carrier : Carrier) :
    s.settle carrier = s ∨ ∃ f, s.down.phase = .stopped f ∧
      (carrier = .cloudflareWs ∨ f.frameType ≠ .tcpFin ∨ s.up.phase = .done) ∧
      s.settle carrier = s.ret (closeOf f) := by
  unfold settle
  split
  · rename_i f hphase
    split
    · rename_i hends
      exact .inr ⟨f, hphase, hends.2, rfl⟩
    · exact .inl rfl
  · exact .inl rfl

@[simp] theorem ClientRelay.settle_up (carrier : Carrier) (s : ClientRelay) :
    (s.settle carrier).up = s.up := by
  rcases s.settle_cases carrier with heq | ⟨f, -, -, heq⟩ <;> rw [heq]
  rfl

@[simp] theorem ClientRelay.settle_down (carrier : Carrier) (s : ClientRelay) :
    (s.settle carrier).down = s.down := by
  rcases s.settle_cases carrier with heq | ⟨f, -, -, heq⟩ <;> rw [heq]
  rfl

@[simp] theorem ClientRelay.takeFrame_up (carrier : Carrier) (flowId : UInt64) (s : ClientRelay)
    (f : Frame) : (s.takeFrame carrier flowId f).up = s.up := by
  rcases s.takeFrame_cases carrier flowId f with ⟨_, heq⟩ | ⟨-, -, heq⟩ | ⟨-, -, heq⟩ <;>
    rw [heq] <;>
    rfl

@[simp] theorem ClientRelay.takeFrame_down (carrier : Carrier) (flowId : UInt64) (s : ClientRelay)
    (f : Frame) :
    (s.takeFrame carrier flowId f).down = s.down.take (downloadVerdict flowId) f := by
  rcases s.takeFrame_cases carrier flowId f with ⟨_, heq⟩ | ⟨-, -, heq⟩ | ⟨-, -, heq⟩ <;>
    rw [heq] <;>
    rfl

variable {f : Frame}

/-- What stops a download is a frame of the flow. -/
theorem stop_of_downloadVerdict {flowId : UInt64} (h : downloadVerdict flowId f = .stop) :
    f.flowId = flowId ∧
      (f.frameType = .tcpFin ∨ f.frameType = .closeFlow ∨ f.frameType = .error ∨
        f.frameType = .tcpReset) := by
  unfold downloadVerdict at h
  split at h
  · rename_i hflow
    refine ⟨hflow, ?_⟩
    cases htype : f.frameType <;> rw [htype] at h <;> simp_all
  · cases h

theorem closeOf_eq_graceful
    (htype : f.frameType = .tcpFin ∨ f.frameType = .closeFlow ∨ f.frameType = .error ∨
      f.frameType = .tcpReset) (herror : f.frameType ≠ .error) (hreset : f.frameType ≠ .tcpReset) :
    closeOf f = .graceful := by
  refine if_pos ?_
  rcases htype with htype | htype | htype | htype
  exacts [.inl htype, .inr htype, absurd htype herror, absurd htype hreset]

namespace ClientJoined

variable {carrier : Carrier} {policy : TunnelRelayPolicy} {max : Nat} {flowId : UInt64}
  {s s' : ClientRelay} {action : ClientRelayAction}

theorem start (recvBuf : Bytes) : ClientJoined carrier flowId (.start recvBuf) where
  up := Outlet.start_faithful
  down := Inlet.start_faithful
  finished := nofun
  h3 _ _ := nofun
  returned _ := nofun

theorem fail (h : ClientJoined carrier flowId s) (error : ClientRelayError) (buf : Bytes) :
    ClientJoined carrier flowId ({ s with recvBuf := buf }.fail error) :=
  { h with h3 := fun _ => nofun, returned := fun _ => nofun }

theorem settle (h : ClientJoined carrier flowId s) :
    ClientJoined carrier flowId (s.settle carrier) := by
  rcases s.settle_cases carrier with heq | ⟨f, hphase, hends, heq⟩
  · rwa [heq]
  rw [heq]
  refine ⟨h.up, h.down, h.finished, fun _ => nofun, fun close hclose => ?_⟩
  cases hclose
  refine .inr ⟨f, hphase, rfl, fun htype hcarrier => ?_⟩
  exact (hends.resolve_left hcarrier).resolve_left (not_not.mpr htype)

/-- Until it has returned a relay may change in either direction. -/
theorem running (hrunning : s.outcome = none)
    (hup : s.up.Faithful Relay.isPadding (downlinkFrame flowId))
    (hdown : s.down.Faithful (downloadVerdict flowId))
    (hfinished : s.finished = true → s.down.isStopped = true)
    (hh3 : carrier = .h3 → ∀ f, s.down.phase = .stopped f → closeOf f = .graceful) :
    ClientJoined carrier flowId s where
  up := hup
  down := hdown
  finished := hfinished
  h3 hcarrier _ := hh3 hcarrier
  returned close hclose := by
    cases hrunning.symm.trans hclose

theorem takeFrame (h : ClientJoined carrier flowId s) (hrunning : s.outcome = none)
    (hphase : s.down.phase = .reading) (f : Frame) (buf : Bytes) :
    ClientJoined carrier flowId ({ s with recvBuf := buf }.takeFrame carrier flowId f) := by
  have hdown := Inlet.take_faithful (a := f) h.down hphase
  have hunfinished : s.finished = false := by
    rw [← Bool.not_eq_true]
    intro hfinished
    have hstopped := h.finished hfinished
    rw [Inlet.isStopped, hphase] at hstopped
    cases hstopped
  have hfinished : s.finished = true → (s.down.take (downloadVerdict flowId) f).isStopped = true := by
    intro htrue
    cases hunfinished.symm.trans htrue
  rcases ClientRelay.takeFrame_cases { s with recvBuf := buf } carrier flowId f with
    ⟨error, heq⟩ | ⟨hflow, htype, heq⟩ | ⟨herror, hreset, heq⟩
  · rw [heq]
    exact ⟨h.up, hdown, hfinished, fun _ hnone => (by cases hnone), fun _ hsome => (by cases hsome)⟩
  · rw [heq]
    refine ⟨h.up, hdown, hfinished, fun _ hnone => (by cases hnone),
      fun close hclose => .inr ⟨f, ?_, ?_, ?_⟩⟩
    · refine Inlet.phase_take_eq_stopped.mpr ⟨?_, rfl⟩
      rw [downloadVerdict, if_pos hflow, htype]
    · cases hclose
      rw [closeOf, htype]
      rfl
    · simp [htype]
  · rw [heq]
    refine running hrunning h.up hdown hfinished fun hcarrier g hg => ?_
    obtain ⟨hstop, rfl⟩ := Inlet.phase_take_eq_stopped.mp hg
    obtain ⟨hflow, htype⟩ := stop_of_downloadVerdict hstop
    exact closeOf_eq_graceful htype (herror hcarrier hflow)
      (hreset (by simp [hcarrier]) hflow)

/-- **Every step keeps this.** -/
theorem effect (h : ClientJoined carrier flowId s) (hrunning : s.outcome = none)
    (heffect : ClientEffect carrier max flowId s action s') : ClientJoined carrier flowId s' := by
  have hh3 := fun hcarrier => h.h3 hcarrier hrunning
  cases heffect with
  | failed error buf => exact h.fail error buf
  | buffered buf => exact running hrunning h.up h.down h.finished hh3
  | took f buf hphase _ _ => exact h.takeFrame hrunning hphase f buf
  | ended _ hphase hcarrier =>
    exact ⟨h.up, h.down, h.finished, fun _ hnone => (by cases hnone),
      fun close _ => .inl ⟨hphase, hcarrier⟩⟩
  | finished hfinishing =>
    exact settle (running hrunning h.up h.down (fun _ => hfinishing.1) hh3)
  | @wrote _ n down hwrote =>
    have hopen := Inlet.isStopped_of_wrote hwrote
    have hopen' := Inlet.isStopped_wrote hwrote
    refine running hrunning h.up (Inlet.wrote_faithful h.down hwrote) (fun hfinished => ?_)
      fun _ f hf => ?_
    · rw [h.finished hfinished] at hopen
      cases hopen
    · rw [Inlet.isStopped, show down.phase = .stopped f from hf] at hopen'
      cases hopen'
  | shut hstopped =>
    exact running hrunning h.up (Inlet.shut_faithful h.down hstopped) h.finished hh3
  | shutWs hstopped _ =>
    exact settle (running hrunning h.up (Inlet.shut_faithful h.down hstopped)
      (fun _ => hstopped) hh3)
  | filled hphase hqueue _ =>
    exact running hrunning (Outlet.filled_faithful (downlinkFrame_not_padding flowId) h.up hphase
      hqueue) h.down h.finished hh3
  | sent hsent =>
    exact settle (running hrunning (Outlet.sendNext_faithful h.up hsent) h.down h.finished hh3)
  | idle _ => exact { h with h3 := fun _ hnone => (by cases hnone), returned := fun _ hsome => (by cases hsome) }

theorem of_reach {good : ClientRelay → ClientRelayAction → Prop} {recvBuf : Bytes}
    (h : (clientRelay carrier policy max flowId recvBuf).ReachBy good s) :
    ClientJoined carrier flowId s :=
  h.invariant (I := ClientJoined carrier flowId) (start recvBuf) fun _ _ _ hjoined _ hnext =>
    hjoined.effect (ClientRelay.next_effect hnext).1 (ClientRelay.next_effect hnext).2

end ClientJoined
end Client
end Maverick
