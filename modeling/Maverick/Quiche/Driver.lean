import Maverick.Core.Frame
import Maverick.Lib.System

/-!
# The HTTP/3 driver

`Driver::run` of `maverick-quiche`: one task that owns a QUIC connection with a single
request on stream 0 and moves frames between the body of that request and the
application.  The loop is cut at the calls whose result is not its own: a poll of the
HTTP/3 connection, a write and a read of the body, the flush of packets, and the branch
of its `select!`.  The application acts at any time between them.

* `Transport` — quiche's side of stream 0, with what quiche promises about each call:
  bytes come in order, FIN comes after them, a written prefix is a prefix.
* `Driver.system` — the driver, the application and the connection together.
* `Effect` — what a step can do; `next_effect` — every step is one of these.
* `readFrame` — how the application reads what it is given.
-/

namespace Maverick
namespace Quiche

open Lib

/-! ## The connection -/

abbrev Header := Bytes × Bytes

/-- `quiche::h3::Event` -/
inductive H3Event where
  | headers (list : List Header)
  | data
  | finished
  | reset
  | priorityUpdate
  | goAway
  /-- an event that the driver does not know -/
  | other
  deriving DecidableEq

/-- Stream 0 of the connection, and whether the connection has ended. -/
structure Transport where
  /-- every byte of the peer's body that has arrived -/
  body : Bytes
  /-- those that the driver has not read -/
  unread : Bytes
  /-- the FIN of the peer has arrived, and all bytes before it -/
  fin : Bool
  /-- the headers of the peer were reported -/
  headersReported : Bool
  /-- bytes were reported, and no read has found none since -/
  dataReported : Bool
  /-- `is_closed() || is_draining()` -/
  closed : Bool
  /-- what was accepted by `send_body`, and whether with FIN -/
  sent : Bytes
  sentFin : Bool
  deriving DecidableEq

namespace Transport

def start : Transport := ⟨[], [], false, false, false, false, [], false⟩

/-- Every byte that has arrived and was not read has been reported. -/
def idle (t : Transport) : Bool := t.unread.isEmpty || t.dataReported

/-- When an event may be reported: bytes after the headers, FIN after all bytes. -/
def mayReport (t : Transport) : H3Event → Bool
  | .data => t.headersReported
  | .finished => t.fin && t.idle
  | _ => true

def reported (t : Transport) : H3Event → Transport
  | .headers _ => { t with headersReported := true }
  | .data => { t with dataReported := true }
  | _ => t

/-- Packets bring bytes of the body, its end, or the end of the connection.  Nothing of
the body comes after either end. -/
def receive (t : Transport) (more : Bytes) (fin closed : Bool) : Option Transport :=
  if (t.closed || t.fin) && (!more.isEmpty || fin != t.fin) then none
  else
    some { t with
      body := t.body ++ more
      unread := t.unread ++ more
      fin := fin
      closed := t.closed || closed }

/-- `recv_body` with a buffer of the given size: a part of what there is, or nothing
where there is nothing or no room. -/
def recvBody (t : Transport) (capacity : Nat) : Option Nat → Option (Transport × Bytes)
  | none =>
    if capacity = 0 ∨ t.unread = [] then some ({ t with dataReported := false }, []) else none
  | some n =>
    if 0 < n ∧ n ≤ capacity ∧ n ≤ t.unread.length then
      some ({ t with unread := t.unread.drop n }, t.unread.take n)
    else none

/-- `send_body` accepts a prefix; FIN goes with the last byte. -/
def sendBody (t : Transport) (data : Bytes) (fin : Bool) (n : Nat) : Transport :=
  { t with
    sent := t.sent ++ data.take n
    sentFin := t.sentFin || (fin && decide (data.length ≤ n)) }

end Transport

/-! ## The state -/

inductive DriverError where
  /-- an `ensure!` or `bail!` with this text -/
  | message (text : String)
  /-- `Frame::decode_from` has failed on the received body -/
  | decode (error : Error)
  /-- `Frame::encode` has failed on a frame of the application -/
  | encode (error : Error)
  /-- an error of quiche or of the socket -/
  | transport (text : String)
  deriving DecidableEq

def unexpectedGoAway : DriverError := .message "server rejected H3 request with GOAWAY"
def unexpectedStream : DriverError := .message "unexpected H3 stream"
def extraHeaders : DriverError := .message "unexpected extra H3 headers"
def unknownRequest : DriverError := .message "unknown H3 request"
def requestRejected : DriverError := .message "H3 request rejected"
def unexpectedPriority : DriverError := .message "unexpected server priority update"
def unexpectedEvent : DriverError := .message "unexpected H3 event"
def truncatedFrame : DriverError := .message "truncated Maverick frame"
def incompleteFrame : DriverError := .message "H3 transport closed with an incomplete frame"

/-- An error that is not about the bytes received. -/
def DriverError.isForeign : DriverError → Bool
  | .decode _ => false
  | error => error != truncatedFrame && error != incompleteFrame

/-- Where the driver is in its loop. -/
inductive DriverPhase where
  | polling
  | responding
  | sending
  | receiving
  | checkingClose
  | flushing
  | finishing
  | selecting
  | returned (result : Except DriverError Unit)
  deriving DecidableEq

structure DriverConfig where
  server : Bool
  path : Bytes
  maxFrameSize : Nat

/-- The variables of `run`, the two channels, each of capacity 1, and the connection. -/
structure Driver where
  wireIn : Bytes
  pendingIn : Option (Option Frame)
  wireOut : Bytes
  endOut : Bool
  finSent : Bool
  appFinished : Bool
  endIn : Bool
  endDelivered : Bool
  bodyReadable : Bool
  headers : Bool
  responsePending : Bool
  canSend : Bool
  phase : DriverPhase
  io : Transport
  /-- frames from the application, with the mark of the last one -/
  outbound : List (Frame × Bool)
  /-- the driver has not closed the channel -/
  outboundOpen : Bool
  senderAlive : Bool
  /-- frames for the application, and the end of the stream -/
  inbound : List (Option Frame)
  receiverAlive : Bool
  /-- every frame that was taken from the application -/
  accepted : List (Frame × Bool)
  /-- everything that was put into the channel to the application -/
  delivered : List (Option Frame)
  deriving DecidableEq

namespace Driver

def start (config : DriverConfig) : Driver where
  wireIn := []
  pendingIn := none
  wireOut := []
  endOut := false
  finSent := false
  appFinished := false
  endIn := false
  endDelivered := false
  bodyReadable := false
  headers := false
  responsePending := false
  canSend := !config.server
  phase := .polling
  io := .start
  outbound := []
  outboundOpen := true
  senderAlive := true
  inbound := []
  receiverAlive := true
  accepted := []
  delivered := []

def goto (s : Driver) (phase : DriverPhase) : Driver := { s with phase := phase }

def fail (s : Driver) (error : DriverError) : Driver := s.goto (.returned (.error error))

def finish (s : Driver) : Driver := s.goto (.returned (.ok ()))

/-- `close`, a last flush, and `Ok(())`. -/
def leave (s : Driver) (flushed : Bool) : Driver :=
  if flushed then s.finish else s.fail (.transport "flush")

/-! ## The loop -/

/-- The first header with a name. -/
def value (list : List Header) (name : String) : Option Bytes :=
  (list.find? fun h => h.1 == utf8 name).map (·.2)

/-- `h3::Event::Headers` on stream 0. -/
def handleHeaders (config : DriverConfig) (s : Driver) (list : List Header) : Driver :=
  if s.headers then s.fail extraHeaders
  else if config.server then
    if value list ":method" ≠ some (utf8 "POST") ∨ value list ":path" ≠ some config.path then
      s.fail unknownRequest
    else { s with responsePending := true, headers := true }
  else if value list ":status" = some (utf8 "200") then { s with headers := true }
  else s.fail requestRejected

/-- An event of `h3.poll`, as it is matched on. -/
def handleEvent (config : DriverConfig) (s : Driver) (stream : Nat) (event : H3Event) : Driver :=
  if event = .goAway then
    if config.server ∨ 0 < stream then s else s.fail unexpectedGoAway
  else if stream ≠ 0 then s.fail unexpectedStream
  else
    match event with
    | .headers list => s.handleHeaders config list
    | .priorityUpdate => if config.server then s else s.fail unexpectedPriority
    | .data => { s with bodyReadable := true }
    | .finished => { s with endIn := true }
    | .reset => s.finish
    | .goAway | .other => s.fail unexpectedEvent

/-- The result of a call that may find the stream blocked. -/
inductive SendResult where
  | accepted (n : Nat)
  | blocked
  | failed (text : String)
  deriving DecidableEq

inductive PollResult where
  | event (stream : Nat) (event : H3Event)
  | done
  | failed (text : String)
  deriving DecidableEq

def poll (config : DriverConfig) (s : Driver) : PollResult → Option Driver
  | .event stream event =>
    -- what is promised about an event is promised for stream 0
    if stream = 0 then
      if s.io.mayReport event then
        some ({ s with io := s.io.reported event }.handleEvent config stream event)
      else none
    else some (s.handleEvent config stream event)
  | .done => if s.io.idle then some (s.goto .responding) else none
  | .failed text => some (s.fail (.transport text))

def respond (s : Driver) (result : SendResult) : Driver :=
  if s.responsePending then
    match result with
    | .accepted _ => { s with responsePending := false, canSend := true, phase := .sending }
    | .blocked => s.goto .sending
    | .failed text => s.fail (.transport text)
  else s.goto .sending

/-- `wire_out.advance(written)`, and what follows the last byte. -/
def advance (s : Driver) (n : Nat) : Driver :=
  let s :=
    { s with
      io := s.io.sendBody s.wireOut s.endOut n
      wireOut := s.wireOut.drop n
      phase := .receiving }
  if s.wireOut = [] ∧ s.endOut then { s with finSent := true, outboundOpen := false } else s

def send (s : Driver) (result : SendResult) : Option Driver :=
  if s.canSend ∧ s.wireOut ≠ [] then
    match result with
    | .accepted n => if n ≤ s.wireOut.length then some (s.advance n) else none
    | .blocked => some (s.goto .receiving)
    | .failed text => some (s.fail (.transport text))
  else some (s.goto .receiving)

/-- The room that is left for an incomplete frame. -/
def capacity (config : DriverConfig) (s : Driver) : Nat :=
  min (16 * 1024) (config.maxFrameSize + FRAME_HEADER_LEN - s.wireIn.length)

inductive ReadResult where
  | read (n : Option Nat)
  | failed (text : String)
  deriving DecidableEq

/-- A read of the body; either way the loop starts again. -/
def read (config : DriverConfig) (s : Driver) : ReadResult → Option Driver
  | .failed text => some (s.fail (.transport text))
  | .read n =>
    match s.io.recvBody (s.capacity config) n with
    | none => none
    | some (io, data) =>
      some { s with
        io := io
        wireIn := s.wireIn ++ data
        bodyReadable := if n.isSome then s.bodyReadable else false
        phase := .polling }

def receive (config : DriverConfig) (s : Driver) (result : ReadResult) : Option Driver :=
  if s.pendingIn = none ∧ s.endDelivered = false then
    match Frame.decodeFrom config.maxFrameSize s.wireIn with
    | .error e => some (s.fail (.decode e))
    | .ok (some (frame, rest)) =>
      some { s with pendingIn := some (some frame), wireIn := rest, phase := .checkingClose }
    | .ok none =>
      if s.headers ∧ s.bodyReadable then s.read config result
      else if s.endIn then
        if s.wireIn = [] then some { s with pendingIn := some none, phase := .checkingClose }
        else some (s.fail truncatedFrame)
      else some (s.goto .checkingClose)
  else some (s.goto .checkingClose)

def checkClose (s : Driver) : Driver :=
  if s.io.closed ∧ s.pendingIn = none ∧ s.bodyReadable = false then
    if s.wireIn = [] then s.finish else s.fail incompleteFrame
  else s.goto .flushing

def flush (s : Driver) (ok : Bool) : Driver :=
  if ok then s.goto .finishing else s.fail (.transport "flush")

/-- `collected` tells whether stream 0 is in no state any more. -/
def tryFinish (s : Driver) (collected flushed : Bool) : Driver :=
  if s.finSent ∧ s.appFinished ∧ collected then s.leave flushed else s.goto .selecting

/-- The branches of the `select!`; some of them end with a flush. -/
inductive Branch where
  | stop (flushed : Bool)
  | inboundClosed (flushed : Bool)
  | packets (more : Bytes) (fin closed : Bool)
  | recvFailed (text : String)
  | timeout (closed : Bool)
  | outbound (flushed : Bool)
  | reserve
  deriving DecidableEq

/-- A frame of the application, or the end of its half of the channel. -/
def takeOutbound (config : DriverConfig) (s : Driver) (flushed : Bool) : Option Driver :=
  if s.wireOut = [] ∧ s.endOut = false then
    match s.outbound with
    | [] => if s.senderAlive then none else some (s.leave flushed)
    | (frame, last) :: rest =>
      match frame.encode config.maxFrameSize with
      | .error e => some ({ s with outbound := rest }.fail (.encode e))
      | .ok bytes =>
        some { s with
          wireOut := bytes
          endOut := last
          outbound := rest
          accepted := s.accepted ++ [(frame, last)]
          phase := .polling }
  else none

/-- Room in the channel to the application, or its end. -/
def deliver (s : Driver) : Option Driver :=
  match s.pendingIn with
  | none => none
  | some frame =>
    if s.receiverAlive then
      if s.inbound.length < 1 then
        some { s with
          pendingIn := none
          endDelivered := frame.isNone
          inbound := s.inbound ++ [frame]
          delivered := s.delivered ++ [frame]
          phase := .polling }
      else none
    else some { s with pendingIn := none, endDelivered := true, phase := .polling }

def select (config : DriverConfig) (s : Driver) : Branch → Option Driver
  | .stop flushed => some (s.leave flushed)
  | .inboundClosed flushed =>
    if s.receiverAlive = false ∧ s.appFinished = false ∧ (config.server = false ∨ s.finSent) then
      if config.server = false ∧ s.endIn = false then some (s.leave flushed)
      else some { s with appFinished := true, phase := .polling }
    else none
  | .packets more fin closed =>
    (s.io.receive more fin closed).map fun io => { s with io := io, phase := .polling }
  | .recvFailed text => some (s.fail (.transport text))
  | .timeout closed => some { s with io.closed := s.io.closed || closed, phase := .polling }
  | .outbound flushed => s.takeOutbound config flushed
  | .reserve => s.deliver

/-! ## The application -/

inductive AppAction where
  | send (frame : Frame) (last : Bool)
  | take
  | dropSender
  | dropReceiver
  deriving DecidableEq

def stepApp (s : Driver) : AppAction → Option Driver
  | .send frame last =>
    if s.senderAlive ∧ s.outboundOpen ∧ s.outbound = [] then
      some { s with outbound := [(frame, last)] }
    else none
  | .take =>
    match s.inbound with
    | [] => none
    | _ :: rest => if s.receiverAlive then some { s with inbound := rest } else none
  | .dropSender => if s.senderAlive then some { s with senderAlive := false } else none
  | .dropReceiver =>
    if s.receiverAlive then some { s with receiverAlive := false, inbound := [] } else none

inductive Action where
  | app (action : AppAction)
  | poll (result : PollResult)
  | respond (result : SendResult)
  | send (result : SendResult)
  | receive (result : ReadResult)
  | checkClose
  | flush (ok : Bool)
  | finish (collected flushed : Bool)
  | select (branch : Branch)
  deriving DecidableEq

def next (config : DriverConfig) (s : Driver) : Action → Option Driver
  | .app action => s.stepApp action
  | .poll result => if s.phase = .polling then s.poll config result else none
  | .respond result => if s.phase = .responding then some (s.respond result) else none
  | .send result => if s.phase = .sending then s.send result else none
  | .receive result => if s.phase = .receiving then s.receive config result else none
  | .checkClose => if s.phase = .checkingClose then some s.checkClose else none
  | .flush ok => if s.phase = .flushing then some (s.flush ok) else none
  | .finish collected flushed =>
    if s.phase = .finishing then some (s.tryFinish collected flushed) else none
  | .select branch => if s.phase = .selecting then s.select config branch else none

def system (config : DriverConfig) : System Driver Action where
  start := start config
  next := next config

/-! ## What a step can do -/

variable {config : DriverConfig} {s s' : Driver}

/-- The driver looks for a frame: none is pending, and there is more to come. -/
def Wants (s : Driver) : Prop := s.pendingIn = none ∧ s.endDelivered = false

variable (config s) in
/-- The branches of the loop, with the conditions under which they are taken. -/
inductive Effect : Action → Driver → Prop where
  | appSent {frame : Frame} {last : Bool} : s.senderAlive →
      Effect (.app (.send frame last)) { s with outbound := [(frame, last)] }
  | appTook {rest : List (Option Frame)} : Effect (.app .take) { s with inbound := rest }
  | senderDropped : Effect (.app .dropSender) { s with senderAlive := false }
  | receiverDropped : Effect (.app .dropReceiver) { s with receiverAlive := false, inbound := [] }
  /-- An error that ends the driver; an event that led to it was reported before. -/
  | failed {action : Action} {error : DriverError} (reported : Bool)
      (outbound : List (Frame × Bool)) : (s.io.headersReported → reported) → error.isForeign →
      Effect action ({ s with io.headersReported := reported, outbound := outbound }.fail error)
  | ignored {action : Action} : s.phase = .polling → Effect action s
  | gotHeaders {action : Action} (responsePending : Bool) : s.phase = .polling → Effect action
        { s with
          io.headersReported := true
          responsePending := responsePending
          headers := true }
  | gotData {action : Action} : s.phase = .polling → s.io.headersReported →
      Effect action { s with io.dataReported := true, bodyReadable := true }
  | gotFinished {action : Action} : s.phase = .polling → s.io.fin → s.io.idle →
      Effect action { s with endIn := true }
  | reset {stream : Nat} : Effect (.poll (.event stream .reset)) s.finish
  | polled {action : Action} : s.phase = .polling → s.io.idle → Effect action (s.goto .responding)
  | responded {action : Action} (responsePending canSend : Bool) : s.phase = .responding →
      Effect action
        { s with responsePending := responsePending, canSend := canSend, phase := .sending }
  | advanced {action : Action} {n : Nat} : s.phase = .sending → s.wireOut ≠ [] →
      Effect action (s.advance n)
  | unsent {action : Action} : s.phase = .sending → Effect action (s.goto .receiving)
  | decoded {action : Action} {frame : Frame} {rest : Bytes} : s.phase = .receiving → s.Wants →
      Frame.decodeFrom config.maxFrameSize s.wireIn = .ok (some (frame, rest)) → Effect action
        { s with pendingIn := some (some frame), wireIn := rest, phase := .checkingClose }
  | undecodable {action : Action} {error : Error} : s.phase = .receiving → s.Wants →
      Frame.decodeFrom config.maxFrameSize s.wireIn = .error error →
      Effect action (s.fail (.decode error))
  | read {action : Action} {n : Nat} : s.phase = .receiving → s.Wants →
      Frame.decodeFrom config.maxFrameSize s.wireIn = .ok none → s.bodyReadable →
      0 < n → n ≤ s.capacity config → n ≤ s.io.unread.length → Effect action
        { s with
          io.unread := s.io.unread.drop n
          wireIn := s.wireIn ++ s.io.unread.take n
          phase := .polling }
  | readNothing {action : Action} : s.phase = .receiving → s.Wants →
      Frame.decodeFrom config.maxFrameSize s.wireIn = .ok none →
      s.capacity config = 0 ∨ s.io.unread = [] → Effect action
        { s with io.dataReported := false, bodyReadable := false, phase := .polling }
  | ended {action : Action} : s.phase = .receiving → s.Wants →
      ¬ (s.headers ∧ s.bodyReadable) → s.endIn → s.wireIn = [] →
      Effect action { s with pendingIn := some none, phase := .checkingClose }
  | truncated {action : Action} : s.phase = .receiving → s.Wants →
      Frame.decodeFrom config.maxFrameSize s.wireIn = .ok none →
      ¬ (s.headers ∧ s.bodyReadable) → s.endIn → Effect action (s.fail truncatedFrame)
  | waitsForMore {action : Action} : s.phase = .receiving →
      Frame.decodeFrom config.maxFrameSize s.wireIn = .ok none →
      ¬ (s.headers ∧ s.bodyReadable) → Effect action (s.goto .checkingClose)
  | waitsForRoom {action : Action} : s.phase = .receiving → ¬ s.Wants →
      Effect action (s.goto .checkingClose)
  | closed {action : Action} : s.phase = .checkingClose → s.pendingIn = none →
      Effect action s.finish
  | incomplete {action : Action} : s.phase = .checkingClose → s.pendingIn = none →
      Effect action (s.fail incompleteFrame)
  | open_ {action : Action} : s.phase = .checkingClose → Effect action (s.goto .flushing)
  | flushed {action : Action} : s.phase = .flushing → Effect action (s.goto .finishing)
  | finished {action : Action} : s.phase = .finishing → s.appFinished → Effect action s.finish
  | waits {action : Action} : s.phase = .finishing → Effect action (s.goto .selecting)
  | stopped {flushed : Bool} : Effect (.select (.stop flushed)) s.finish
  | cancelled {action : Action} : s.phase = .selecting → s.receiverAlive = false → s.endIn = false →
      Effect action s.finish
  | appFinished {action : Action} : s.phase = .selecting → s.receiverAlive = false →
      Effect action { s with appFinished := true, phase := .polling }
  | received {action : Action} {more : Bytes} {fin closed : Bool} {io : Transport} :
      s.phase = .selecting → s.io.receive more fin closed = some io →
      Effect action { s with io := io, phase := .polling }
  | timeout {action : Action} (closed : Bool) : s.phase = .selecting →
      Effect action { s with io.closed := closed, phase := .polling }
  | accepted {action : Action} {frame : Frame} {last : Bool} {rest : List (Frame × Bool)} :
      s.phase = .selecting → s.wireOut = [] → s.endOut = false →
      s.outbound = (frame, last) :: rest → Effect action
        { s with
          wireOut := frame.bytes
          endOut := last
          outbound := rest
          accepted := s.accepted ++ [(frame, last)]
          phase := .polling }
  | abandoned {action : Action} : s.phase = .selecting → s.endOut = false → s.outbound = [] →
      s.senderAlive = false → Effect action s.finish
  | delivered {action : Action} {frame : Option Frame} : s.phase = .selecting →
      s.pendingIn = some frame → s.receiverAlive → Effect action
        { s with
          pendingIn := none
          endDelivered := frame.isNone
          inbound := s.inbound ++ [frame]
          delivered := s.delivered ++ [frame]
          phase := .polling }
  | undeliverable {action : Action} : s.phase = .selecting → s.receiverAlive = false →
      s.pendingIn.isSome →
      Effect action { s with pendingIn := none, endDelivered := true, phase := .polling }

variable {action : Action} {error : DriverError} {result : ReadResult}

theorem effect_fail (h : error.isForeign) : Effect config s action (s.fail error) :=
  .failed s.io.headersReported s.outbound id h

/-- An event that is an error only under a condition. -/
theorem effect_unless {c : Prop} [Decidable c] (hphase : s.phase = .polling) (h : error.isForeign) :
    Effect config s action (if c then s else s.fail error) := by
  split
  · exact .ignored hphase
  · exact effect_fail h

theorem effect_leave (flushed : Bool) (h : Effect config s action s.finish) :
    Effect config s action (s.leave flushed) := by
  unfold leave
  split
  · exact h
  · exact effect_fail rfl

theorem effect_handleHeaders {list : List Header} (hphase : s.phase = .polling) :
    Effect config s action
      ({ s with io.headersReported := true }.handleHeaders config list) := by
  unfold handleHeaders
  split <;> (try split) <;> (try split)
  · exact .failed true s.outbound (fun _ => rfl) rfl
  · exact .failed true s.outbound (fun _ => rfl) rfl
  · exact .gotHeaders true hphase
  · exact .gotHeaders s.responsePending hphase
  · exact .failed true s.outbound (fun _ => rfl) rfl

theorem effect_poll {result : PollResult} (hphase : s.phase = .polling)
    (h : s.poll config result = some s') : Effect config s (.poll result) s' := by
  unfold poll at h
  split at h
  · next stream event =>
    split at h
    · next hstream =>
      subst hstream
      obtain ⟨hmay, h⟩ := Option.ite_none_right_eq_some.mp h
      cases h
      cases event with
      | headers list => exact effect_handleHeaders hphase
      | data => exact .gotData hphase hmay
      | finished =>
        obtain ⟨hfin, hidle⟩ := Bool.and_eq_true_iff.mp hmay
        exact .gotFinished hphase hfin hidle
      | reset => exact .reset
      | priorityUpdate => exact effect_unless hphase rfl
      | goAway => exact effect_unless hphase rfl
      | other => exact effect_fail rfl
    · cases h
      unfold handleEvent
      split
      · exact effect_unless hphase rfl
      · exact effect_fail rfl
  · split at h <;> cases h
    exact .polled hphase ‹_›
  · cases h
    exact effect_fail rfl

theorem effect_respond (result : SendResult) (hphase : s.phase = .responding) :
    Effect config s (.respond result) (s.respond result) := by
  unfold respond
  split <;> (try split)
  · exact .responded false true hphase
  · exact .responded _ _ hphase
  · exact effect_fail rfl
  · exact .responded _ _ hphase

theorem effect_send {result : SendResult} (hphase : s.phase = .sending)
    (h : s.send result = some s') : Effect config s (.send result) s' := by
  unfold send at h
  split at h <;> (try split at h) <;> (try split at h) <;> cases h
  · next hready _ _ _ => exact .advanced hphase hready.2
  · exact .unsent hphase
  · exact effect_fail rfl
  · exact .unsent hphase

theorem effect_read (hphase : s.phase = .receiving) (hwants : s.Wants)
    (hdecode : Frame.decodeFrom config.maxFrameSize s.wireIn = .ok none)
    (hreadable : s.bodyReadable) (h : s.read config result = some s') :
    Effect config s (.receive result) s' := by
  unfold read at h
  split at h <;> (try split at h) <;> cases h
  · exact effect_fail rfl
  · next n _ _ _ hread =>
    cases n with
    | none =>
      obtain ⟨hempty, hread⟩ := Option.ite_none_right_eq_some.mp hread
      cases hread
      simp only [List.append_nil]
      exact .readNothing hphase hwants hdecode hempty
    | some n =>
      obtain ⟨hn, hread⟩ := Option.ite_none_right_eq_some.mp hread
      cases hread
      exact .read hphase hwants hdecode hreadable hn.1 hn.2.1 hn.2.2

theorem effect_receive (hphase : s.phase = .receiving) (h : s.receive config result = some s') :
    Effect config s (.receive result) s' := by
  unfold receive at h
  split at h
  · next hwants =>
    split at h
    · cases h
      exact .undecodable hphase hwants ‹_›
    · cases h
      exact .decoded hphase hwants ‹_›
    · next hdecode =>
      split at h
      · next hreadable => exact effect_read hphase hwants hdecode hreadable.2 h
      · next hnot =>
        split at h <;> (try split at h) <;> cases h
        · exact .ended hphase hwants hnot ‹_› ‹_›
        · exact .truncated hphase hwants hdecode hnot ‹_›
        · exact .waitsForMore hphase hdecode hnot
  · cases h
    exact .waitsForRoom hphase ‹_›

theorem effect_takeOutbound {flushed : Bool} (hphase : s.phase = .selecting)
    (h : s.takeOutbound config flushed = some s') :
    Effect config s (.select (.outbound flushed)) s' := by
  obtain ⟨hready, h⟩ := Option.ite_none_right_eq_some.mp h
  split at h <;> split at h <;> cases h
  · next hqueue halive =>
    exact effect_leave flushed (.abandoned hphase hready.2 hqueue (Bool.not_eq_true _ ▸ halive))
  · exact .failed s.io.headersReported _ id rfl
  · next hqueue _ _ hencode =>
    unfold Frame.encode at hencode
    split at hencode <;> cases hencode
    exact .accepted hphase hready.1 hready.2 hqueue

theorem effect_select {branch : Branch} (hphase : s.phase = .selecting)
    (h : s.select config branch = some s') : Effect config s (.select branch) s' := by
  cases branch with
  | stop flushed =>
    cases h
    exact effect_leave flushed .stopped
  | inboundClosed flushed =>
    obtain ⟨hclosed, h⟩ := Option.ite_none_right_eq_some.mp h
    split at h <;> cases h
    · next hend => exact effect_leave flushed (.cancelled hphase hclosed.1 hend.2)
    · exact .appFinished hphase hclosed.1
  | packets more fin closed =>
    obtain ⟨io, hio, rfl⟩ := Option.map_eq_some_iff.mp h
    exact .received hphase hio
  | recvFailed text =>
    cases h
    exact effect_fail rfl
  | timeout closed =>
    cases h
    exact .timeout _ hphase
  | outbound flushed => exact effect_takeOutbound hphase h
  | reserve =>
    simp only [select, deliver] at h
    split at h <;> (try split at h) <;> (try split at h) <;> cases h
    · exact .delivered hphase ‹_› ‹_›
    · next hpending halive =>
      exact .undeliverable hphase (Bool.not_eq_true _ ▸ halive) (by rw [hpending]; rfl)

theorem effect_app {action : AppAction} (h : s.stepApp action = some s') :
    Effect config s (.app action) s' := by
  unfold stepApp at h
  split at h <;> split at h <;> (try split at h) <;> cases h
  · next hopen => exact .appSent hopen.1
  · exact .appTook
  · exact .senderDropped
  · exact .receiverDropped

/-- **Every step is one of these.** -/
theorem next_effect (h : s.next config action = some s') : Effect config s action s' := by
  cases action
  case app => exact effect_app h
  all_goals obtain ⟨hphase, h⟩ := Option.ite_none_right_eq_some.mp h
  case poll => exact effect_poll hphase h
  case respond =>
    cases h
    exact effect_respond _ hphase
  case send => exact effect_send hphase h
  case receive => exact effect_receive hphase h
  case checkClose =>
    cases h
    unfold checkClose
    split <;> (try split)
    · next hclosed _ => exact .closed hphase hclosed.2.1
    · next hclosed _ => exact .incomplete hphase hclosed.2.1
    · exact .open_ hphase
  case flush =>
    cases h
    unfold flush
    split
    · exact .flushed hphase
    · exact effect_fail rfl
  case finish =>
    cases h
    unfold tryFinish
    split
    · next hready => exact effect_leave _ (.finished hphase hready.2.1)
    · exact .waits hphase
  case select => exact effect_select hphase h

end Driver

/-- `read_frame`, on what is in the channel and what will be: Padding is skipped, and
nothing is returned before there is something else. -/
def readFrame (maxFrameSize : Nat) :
    List (Option Frame) → Option (Except Error (Option Frame) × List (Option Frame))
  | [] => none
  | none :: rest => some (.ok none, rest)
  | some frame :: rest =>
    if maxFrameSize < frame.payload.length then
      some (.error (.frameTooLarge frame.payload.length maxFrameSize), rest)
    else if frame.frameType ≠ .padding then some (.ok (some frame), rest)
    else readFrame maxFrameSize rest

end Quiche
end Maverick
