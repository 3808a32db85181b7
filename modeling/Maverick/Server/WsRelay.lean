import Maverick.Server.H3Relay

/-!
# The relay of a TCP flow on WebSocket

A WebSocket connection carries the client's frames in binary messages.  The set-up phase
reads them with `ws_read_next_frame`, which keeps what is left of a message in a buffer;
the relay reads them with `frame_from_ws_message`, which looks at one message at a time.

* `wsReadNextFrame_spec` — the set-up phase reads the frames of the byte stream, however it
  is packed into messages.
* `wsRelay` — `relay_ws_target_and_tunnel` as a system.
* `packed_frames_lost` — two frames in one message: the second is dropped.
* `ws_upload_complete` — the upload of a client that packs each frame into a message of its
  own, when the target ends after it.
-/

namespace Maverick
namespace Server

open Lib

/-! ## Messages and frames -/

inductive WsMessage where
  | binary (bytes : Bytes)
  | ping (payload : Bytes)
  | close
  /-- text and pong -/
  | other
  deriving DecidableEq

/-- The client's frame byte stream; it ends with a close message. -/
def frameBytes : List WsMessage → Bytes
  | [] => []
  | .binary bytes :: messages => bytes ++ frameBytes messages
  | .close :: _ => []
  | .ping _ :: messages => frameBytes messages
  | .other :: messages => frameBytes messages

/-- `ws_read_next_frame`: the frame, the buffer after it and the messages not yet read. -/
def wsReadNextFrame (max : Nat) :
    List WsMessage → Bytes → Except Error (Option Frame × Bytes × List WsMessage)
  | messages, buf =>
    match (frameDecoder max).next Relay.isPadding buf with
    | .error error => .error error
    | .ok (some f, buf) => .ok (some f, buf, messages)
    | .ok (none, buf) =>
      match messages with
      | [] => .ok (none, buf, [])
      | .binary bytes :: messages => wsReadNextFrame max messages (buf ++ bytes)
      | .close :: messages => .ok (none, buf, messages)
      | .ping _ :: messages => wsReadNextFrame max messages buf
      | .other :: messages => wsReadNextFrame max messages buf

/-- The frames of a byte stream without the padding. -/
def streamFrames (max : Nat) (bytes : Bytes) : List Frame :=
  visible ((frameDecoder max).drain bytes).1

section
variable {max : Nat} {buf rest : Bytes}

variable {f : Frame}

theorem streamFrames_of_next_some
    (h : (frameDecoder max).next Relay.isPadding buf = .ok (some f, rest)) (x : Bytes) :
    streamFrames max (buf ++ x) = f :: streamFrames max (rest ++ x) := by
  obtain ⟨skipped, hskipped, hkeep, hdrain⟩ := Decoder.drain_of_next_some h x
  rw [streamFrames, hdrain, visible_append, visible_padding hskipped,
    List.nil_append, visible, List.filter_cons_of_pos (by rw [hkeep]; rfl)]
  rfl

theorem streamFrames_of_next_none
    (h : (frameDecoder max).next Relay.isPadding buf = .ok (none, rest)) (x : Bytes) :
    streamFrames max (buf ++ x) = streamFrames max (rest ++ x) := by
  obtain ⟨skipped, hskipped, hdrain⟩ := Decoder.drain_of_next_none h x
  rw [streamFrames, hdrain, visible_append, visible_padding hskipped,
    List.nil_append]
  rfl

/-- **The set-up phase reads the stream**, for every packing into messages. -/
theorem wsReadNextFrame_spec {messages left : List WsMessage}
    (h : wsReadNextFrame max messages buf = .ok (some f, rest, left)) :
    streamFrames max (buf ++ frameBytes messages) =
      f :: streamFrames max (rest ++ frameBytes left) := by
  induction messages generalizing buf with
  | nil =>
    rw [wsReadNextFrame] at h
    split at h
    · cases h
    · cases h
      exact streamFrames_of_next_some ‹_› _
    · cases h
  | cons message messages ih =>
    rw [wsReadNextFrame] at h
    split at h
    · cases h
    · cases h
      exact streamFrames_of_next_some ‹_› _
    rename_i buf' hnext
    rw [streamFrames_of_next_none hnext]
    cases message with
    | binary bytes =>
      rw [frameBytes, ← List.append_assoc]
      exact ih h
    | close => cases h
    | ping _ => exact ih h
    | other => exact ih h

end

/-! ## The relay -/

/-- `frame_from_ws_message`: the first frame of a binary message. -/
def frameFromWsMessage (max : Nat) : WsMessage → Except Error (Option Frame)
  | .binary bytes => (Frame.decodeFrom max bytes).map (·.map Prod.fst)
  | _ => .ok none

/-- What the relay does with what `ws_stream.next()` gives, nothing at its end. -/
def messageVerdict (max : Nat) (flowId : UInt64) : Option WsMessage → Verdict
  | none => .stop
  | some message =>
    match frameFromWsMessage max message with
    | .ok (some f) => uplinkVerdict flowId f
    | _ => .skip

inductive WsError where
  | frame (error : Error)
  /-- an error of the target's socket or of the WebSocket connection -/
  | io (text : String)
  deriving DecidableEq

/-- The two ways to leave the loop both return `Ok`. -/
inductive WsOutcome where
  | running
  | idle
  | finished
  | failed (error : WsError)
  deriving DecidableEq

structure WsRelay where
  /-- what the client has sent and the relay has not read -/
  client : List WsMessage
  up : Inlet (Option WsMessage)
  down : Outlet Frame
  outcome : WsOutcome
  deriving DecidableEq

inductive WsAction where
  /-- `ws_stream.next()`; a ping is answered or the answer fails -/
  | receive (pong : Bool)
  | receiveFailed (text : String)
  /-- the target takes `n` bytes -/
  | write (n : Nat)
  | writeFailed (text : String)
  /-- a read from the target, of nothing at its end -/
  | read (data : Bytes) (random cover : RandomBytes)
  | readFailed (text : String)
  | send
  | sendFailed (text : String)
  /-- the idle timeout -/
  | idle

namespace WsRelay

def fail (s : WsRelay) (error : WsError) : WsRelay := { s with outcome := .failed error }

/-- `client_eof` -/
def clientEof (s : WsRelay) : Bool := s.up.isStopped

/-- The loop is at its `select!`: no frame is being written or sent. -/
def Selecting (s : WsRelay) : Prop :=
  (s.up.phase = .reading ∨ s.clientEof = true) ∧ s.down.phase = .reading

instance (s : WsRelay) : Decidable s.Selecting := inferInstanceAs (Decidable (_ ∧ _))

section
variable (policy : TunnelRelayPolicy) (max : Nat) (flowId : UInt64)

/-- The writer is shut down with the item that ends the upload. -/
def takeMessage (up : Inlet (Option WsMessage)) (item : Option WsMessage) :
    Inlet (Option WsMessage) :=
  let up := up.take (messageVerdict max flowId) item
  if up.isStopped then up.shut else up

def receive (s : WsRelay) (pong : Bool) : WsRelay :=
  match s.client with
  | [] => { s with up := takeMessage max flowId s.up none }
  | message :: client =>
    -- nothing is read after a close message
    let left := if message = .close then [] else client
    match message, frameFromWsMessage max message with
    | .ping _, _ =>
      if pong then
        { s with client := left, up := takeMessage max flowId s.up (some message) }
      else s.fail (.io "pong")
    | _, .error error => s.fail (.frame error)
    | _, .ok _ => { s with client := left, up := takeMessage max flowId s.up (some message) }

/-- `ws.send` of the front of the queue; the relay ends with the TcpFin. -/
def send (s : WsRelay) : Option WsRelay :=
  match s.down.queue with
  | [] => none
  | (f, _) :: _ =>
    if max < f.payload.length then some (s.fail (.frame (.frameTooLarge f.payload.length max)))
    else s.down.sendNext.map fun down =>
      { s with down := down, outcome := if down.phase = .done then .finished else .running }

def next (s : WsRelay) (action : WsAction) : Option WsRelay :=
  if s.outcome ≠ .running then none
  else
    match action with
    | .receive pong =>
      if s.Selecting ∧ s.clientEof = false then some (s.receive max flowId pong) else none
    | .receiveFailed text =>
      if s.Selecting ∧ s.clientEof = false then some (s.fail (.io text)) else none
    | .write n => (s.up.wrote n).map fun up => { s with up := up }
    | .writeFailed text => if s.up.rest ≠ [] then some (s.fail (.io text)) else none
    | .read data random cover =>
      if s.Selecting ∧ data.length ≤ 16 * 1024 then
        some { s with
          down := s.down.filled data
            (dress policy random cover (downlinkFrame flowId data) max (data = [])) }
      else none
    | .readFailed text => if s.Selecting then some (s.fail (.io text)) else none
    | .send => s.send max
    | .sendFailed text => if s.down.queue ≠ [] then some (s.fail (.io text)) else none
    | .idle => if s.Selecting then some { s with outcome := .idle } else none

end
end WsRelay

/-- `relay_ws_target_and_tunnel`, with the messages of the client it will be given. -/
def wsRelay (policy : TunnelRelayPolicy) (max : Nat) (flowId : UInt64) (client : List WsMessage) :
    System WsRelay WsAction where
  start := ⟨client, .start, .start, .running⟩
  next := WsRelay.next policy max flowId

/-! ## What the relay is given -/

/-- The items that `ws_stream.next()` gives. -/
def script : List WsMessage → List (Option WsMessage)
  | [] => [none]
  | .close :: _ => [some .close, none]
  | message :: messages => some message :: script messages

theorem script_cons (message : WsMessage) (messages : List WsMessage) :
    script (message :: messages) =
      some message :: script (if message = .close then [] else messages) := by
  cases message <;> rfl

/-- Each binary message is one frame, up to the frame that ends the flow. -/
def oneFrameEach (max : Nat) (flowId : UInt64) : List WsMessage → Bool
  | [] | .close :: _ => true
  | .binary bytes :: messages =>
    match Frame.decodeFrom max bytes with
    | .ok (some (f, [])) => uplinkVerdict flowId f = .stop || oneFrameEach max flowId messages
    | _ => false
  | .ping _ :: messages | .other :: messages => oneFrameEach max flowId messages

/-- **One frame a message**: the relay reads what the stream holds. -/
theorem carried_script {max : Nat} {flowId : UInt64} {messages : List WsMessage}
    (h : oneFrameEach max flowId messages = true) :
    carried (messageVerdict max flowId) (script messages) =
      uplink flowId ((frameDecoder max).drain (frameBytes messages)).1 := by
  rw [← carried_uplinkVerdict]
  induction messages with
  | nil =>
    rw [frameBytes, Decoder.drain_none (frameDecoder max).decode_nil]
    rfl
  | cons message messages ih =>
    cases message with
    | binary bytes =>
      rw [oneFrameEach] at h
      split at h
      · rename_i f hf
        have hmore := (frameDecoder max).more_item (frameBytes messages) hf
        rw [script_cons, frameBytes, Decoder.drain_some hmore, List.nil_append, carried, carried,
          if_neg WsMessage.noConfusion, messageVerdict, frameFromWsMessage, hf]
        simp only [Except.map, Option.map_some]
        -- behind the frame that ends the flow neither side reads on
        cases hverdict : uplinkVerdict flowId f with
        | stop => rfl
        | carry payload | skip =>
          rw [hverdict] at h
          rw [ih h]
      · cases h
    | close =>
      rw [frameBytes, Decoder.drain_none (frameDecoder max).decode_nil]
      rfl
    | ping _ | other => exact ih h

/-- Padding carries nothing. -/
theorem uplink_visible (flowId : UInt64) (frames : List Frame) :
    uplink flowId (visible frames) = uplink flowId frames := by
  induction frames with
  | nil => rfl
  | cons f frames ih =>
    by_cases hpadding : f.frameType = .padding
    · have hf : Relay.isPadding f = true := decide_eq_true hpadding
      rw [visible, List.filter_cons_of_neg (by rw [hf]; decide), uplink, hpadding]
      simpa [visible] using ih
    have hf : Relay.isPadding f = false := decide_eq_false hpadding
    rw [visible, List.filter_cons_of_pos (by rw [hf]; rfl), uplink, uplink]
    rw [visible] at ih
    rw [ih]

/-! ## The upload -/

/-- The target's end is read when the client's has been. -/
def EndsLast (s : WsRelay) : WsAction → Prop
  | .read data _ _ => data = [] → s.clientEof = true
  | _ => True

instance (s : WsRelay) : ∀ action, Decidable (EndsLast s action)
  | .read data _ _ => inferInstanceAs (Decidable (data = [] → _))
  | .receive _ | .receiveFailed _ | .write _ | .writeFailed _ | .readFailed _ | .send
  | .sendFailed _ | .idle => .isTrue trivial

/-- What the relay has read and written of the client's messages. -/
structure WsUpward (max : Nat) (flowId : UInt64) (client : List WsMessage) (s : WsRelay) :
    Prop where
  up : s.up.Faithful (messageVerdict max flowId)
  given : ∃ more, s.up.received ++ more = script client ∧
    (s.clientEof = false → more = script s.client)

namespace WsUpward

variable {policy : TunnelRelayPolicy} {max : Nat} {flowId : UInt64} {client : List WsMessage}
  {s s' : WsRelay}

theorem fail (h : WsUpward max flowId client s) (error : WsError) :
    WsUpward max flowId client (s.fail error) := ⟨h.up, h.given⟩

variable {up : Inlet (Option WsMessage)}

theorem takeMessage_faithful (h : up.Faithful (messageVerdict max flowId))
    (hphase : up.phase = .reading) (item : Option WsMessage) :
    (WsRelay.takeMessage max flowId up item).Faithful (messageVerdict max flowId) := by
  have htake := Inlet.take_faithful (a := item) h hphase
  unfold WsRelay.takeMessage
  dsimp only
  split
  exacts [Inlet.shut_faithful htake ‹_›, htake]

theorem received_takeMessage (up : Inlet (Option WsMessage)) (item : Option WsMessage) :
    (WsRelay.takeMessage max flowId up item).received = up.received ++ [item] := by
  unfold WsRelay.takeMessage
  dsimp only
  split <;> rfl

/-- One more item of the script. -/
theorem take (h : WsUpward max flowId client s) (hphase : s.up.phase = .reading)
    (item : Option WsMessage) (left : List WsMessage)
    (hscript : script s.client = item :: (if item = none then [] else script left)) :
    WsUpward max flowId client
      { s with client := left, up := WsRelay.takeMessage max flowId s.up item } := by
  have hopen : s.clientEof = false := by rw [WsRelay.clientEof, Inlet.isStopped, hphase]
  obtain ⟨more, hmore, hleft⟩ := h.given
  rw [hleft hopen, hscript] at hmore
  refine ⟨takeMessage_faithful h.up hphase item, if item = none then [] else script left, ?_,
    fun heof => ?_⟩
  · rwa [received_takeMessage, List.append_assoc, List.singleton_append]
  by_cases hnone : item = none
  · subst hnone
    cases heof
  · rw [if_neg hnone]

theorem receive (h : WsUpward max flowId client s) (hphase : s.up.phase = .reading) (pong : Bool) :
    WsUpward max flowId client (s.receive max flowId pong) := by
  unfold WsRelay.receive
  split
  · rename_i hclient
    have htake := h.take hphase none s.client (by rw [hclient]; rfl)
    exact htake
  rename_i message rest hclient
  have htake := h.take hphase (some message) (if message = .close then [] else rest)
    (by rw [hclient, script_cons]; rfl)
  dsimp only
  split
  · split
    exacts [htake, h.fail _]
  · exact h.fail _
  · exact htake

theorem wrote (h : WsUpward max flowId client s) {n : Nat} (hwrote : s.up.wrote n = some up) :
    WsUpward max flowId client { s with up := up } := by
  have hup := Inlet.wrote_faithful h.up hwrote
  obtain ⟨more, hmore, hleft⟩ := h.given
  unfold Inlet.wrote at hwrote
  split at hwrote
  · rename_i rest hphase
    obtain ⟨-, hwrote⟩ := Option.ite_none_right_eq_some.mp hwrote
    have hopen : s.clientEof = false := by rw [WsRelay.clientEof, Inlet.isStopped, hphase]
    refine ⟨hup, more, ?_, fun _ => hleft hopen⟩
    rwa [← Option.some.inj hwrote]
  · cases hwrote

theorem next {action : WsAction} (h : WsUpward max flowId client s)
    (hnext : s.next policy max flowId action = some s') : WsUpward max flowId client s' := by
  obtain ⟨-, hnext⟩ := Option.ite_none_left_eq_some.mp hnext
  cases action with
  | receive pong =>
    obtain ⟨⟨⟨hready, -⟩, hopen⟩, hnext⟩ := Option.ite_none_right_eq_some.mp hnext
    cases hnext
    have hphase : s.up.phase = .reading := by
      rcases hready with hphase | heof
      · exact hphase
      · cases hopen.symm.trans heof
    exact h.receive hphase pong
  | write n =>
    obtain ⟨up, hup, rfl⟩ := Option.map_eq_some_iff.mp hnext
    exact h.wrote hup
  | read _ _ _ | idle =>
    obtain ⟨-, hnext⟩ := Option.ite_none_right_eq_some.mp hnext
    cases hnext
    exact ⟨h.up, h.given⟩
  | send =>
    simp only [WsRelay.send] at hnext
    split at hnext
    · cases hnext
    split at hnext
    · cases hnext
      exact h.fail _
    · obtain ⟨down, -, rfl⟩ := Option.map_eq_some_iff.mp hnext
      exact ⟨h.up, h.given⟩
  | _ =>
    obtain ⟨-, hnext⟩ := Option.ite_none_right_eq_some.mp hnext
    cases hnext
    exact h.fail _

/-- **At the end of the upload** all that the messages carry has been written. -/
theorem written (h : WsUpward max flowId client s) (heof : s.clientEof = true) :
    s.up.written = carried (messageVerdict max flowId) (script client) := by
  obtain ⟨more, hmore, -⟩ := h.given
  have hwritten := h.up.written_of_stopped heof
  have hcarried := h.up.carried
  have hall := hcarried more
  have hnow := hcarried []
  rw [show s.up.isStopped = true from heof, if_pos rfl] at hall hnow
  rw [hwritten, ← hmore, hall, ← hnow, List.append_nil]

end WsUpward

/-- The relay finishes when it has sent the TcpFin, and so after the client's end. -/
structure WsEnded (flowId : UInt64) (s : WsRelay) : Prop where
  down : s.down.Faithful Relay.isPadding (downlinkFrame flowId)
  ended : s.down.ended = true → s.clientEof = true
  finished : s.outcome = .finished → s.down.phase = .done

namespace WsEnded

variable {policy : TunnelRelayPolicy} {max : Nat} {flowId : UInt64} {s s' : WsRelay}

theorem start {client : List WsMessage} :
    WsEnded flowId (wsRelay policy max flowId client).start where
  down := Outlet.start_faithful
  ended hended := absurd (show false = true from hended) Bool.false_ne_true
  finished hfinished := by
    have hrunning : WsOutcome.running = .finished := hfinished
    cases hrunning

theorem fail (h : WsEnded flowId s) (error : WsError) : WsEnded flowId (s.fail error) :=
  { h with finished := nofun }

/-- Until the client has ended, only the upload changes. -/
theorem upload (h : WsEnded flowId s) (hopen : s.clientEof = false)
    (hdown : s'.down = s.down) (houtcome : s'.outcome = s.outcome) : WsEnded flowId s' := by
  refine ⟨hdown ▸ h.down, fun hended => ?_, ?_⟩
  · rw [hdown] at hended
    rw [h.ended hended] at hopen
    cases hopen
  · rw [hdown, houtcome]
    exact h.finished

theorem receive (h : WsEnded flowId s) (hopen : s.clientEof = false) (pong : Bool) :
    WsEnded flowId (s.receive max flowId pong) := by
  unfold WsRelay.receive
  split
  · exact h.upload hopen rfl rfl
  dsimp only
  split
  · split
    exacts [h.upload hopen rfl rfl, h.fail _]
  · exact h.fail _
  · exact h.upload hopen rfl rfl

theorem read (h : WsEnded flowId s) (hrunning : s.outcome = .running)
    (hphase : s.down.phase = .reading) {data : Bytes} {queue : List (Frame × Bool)}
    (hlast : data = [] → s.clientEof = true)
    (hqueue : Dressed Relay.isPadding (downlinkFrame flowId data) (data = []) queue) :
    WsEnded flowId { s with down := s.down.filled data queue } where
  down := Outlet.filled_faithful (downlinkFrame_not_padding flowId) h.down hphase hqueue
  ended hended := hlast (of_decide_eq_true hended)
  finished hfinished := by
    rw [show s.outcome = .finished from hfinished] at hrunning
    cases hrunning

theorem send (h : WsEnded flowId s) (hsend : s.send max = some s') : WsEnded flowId s' := by
  unfold WsRelay.send at hsend
  split at hsend
  · cases hsend
  split at hsend
  · cases hsend
    exact h.fail _
  obtain ⟨down, hdown, rfl⟩ := Option.map_eq_some_iff.mp hsend
  refine ⟨Outlet.sendNext_faithful h.down hdown, fun hended => h.ended ?_, fun hfinished => ?_⟩
  · rwa [← Outlet.ended_sendNext hdown]
  by_contra hphase
  rw [if_neg hphase] at hfinished
  cases hfinished

theorem next {action : WsAction} (h : WsEnded flowId s) (hgood : EndsLast s action)
    (hnext : s.next policy max flowId action = some s') : WsEnded flowId s' := by
  obtain ⟨hrunning, hnext⟩ := Option.ite_none_left_eq_some.mp hnext
  have hrunning : s.outcome = .running := not_not.mp hrunning
  cases action with
  | receive pong =>
    obtain ⟨⟨-, hopen⟩, hnext⟩ := Option.ite_none_right_eq_some.mp hnext
    cases hnext
    exact h.receive hopen pong
  | write n =>
    obtain ⟨up, hup, rfl⟩ := Option.map_eq_some_iff.mp hnext
    exact h.upload (Inlet.isStopped_of_wrote hup) rfl rfl
  | read data random cover =>
    obtain ⟨⟨⟨-, hphase⟩, -⟩, hnext⟩ := Option.ite_none_right_eq_some.mp hnext
    cases hnext
    exact h.read hrunning hphase hgood (dressed_dress ..)
  | send => exact h.send hnext
  | idle =>
    obtain ⟨-, hnext⟩ := Option.ite_none_right_eq_some.mp hnext
    cases hnext
    exact { h with finished := nofun }
  | _ =>
    obtain ⟨-, hnext⟩ := Option.ite_none_right_eq_some.mp hnext
    cases hnext
    exact h.fail _

/-- A relay that has finished has read the client's end. -/
theorem clientEof_of_finished (h : WsEnded flowId s) (hfinished : s.outcome = .finished) :
    s.clientEof = true :=
  h.ended (h.down.done (h.finished hfinished))

end WsEnded

/-! ## Completeness of the upload -/

/-- All of the client's upload has been written: what its stream holds after the frame that
opened the flow. -/
def Uploaded (max : Nat) (flowId : UInt64) (buf : Bytes) (messages : List WsMessage)
    (s : WsRelay) : Prop :=
  s.up.written = uplink flowId (streamFrames max (buf ++ frameBytes messages)).tail

namespace Packed

def opening : Frame := ⟨.openTcp, 0, 1, []⟩

def client : List WsMessage :=
  [.binary ((tcpData 1 [1, 2]).bytes ++ (tcpData 1 [3]).bytes), .binary (tcpFin 1).bytes]

def trace : List WsAction :=
  [.receive true, .write 2, .receive true, .read [] Plain.zeros Plain.zeros, .send]

theorem opened (client : List WsMessage) :
    wsReadNextFrame 65536 (.binary opening.bytes :: client) [] =
      .ok (some opening, [], client) := by
  have hnone : (frameDecoder 65536).next Relay.isPadding [] = .ok (none, []) :=
    Decoder.next_none (frameDecoder 65536).decode_nil
  have hframe : (frameDecoder 65536).decode opening.bytes = .ok (some (opening, [])) := by
    decide +kernel
  have hsome : (frameDecoder 65536).next Relay.isPadding opening.bytes =
      .ok (some opening, []) := by
    rw [Decoder.next_some hframe]
    rfl
  rw [wsReadNextFrame, hnone]
  dsimp only
  rw [List.nil_append]
  cases client <;> rw [wsReadNextFrame, hsome]

theorem streamFrames_client :
    streamFrames 65536 ([] ++ frameBytes (.binary opening.bytes :: client)) =
      [opening, tcpData 1 [1, 2], tcpData 1 [3], tcpFin 1] := by
  have hbytes : [] ++ frameBytes (.binary opening.bytes :: client) =
      [opening, tcpData 1 [1, 2], tcpData 1 [3], tcpFin 1].flatMap Frame.bytes := by
    decide +kernel
  have hdecode : ∀ f ∈ [opening, tcpData 1 [1, 2], tcpData 1 [3], tcpFin 1], ∀ x,
      (frameDecoder 65536).decode (f.bytes ++ x) = .ok (some (f, x)) := by
    intro f hf x
    have hsmall : f.payload.length ≤ 2 := by
      revert f
      decide
    exact Frame.decodeFrom_eq_some.mpr ⟨by omega, by omega, rfl⟩
  rw [streamFrames, hbytes, Decoder.drain_encoded hdecode]
  decide

end Packed

/-- **Two frames in one message**: the payload of the second is never written. -/
theorem packed_frames_lost : ∃ s : WsRelay,
    wsReadNextFrame 65536 (.binary Packed.opening.bytes :: Packed.client) [] =
      .ok (some Packed.opening, [], Packed.client) ∧
    (wsRelay Plain.policy 65536 1 Packed.client).Reach s ∧ s.outcome = .finished ∧
    ¬ Uploaded 65536 1 [] (.binary Packed.opening.bytes :: Packed.client) s := by
  obtain ⟨s, hreach, hfinished, hwritten⟩ :=
    (wsRelay Plain.policy 65536 1 Packed.client).exists_reach
      (fun s => s.outcome = .finished ∧ s.up.written = [1, 2]) Packed.trace (by decide +kernel)
  refine ⟨s, Packed.opened _, hreach, hfinished, ?_⟩
  rw [Uploaded, Packed.streamFrames_client, hwritten]
  decide

/-- **The upload is complete** when the relay finishes, if the frame that opened the flow
left nothing in the buffer, each later message up to the end of the flow is one frame, and the
target's end is read after the client's. -/
theorem ws_upload_complete {policy : TunnelRelayPolicy} {max : Nat} {flowId : UInt64}
    {buf : Bytes} {messages client : List WsMessage} {opening : Frame}
    (hopening : wsReadNextFrame max messages buf = .ok (some opening, [], client))
    (hclient : oneFrameEach max flowId client = true) {s : WsRelay}
    (h : (wsRelay policy max flowId client).ReachBy EndsLast s)
    (hfinished : s.outcome = .finished) : Uploaded max flowId buf messages s := by
  have hup : WsUpward max flowId client s :=
    h.invariant (I := WsUpward max flowId client)
      ⟨Inlet.start_faithful, script client, rfl, fun _ => rfl⟩
      fun _ _ _ hup _ hnext => hup.next hnext
  have hended : WsEnded flowId s :=
    h.invariant (I := WsEnded flowId) WsEnded.start
      fun _ _ _ hended hgood hnext => hended.next hgood hnext
  rw [Uploaded, hup.written (hended.clientEof_of_finished hfinished), carried_script hclient,
    wsReadNextFrame_spec hopening, List.tail_cons, List.nil_append, streamFrames, uplink_visible]

namespace OneEach

def client : List WsMessage :=
  [.ping [7], .binary (tcpData 1 [1, 2]).bytes, .binary (tcpData 1 [3]).bytes,
    .binary (tcpFin 1).bytes, .binary [0]]

def trace : List WsAction :=
  [.receive true, .receive true, .write 1, .write 1, .receive true, .write 1, .receive true,
    .read [] Plain.zeros Plain.zeros, .send]

end OneEach

theorem ws_upload_complete_oneEach : ∃ s : WsRelay,
    (wsRelay Plain.policy 65536 1 OneEach.client).ReachBy EndsLast s ∧
    s.up.written = [1, 2, 3] ∧
    Uploaded 65536 1 [] (.binary Packed.opening.bytes :: OneEach.client) s := by
  obtain ⟨s, hreach, hfinished, hwritten⟩ :=
    (wsRelay Plain.policy 65536 1 OneEach.client).exists_reachBy EndsLast
      (fun s => s.outcome = .finished ∧ s.up.written = [1, 2, 3]) OneEach.trace (by decide +kernel)
  exact ⟨s, hreach, hwritten,
    ws_upload_complete (Packed.opened _) (by decide +kernel) hreach hfinished⟩

end Server
end Maverick
