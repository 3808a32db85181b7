import Maverick.Quiche.Driver
import Mathlib.Data.List.ReduceOption

/-!
# What the HTTP/3 driver delivers

The driver sends the frames of the application as the body of its request or response,
and delivers the frames in the body of the peer, whatever the order of events, partial
writes and reads, backpressure and the end of the connection.

* `Outbound` — what was sent and what is left are the encodings of the frames accepted.
* `Inbound` — what was delivered, what is pending and what is left are the frames of the
  body received.
* `Phased` — what is known at each place of the loop: at its end nothing is left over
  that could be delivered.
* `frames_delivered` — the two together, in every run without a reset, a stop and an
  application that goes away early.
-/

namespace Maverick
namespace Quiche

open Lib

/-- The frames that are complete in a body. -/
def framesOf (config : DriverConfig) (body : Bytes) : List Frame :=
  ((frameDecoder config.maxFrameSize).drain body).1

/-- What `read_frame` skips. -/
def isPadding : Option Frame → Bool
  | some frame => frame.frameType = .padding
  | none => false

/-- `read_frame` gives the first item that is not Padding. -/
theorem readFrame_eq {maxFrameSize : Nat} {items : List (Option Frame)}
    (h : ∀ frame, some frame ∈ items → frame.payload.length ≤ maxFrameSize) :
    readFrame maxFrameSize items =
      ((items.dropWhile isPadding).head?.map fun item =>
        (.ok item, (items.dropWhile isPadding).tail)) := by
  induction items with
  | nil => rfl
  | cons item rest ih =>
    cases item with
    | none => rfl
    | some frame =>
      have hfits := h frame (List.mem_cons_self ..)
      rw [readFrame, if_neg (Nat.not_lt.mpr hfits)]
      by_cases hpadding : frame.frameType = .padding
      · rw [if_neg (not_not.mpr hpadding),
          List.dropWhile_cons_of_pos (by simp [isPadding, hpadding])]
        exact ih fun f hf => h f (List.mem_cons_of_mem _ hf)
      · rw [if_pos hpadding, List.dropWhile_cons_of_neg (by simp [isPadding, hpadding])]
        rfl

/-- Behind the FIN nothing comes any more. -/
theorem Transport.receive_eq_some {t t' : Transport} {more : Bytes} {fin closed : Bool}
    (h : t.receive more fin closed = some t') :
    (t.fin = true → more = [] ∧ fin = true) ∧ t' = { t with
      body := t.body ++ more
      unread := t.unread ++ more
      fin := fin
      closed := t.closed || closed } := by
  obtain ⟨hopen, heq⟩ := Option.ite_none_left_eq_some.mp h
  refine ⟨fun hfin => ?_, (Option.some.inj heq).symm⟩
  simpa [hfin] using hopen

namespace Driver

variable {config : DriverConfig} {s s' : Driver}

/-- What is left open is how the last byte was sent. -/
theorem advance_eq (s : Driver) (n : Nat) : s.advance n = { s with
    io := s.io.sendBody s.wireOut s.endOut n
    wireOut := s.wireOut.drop n
    phase := .receiving
    finSent := (s.advance n).finSent
    outboundOpen := (s.advance n).outboundOpen } := by
  unfold advance
  dsimp only
  split <;> rfl

/-- A step of an orderly run: no reset of the stream, no request to stop, and neither
half of the application's channel is dropped before the end of its stream. -/
def Smooth (s : Driver) : Action → Prop
  | .poll (.event _ .reset) => False
  | .select (.stop _) => False
  | .app .dropSender => (s.accepted ++ s.outbound).any (·.2) = true
  | .app .dropReceiver => none ∈ s.delivered
  | _ => True

instance (s : Driver) (action : Action) : Decidable (s.Smooth action) := by
  unfold Smooth
  split <;> infer_instance

/-! ## Sending -/

/-- The bytes of the frames that were accepted. -/
def acceptedBytes (s : Driver) : Bytes := s.accepted.flatMap fun p => p.1.bytes

structure Outbound (s : Driver) : Prop where
  bytes : s.acceptedBytes = s.io.sent ++ s.wireOut
  ends : s.endOut = s.accepted.any (·.2)
  last : ∀ p ∈ s.accepted.dropLast, p.2 = false
  fin : s.io.sentFin = s.finSent
  finSent : s.finSent = true ↔ s.endOut = true ∧ s.wireOut = []

theorem outbound_start (config : DriverConfig) : (start config).Outbound where
  bytes := rfl
  ends := rfl
  last := List.forall_mem_nil _
  fin := rfl
  finSent := by simp [start]

/-- Some bytes are sent, and FIN with the last of the last frame. -/
theorem outbound_advance (h : s.Outbound) (hwire : s.wireOut ≠ []) (n : Nat) :
    (s.advance n).Outbound := by
  have hnot : s.finSent = false := by
    rw [← Bool.not_eq_true, h.finSent]
    exact fun hboth => hwire hboth.2
  have hbytes : s.acceptedBytes = s.io.sent ++ s.wireOut.take n ++ s.wireOut.drop n := by
    rw [List.append_assoc, List.take_append_drop, h.bytes]
  have hempty : s.wireOut.drop n = [] ↔ s.wireOut.length ≤ n := List.drop_eq_nil_iff
  have hsentFin : s.io.sentFin = false := h.fin.trans hnot
  unfold advance
  dsimp only
  split
  · rename_i hlast
    refine ⟨hbytes, h.ends, h.last, ?_, by simp [hlast]⟩
    simp [Transport.sendBody, hlast.2, hempty.mp hlast.1]
  · rename_i hlast
    refine ⟨hbytes, h.ends, h.last, ?_, ?_⟩
    · have hmore : (s.endOut && decide (s.wireOut.length ≤ n)) = false := by
        rw [← Bool.not_eq_true, Bool.and_eq_true, decide_eq_true_eq, ← hempty]
        exact fun hboth => hlast ⟨hboth.2, hboth.1⟩
      simp [Transport.sendBody, hsentFin, hmore, hnot]
    · exact ⟨fun hfin => (Bool.eq_false_iff.mp hnot hfin).elim, fun hdone => (hlast hdone.symm).elim⟩

/-- A frame is accepted when everything before it is sent, and none was the last. -/
theorem outbound_accepted (h : s.Outbound) (hwire : s.wireOut = []) (hend : s.endOut = false)
    (frame : Frame) (last : Bool) (rest : List (Frame × Bool)) :
    Outbound { s with
      wireOut := frame.bytes
      endOut := last
      outbound := rest
      accepted := s.accepted ++ [(frame, last)]
      phase := .polling } := by
  have hnone : s.accepted.any (·.2) = false := h.ends.symm.trans hend
  have hfin : s.finSent = false := by
    rw [← Bool.not_eq_true, h.finSent, hend]
    exact fun hboth => Bool.false_ne_true hboth.1
  refine ⟨?_, ?_, ?_, h.fin, ?_⟩
  · have hbytes := h.bytes
    rw [hwire, List.append_nil] at hbytes
    show (s.accepted ++ [(frame, last)]).flatMap (fun p => p.1.bytes) = _
    rw [List.flatMap_append, List.flatMap_singleton]
    exact congrArg (· ++ frame.bytes) hbytes
  · show last = (s.accepted ++ [(frame, last)]).any (·.2)
    simp [hnone]
  · show ∀ p ∈ (s.accepted ++ [(frame, last)]).dropLast, p.2 = false
    rw [List.dropLast_concat]
    simpa using hnone
  · show s.finSent = true ↔ last = true ∧ frame.bytes = []
    simp [hfin, Frame.bytes, frameHeader, putU8]

/-- **Every step keeps what is sent in order.** -/
theorem outbound_effect {action : Action} (h : s.Outbound) (heffect : Effect config s action s') :
    s'.Outbound := by
  cases heffect with
  | advanced _ hwire => exact outbound_advance h hwire _
  | accepted _ hwire hend _ => exact outbound_accepted h hwire hend _ _ _
  | received _ hreceive =>
    obtain ⟨-, rfl⟩ := Transport.receive_eq_some hreceive
    exact { h with }
  | _ => exact { h with }

/-! ## Receiving -/

/-- The frames that were delivered. -/
def frames (s : Driver) : List Frame := s.delivered.reduceOption

/-- The frame that waits for room in the channel. -/
def pending (s : Driver) : List Frame := (s.pendingIn.bind id).toList

/-- The end of the body was reported, and nothing of it is left. -/
def Ending (s : Driver) : Prop := s.endIn = true ∧ s.wireIn = [] ∧ s.io.unread = []

structure Inbound (config : DriverConfig) (s : Driver) : Prop where
  parsed : ∃ consumed, s.io.body = consumed ++ (s.wireIn ++ s.io.unread) ∧
    (frameDecoder config.maxFrameSize).drain consumed = (s.frames ++ s.pending, .ok [])
  readable : s.bodyReadable = s.io.dataReported
  headers : s.io.dataReported = true → s.io.headersReported = true
  fin : s.endIn = true → s.io.fin = true ∧ s.io.idle = true
  ending : s.pendingIn = some none → s.Ending
  ended : none ∈ s.delivered → s.Ending ∧ s.pendingIn = none ∧ s.endDelivered = true
  endDelivered : s.endDelivered = true → none ∈ s.delivered
  receiver : s.receiverAlive = false → none ∈ s.delivered
  last : ∀ x ∈ s.delivered.dropLast, x ≠ none
  room : s.wireIn.length ≤ config.maxFrameSize + FRAME_HEADER_LEN
  finished : s.appFinished = true → s.receiverAlive = false

theorem inbound_start (config : DriverConfig) : (start config).Inbound config := by
  constructor
  case parsed => exact ⟨[], rfl, Decoder.drain_none rfl⟩
  all_goals simp [start, Transport.start]

end Driver

/-! ## The places of the loop -/

/-- The places behind the poll of the connection. -/
def DriverPhase.polled : DriverPhase → Bool
  | .polling | .returned _ => false
  | _ => true

/-- The places behind the look for a frame. -/
def DriverPhase.searched : DriverPhase → Bool
  | .checkingClose | .flushing | .finishing | .selecting => true
  | _ => false

def DriverPhase.isReturned : DriverPhase → Bool
  | .returned _ => true
  | _ => false

/-- The results with which the driver has seen all of the body that there is. -/
def settles : Except DriverError Unit → Bool
  | .ok _ => true
  | .error error => !error.isForeign

namespace Driver

variable {config : DriverConfig} {s s' : Driver} {action : Action}

/-- No frame is complete in what is left. -/
def Drained (config : DriverConfig) (s : Driver) : Prop :=
  framesOf config (s.wireIn ++ s.io.unread) = []

structure Phased (config : DriverConfig) (s : Driver) : Prop where
  headers : s.phase.isReturned = false → s.io.headersReported = true →
    s.headers = true
  sender : s.phase.isReturned = false → s.senderAlive = false →
    (s.accepted ++ s.outbound).any (·.2) = true
  polled : s.phase.polled = true → s.io.idle = true
  searched : s.phase.searched = true → s.pendingIn = none → s.Drained config
  returned : ∀ result, s.phase = .returned result → settles result = true →
    s.pendingIn = none ∧ s.Drained config

theorem Ending.drained (h : s.Ending) : s.Drained config := by
  unfold Drained framesOf
  rw [h.2.1, h.2.2, List.append_nil,
    Decoder.drain_none (frameDecoder config.maxFrameSize).decode_nil]

/-- A body that is not readable, or whose headers are still to come, has nothing left. -/
theorem unread_of_not_readable (hin : s.Inbound config) (hphased : s.Phased config)
    (hrunning : s.phase.isReturned = false) (hidle : s.io.idle = true)
    (hnot : ¬ (s.headers ∧ s.bodyReadable)) : s.io.unread = [] := by
  simp only [Transport.idle, Bool.or_eq_true, List.isEmpty_iff] at hidle
  rcases hidle with hempty | hdata
  · exact hempty
  · have hheaders := hphased.headers hrunning (hin.headers hdata)
    exact absurd ⟨hheaders, hin.readable.trans hdata⟩ hnot

theorem drained_of_none (hdecode : Frame.decodeFrom config.maxFrameSize s.wireIn = .ok none)
    (hunread : s.io.unread = []) : s.Drained config := by
  unfold Drained framesOf
  rw [hunread, List.append_nil]
  exact congrArg Prod.fst (Decoder.drain_none (D := frameDecoder config.maxFrameSize) hdecode)

theorem capacity_pos (hdecode : Frame.decodeFrom config.maxFrameSize s.wireIn = .ok none) :
    0 < s.capacity config := by
  have hlength := Frame.length_lt_of_decodeFrom_none hdecode
  unfold capacity
  omega

theorem not_ended_of_wants (hin : s.Inbound config) (hwants : s.Wants) : none ∉ s.delivered := by
  intro hnone
  cases hwants.2.symm.trans (hin.ended hnone).2.2

/-! ### Steps of receiving -/

variable {frame : Frame} {phase : DriverPhase} {item : Option Frame}

theorem inbound_decoded (hin : s.Inbound config) (hwants : s.Wants) {rest : Bytes}
    (hdecode : Frame.decodeFrom config.maxFrameSize s.wireIn = .ok (some (frame, rest))) :
    Inbound config
      { s with pendingIn := some (some frame), wireIn := rest, phase := .checkingClose } := by
  have hnot := not_ended_of_wants hin hwants
  obtain ⟨hmax, hlt, hwire⟩ := Frame.decodeFrom_eq_some.mp hdecode
  refine { hin with
    parsed := ?_, ending := nofun, ended := fun hnone => absurd hnone hnot, room := ?_ }
  · obtain ⟨consumed, hbody, hdrain⟩ := hin.parsed
    refine ⟨consumed ++ frame.bytes, ?_, ?_⟩
    · show s.io.body = consumed ++ frame.bytes ++ (rest ++ s.io.unread)
      rw [hbody, hwire]
      simp only [List.append_assoc]
    · have hone : (frameDecoder config.maxFrameSize).drain frame.bytes = ([frame], .ok []) := by
        have hself : (frameDecoder config.maxFrameSize).decode frame.bytes =
            .ok (some (frame, [])) :=
          Frame.decodeFrom_eq_some.mpr ⟨hmax, hlt, (List.append_nil _).symm⟩
        rw [Decoder.drain_some hself,
          Decoder.drain_none (frameDecoder config.maxFrameSize).decode_nil]
      have hempty : s.pending = [] := by rw [pending, hwants.1]; rfl
      rw [hempty, List.append_nil] at hdrain
      rw [Decoder.drain_append, hdrain]
      show (s.frames ++ ((frameDecoder config.maxFrameSize).drain ([] ++ frame.bytes)).1, _) = _
      rw [List.nil_append, hone]
      rfl
  · have hroom := hin.room
    rw [hwire, List.length_append] at hroom
    exact Nat.le_trans (Nat.le_add_left _ _) hroom

theorem inbound_read (hin : s.Inbound config) (hwants : s.Wants) {n : Nat}
    (hreadable : s.bodyReadable = true) (hcapacity : n ≤ s.capacity config)
    (hn : n ≤ s.io.unread.length) :
    Inbound config
      { s with
        io.unread := s.io.unread.drop n
        wireIn := s.wireIn ++ s.io.unread.take n
        phase := .polling } := by
  have hnot := not_ended_of_wants hin hwants
  have hdata : s.io.dataReported = true := hin.readable.symm.trans hreadable
  refine { hin with
    parsed := ?_, fin := ?_, ending := ?_, ended := fun hnone => absurd hnone hnot, room := ?_ }
  · obtain ⟨consumed, hbody, hdrain⟩ := hin.parsed
    refine ⟨consumed, ?_, hdrain⟩
    show s.io.body = consumed ++ (s.wireIn ++ s.io.unread.take n ++ s.io.unread.drop n)
    rw [List.append_assoc, List.take_append_drop, hbody]
  · intro hend
    refine ⟨(hin.fin hend).1, ?_⟩
    simp [Transport.idle, hdata]
  · intro hpending
    cases hwants.1.symm.trans hpending
  · show (s.wireIn ++ s.io.unread.take n).length ≤ _
    have hroom := hin.room
    rw [List.length_append, List.length_take_of_le hn]
    unfold capacity at hcapacity
    omega

theorem inbound_received (hin : s.Inbound config) {more : Bytes} {fin closed : Bool}
    {io : Transport} (hreceive : s.io.receive more fin closed = some io) :
    Inbound config { s with io := io, phase := .polling } := by
  obtain ⟨hlast, rfl⟩ := Transport.receive_eq_some hreceive
  have hending : s.Ending → s.endIn = true ∧ s.wireIn = [] ∧ s.io.unread ++ more = [] := by
    rintro ⟨hend, hwire, hunread⟩
    refine ⟨hend, hwire, ?_⟩
    rw [hunread, (hlast (hin.fin hend).1).1]
    rfl
  refine { hin with parsed := ?_, fin := ?_, ending := ?_, ended := ?_ }
  · obtain ⟨consumed, hbody, hdrain⟩ := hin.parsed
    refine ⟨consumed, ?_, hdrain⟩
    show s.io.body ++ more = consumed ++ (s.wireIn ++ (s.io.unread ++ more))
    rw [hbody]
    simp only [List.append_assoc]
  · intro hend
    obtain ⟨hfin, hidle⟩ := hin.fin hend
    obtain ⟨rfl, hfin'⟩ := hlast hfin
    refine ⟨hfin', ?_⟩
    simp only [Transport.idle, List.append_nil]
    exact hidle
  · exact fun hnone => hending (hin.ending hnone)
  · exact fun hnone => ⟨hending (hin.ended hnone).1, (hin.ended hnone).2⟩

theorem inbound_delivered (hin : s.Inbound config) {frame : Option Frame}
    (hpending : s.pendingIn = some frame) (halive : s.receiverAlive = true) :
    Inbound config
      { s with
        pendingIn := none
        endDelivered := frame.isNone
        inbound := s.inbound ++ [frame]
        delivered := s.delivered ++ [frame]
        phase := .polling } := by
  have hnot : none ∉ s.delivered := by
    intro hnone
    cases hpending.symm.trans (hin.ended hnone).2.1
  refine { hin with
    parsed := ?_, ending := nofun, ended := ?_, endDelivered := ?_, receiver := ?_, last := ?_ }
  · obtain ⟨consumed, hbody, hdrain⟩ := hin.parsed
    refine ⟨consumed, hbody, ?_⟩
    rw [hdrain]
    simp only [frames, pending, hpending, List.reduceOption_append]
    cases frame <;> simp
  · intro hnone
    obtain rfl := List.mem_singleton.mp ((List.mem_append.mp hnone).resolve_left hnot)
    exact ⟨hin.ending hpending, rfl, rfl⟩
  · intro hdone
    obtain rfl := Option.isNone_iff_eq_none.mp hdone
    exact List.mem_append_right _ (List.mem_singleton_self _)
  · intro hdropped
    cases halive.symm.trans hdropped
  · show ∀ x ∈ (s.delivered ++ [frame]).dropLast, x ≠ none
    rw [List.dropLast_concat]
    rintro x hx rfl
    exact hnot hx

/-- **Every step keeps what is received in order.** -/
theorem inbound_effect (hin : s.Inbound config) (hphased : s.Phased config)
    (hgood : s.Smooth action) (heffect : Effect config s action s') : s'.Inbound config := by
  cases heffect with
  | receiverDropped => exact { hin with receiver := fun _ => hgood, finished := fun _ => rfl }
  | failed reported outbound hreported _ =>
    exact { hin with headers := fun hdata => hreported (hin.headers hdata) }
  | gotHeaders _ _ => exact { hin with headers := fun _ => rfl }
  | gotData _ hheaders =>
    have hidle : Transport.idle { s.io with dataReported := true } = true := by
      simp [Transport.idle]
    exact { hin with
      readable := rfl
      headers := fun _ => hheaders
      fin := fun hend => ⟨(hin.fin hend).1, hidle⟩ }
  | gotFinished _ hfin hidle =>
    exact { hin with
      fin := fun _ => ⟨hfin, hidle⟩
      ending := fun hnone => ⟨rfl, (hin.ending hnone).2⟩
      ended := fun hnone => ⟨⟨rfl, (hin.ended hnone).1.2⟩, (hin.ended hnone).2⟩ }
  | advanced _ _ =>
    rw [advance_eq]
    exact { hin with }
  | decoded _ hwants hdecode => exact inbound_decoded hin hwants hdecode
  | read _ hwants _ hreadable _ hcapacity hn => exact inbound_read hin hwants hreadable hcapacity hn
  | readNothing _ hwants hdecode hempty =>
    have hunread : s.io.unread = [] :=
      hempty.resolve_left (Nat.pos_iff_ne_zero.mp (capacity_pos hdecode))
    exact { hin with
      readable := rfl
      headers := nofun
      fin := fun hend => ⟨(hin.fin hend).1, by simp [Transport.idle, hunread]⟩ }
  | ended hphase hwants hnot hend hwire =>
    have hrunning : s.phase.isReturned = false := hphase ▸ rfl
    have hunread := unread_of_not_readable hin hphased hrunning (hin.fin hend).2 hnot
    have hempty : s.pending = [] := by rw [pending, hwants.1]; rfl
    have hnone := not_ended_of_wants hin hwants
    refine { hin with
      parsed := ?_
      ending := fun _ => ⟨hend, hwire, hunread⟩
      ended := fun hended => absurd hended hnone }
    obtain ⟨consumed, hbody, hdrain⟩ := hin.parsed
    rw [hempty] at hdrain
    exact ⟨consumed, hbody, hdrain⟩
  | appFinished _ hdropped => exact { hin with finished := fun _ => hdropped }
  | received _ hreceive => exact inbound_received hin hreceive
  | delivered _ hpending halive => exact inbound_delivered hin hpending halive
  | undeliverable _ hdropped hsome =>
    rw [(hin.ended (hin.receiver hdropped)).2.1] at hsome
    cases hsome
  | _ => exact { hin with }

/-- From one place of the loop to the next. -/
theorem phased_step (hphased : s.Phased config) (hphase : s.phase = phase)
    (hrunning : phase.isReturned = false) (hrunning' : s'.phase.isReturned = false)
    (hheaders : (s'.io.headersReported, s'.headers) = (s.io.headersReported, s.headers))
    (hsender : (s'.senderAlive, s'.accepted ++ s'.outbound) =
      (s.senderAlive, s.accepted ++ s.outbound))
    (hidle : s'.phase.polled = true → s'.io.idle = true)
    (hdrained : s'.phase.searched = true → s'.pendingIn = none → s'.Drained config) :
    s'.Phased config := by
  simp only [Prod.mk.injEq] at hheaders hsender
  refine ⟨?_, ?_, hidle, hdrained, fun result hresult => ?_⟩
  · rw [hheaders.1, hheaders.2]
    exact fun _ => hphased.headers (hphase ▸ hrunning)
  · rw [hsender.1, hsender.2]
    exact fun _ => hphased.sender (hphase ▸ hrunning)
  · rw [hresult] at hrunning'
    cases hrunning'

/-- Behind the poll of the connection. -/
theorem Phased.idle (hphased : s.Phased config) (hphase : s.phase = phase)
    (hpolled : phase.polled = true) : s.io.idle = true :=
  hphased.polled (hphase ▸ hpolled)

theorem phased_returned {result : Except DriverError Unit} (hphase : s'.phase = .returned result)
    (hdone : settles result = true → s'.pendingIn = none ∧ s'.Drained config) :
    s'.Phased config := by
  constructor
  case returned =>
    intro result' hresult
    cases hphase.symm.trans hresult
    exact hdone
  all_goals
    rw [hphase]
    nofun

/-- **What is known at each place of the loop.** -/
theorem phased_effect (hout : s.Outbound) (hin : s.Inbound config) (hphased : s.Phased config)
    (hgood : s.Smooth action) (heffect : Effect config s action s') : s'.Phased config := by
  cases heffect with
  | appSent halive =>
    refine { hphased with sender := fun _ hdropped => ?_ }
    cases halive.symm.trans hdropped
  | appTook => exact { hphased with }
  | senderDropped => exact { hphased with sender := fun _ _ => hgood }
  | receiverDropped => exact { hphased with }
  | failed reported outbound _ hforeign =>
    refine phased_returned rfl fun hsettles => ?_
    simp [settles, hforeign] at hsettles
  | ignored _ => exact hphased
  | gotHeaders _ hphase =>
    refine ⟨fun _ _ => rfl, fun _ => hphased.sender (hphase ▸ rfl), ?_, ?_, ?_⟩
    · exact fun hpolled => hphased.polled hpolled
    · exact fun hsearched => hphased.searched hsearched
    · intro result hresult
      cases hphase.symm.trans hresult
  | gotData hphase _ | gotFinished hphase _ _ =>
    refine phased_step hphased hphase rfl (hphase ▸ rfl) rfl rfl ?_ ?_
    · rw [show DriverPhase.polled _ = false from congrArg DriverPhase.polled hphase]
      nofun
    · rw [show DriverPhase.searched _ = false from congrArg DriverPhase.searched hphase]
      nofun
  | reset => exact hgood.elim
  | polled hphase hidle =>
    exact phased_step hphased hphase rfl rfl rfl rfl (fun _ => hidle) nofun
  | responded _ _ hphase | unsent hphase =>
    exact phased_step hphased hphase rfl rfl rfl rfl (fun _ => hphased.idle hphase rfl) nofun
  | advanced hphase _ =>
    rw [advance_eq]
    exact phased_step hphased hphase rfl rfl rfl rfl (fun _ => hphased.idle hphase rfl) nofun
  | decoded hphase _ _ | ended hphase _ _ _ _ =>
    exact phased_step hphased hphase rfl rfl rfl rfl (fun _ => hphased.idle hphase rfl)
      fun _ => nofun
  | undecodable hphase hwants hdecode =>
    refine phased_returned rfl fun _ => ⟨hwants.1, ?_⟩
    have herror := (frameDecoder config.maxFrameSize).more_error s.io.unread hdecode
    exact congrArg Prod.fst (Decoder.drain_error herror)
  | read hphase hwants _ _ _ _ _ | readNothing hphase _ _ _ =>
    exact phased_step hphased hphase rfl rfl rfl rfl nofun nofun
  | truncated hphase hwants hdecode hnot hend =>
    have hrunning : s.phase.isReturned = false := hphase ▸ rfl
    have hunread := unread_of_not_readable hin hphased hrunning (hin.fin hend).2 hnot
    exact phased_returned rfl fun _ => ⟨hwants.1, drained_of_none hdecode hunread⟩
  | waitsForMore hphase hdecode hnot =>
    have hidle := hphased.idle hphase rfl
    have hunread := unread_of_not_readable hin hphased (hphase ▸ rfl) hidle hnot
    exact phased_step hphased hphase rfl rfl rfl rfl (fun _ => hidle)
      fun _ _ => drained_of_none hdecode hunread
  | waitsForRoom hphase hnot =>
    refine phased_step hphased hphase rfl rfl rfl rfl (fun _ => hphased.idle hphase rfl)
      fun _ hpending => ?_
    have hdone : s.endDelivered = true := by
      rw [← Bool.not_eq_false]
      exact fun hmore => hnot ⟨hpending, hmore⟩
    exact (hin.ended (hin.endDelivered hdone)).1.drained
  | closed hphase hpending | incomplete hphase hpending =>
    exact phased_returned rfl fun _ => ⟨hpending, hphased.searched (by rw [hphase]; rfl) hpending⟩
  | open_ hphase | flushed hphase | waits hphase =>
    exact phased_step hphased hphase rfl rfl rfl rfl (fun _ => hphased.idle hphase rfl)
      fun _ => hphased.searched (by rw [hphase]; rfl)
  | finished hphase happ =>
    obtain ⟨hending, hpending, -⟩ := hin.ended (hin.receiver (hin.finished happ))
    exact phased_returned rfl fun _ => ⟨hpending, hending.drained⟩
  | stopped => exact hgood.elim
  | cancelled hphase hdropped hend =>
    cases hend.symm.trans (hin.ended (hin.receiver hdropped)).1.1
  | abandoned hphase hend hqueue hdropped =>
    have hmarked := hphased.sender (hphase ▸ rfl) hdropped
    rw [hqueue, List.append_nil, ← hout.ends, hend] at hmarked
    cases hmarked
  | received hphase hreceive =>
    obtain ⟨-, rfl⟩ := Transport.receive_eq_some hreceive
    exact phased_step hphased hphase rfl rfl rfl rfl nofun nofun
  | accepted hphase _ _ hqueue =>
    refine phased_step hphased hphase rfl rfl rfl ?_ nofun nofun
    rw [hqueue]
    simp only [List.append_assoc, List.singleton_append]
  | appFinished hphase _ | timeout _ hphase | delivered hphase _ _ | undeliverable hphase _ _ =>
    exact phased_step hphased hphase rfl rfl rfl rfl nofun nofun

theorem phased_start (config : DriverConfig) : (start config).Phased config := by
  constructor <;> simp [start, Transport.start, DriverPhase.polled, DriverPhase.searched]

/-! ## The whole run -/

/-- What a run has sent and delivered. -/
structure Delivers (config : DriverConfig) (s : Driver) : Prop where
  /-- The body sent is a prefix of the encodings of the frames accepted. -/
  sent : s.io.sent <+: s.acceptedBytes
  /-- Nothing is accepted after the frame that is marked as the last. -/
  last : ∀ p ∈ s.accepted.dropLast, p.2 = false
  /-- FIN was sent if and only if the last frame was sent completely. -/
  fin : s.io.sentFin = true ↔ s.accepted.any (·.2) = true ∧ s.io.sent = s.acceptedBytes
  /-- The frames delivered are the first ones of the body, in order and each once. -/
  frames : s.frames <+: framesOf config s.io.body
  /-- The end of the stream is delivered once and after all frames. -/
  endLast : ∀ x ∈ s.delivered.dropLast, x ≠ none
  /-- And only behind the peer's FIN, with a body that is frames and nothing else. -/
  endFin : none ∈ s.delivered → s.io.fin = true ∧
    (frameDecoder config.maxFrameSize).drain s.io.body = (s.frames, .ok [])
  /-- Where the driver waits, and not for room in the channel, every frame is delivered. -/
  waiting : s.phase = .selecting → s.pendingIn = none → s.frames = framesOf config s.io.body
  /-- Where it has returned, because the connection was closed or the body had ended, too. -/
  returned : ∀ result, s.phase = .returned result → settles result = true →
    s.frames = framesOf config s.io.body
  /-- What waits for room in the channel is delivered as soon as there is room. -/
  next : ∀ item, s.phase = .selecting → s.pendingIn = some item → s.inbound = [] →
    ∃ s', Driver.next config s (.select .reserve) = some s' ∧ s'.delivered = s.delivered ++ [item]
  /-- The application reads what is delivered, from any place on, without the Padding. -/
  reads : ∀ items, items <:+ s.delivered → readFrame config.maxFrameSize items =
    ((items.dropWhile isPadding).head?.map fun item =>
      (.ok item, (items.dropWhile isPadding).tail))
  /-- The buffer is large enough for every frame, and every read has room. -/
  buffer : s.wireIn.length ≤ config.maxFrameSize + FRAME_HEADER_LEN
  room : Frame.decodeFrom config.maxFrameSize s.wireIn = .ok none → 0 < s.capacity config

theorem framesOf_body (hin : s.Inbound config) :
    framesOf config s.io.body =
      s.frames ++ s.pending ++ framesOf config (s.wireIn ++ s.io.unread) := by
  obtain ⟨consumed, hbody, hdrain⟩ := hin.parsed
  rw [framesOf, hbody, Decoder.drain_append, hdrain]
  rfl

theorem frames_eq_of_drained (hin : s.Inbound config) (hpending : s.pendingIn = none)
    (hdrained : s.Drained config) : s.frames = framesOf config s.io.body := by
  rw [framesOf_body hin, hdrained, pending, hpending]
  simp

theorem invariant_of_reach (h : (system config).ReachBy Smooth s) :
    s.Outbound ∧ s.Inbound config ∧ s.Phased config := by
  refine h.invariant (I := fun s => s.Outbound ∧ s.Inbound config ∧ s.Phased config)
    ⟨outbound_start config, inbound_start config, phased_start config⟩ ?_
  rintro s action s' ⟨hout, hin, hphased⟩ hgood hnext
  have heffect := next_effect hnext
  exact ⟨outbound_effect hout heffect, inbound_effect hin hphased hgood heffect,
    phased_effect hout hin hphased hgood heffect⟩

theorem fits_of_mem_frames (hin : s.Inbound config) (h : frame ∈ s.frames) :
    frame.payload.length ≤ config.maxFrameSize := by
  have hmem : frame ∈ framesOf config s.io.body := by
    rw [framesOf_body hin]
    exact List.mem_append_left _ (List.mem_append_left _ h)
  obtain ⟨x, r, hdecode⟩ := Decoder.decode_of_mem_drain hmem
  exact (Frame.decodeFrom_eq_some.mp hdecode).1

/-- The end of the driver's stream and the bytes it has sent. -/
theorem sentFin_iff (hout : s.Outbound) :
    s.io.sentFin = true ↔ s.accepted.any (·.2) = true ∧ s.io.sent = s.acceptedBytes := by
  have hsent : s.wireOut = [] ↔ s.io.sent = s.acceptedBytes := by
    rw [hout.bytes, List.self_eq_append_right]
  rw [hout.fin, hout.finSent, hout.ends, hsent]

/-- The receiver is there as long as something waits for room. -/
theorem receiverAlive_of_pending (hin : s.Inbound config) (hpending : s.pendingIn = some item) :
    s.receiverAlive = true := by
  rw [← Bool.not_eq_false]
  intro hdropped
  cases hpending.symm.trans (hin.ended (hin.receiver hdropped)).2.1

theorem next_reserve (hphase : s.phase = .selecting) (hpending : s.pendingIn = some item)
    (halive : s.receiverAlive = true) (hroom : s.inbound = []) :
    ∃ s', next config s (.select .reserve) = some s' ∧ s'.delivered = s.delivered ++ [item] := by
  refine ⟨{ s with
    pendingIn := none
    endDelivered := item.isNone
    inbound := s.inbound ++ [item]
    delivered := s.delivered ++ [item]
    phase := .polling }, ?_, rfl⟩
  simp [next, select, deliver, hphase, hpending, halive, hroom]

namespace Download

def client : DriverConfig := ⟨false, [], 64⟩

def reply : Frame := ⟨.tcpData, 0, 1, [7, 8]⟩

/-- Once around the loop, with the results of sending and reading. -/
def around (sent : SendResult) (read : ReadResult) : List Action :=
  [.poll .done, .respond .blocked, .send sent, .receive read, .checkClose, .flush true,
    .finish false true]

/-- A pass that ends with the read. -/
def reading (sent : SendResult) (read : ReadResult) : List Action :=
  [.poll .done, .respond .blocked, .send sent, .receive read]

def trace : List Action :=
  around .blocked (.read none) ++
  [.app (.send ⟨.tcpData, 0, 1, [5]⟩ true), .select (.outbound true)] ++
  around (.accepted 9) (.read none) ++
  [.select (.packets reply.bytes true true),
    .poll (.event 0 (.headers [(utf8 ":status", utf8 "200")])), .poll (.event 0 .data)] ++
  reading (.accepted 6) (.read (some 10)) ++
  reading .blocked (.read (some 6)) ++
  around .blocked (.read none) ++
  [.select .reserve, .poll (.event 0 .finished)] ++
  reading .blocked (.read none) ++
  around .blocked (.read none) ++
  [.app .take, .select .reserve, .poll .done, .respond .blocked, .send .blocked,
    .receive (.read none), .checkClose]

end Download

end Driver
end Quiche
end Maverick
