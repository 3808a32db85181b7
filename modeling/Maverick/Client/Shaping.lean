import Maverick.Server.H3Relay
import Maverick.Server.WsRelay

/-!
# Shaping on the client's carriers

`send_frame` of the three client carriers.  A frame goes through the batcher, which may hold
it back; each frame that comes out is preceded by Padding frames and written to the carrier:
as DATA chunks within the granted capacity on H2, as a binary message on WebSocket, with its
end mark to the driver's channel on H3.

* `prepareOutgoingFrames_spec` — a call that completes leaves nothing in the batcher.
* `received` — what a peer reads from what was written.
* `shaping_transparent` — every call writes its own frame and Padding, and marks the end.
-/

namespace Maverick
namespace Client

open Lib Server

/-! ## Frames of a call -/

structure Prepared where
  frames : List Frame
  batcher : RuntimeBatcher
  /-- how long the call has slept, in milliseconds -/
  sleptMs : Option Nat

/-- `prepare_outgoing_frames` -/
def prepareOutgoingFrames (f : Frame) (batcher : RuntimeBatcher) (padding : RuntimePadding) :
    Prepared :=
  if batcher.enabled = false then
    ⟨[f], batcher, padding.pacingDelay f.frameType f.payload.length⟩
  else
    let (ready, batcher) := batcher.push f
    if ready = [] then
      match batcher.flushDelay with
      | some delay => ⟨(batcher.flushDue delay).1, (batcher.flushDue delay).2, some delay⟩
      | none => ⟨ready, batcher, none⟩
    else ⟨ready, batcher, none⟩

/-- **A call that completes** takes its own frame out of the batcher again, behind those that
were waiting. -/
theorem prepareOutgoingFrames_spec (f : Frame) {batcher : RuntimeBatcher} (padding : RuntimePadding)
    (h : batcher.enabled = false → batcher.pending = []) :
    (prepareOutgoingFrames f batcher padding).frames = batcher.pending ++ [f] ∧
    (prepareOutgoingFrames f batcher padding).batcher.pending = [] := by
  unfold prepareOutgoingFrames
  split
  · rename_i hdisabled
    exact ⟨by rw [h hdisabled]; rfl, h hdisabled⟩
  obtain ⟨hall, hheld, hready⟩ := batcher.push_spec f
  dsimp only
  split
  · rename_i hempty
    rw [hempty, List.nil_append] at hall
    have hne : (batcher.push f).2.pending ≠ [] := by simp [hall]
    have hdelay : (batcher.push f).2.flushDelay = some (batcher.push f).2.bounds.maxDelayMs :=
      if_pos ⟨(hheld hempty).2, hne⟩
    have hdue : (batcher.push f).2.flushDue (batcher.push f).2.bounds.maxDelayMs =
        (batcher.push f).2.flush := if_pos ⟨hne, le_refl _⟩
    rw [hdelay]
    dsimp only
    rw [hdue]
    exact ⟨hall, rfl⟩
  · rename_i hne
    rw [hready hne, List.append_nil] at hall
    exact ⟨hall, hready hne⟩

/-- What the three senders have in common. -/
structure Shaper where
  padding : RuntimePadding
  coverTraffic : RuntimeCoverTraffic
  batcher : RuntimeBatcher
  maxFrameSize : Nat

def Shaper.fromConfig (mode : Mode) (config : ShapingConfig) (maxFrameSize : Nat) : Shaper :=
  ⟨.fromConfig mode config, .fromConfig mode config, .fromConfig mode config, maxFrameSize⟩

/-- A call of `send_frame`, with what its environment chooses. -/
structure Call where
  frame : Frame
  endStream : Bool
  /-- for each frame that comes out of the batcher -/
  random : Nat → RandomBytes
  cover : Nat → RandomBytes
  /-- H2: the capacity granted to the `i`-th frame when so many of its bytes are left -/
  capacity : Nat → Nat → Nat

/-- The frames that a call writes, each with its end mark. -/
def Shaper.items (s : Shaper) (call : Call) (ready : List Frame) : List (Frame × Bool) :=
  ready.zipIdx.flatMap fun (f, index) =>
    dress ⟨s.padding, s.coverTraffic⟩ (call.random index) (call.cover index) f s.maxFrameSize
      (call.endStream && index == ready.length - 1)

/-! ## Carriers -/

inductive Carrier where
  | h2
  | cloudflareWs
  | h3
  deriving DecidableEq

/-- What is written to a carrier. -/
inductive Wire where
  /-- DATA of the H2 stream -/
  | data (chunk : Bytes) (endStream : Bool)
  /-- a binary message -/
  | message (bytes : Bytes)
  /-- an item of the H3 driver's channel -/
  | item (f : Frame) (endStream : Bool)
  deriving DecidableEq

def Wire.bytes : Wire → Bytes
  | data chunk _ => chunk
  | message bytes => bytes
  | item _ _ => []

def Wire.endStream : Wire → Bool
  | data _ endStream => endStream
  | message _ => false
  | item _ endStream => endStream

def Wire.frame? : Wire → Option Frame
  | item f _ => some f
  | _ => none

/-- The loop of `send_h2_bytes_with_capacity`; `wait_h2_capacity` grants at least one byte. -/
def sendH2Chunks (capacity : Nat → Nat) (endStream : Bool) (bytes : Bytes) : List Wire :=
  if bytes = [] then []
  else
    let chunkLen := min (max 1 (capacity bytes.length)) bytes.length
    .data (bytes.take chunkLen) (endStream && (bytes.drop chunkLen).isEmpty) ::
      sendH2Chunks capacity endStream (bytes.drop chunkLen)
termination_by bytes.length
decreasing_by
  have hpos : 0 < bytes.length := List.length_pos_iff.mpr ‹_›
  rw [List.length_drop]
  omega

/-- `send_h2_bytes_with_capacity` -/
def sendH2BytesWithCapacity (capacity : Nat → Nat) (endStream : Bool) (bytes : Bytes) : List Wire :=
  if bytes = [] then [.data [] endStream] else sendH2Chunks capacity endStream bytes

section
variable (max : Nat) (capacity : Nat → Nat)

/-- One frame on a carrier. -/
def writeFrame (f : Frame) (endStream : Bool) : Carrier → Except Error (List Wire)
  | .h2 => (encodeGrpcFrame f max).map (sendH2BytesWithCapacity capacity endStream)
  | .cloudflareWs => (f.encode max).map fun bytes => [.message bytes]
  | .h3 =>
    if max < f.payload.length then .error (.frameTooLarge f.payload.length max)
    else .ok [.item f endStream]

/-- The same for a frame that fits. -/
def wireOf (f : Frame) (endStream : Bool) : Carrier → List Wire
  | .h2 => sendH2Chunks capacity endStream (Framing.grpc.bytes f)
  | .cloudflareWs => [.message f.bytes]
  | .h3 => [.item f endStream]

end

section
variable (carrier : Carrier) (max : Nat) (capacity : Nat → Nat → Nat)

/-- Frames are written one after the other. -/
def writeEach : Nat → List (Frame × Bool) → Except Error (List Wire)
  | _, [] => .ok []
  | index, (f, endStream) :: items => do
    let head ← writeFrame max (capacity index) f endStream carrier
    let tail ← writeEach (index + 1) items
    return head ++ tail

def wiresOf : Nat → List (Frame × Bool) → List Wire
  | _, [] => []
  | index, (f, endStream) :: items =>
    wireOf (capacity index) f endStream carrier ++ wiresOf (index + 1) items

end

/-- `send_frame` -/
def Shaper.sendFrame (s : Shaper) (carrier : Carrier) (call : Call) :
    Except Error (List Wire × Shaper) := do
  let prepared := prepareOutgoingFrames call.frame s.batcher s.padding
  let wire ← writeEach carrier s.maxFrameSize call.capacity 0 (s.items call prepared.frames)
  return (wire, { s with batcher := prepared.batcher })

/-- Calls one after the other, and what each of them writes. -/
def Shaper.sendFrames (carrier : Carrier) : Shaper → List Call →
    Except Error (List (List Wire) × Shaper)
  | s, [] => .ok ([], s)
  | s, call :: calls => do
    let (wire, s) ← s.sendFrame carrier call
    let (wires, s) ← sendFrames carrier s calls
    return (wire :: wires, s)

/-- The frames that a peer reads. -/
def received (max : Nat) (wire : List Wire) : Carrier → List Frame
  | .h2 => ((grpcDecoder max).drain (wire.flatMap Wire.bytes)).1
  | .cloudflareWs => ((frameDecoder max).drain (wire.flatMap Wire.bytes)).1
  | .h3 => wire.filterMap Wire.frame?

/-! ## One frame -/

section
variable {carrier : Carrier} {max : Nat} {f : Frame} {endStream : Bool}

theorem bytes_sendH2Chunks (capacity : Nat → Nat) (endStream : Bool) (bytes : Bytes) :
    (sendH2Chunks capacity endStream bytes).flatMap Wire.bytes = bytes := by
  fun_induction sendH2Chunks capacity endStream bytes with
  | case1 => rfl
  | case2 bytes hne chunkLen ih =>
    rw [List.flatMap_cons, ih, Wire.bytes, List.take_append_drop]

/-- Only the last chunk may be marked. -/
theorem marks_sendH2Chunks (capacity : Nat → Nat) (endStream : Bool) {bytes : Bytes}
    (hne : bytes ≠ []) : ∃ front last, sendH2Chunks capacity endStream bytes = front ++ [last] ∧
      (∀ w ∈ front, Wire.endStream w = false) ∧ last.endStream = endStream := by
  fun_induction sendH2Chunks capacity endStream bytes with
  | case1 => exact absurd rfl hne
  | case2 bytes _ chunkLen ih =>
    by_cases hlast : bytes.drop chunkLen = []
    · refine ⟨[], .data (bytes.take chunkLen) endStream, ?_, by simp, rfl⟩
      rw [hlast, sendH2Chunks, if_pos rfl]
      simp
    obtain ⟨front, last, hsplit, hfront, hmark⟩ := ih hlast
    refine ⟨_ :: front, last, by rw [hsplit, List.cons_append], ?_, hmark⟩
    intro w hw
    rcases List.mem_cons.mp hw with rfl | hw
    · simp [Wire.endStream, hlast]
    · exact hfront w hw

theorem writeFrame_eq_ok {capacity : Nat → Nat} (hfits : f.payload.length ≤ max) :
    writeFrame max capacity f endStream carrier = .ok (wireOf capacity f endStream carrier) := by
  have hgrpc : encodeGrpcFrame f max = .ok (Framing.grpc.bytes f) := Framing.grpc.encode_eq_ok hfits
  have hplain : f.encode max = .ok f.bytes := Framing.plain.encode_eq_ok hfits
  cases carrier with
  | h2 =>
    rw [writeFrame, hgrpc]
    exact congrArg Except.ok (if_neg (grpc_bytes_ne_nil f))
  | cloudflareWs =>
    rw [writeFrame, hplain]
    rfl
  | h3 => exact if_neg (Nat.not_lt.mpr hfits)

theorem writeEach_eq_ok {capacity : Nat → Nat → Nat} {items : List (Frame × Bool)}
    (hfits : ∀ p ∈ items, p.1.payload.length ≤ max) (index : Nat) :
    writeEach carrier max capacity index items = .ok (wiresOf carrier capacity index items) := by
  induction items generalizing index with
  | nil => rfl
  | cons p items ih =>
    rw [writeEach, writeFrame_eq_ok (hfits p List.mem_cons_self),
      ih fun q hq => hfits q (List.mem_cons_of_mem _ hq)]
    rfl

/-- What was written holds these frames. -/
def Carries (wire : List Wire) (frames : List Frame) : Carrier → Prop
  | .h2 => wire.flatMap Wire.bytes = frames.flatMap Framing.grpc.bytes
  | .cloudflareWs => wire.flatMap Wire.bytes = frames.flatMap Framing.plain.bytes
  | .h3 => wire.filterMap Wire.frame? = frames

variable {wire : List Wire} {frames : List Frame}

theorem Carries.append {wire' : List Wire} {frames' : List Frame} (h : Carries wire frames carrier)
    (h' : Carries wire' frames' carrier) : Carries (wire ++ wire') (frames ++ frames') carrier := by
  cases carrier with
  | h3 =>
    rw [Carries] at h h' ⊢
    rw [List.filterMap_append, h, h']
  | _ =>
    rw [Carries] at h h' ⊢
    rw [List.flatMap_append, List.flatMap_append, h, h']

theorem carries_wireOf (capacity : Nat → Nat) (f : Frame) (endStream : Bool) :
    Carries (wireOf capacity f endStream carrier) [f] carrier := by
  cases carrier with
  | h2 => exact (bytes_sendH2Chunks ..).trans (List.append_nil _).symm
  | cloudflareWs => rfl
  | h3 => rfl

theorem carries_wiresOf (capacity : Nat → Nat → Nat) (index : Nat) (items : List (Frame × Bool)) :
    Carries (wiresOf carrier capacity index items) (items.map Prod.fst) carrier := by
  induction items generalizing index with
  | nil => cases carrier <;> rfl
  | cons p items ih => exact (carries_wireOf (capacity index) p.1 p.2).append (ih (index + 1))

/-- **A peer reads the frames that were written.** -/
theorem received_of_carries (hmax : FRAME_HEADER_LEN + max < 2 ^ 32)
    (hfits : ∀ f ∈ frames, f.payload.length ≤ max) (h : Carries wire frames carrier) :
    received max wire carrier = frames := by
  have hdrain : ∀ framing : Framing,
      (framing.decoder max).drain (frames.flatMap framing.bytes) = (frames, .ok []) :=
    fun _ => Decoder.drain_encoded fun f hf => Framing.decode_bytes hmax (hfits f hf)
  cases carrier with
  | h2 =>
    rw [Carries] at h
    rw [received, h]
    exact congrArg Prod.fst (hdrain .grpc)
  | cloudflareWs =>
    rw [Carries] at h
    rw [received, h]
    exact congrArg Prod.fst (hdrain .plain)
  | h3 => exact h

theorem wiresOf_append (capacity : Nat → Nat → Nat) (index : Nat)
    (items items' : List (Frame × Bool)) :
    wiresOf carrier capacity index (items ++ items') =
      wiresOf carrier capacity index items ++
        wiresOf carrier capacity (index + items.length) items' := by
  induction items generalizing index with
  | nil => rfl
  | cons p items ih =>
    rw [List.cons_append, wiresOf, wiresOf, ih, List.append_assoc, List.length_cons,
      Nat.add_assoc, Nat.add_comm 1]

theorem wireOf_marks (hcarrier : carrier ≠ .cloudflareWs) (capacity : Nat → Nat) (f : Frame)
    (endStream : Bool) : ∃ front last, wireOf capacity f endStream carrier = front ++ [last] ∧
      (∀ w ∈ front, Wire.endStream w = false) ∧ last.endStream = endStream := by
  cases carrier with
  | h2 => exact marks_sendH2Chunks capacity endStream (grpc_bytes_ne_nil f)
  | cloudflareWs => exact absurd rfl hcarrier
  | h3 => exact ⟨[], .item f endStream, rfl, by simp, rfl⟩

/-- Padding is written without a mark. -/
theorem wiresOf_fillers (capacity : Nat → Nat → Nat) (index : Nat) (fillers : List Frame) :
    ∀ w ∈ wiresOf carrier capacity index (fillers.map (·, false)), Wire.endStream w = false := by
  induction fillers generalizing index with
  | nil => nofun
  | cons g fillers ih =>
    intro w hw
    rcases List.mem_append.mp hw with hw | hw
    · by_cases hcarrier : carrier = .cloudflareWs
      · subst hcarrier
        rw [List.mem_singleton.mp hw]
        rfl
      obtain ⟨front, last, hsplit, hfront, hlast⟩ :=
        wireOf_marks hcarrier (capacity index) g false
      rw [hsplit] at hw
      rcases List.mem_append.mp hw with hw | hw
      · exact hfront w hw
      · rwa [List.mem_singleton.mp hw]
    · exact ih (index + 1) w hw

end

/-! ## Sequences of calls -/

/-- What one call writes: its frame behind Padding that fits, and its mark at the very end. -/
structure Shaped (carrier : Carrier) (max : Nat) (call : Call) (wire : List Wire) : Prop where
  frames : ∃ fillers : List Frame,
    (∀ g ∈ fillers, g.frameType = .padding ∧ g.payload.length ≤ max) ∧
    received max wire carrier = fillers ++ [call.frame]
  marks : carrier ≠ .cloudflareWs → ∃ front last, wire = front ++ [last] ∧
    (∀ w ∈ front, Wire.endStream w = false) ∧ last.endStream = call.endStream

section
variable {carrier : Carrier} {max : Nat}

/-- The Padding of a call. -/
def Shaper.fillers (s : Shaper) (call : Call) : List Frame :=
  allPaddingBefore ⟨s.padding, s.coverTraffic⟩ (call.random 0) (call.cover 0) call.frame
    s.maxFrameSize

def Shaper.itemsOf (s : Shaper) (call : Call) : List (Frame × Bool) :=
  (s.fillers call).map (·, false) ++ [(call.frame, call.endStream)]

theorem Shaper.fillers_spec (s : Shaper) (call : Call) :
    ∀ g ∈ s.fillers call, g.frameType = .padding ∧ g.payload.length ≤ s.maxFrameSize := by
  intro g hg
  obtain ⟨hpadding, hlen⟩ := allPaddingBefore_spec g hg
  exact ⟨of_decide_eq_true hpadding, hlen⟩

theorem Shaper.map_fst_itemsOf (s : Shaper) (call : Call) :
    (s.itemsOf call).map Prod.fst = s.fillers call ++ [call.frame] := by
  rw [itemsOf, List.map_append, List.map_map]
  exact congrArg (· ++ [call.frame]) (List.map_id _)

variable {s : Shaper}

theorem Shaper.frames_fit {call : Call} (hfits : call.frame.payload.length ≤ s.maxFrameSize) :
    ∀ f ∈ s.fillers call ++ [call.frame], f.payload.length ≤ s.maxFrameSize := by
  intro f hf
  rcases List.mem_append.mp hf with hf | hf
  · exact (s.fillers_spec call f hf).2
  · rwa [List.mem_singleton.mp hf]

/-- What is written for a frame that comes out of the batcher alone. -/
theorem Shaper.items_frame (s : Shaper) (call : Call) :
    s.items call [call.frame] = s.itemsOf call := by
  simp [items, itemsOf, fillers, dress]

/-- **One call.** -/
theorem Shaper.sendFrame_spec (carrier : Carrier) {call : Call} (hidle : s.batcher.pending = [])
    (hfits : call.frame.payload.length ≤ s.maxFrameSize) :
    ∃ batcher : RuntimeBatcher, batcher.pending = [] ∧ s.sendFrame carrier call =
      .ok (wiresOf carrier call.capacity 0 (s.itemsOf call), { s with batcher := batcher }) := by
  obtain ⟨hframes, hbatcher⟩ := prepareOutgoingFrames_spec call.frame s.padding fun _ => hidle
  rw [hidle, List.nil_append] at hframes
  refine ⟨_, hbatcher, ?_⟩
  have hall : ∀ p ∈ s.itemsOf call, p.1.payload.length ≤ s.maxFrameSize := by
    intro p hp
    refine frames_fit hfits p.1 ?_
    rw [← map_fst_itemsOf]
    exact List.mem_map_of_mem hp
  rw [sendFrame, hframes, items_frame, writeEach_eq_ok hall]
  rfl

theorem Shaper.shaped_itemsOf (hmax : FRAME_HEADER_LEN + max < 2 ^ 32) {call : Call}
    (hsize : s.maxFrameSize = max) (hfits : call.frame.payload.length ≤ s.maxFrameSize) :
    Shaped carrier max call (wiresOf carrier call.capacity 0 (s.itemsOf call)) := by
  subst hsize
  refine ⟨⟨s.fillers call, s.fillers_spec call, ?_⟩, fun hcarrier => ?_⟩
  · refine received_of_carries hmax (frames_fit hfits) ?_
    rw [← map_fst_itemsOf]
    exact carries_wiresOf ..
  obtain ⟨index, hindex⟩ : ∃ index, index = 0 + ((s.fillers call).map (·, false)).length :=
    ⟨_, rfl⟩
  obtain ⟨front, last, hsplit, hfront, hlast⟩ :=
    wireOf_marks hcarrier (call.capacity index) call.frame call.endStream
  refine ⟨wiresOf carrier call.capacity 0 ((s.fillers call).map (·, false)) ++ front, last, ?_,
    fun w hw => ?_, hlast⟩
  · rw [itemsOf, wiresOf_append, ← hindex, wiresOf, hsplit, wiresOf, List.append_nil,
      List.append_assoc]
  rcases List.mem_append.mp hw with hw | hw
  exacts [wiresOf_fillers _ _ _ w hw, hfront w hw]

/-- A peer that skips Padding. -/
theorem Shaper.visible_frames (s : Shaper) (call : Call) :
    visible (s.fillers call ++ [call.frame]) = visible [call.frame] := by
  have hfillers : visible (s.fillers call) = [] :=
    visible_padding fun g hg => (allPaddingBefore_spec g hg).1
  rw [Server.visible_append, hfillers, List.nil_append]

/-- **A sequence of calls.** -/
theorem Shaper.sendFrames_spec (carrier : Carrier) (hmax : FRAME_HEADER_LEN + max < 2 ^ 32)
    (hsize : s.maxFrameSize = max) (hidle : s.batcher.pending = []) {calls : List Call}
    (hfits : ∀ call ∈ calls, call.frame.payload.length ≤ max) :
    ∃ wires frames s', s.sendFrames carrier calls = .ok (wires, s') ∧
      List.Forall₂ (Shaped carrier max) calls wires ∧
      Carries wires.flatten frames carrier ∧ (∀ f ∈ frames, f.payload.length ≤ max) ∧
      visible frames = visible (calls.map Call.frame) := by
  induction calls generalizing s with
  | nil => exact ⟨[], [], s, rfl, .nil, by cases carrier <;> rfl, nofun, rfl⟩
  | cons call calls ih =>
    have hfit : call.frame.payload.length ≤ s.maxFrameSize :=
      hsize ▸ hfits call List.mem_cons_self
    obtain ⟨batcher, hbatcher, hsend⟩ := sendFrame_spec carrier hidle hfit
    obtain ⟨wires, frames, s', hsends, hshaped, hcarries, hframes, hvisible⟩ :=
      ih (s := { s with batcher := batcher }) hsize hbatcher
        fun c hc => hfits c (List.mem_cons_of_mem _ hc)
    refine ⟨_ :: wires, (s.fillers call ++ [call.frame]) ++ frames, s', ?_,
      .cons (shaped_itemsOf hmax hsize hfit) hshaped, ?_, ?_, ?_⟩
    · rw [sendFrames, hsend]
      dsimp only [bind, Except.bind]
      rw [hsends]
      rfl
    · rw [List.flatten_cons, ← map_fst_itemsOf]
      exact (carries_wiresOf ..).append hcarries
    · intro f hf
      rcases List.mem_append.mp hf with hf | hf
      exacts [hsize ▸ frames_fit hfit f hf, hframes f hf]
    · rw [Server.visible_append, visible_frames, hvisible, ← Server.visible_append]
      rfl

/-- **Shaping is transparent.**  Whatever the configuration and mode, every call completes with
its own frame written behind Padding, its end mark comes last, and a peer that skips Padding
reads the frames of the calls. -/
theorem shaping_transparent (carrier : Carrier) (mode : Mode) (config : ShapingConfig) (max : Nat)
    (hmax : max ≤ MAX_NEGOTIATED_FRAME_SIZE) (calls : List Call)
    (hfits : ∀ call ∈ calls, call.frame.payload.length ≤ max) :
    ∃ wires s', (Shaper.fromConfig mode config max).sendFrames carrier calls = .ok (wires, s') ∧
      List.Forall₂ (Shaped carrier max) calls wires ∧
      visible (received max wires.flatten carrier) = visible (calls.map Call.frame) := by
  have hsmall : FRAME_HEADER_LEN + max < 2 ^ 32 := by
    simp only [MAX_NEGOTIATED_FRAME_SIZE, FRAME_HEADER_LEN] at hmax ⊢
    omega
  obtain ⟨wires, frames, s', hsends, hshaped, hcarries, hframes, hvisible⟩ :=
    Shaper.sendFrames_spec carrier hsmall (s := Shaper.fromConfig mode config max) rfl
      (RuntimeBatcher.pending_fromConfig mode config) hfits
  refine ⟨wires, s', hsends, hshaped, ?_⟩
  rw [received_of_carries hsmall hframes hcarries, hvisible]

end

/-! Private mode with cover traffic, on H2, with one byte of capacity at a time. -/

namespace PrivateMode

def config : ShapingConfig where
  enabled := true
  coverTraffic := true
  coverTrafficOperatorApproved := true

def call (f : Frame) (endStream : Bool) : Call :=
  ⟨f, endStream, fun _ => Plain.zeros, fun _ => Plain.zeros, fun _ _ => 1⟩

def calls : List Call := [call (tcpData 1 [1, 2, 3, 4, 5, 6, 7, 8]) false, call (tcpFin 1) true]

theorem calls_fit : ∀ call ∈ calls, call.frame.payload.length ≤ 65536 := by
  intro call hcall
  rcases List.mem_cons.mp hcall with rfl | hcall
  · decide
  · rw [List.mem_singleton.mp hcall]
    decide

end PrivateMode

theorem shaping_transparent_private : ∃ wires s',
    (Shaper.fromConfig .private_ PrivateMode.config 65536).sendFrames .h2 PrivateMode.calls =
      .ok (wires, s') ∧
    visible (received 65536 wires.flatten .h2) =
      [tcpData 1 [1, 2, 3, 4, 5, 6, 7, 8], tcpFin 1] := by
  obtain ⟨wires, s', hsends, -, hvisible⟩ := shaping_transparent .h2 .private_ PrivateMode.config
    65536 (by decide) PrivateMode.calls PrivateMode.calls_fit
  exact ⟨wires, s', hsends, hvisible⟩

end Client
end Maverick
