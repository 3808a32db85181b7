import Maverick.Core.Config
import Maverick.Core.Egress
import Maverick.Lib.Stream
import Maverick.Lib.Wire

/-!
# Frames

`maverick_core::frame` and `maverick_core::grpc`: the frame codec, used as it is
on the H3 and WebSocket carriers, and the gRPC envelope around it on H2.  Both
decoders work on a growing buffer: they leave it alone until a whole frame is
in it.

* `frameDecoder`, `grpcDecoder` — both are decoders with stable answers.
* `Frame.decodeFrom_eq_some`, `decodeGrpcFrameFrom_eq_some` — a frame is taken
  off the buffer exactly when its encoding is in front.
* `framing_chunk_independent` — for both, every way of cutting a byte stream
  into chunks gives the same frames and the same failure.
-/

namespace Maverick

open Lib

def FRAME_HEADER_LEN : Nat := 14
def GRPC_MESSAGE_HEADER_LEN : Nat := 5

inductive FrameType where
  | clientHello
  | serverHello
  | openTcp
  | tcpData
  | tcpFin
  | tcpReset
  | openUdp
  | udpPacket
  | closeFlow
  | ping
  | pong
  | windowUpdate
  | error
  | dnsQuery
  | dnsResponse
  | padding
  deriving DecidableEq, Repr

namespace FrameType

/-- `frame_type as u8` -/
def code : FrameType → UInt8
  | clientHello => 0x01
  | serverHello => 0x02
  | openTcp => 0x03
  | tcpData => 0x04
  | tcpFin => 0x05
  | tcpReset => 0x06
  | openUdp => 0x07
  | udpPacket => 0x08
  | closeFlow => 0x09
  | ping => 0x0A
  | pong => 0x0B
  | windowUpdate => 0x0C
  | error => 0x0D
  | dnsQuery => 0x0E
  | dnsResponse => 0x0F
  | padding => 0x10

/-- All frame types, in the order of their codes. -/
def all : List FrameType :=
  [clientHello, serverHello, openTcp, tcpData, tcpFin, tcpReset, openUdp, udpPacket, closeFlow,
    ping, pong, windowUpdate, error, dnsQuery, dnsResponse, padding]

/-- `FrameType::try_from` -/
def tryFrom (value : UInt8) : Except Error FrameType :=
  match all.find? (fun t => t.code = value) with
  | some t => .ok t
  | none => .error (.unknownFrameType value)

theorem tryFrom_code (t : FrameType) : tryFrom t.code = .ok t := by
  cases t <;> rfl

theorem code_of_tryFrom {value : UInt8} {t : FrameType} (h : tryFrom value = .ok t) :
    t.code = value := by
  unfold tryFrom at h
  cases hfind : all.find? (fun t => t.code = value) with
  | none => rw [hfind] at h; cases h
  | some u =>
    rw [hfind] at h
    cases h
    simpa using List.find?_some hfind

end FrameType

structure Frame where
  frameType : FrameType
  flags : UInt8
  flowId : UInt64
  payload : Bytes
  deriving DecidableEq

/-- The target that a client names. -/
inductive TargetAddr where
  | domain (host : String)
  | ipv4 (addr : Ipv4Addr)
  | ipv6 (addr : Ipv6Addr)
  deriving DecidableEq

structure UdpPacketPayload where
  target : TargetAddr
  port : UInt16
  data : Bytes
  deriving DecidableEq

/-- The fixed part of a frame: type code, flags, flow id and payload length. -/
def frameHeader (code flags : UInt8) (flowId : UInt64) (length : Nat) : Bytes :=
  putU8 code ++ (putU8 flags ++ (putU64 flowId ++ toBe 4 length))

@[simp] theorem length_frameHeader (code flags : UInt8) (flowId : UInt64) (length : Nat) :
    (frameHeader code flags flowId length).length = FRAME_HEADER_LEN := by
  simp [frameHeader, FRAME_HEADER_LEN]

namespace Frame

/-- The bytes of a frame; the length field is the low 32 bits of the payload
length. -/
def bytes (f : Frame) : Bytes :=
  frameHeader f.frameType.code f.flags f.flowId f.payload.length ++ f.payload

/-- `Frame::encode` -/
def encode (f : Frame) (maxFrameSize : Nat) : Except Error Bytes :=
  if maxFrameSize < f.payload.length then .error (.frameTooLarge f.payload.length maxFrameSize)
  else .ok f.bytes

/-- `Frame::decode_from`: `none` while the frame is incomplete, else the frame
and the buffer without it. -/
def decodeFrom (maxFrameSize : Nat) (buf : Bytes) : Except Error (Option (Frame × Bytes)) :=
  if buf.length < FRAME_HEADER_LEN then .ok none
  else
    let length := ofBe ((buf.drop 10).take 4)
    if maxFrameSize < length then .error (.frameTooLarge length maxFrameSize)
    else if buf.length < FRAME_HEADER_LEN + length then .ok none
    else
      match FrameType.tryFrom (buf.getD 0 0) with
      | .error e => .error e
      | .ok frameType =>
        .ok (some (⟨frameType, buf.getD 1 0, UInt64.ofNat (ofBe ((buf.drop 2).take 8)),
          (buf.drop FRAME_HEADER_LEN).take length⟩, buf.drop (FRAME_HEADER_LEN + length)))

/-! ## Decoding behind a complete header -/

variable {buf : Bytes} {maxFrameSize : Nat}

/-- A buffer with at least 14 bytes starts with a header. -/
theorem exists_frameHeader (h : FRAME_HEADER_LEN ≤ buf.length) :
    ∃ code flags flowId length rest, length < 2 ^ 32 ∧
      buf = frameHeader code flags flowId length ++ rest := by
  unfold FRAME_HEADER_LEN at h
  match buf, h with
  | b0 :: b1 :: tail, h =>
    have htail : 12 ≤ tail.length := by simp at h; omega
    have hid : (tail.take 8).length = 8 := by simp; omega
    have hlen : ((tail.drop 8).take 4).length = 4 := by simp; omega
    have hidlt := ofBe_lt (tail.take 8)
    have hlenlt := ofBe_lt ((tail.drop 8).take 4)
    rw [hid] at hidlt
    rw [hlen] at hlenlt
    refine ⟨b0, b1, UInt64.ofNat (ofBe (tail.take 8)), ofBe ((tail.drop 8).take 4),
      tail.drop 12, hlenlt, ?_⟩
    have hword : putU64 (UInt64.ofNat (ofBe (tail.take 8))) = tail.take 8 := by
      rw [putU64, UInt64.toNat_ofNat_of_lt' hidlt]
      nth_rewrite 1 [← hid]
      exact toBe_ofBe _
    have hlenword : toBe 4 (ofBe ((tail.drop 8).take 4)) = (tail.drop 8).take 4 := by
      nth_rewrite 1 [← hlen]
      exact toBe_ofBe _
    have hsplit : tail = tail.take 8 ++ ((tail.drop 8).take 4 ++ tail.drop 12) := by
      rw [show tail.drop 12 = (tail.drop 8).drop 4 by rw [List.drop_drop],
        List.take_append_drop, List.take_append_drop]
    rw [frameHeader, hword, hlenword]
    simp only [putU8, List.append_assoc, List.cons_append, List.nil_append]
    rw [← hsplit]

/-- **Decoding behind a complete header** depends on the header and on whether
the payload is there. -/
theorem decodeFrom_frameHeader (maxFrameSize : Nat) {code flags : UInt8} {flowId : UInt64}
    {length : Nat} (hlen : length < 2 ^ 32) (rest : Bytes) :
    decodeFrom maxFrameSize (frameHeader code flags flowId length ++ rest) =
      if maxFrameSize < length then .error (.frameTooLarge length maxFrameSize)
      else if rest.length < length then .ok none
      else match FrameType.tryFrom code with
        | .error e => .error e
        | .ok frameType =>
          .ok (some (⟨frameType, flags, flowId, rest.take length⟩, rest.drop length)) := by
  have hdrop : (frameHeader code flags flowId length ++ rest).drop FRAME_HEADER_LEN = rest :=
    List.drop_left' (length_frameHeader ..)
  have hword : ((frameHeader code flags flowId length ++ rest).drop 10).take 4 = toBe 4 length := by
    have h10 : (frameHeader code flags flowId length ++ rest).drop 10 = toBe 4 length ++ rest := by
      rw [show frameHeader code flags flowId length ++ rest =
        (putU8 code ++ (putU8 flags ++ putU64 flowId)) ++ (toBe 4 length ++ rest) by
          simp [frameHeader]]
      exact List.drop_left' (by simp)
    rw [h10]
    exact List.take_left' (by simp)
  have hid : ((frameHeader code flags flowId length ++ rest).drop 2).take 8 = putU64 flowId := by
    have h2 : (frameHeader code flags flowId length ++ rest).drop 2 =
        putU64 flowId ++ (toBe 4 length ++ rest) := by
      rw [show frameHeader code flags flowId length ++ rest =
        (putU8 code ++ putU8 flags) ++ (putU64 flowId ++ (toBe 4 length ++ rest)) by
          simp [frameHeader]]
      exact List.drop_left' (by simp)
    rw [h2]
    exact List.take_left' (by simp)
  have hidback : UInt64.ofNat (ofBe (putU64 flowId)) = flowId := by
    rw [putU64, ofBe_toBe_of_lt (by exact flowId.toNat_lt), UInt64.ofNat_toNat]
  unfold decodeFrom
  rw [if_neg (by simp), hword, ofBe_toBe_of_lt (by omega)]
  dsimp only
  rw [← List.drop_drop, hdrop, hid, hidback, List.length_append, length_frameHeader]
  have hlt : FRAME_HEADER_LEN + rest.length < FRAME_HEADER_LEN + length ↔ rest.length < length := by
    omega
  simp only [hlt]
  rfl

theorem decodeFrom_short (h : buf.length < FRAME_HEADER_LEN) :
    decodeFrom maxFrameSize buf = .ok none := if_pos h

/-- What `decode_from` finds when it takes a frame: a header and the payload. -/
theorem decodeFrom_eq_some {rest : Bytes} {f : Frame} :
    decodeFrom maxFrameSize buf = .ok (some (f, rest)) ↔
      f.payload.length ≤ maxFrameSize ∧ f.payload.length < 2 ^ 32 ∧ buf = f.bytes ++ rest := by
  constructor
  · intro h
    by_cases hshort : buf.length < FRAME_HEADER_LEN
    · rw [decodeFrom_short hshort] at h; cases h
    · obtain ⟨code, flags, flowId, length, tail, hlen, rfl⟩ :=
        exists_frameHeader (not_lt.mp hshort)
      rw [decodeFrom_frameHeader maxFrameSize hlen] at h
      split at h
      · cases h
      split at h
      · cases h
      rename_i hmax htail
      cases hcode : FrameType.tryFrom code with
      | error e => rw [hcode] at h; cases h
      | ok t =>
        rw [hcode] at h
        cases h
        have hpay : (tail.take length).length = length := by simp; omega
        have hback : t.code = code := FrameType.code_of_tryFrom hcode
        refine ⟨by rw [hpay]; omega, by rw [hpay]; exact hlen, ?_⟩
        rw [bytes, hpay, hback, List.append_assoc, List.take_append_drop]
  · rintro ⟨hmax, hlen, rfl⟩
    rw [bytes, List.append_assoc, decodeFrom_frameHeader maxFrameSize hlen, if_neg (by omega),
      if_neg (by simp), FrameType.tryFrom_code]
    simp

/-- An incomplete frame leaves room in a buffer for the largest one. -/
theorem length_lt_of_decodeFrom_none (h : decodeFrom maxFrameSize buf = .ok none) :
    buf.length < maxFrameSize + FRAME_HEADER_LEN := by
  unfold decodeFrom at h
  dsimp only at h
  split at h
  · omega
  split at h
  · cases h
  split at h
  · omega
  · split at h <;> cases h

/-- More bytes do not change an error. -/
theorem decodeFrom_error_append {e : Error} (x : Bytes) (h : decodeFrom maxFrameSize buf = .error e) :
    decodeFrom maxFrameSize (buf ++ x) = .error e := by
  by_cases hshort : buf.length < FRAME_HEADER_LEN
  · rw [decodeFrom_short hshort] at h; cases h
  obtain ⟨code, flags, flowId, length, tail, hlen, rfl⟩ := exists_frameHeader (not_lt.mp hshort)
  rw [List.append_assoc, decodeFrom_frameHeader maxFrameSize hlen]
  rw [decodeFrom_frameHeader maxFrameSize hlen] at h
  split at h
  · rename_i hmax; rw [if_pos hmax]; exact h
  rename_i hmax
  split at h
  · cases h
  rename_i htail
  rw [if_neg hmax, if_neg (by rw [List.length_append]; omega)]
  cases hcode : FrameType.tryFrom code with
  | error e' => rw [hcode] at h; exact h
  | ok t => rw [hcode] at h; cases h

end Frame

/-- **The frame decoder has stable answers.** -/
def frameDecoder (maxFrameSize : Nat) : Decoder Error Frame where
  decode := Frame.decodeFrom maxFrameSize
  decode_nil := rfl
  shrinks := by
    intro b f r h
    obtain ⟨-, -, rfl⟩ := Frame.decodeFrom_eq_some.mp h
    rw [Frame.bytes, List.length_append, List.length_append, length_frameHeader, FRAME_HEADER_LEN]
    omega
  more_item := by
    intro b f r x h
    obtain ⟨hmax, hlen, rfl⟩ := Frame.decodeFrom_eq_some.mp h
    exact Frame.decodeFrom_eq_some.mpr ⟨hmax, hlen, List.append_assoc ..⟩
  more_error := fun x h => Frame.decodeFrom_error_append x h

/-! ## The gRPC envelope -/

/-- `encode_grpc_message` -/
def encodeGrpcMessage (message : Bytes) : Bytes := putU8 0 ++ prefixed 4 message

/-- `encode_grpc_frame` -/
def encodeGrpcFrame (f : Frame) (maxFrameSize : Nat) : Except Error Bytes := do
  let message ← f.encode maxFrameSize
  return encodeGrpcMessage message

/-- `decode_grpc_frame_from` -/
def decodeGrpcFrameFrom (maxFrameSize : Nat) (buf : Bytes) :
    Except Error (Option (Frame × Bytes)) :=
  if buf.length < GRPC_MESSAGE_HEADER_LEN then .ok none
  else if buf.getD 0 0 ≠ 0 then
    .error (.malformedFrame "compressed grpc messages are unsupported")
  else
    let messageLen := ofBe ((buf.drop 1).take 4)
    let maxMessageLen := FRAME_HEADER_LEN + maxFrameSize
    if maxMessageLen < messageLen then .error (.frameTooLarge messageLen maxMessageLen)
    else if buf.length < GRPC_MESSAGE_HEADER_LEN + messageLen then .ok none
    else
      let message := (buf.drop GRPC_MESSAGE_HEADER_LEN).take messageLen
      match Frame.decodeFrom maxFrameSize message with
      | .error e => .error e
      | .ok none => .error (.malformedFrame "grpc message did not contain a complete frame")
      | .ok (some (frame, trailing)) =>
        if trailing ≠ [] then .error (.malformedFrame "grpc message contained trailing bytes")
        else .ok (some (frame, buf.drop (GRPC_MESSAGE_HEADER_LEN + messageLen)))

/-! ### Decoding behind a complete envelope -/

variable {buf message rest : Bytes} {maxFrameSize : Nat} {f : Frame} {e : Error}

theorem exists_grpcHeader (h : GRPC_MESSAGE_HEADER_LEN ≤ buf.length) :
    ∃ flag length rest, length < 2 ^ 32 ∧ buf = putU8 flag ++ (toBe 4 length ++ rest) := by
  unfold GRPC_MESSAGE_HEADER_LEN at h
  match buf, h with
  | b0 :: tail, h =>
    have hlen : (tail.take 4).length = 4 := by simp at h ⊢; omega
    have hlenlt := ofBe_lt (tail.take 4)
    rw [hlen] at hlenlt
    have hword : toBe 4 (ofBe (tail.take 4)) = tail.take 4 := by
      nth_rewrite 1 [← hlen]
      exact toBe_ofBe _
    refine ⟨b0, ofBe (tail.take 4), tail.drop 4, hlenlt, ?_⟩
    rw [hword, List.take_append_drop]
    rfl

/-- What becomes of a complete message. -/
def decodeGrpcMessage (maxFrameSize : Nat) (message rest : Bytes) :
    Except Error (Option (Frame × Bytes)) :=
  match Frame.decodeFrom maxFrameSize message with
  | .error e => .error e
  | .ok none => .error (.malformedFrame "grpc message did not contain a complete frame")
  | .ok (some (frame, trailing)) =>
    if trailing ≠ [] then .error (.malformedFrame "grpc message contained trailing bytes")
    else .ok (some (frame, rest))

/-- **Decoding behind a complete envelope** depends on the envelope and on
whether the whole message is there. -/
theorem decodeGrpcFrameFrom_grpcHeader (maxFrameSize : Nat) {flag : UInt8} {length : Nat}
    (hlen : length < 2 ^ 32) (rest : Bytes) :
    decodeGrpcFrameFrom maxFrameSize (putU8 flag ++ (toBe 4 length ++ rest)) =
      if flag ≠ 0 then .error (.malformedFrame "compressed grpc messages are unsupported")
      else if FRAME_HEADER_LEN + maxFrameSize < length then
        .error (.frameTooLarge length (FRAME_HEADER_LEN + maxFrameSize))
      else if rest.length < length then .ok none
      else decodeGrpcMessage maxFrameSize (rest.take length) (rest.drop length) := by
  have hword : ((putU8 flag ++ (toBe 4 length ++ rest)).drop 1).take 4 = toBe 4 length := by
    show (toBe 4 length ++ rest).take 4 = toBe 4 length
    exact List.take_left' (length_toBe 4 length)
  have hdrop : (putU8 flag ++ (toBe 4 length ++ rest)).drop GRPC_MESSAGE_HEADER_LEN = rest := by
    rw [← List.append_assoc]
    exact List.drop_left' (by simp [GRPC_MESSAGE_HEADER_LEN])
  have hhead : (putU8 flag ++ (toBe 4 length ++ rest)).getD 0 0 = flag := rfl
  have hsize : (putU8 flag ++ (toBe 4 length ++ rest)).length =
      GRPC_MESSAGE_HEADER_LEN + rest.length := by
    simp [GRPC_MESSAGE_HEADER_LEN]; omega
  have hlt : GRPC_MESSAGE_HEADER_LEN + rest.length < GRPC_MESSAGE_HEADER_LEN + length ↔
      rest.length < length := by omega
  unfold decodeGrpcFrameFrom
  rw [if_neg (by rw [hsize]; omega), hhead, hword, ofBe_toBe_of_lt (by omega)]
  dsimp only
  rw [← List.drop_drop, hdrop, hsize]
  simp only [hlt]
  rfl

theorem decodeGrpcFrameFrom_short (h : buf.length < GRPC_MESSAGE_HEADER_LEN) :
    decodeGrpcFrameFrom maxFrameSize buf = .ok none :=
  if_pos h

theorem decodeGrpcMessage_eq_some {rest' : Bytes} :
    decodeGrpcMessage maxFrameSize message rest = .ok (some (f, rest')) ↔
      f.payload.length ≤ maxFrameSize ∧ f.payload.length < 2 ^ 32 ∧ message = f.bytes ∧
        rest = rest' := by
  unfold decodeGrpcMessage
  constructor
  · intro h
    cases hin : Frame.decodeFrom maxFrameSize message with
    | error e => rw [hin] at h; cases h
    | ok o =>
      rw [hin] at h
      cases o with
      | none => cases h
      | some p =>
        obtain ⟨g, trailing⟩ := p
        simp only at h
        split at h
        · cases h
        rename_i htrail
        cases h
        obtain ⟨hmax, hlen, hmsg⟩ := Frame.decodeFrom_eq_some.mp hin
        rw [not_not] at htrail
        rw [htrail, List.append_nil] at hmsg
        exact ⟨hmax, hlen, hmsg, rfl⟩
  · rintro ⟨hmax, hlen, rfl, rfl⟩
    have hin : Frame.decodeFrom maxFrameSize f.bytes = .ok (some (f, [])) :=
      Frame.decodeFrom_eq_some.mpr ⟨hmax, hlen, (List.append_nil _).symm⟩
    rw [hin]
    simp

/-- What `decode_grpc_frame_from` finds when it takes a frame: the envelope of
exactly that frame. -/
theorem decodeGrpcFrameFrom_eq_some :
    decodeGrpcFrameFrom maxFrameSize buf = .ok (some (f, rest)) ↔
      f.payload.length ≤ maxFrameSize ∧ f.bytes.length < 2 ^ 32 ∧
        buf = encodeGrpcMessage f.bytes ++ rest := by
  have hbytes : f.bytes.length = FRAME_HEADER_LEN + f.payload.length := by simp [Frame.bytes]
  constructor
  · intro h
    by_cases hshort : buf.length < GRPC_MESSAGE_HEADER_LEN
    · rw [decodeGrpcFrameFrom_short hshort] at h; cases h
    obtain ⟨flag, length, tail, hlen, rfl⟩ := exists_grpcHeader (not_lt.mp hshort)
    rw [decodeGrpcFrameFrom_grpcHeader maxFrameSize hlen] at h
    split at h
    · cases h
    rename_i hflag
    split at h
    · cases h
    split at h
    · cases h
    rename_i htail
    obtain ⟨hmax, -, hmsg, rfl⟩ := decodeGrpcMessage_eq_some.mp h
    have hl : f.bytes.length = length := by rw [← hmsg]; simp; omega
    rw [not_not] at hflag
    refine ⟨hmax, by rw [hl]; exact hlen, ?_⟩
    rw [encodeGrpcMessage, prefixed, hl, hflag, ← hmsg]
    simp
  · rintro ⟨hmax, hlen, rfl⟩
    have hpay : f.payload.length < 2 ^ 32 := by omega
    rw [encodeGrpcMessage, prefixed, List.append_assoc, List.append_assoc,
      decodeGrpcFrameFrom_grpcHeader maxFrameSize hlen, if_neg (by simp), if_neg (by omega),
      if_neg (by simp), List.take_left' rfl, List.drop_left' rfl]
    exact decodeGrpcMessage_eq_some.mpr ⟨hmax, hpay, rfl, rfl⟩

theorem decodeGrpcMessage_error (rest' : Bytes)
    (h : decodeGrpcMessage maxFrameSize message rest = .error e) :
    decodeGrpcMessage maxFrameSize message rest' = .error e := by
  unfold decodeGrpcMessage at h ⊢
  cases hin : Frame.decodeFrom maxFrameSize message with
  | error e' => rw [hin] at h; exact h
  | ok o =>
    rw [hin] at h
    cases o with
    | none => exact h
    | some p =>
      obtain ⟨g, trailing⟩ := p
      simp only at h ⊢
      split at h
      · rename_i htrail; rw [if_pos htrail]; exact h
      · cases h

/-- More bytes do not change an error. -/
theorem decodeGrpcFrameFrom_error_append (x : Bytes)
    (h : decodeGrpcFrameFrom maxFrameSize buf = .error e) :
    decodeGrpcFrameFrom maxFrameSize (buf ++ x) = .error e := by
  by_cases hshort : buf.length < GRPC_MESSAGE_HEADER_LEN
  · rw [decodeGrpcFrameFrom_short hshort] at h; cases h
  obtain ⟨flag, length, tail, hlen, rfl⟩ := exists_grpcHeader (not_lt.mp hshort)
  rw [List.append_assoc, List.append_assoc, decodeGrpcFrameFrom_grpcHeader maxFrameSize hlen]
  rw [decodeGrpcFrameFrom_grpcHeader maxFrameSize hlen] at h
  split at h
  · rename_i hflag; rw [if_pos hflag]; exact h
  rename_i hflag
  split at h
  · rename_i hmax; rw [if_neg hflag, if_pos hmax]; exact h
  rename_i hmax
  split at h
  · cases h
  rename_i htail
  rw [if_neg hflag, if_neg hmax, if_neg (by rw [List.length_append]; omega),
    List.take_append_of_le_length (by omega)]
  exact decodeGrpcMessage_error _ h

/-- **The gRPC decoder has stable answers.** -/
def grpcDecoder (maxFrameSize : Nat) : Decoder Error Frame where
  decode := decodeGrpcFrameFrom maxFrameSize
  decode_nil := rfl
  shrinks := by
    intro b f r h
    obtain ⟨-, -, rfl⟩ := decodeGrpcFrameFrom_eq_some.mp h
    simp only [encodeGrpcMessage, List.length_append, length_putU8, length_prefixed]
    omega
  more_item := by
    intro b f r x h
    obtain ⟨hmax, hlen, rfl⟩ := decodeGrpcFrameFrom_eq_some.mp h
    exact decodeGrpcFrameFrom_eq_some.mpr ⟨hmax, hlen, List.append_assoc ..⟩
  more_error := fun x h => decodeGrpcFrameFrom_error_append x h

/-! ## Both framings -/

/-- How frames are put on a carrier: in gRPC messages (H2) or as they are (H3,
WebSocket). -/
inductive Framing where
  | grpc
  | plain
  deriving DecidableEq

namespace Framing

/-- The encoder of one frame. -/
def encode (maxFrameSize : Nat) : Framing → Frame → Except Error Bytes
  | grpc, f => encodeGrpcFrame f maxFrameSize
  | plain, f => f.encode maxFrameSize

/-- The decoder run on the receive buffer. -/
def decoder (maxFrameSize : Nat) : Framing → Decoder Error Frame
  | grpc => grpcDecoder maxFrameSize
  | plain => frameDecoder maxFrameSize

theorem decode_grpc (maxFrameSize : Nat) :
    (grpc.decoder maxFrameSize).decode = decodeGrpcFrameFrom maxFrameSize := rfl

theorem decode_plain (maxFrameSize : Nat) :
    (plain.decoder maxFrameSize).decode = Frame.decodeFrom maxFrameSize := rfl

/-- The bytes of one frame on the carrier. -/
def bytes : Framing → Frame → Bytes
  | grpc, f => encodeGrpcMessage f.bytes
  | plain, f => f.bytes

/-- The frames of a list encoded one after the other. -/
def encodeAll (framing : Framing) (maxFrameSize : Nat) : List Frame → Except Error Bytes
  | [] => .ok []
  | f :: fs => do
    let head ← framing.encode maxFrameSize f
    let tail ← encodeAll framing maxFrameSize fs
    return head ++ tail

variable {framing : Framing} {maxFrameSize : Nat} {f : Frame}

theorem encode_eq_ok (h : f.payload.length ≤ maxFrameSize) :
    framing.encode maxFrameSize f = .ok (framing.bytes f) := by
  have hplain : f.encode maxFrameSize = .ok f.bytes := if_neg (by omega)
  cases framing with
  | grpc => simp [encode, encodeGrpcFrame, hplain, bytes, bind, Except.bind, pure, Except.pure]
  | plain => exact hplain

theorem encodeAll_eq_ok {frames : List Frame} (h : ∀ f ∈ frames, f.payload.length ≤ maxFrameSize) :
    framing.encodeAll maxFrameSize frames = .ok (frames.flatMap framing.bytes) := by
  induction frames with
  | nil => rfl
  | cons f fs ih =>
    rw [encodeAll, encode_eq_ok (h f (by simp)), ih fun g hg => h g (by simp [hg])]
    simp [bind, Except.bind, pure, Except.pure]

theorem decode_bytes (hmax : FRAME_HEADER_LEN + maxFrameSize < 2 ^ 32)
    (h : f.payload.length ≤ maxFrameSize) (x : Bytes) :
    (framing.decoder maxFrameSize).decode (framing.bytes f ++ x) = .ok (some (f, x)) := by
  have hbytes : f.bytes.length = FRAME_HEADER_LEN + f.payload.length := by simp [Frame.bytes]
  have hfits : f.bytes.length < 2 ^ 32 := by omega
  have hpayload : f.payload.length < 2 ^ 32 := by omega
  cases framing with
  | grpc =>
    rw [decode_grpc]
    exact decodeGrpcFrameFrom_eq_some.mpr ⟨h, hfits, rfl⟩
  | plain =>
    rw [decode_plain]
    exact Frame.decodeFrom_eq_some.mpr ⟨h, hpayload, rfl⟩

end Framing

/-- **Chunking independence of framing.**  For both framings: every way of cutting
the encodings of some frames into chunks gives back exactly these frames and an
empty buffer, for a frame size whose encodings fit the 32-bit length fields (the
negotiated sizes do); and every way of cutting any bytes into chunks gives the
frames, the rest and the error of decoding them at once. -/
theorem framing_chunk_independent (framing : Framing) (maxFrameSize : Nat) :
    (∀ frames : List Frame, FRAME_HEADER_LEN + maxFrameSize < 2 ^ 32 →
      (∀ f ∈ frames, f.payload.length ≤ maxFrameSize) → ∃ stream,
        framing.encodeAll maxFrameSize frames = .ok stream ∧
        ∀ chunks : List Bytes, chunks.flatten = stream →
          (framing.decoder maxFrameSize).feedAll chunks = (frames, .ok [])) ∧
    (∀ chunks : List Bytes, (framing.decoder maxFrameSize).feedAll chunks =
      (framing.decoder maxFrameSize).feedAll [chunks.flatten]) := by
  constructor
  · intro frames hmax hfit
    refine ⟨_, Framing.encodeAll_eq_ok hfit, ?_⟩
    intro chunks hchunks
    rw [Decoder.feedAll_eq_drain, hchunks]
    exact Decoder.drain_encoded fun f hf => Framing.decode_bytes hmax (hfit f hf)
  · intro chunks
    rw [Decoder.feedAll_eq_drain, Decoder.feedAll_eq_drain, List.flatten_singleton]

/-- Two frames of the default size limit, cut inside the header of the first. -/
theorem framing_chunk_independent_default : ∃ stream,
    Framing.grpc.encodeAll DEFAULT_MAX_FRAME_SIZE [⟨.ping, 0, 1, [1]⟩, ⟨.tcpData, 0, 1, [2, 3]⟩] =
      .ok stream ∧
    (Framing.grpc.decoder DEFAULT_MAX_FRAME_SIZE).feedAll [stream.take 7, stream.drop 7] =
      ([⟨.ping, 0, 1, [1]⟩, ⟨.tcpData, 0, 1, [2, 3]⟩], .ok []) := by
  obtain ⟨stream, hstream, hfed⟩ := (framing_chunk_independent .grpc DEFAULT_MAX_FRAME_SIZE).1
    [⟨.ping, 0, 1, [1]⟩, ⟨.tcpData, 0, 1, [2, 3]⟩] (by decide) (by decide)
  exact ⟨stream, hstream, hfed _ (by simp)⟩

end Maverick
