import Maverick.Core.Frame
import Maverick.Lib.Check

/-!
# Frames over Noise

`maverick_core::noise`: a frame is encoded, sealed as one Noise transport message, and sent
behind its length.  The receiver undoes the three layers on a growing buffer.

`snow` is an ideal channel here: a message can be opened only as the one that the peer has
sealed under the same number.

* `Aead`, `TransportState` — the channel: what was written is numbered in order.
* `NoiseTransportSession.encryptFrame`, `decryptNextFrame` — the two ends.
* `Receiver` — a receiver that chunks arrive at and that asks for frames, in any order.
* `noise_framing_faithful` — what is sent arrives, for every splitting into chunks, and
  whatever arrives, the frames returned are a front part of those sent.
-/

namespace Maverick

open Lib Lib.Check

def NOISE_MESSAGE_LEN_SIZE : Nat := 2
def MAX_NOISE_MESSAGE_SIZE : Nat := 65535
def NOISE_TRANSPORT_TAG_SIZE : Nat := 16
def MAX_NOISE_TRANSPORT_PLAINTEXT_SIZE : Nat := MAX_NOISE_MESSAGE_SIZE - NOISE_TRANSPORT_TAG_SIZE

/-- The errors of this module: those of the core, and `Error::Noise` with the text of an
error of `snow`. -/
inductive NoiseError where
  | core (e : Error)
  | noise (message : String)
deriving DecidableEq

/-- `NoiseRuntimeConfig`; its keys and its context only concern the handshake. -/
structure NoiseRuntimeConfig where
  maxFrameSize : Nat

/-- `NoiseRuntimeConfig::validate` -/
def NoiseRuntimeConfig.validate (config : NoiseRuntimeConfig) : Except Error Unit := do
  failIf (config.maxFrameSize = 0) (.config "noise runtime max_frame_size must not be zero")
  failIf (2 ^ 64 ≤ config.maxFrameSize + FRAME_HEADER_LEN)
    (.config "noise runtime max_frame_size overflow")
  failIf (MAX_NOISE_TRANSPORT_PLAINTEXT_SIZE < config.maxFrameSize + FRAME_HEADER_LEN)
    (.config "noise runtime max_frame_size exceeds transport plaintext limit 65519")

theorem NoiseRuntimeConfig.le_of_validate {config : NoiseRuntimeConfig}
    (h : config.validate = .ok ()) : config.maxFrameSize ≤ 65505 := by
  obtain ⟨-, h⟩ := seq_eq_ok.mp h
  obtain ⟨-, h⟩ := seq_eq_ok.mp h
  have hfits := failIf_eq_ok.mp h
  simp only [MAX_NOISE_TRANSPORT_PLAINTEXT_SIZE, MAX_NOISE_MESSAGE_SIZE,
    NOISE_TRANSPORT_TAG_SIZE, FRAME_HEADER_LEN] at hfits
  omega

/-! ## The channel -/

/-- An authenticated encryption with numbers for nonces and a tag of 16 bytes. -/
structure Aead where
  encrypt : (nonce : Nat) → (plaintext : Bytes) → Bytes
  length_encrypt : ∀ nonce plaintext,
    (encrypt nonce plaintext).length = plaintext.length + NOISE_TRANSPORT_TAG_SIZE

/-- `snow::TransportState`: the messages written so far, whose number is the nonce of the
next, and the number of messages read. -/
structure TransportState where
  written : List Bytes
  read : Nat

namespace TransportState

variable (aead : Aead)

/-- `TransportState::write_message`; the nonces are not exhausted. -/
def writeMessage (transport : TransportState) (plaintext : Bytes) :
    Except NoiseError (Bytes × TransportState) :=
  if MAX_NOISE_MESSAGE_SIZE < plaintext.length + NOISE_TRANSPORT_TAG_SIZE then
    .error (.noise "input error")
  else
    .ok (aead.encrypt transport.written.length plaintext,
      { transport with written := transport.written ++ [plaintext] })

/-- `TransportState::read_message`, on an ideal channel from a peer that has written these
messages. -/
def readMessage (peer : List Bytes) (transport : TransportState) (ciphertext : Bytes) :
    Except NoiseError (Bytes × TransportState) :=
  match peer[transport.read]? with
  | some plaintext =>
    if ciphertext = aead.encrypt transport.read plaintext then
      .ok (plaintext, { transport with read := transport.read + 1 })
    else .error (.noise "decrypt error")
  | none => .error (.noise "decrypt error")

theorem readMessage_eq_ok {aead : Aead} {peer : List Bytes} {transport transport' : TransportState}
    {ciphertext plaintext : Bytes} :
    transport.readMessage aead peer ciphertext = .ok (plaintext, transport') ↔
      peer[transport.read]? = some plaintext ∧
        ciphertext = aead.encrypt transport.read plaintext ∧
          transport' = { transport with read := transport.read + 1 } := by
  rw [readMessage]
  cases hpeer : peer[transport.read]? with
  | none => simp
  | some sealed =>
    dsimp only
    by_cases hsealed : ciphertext = aead.encrypt transport.read sealed
    · rw [if_pos hsealed, Except.ok.injEq, Prod.mk.injEq, Option.some.injEq]
      constructor
      · rintro ⟨rfl, rfl⟩
        exact ⟨rfl, hsealed, rfl⟩
      · rintro ⟨rfl, -, rfl⟩
        exact ⟨rfl, rfl⟩
    · rw [if_neg hsealed]
      simp only [reduceCtorEq, Option.some.injEq, false_iff, not_and]
      rintro rfl h
      exact absurd h hsealed

end TransportState

/-! ## The length in front -/

/-- `encode_noise_message` -/
def encodeNoiseMessage (message : Bytes) : Except Error Bytes :=
  if MAX_NOISE_MESSAGE_SIZE < message.length then
    .error (.frameTooLarge message.length MAX_NOISE_MESSAGE_SIZE)
  else .ok (toBe 2 message.length ++ message)

/-- `decode_noise_message_from` -/
def decodeNoiseMessageFrom (input : Bytes) : Option (Bytes × Bytes) :=
  if input.length < NOISE_MESSAGE_LEN_SIZE then none
  else
    let messageLen := ofBe (input.take 2)
    if input.length < NOISE_MESSAGE_LEN_SIZE + messageLen then none
    else
      let input := input.drop NOISE_MESSAGE_LEN_SIZE
      some (input.take messageLen, input.drop messageLen)

variable {input rest : Bytes}

theorem decodeNoiseMessageFrom_eq_some {message : Bytes} :
    decodeNoiseMessageFrom input = some (message, rest) ↔
      message.length < 2 ^ 16 ∧ input = prefixed 2 message ++ rest := by
  constructor
  · intro h
    rw [decodeNoiseMessageFrom, NOISE_MESSAGE_LEN_SIZE] at h
    split at h
    · cases h
    next hhead =>
    dsimp only at h
    split at h
    · cases h
    next hwhole =>
    have hlen : (input.take 2).length = 2 := by
      rw [List.length_take]
      omega
    have hword := toBe_ofBe (input.take 2)
    have hlt := ofBe_lt (input.take 2)
    rw [hlen] at hword hlt
    cases h
    have hmessage : ((input.drop 2).take (ofBe (input.take 2))).length =
        ofBe (input.take 2) := by
      rw [List.length_take, List.length_drop]
      omega
    rw [prefixed, hmessage, hword, List.append_assoc, List.take_append_drop,
      List.take_append_drop]
    exact ⟨hlt, rfl⟩
  · rintro ⟨hlt, rfl⟩
    have hword : (prefixed 2 message ++ rest).take 2 = toBe 2 message.length := by
      rw [prefixed, List.append_assoc]
      exact List.take_left' (length_toBe 2 _)
    have hbody : (prefixed 2 message ++ rest).drop 2 = message ++ rest := by
      rw [prefixed, List.append_assoc]
      exact List.drop_left' (length_toBe 2 _)
    have hlen : ofBe (toBe 2 message.length) = message.length := ofBe_toBe_of_lt hlt
    rw [decodeNoiseMessageFrom, NOISE_MESSAGE_LEN_SIZE, hword, hbody, hlen,
      if_neg (by simp; omega)]
    dsimp only
    rw [if_neg (by simp), List.take_left' rfl, List.drop_left' rfl]

/-- More bytes do not change a message. -/
theorem decodeNoiseMessageFrom_append {message : Bytes} (x : Bytes)
    (h : decodeNoiseMessageFrom input = some (message, rest)) :
    decodeNoiseMessageFrom (input ++ x) = some (message, rest ++ x) := by
  obtain ⟨hlt, rfl⟩ := decodeNoiseMessageFrom_eq_some.mp h
  exact decodeNoiseMessageFrom_eq_some.mpr ⟨hlt, List.append_assoc ..⟩

/-! ## The sessions -/

structure NoiseTransportSession where
  transport : TransportState
  maxFrameSize : Nat

namespace NoiseTransportSession

/-- The session of a handshake that has just been completed. -/
def start (config : NoiseRuntimeConfig) : NoiseTransportSession := ⟨⟨[], 0⟩, config.maxFrameSize⟩

variable (aead : Aead)

/-- `NoiseTransportSession::encrypt_frame` -/
def encryptFrame (s : NoiseTransportSession) (frame : Frame) :
    Except NoiseError (Bytes × NoiseTransportSession) := do
  let plaintext ← (frame.encode s.maxFrameSize).mapError .core
  failIf (MAX_NOISE_TRANSPORT_PLAINTEXT_SIZE < plaintext.length)
    (NoiseError.core (.frameTooLarge plaintext.length MAX_NOISE_TRANSPORT_PLAINTEXT_SIZE))
  let (ciphertext, transport) ← s.transport.writeMessage aead plaintext
  let output ← (encodeNoiseMessage ciphertext).mapError .core
  return (output, { s with transport })

/-- The frame of one opened message. -/
def decodePlaintext (maxFrameSize : Nat) (plaintext : Bytes) : Except NoiseError Frame :=
  match Frame.decodeFrom maxFrameSize plaintext with
  | .error e => .error (.core e)
  | .ok none => .error (.core (.malformedFrame "truncated decrypted noise frame"))
  | .ok (some (frame, trailing)) =>
    if trailing ≠ [] then
      .error (.core (.malformedFrame "decrypted noise frame has trailing bytes"))
    else .ok frame

/-- `NoiseTransportSession::decrypt_next_frame`: the frame, the session behind it, and the
rest of the buffer. -/
def decryptNextFrame (peer : List Bytes) (s : NoiseTransportSession) (input : Bytes) :
    Except NoiseError (Option (Frame × NoiseTransportSession × Bytes)) :=
  match decodeNoiseMessageFrom input with
  | none => .ok none
  | some (ciphertext, rest) => do
    let (plaintext, transport) ← s.transport.readMessage aead peer ciphertext
    let frame ← decodePlaintext s.maxFrameSize plaintext
    return some (frame, { s with transport }, rest)

/-- Frames are sent one after the other. -/
def encryptFrames (s : NoiseTransportSession) :
    List Frame → Except NoiseError (List Bytes × NoiseTransportSession)
  | [] => .ok ([], s)
  | frame :: frames => do
    let (output, s) ← s.encryptFrame aead frame
    let (outputs, s) ← s.encryptFrames frames
    return (output :: outputs, s)

variable {aead}

/-- The message of a frame under a number. -/
def message (aead : Aead) (nonce : Nat) (frame : Frame) : Bytes := aead.encrypt nonce frame.bytes

variable {s : NoiseTransportSession} {frame : Frame}

/-- What a fitting frame is sent as. -/
theorem encryptFrame_ok (aead : Aead) (hmax : s.maxFrameSize ≤ 65505)
    (hfits : frame.payload.length ≤ s.maxFrameSize) :
    (message aead s.transport.written.length frame).length < 2 ^ 16 ∧
      s.encryptFrame aead frame =
        .ok (prefixed 2 (message aead s.transport.written.length frame),
          { s with transport :=
            { s.transport with written := s.transport.written ++ [frame.bytes] } }) := by
  have hbytes : frame.bytes.length = 14 + frame.payload.length := by
    simp [Frame.bytes, FRAME_HEADER_LEN]
  have hlength : (message aead s.transport.written.length frame).length =
      frame.bytes.length + 16 := aead.length_encrypt _ _
  have hencode : frame.encode s.maxFrameSize = .ok frame.bytes := if_neg (by omega)
  have hwrite : s.transport.writeMessage aead frame.bytes =
      .ok (message aead s.transport.written.length frame,
        { s.transport with written := s.transport.written ++ [frame.bytes] }) :=
    if_neg (by rw [MAX_NOISE_MESSAGE_SIZE, NOISE_TRANSPORT_TAG_SIZE]; omega)
  have hsend : encodeNoiseMessage (message aead s.transport.written.length frame) =
      .ok (prefixed 2 (message aead s.transport.written.length frame)) :=
    if_neg (by rw [MAX_NOISE_MESSAGE_SIZE]; omega)
  have hsmall : ¬MAX_NOISE_TRANSPORT_PLAINTEXT_SIZE < frame.bytes.length := by
    simp only [MAX_NOISE_TRANSPORT_PLAINTEXT_SIZE, MAX_NOISE_MESSAGE_SIZE,
      NOISE_TRANSPORT_TAG_SIZE]
    omega
  refine ⟨by omega, ?_⟩
  rw [encryptFrame, hencode]
  simp only [Except.mapError, failIf, if_neg hsmall, bind, Except.bind, hwrite, hsend]
  rfl

/-- The messages of a list of frames, numbered in order. -/
def outputs (aead : Aead) : Nat → List Frame → List Bytes
  | _, [] => []
  | nonce, frame :: frames =>
    prefixed 2 (message aead nonce frame) :: outputs aead (nonce + 1) frames

/-- **Every fitting frame is sent**, one message for each, under a length that fits. -/
theorem encryptFrames_ok (aead : Aead) {frames : List Frame} (hmax : s.maxFrameSize ≤ 65505)
    (hfits : ∀ frame ∈ frames, frame.payload.length ≤ s.maxFrameSize) :
    (∀ output ∈ outputs aead s.transport.written.length frames,
      ∃ message, message.length < 2 ^ 16 ∧ output = prefixed 2 message) ∧
      s.encryptFrames aead frames =
        .ok (outputs aead s.transport.written.length frames,
          { s with transport := { s.transport with
            written := s.transport.written ++ frames.map Frame.bytes } }) := by
  induction frames generalizing s with
  | nil => simp [outputs, encryptFrames]
  | cons frame frames ih =>
    obtain ⟨hlength, hsent⟩ :=
      encryptFrame_ok aead hmax (hfits frame List.mem_cons_self)
    obtain ⟨hall, hrest⟩ :=
      ih (s := { s with transport := { s.transport with
        written := s.transport.written ++ [frame.bytes] } }) hmax
        fun other hother => hfits other (List.mem_cons_of_mem _ hother)
    rw [List.length_append, List.length_singleton] at hall hrest
    refine ⟨List.forall_mem_cons.mpr ⟨⟨_, hlength, rfl⟩, hall⟩, ?_⟩
    rw [encryptFrames, hsent]
    simp only [bind, Except.bind, hrest, outputs, List.map_cons, List.append_assoc,
      List.singleton_append]
    rfl

theorem decodePlaintext_eq_ok {maxFrameSize : Nat} {plaintext : Bytes} :
    decodePlaintext maxFrameSize plaintext = .ok frame ↔
      frame.payload.length ≤ maxFrameSize ∧ frame.payload.length < 2 ^ 32 ∧
        plaintext = frame.bytes := by
  rw [decodePlaintext]
  constructor
  · intro h
    split at h
    · cases h
    · cases h
    next hdecode =>
    split at h
    · cases h
    next htrailing =>
    cases h
    obtain ⟨hmax, hlen, hbytes⟩ := Frame.decodeFrom_eq_some.mp hdecode
    rw [not_not.mp htrailing, List.append_nil] at hbytes
    exact ⟨hmax, hlen, hbytes⟩
  · rintro ⟨hmax, hlen, rfl⟩
    have hdecode : Frame.decodeFrom maxFrameSize frame.bytes = .ok (some (frame, [])) :=
      Frame.decodeFrom_eq_some.mpr ⟨hmax, hlen, (List.append_nil _).symm⟩
    simp only [hdecode, ne_eq, not_true_eq_false, if_false]

/-- What a returned frame is: the one that the peer has sent under the next number, and its
message was in front. -/
theorem decryptNextFrame_eq_some {peer : List Bytes} {s' : NoiseTransportSession}
    {input rest : Bytes} :
    s.decryptNextFrame aead peer input = .ok (some (frame, s', rest)) ↔
      decodeNoiseMessageFrom input = some (message aead s.transport.read frame, rest) ∧
        peer[s.transport.read]? = some frame.bytes ∧
        frame.payload.length ≤ s.maxFrameSize ∧ frame.payload.length < 2 ^ 32 ∧
        s' = { s with transport := { s.transport with read := s.transport.read + 1 } } := by
  rw [decryptNextFrame]
  cases hinput : decodeNoiseMessageFrom input with
  | none =>
    constructor
    · intro h
      cases h
    · rintro ⟨h, -⟩
      cases h
  | some found =>
    obtain ⟨ciphertext, left⟩ := found
    constructor
    · intro h
      obtain ⟨⟨plaintext, transport⟩, hread, h⟩ := bind_eq_ok.mp h
      obtain ⟨frame', hframe, h⟩ := bind_eq_ok.mp h
      cases h
      obtain ⟨hpeer, rfl, rfl⟩ := TransportState.readMessage_eq_ok.mp hread
      obtain ⟨hmax, hlen, rfl⟩ := decodePlaintext_eq_ok.mp hframe
      exact ⟨rfl, hpeer, hmax, hlen, rfl⟩
    · rintro ⟨hfound, hpeer, hmax, hlen, rfl⟩
      cases hfound
      refine bind_eq_ok.mpr ⟨_, TransportState.readMessage_eq_ok.mpr ⟨hpeer, rfl, rfl⟩, ?_⟩
      exact bind_eq_ok.mpr ⟨_, decodePlaintext_eq_ok.mpr ⟨hmax, hlen, rfl⟩, rfl⟩

end NoiseTransportSession

/-! ## A receiver -/

open NoiseTransportSession

/-- A receiver: its session and buffer, the frames it was given, and the first error, after
which it asks no more. -/
structure Receiver where
  session : NoiseTransportSession
  input : Bytes
  frames : List Frame
  error : Option NoiseError

/-- A chunk arrives, or the receiver asks for a frame. -/
inductive ReceiverAction where
  | arrive (chunk : Bytes)
  | decrypt

namespace Receiver

def start (config : NoiseRuntimeConfig) : Receiver := ⟨.start config, [], [], none⟩

variable (aead : Aead) (peer : List Bytes)

def step (r : Receiver) : ReceiverAction → Receiver
  | .arrive chunk => { r with input := r.input ++ chunk }
  | .decrypt =>
    if r.error.isSome then r
    else
      match r.session.decryptNextFrame aead peer r.input with
      | .error e => { r with error := some e }
      | .ok none => r
      | .ok (some (frame, session, rest)) =>
        { r with session := session, input := rest, frames := r.frames ++ [frame] }

def run (r : Receiver) (actions : List ReceiverAction) : Receiver := actions.foldl (step aead peer) r

/-- What arrives in a run. -/
def arrivals (actions : List ReceiverAction) : Bytes :=
  actions.flatMap fun | .arrive chunk => chunk | .decrypt => []

variable {aead peer} {sent : List Frame}

/-- The frames sent fit, and those returned are the first of them. -/
structure InOrder (sent : List Frame) (r : Receiver) : Prop where
  fits : ∀ frame ∈ sent, frame.payload.length ≤ r.session.maxFrameSize
  read : r.session.transport.read = r.frames.length
  front : r.frames <+: sent

variable {r : Receiver} {frame : Frame} {rest future : Bytes}

/-- A frame that is returned is the next one. -/
theorem InOrder.decrypt (h : InOrder sent r) (hmax : r.session.maxFrameSize < 2 ^ 32)
    {session : NoiseTransportSession}
    (hnext : r.session.decryptNextFrame aead (sent.map Frame.bytes) r.input =
      .ok (some (frame, session, rest))) : sent[r.frames.length]? = some frame := by
  obtain ⟨-, hpeer, -, hlen, -⟩ := decryptNextFrame_eq_some.mp hnext
  rw [h.read, List.getElem?_map, Option.map_eq_some_iff] at hpeer
  obtain ⟨frame', hframe', hbytes⟩ := hpeer
  have hfits := h.fits frame' (List.mem_of_getElem? hframe')
  -- both are what their common encoding is decoded to
  have hdecode : ∀ f : Frame, f.payload.length < 2 ^ 32 →
      decodePlaintext (2 ^ 32) f.bytes = .ok f :=
    fun f hf => decodePlaintext_eq_ok.mpr ⟨hf.le, hf, rfl⟩
  have hsame := hdecode frame' (hfits.trans_lt hmax)
  rw [hbytes, hdecode frame hlen] at hsame
  rw [hframe', Except.ok.inj hsame]

theorem InOrder.step (aead : Aead) (h : InOrder sent r) (hmax : r.session.maxFrameSize < 2 ^ 32)
    (action : ReceiverAction) :
    InOrder sent (r.step aead (sent.map Frame.bytes) action) ∧
      (r.step aead (sent.map Frame.bytes) action).session.maxFrameSize =
        r.session.maxFrameSize := by
  cases action with
  | arrive chunk => exact ⟨⟨h.fits, h.read, h.front⟩, rfl⟩
  | decrypt =>
    rw [Receiver.step]
    split
    · exact ⟨h, rfl⟩
    split
    · exact ⟨⟨h.fits, h.read, h.front⟩, rfl⟩
    · exact ⟨h, rfl⟩
    next frame session rest hnext =>
    have hframe := h.decrypt hmax hnext
    obtain ⟨-, -, -, -, rfl⟩ := decryptNextFrame_eq_some.mp hnext
    refine ⟨⟨h.fits, ?_, ?_⟩, rfl⟩
    · rw [List.length_append, List.length_singleton, ← h.read]
    obtain ⟨left, rfl⟩ := h.front
    cases left with
    | nil => simp at hframe
    | cons first left =>
      simp only [List.getElem?_append_right le_rfl, Nat.sub_self,
        List.getElem?_cons_zero, Option.some.injEq] at hframe
      exact ⟨left, by simp [hframe]⟩

/-- **Whatever arrives**, the frames returned are the first of those sent. -/
theorem InOrder.run (h : InOrder sent r) (hmax : r.session.maxFrameSize < 2 ^ 32)
    (actions : List ReceiverAction) : InOrder sent (r.run aead (sent.map Frame.bytes) actions) := by
  induction actions generalizing r with
  | nil => exact h
  | cons action actions ih =>
    obtain ⟨hstep, hsize⟩ := h.step aead hmax action
    exact ih hstep (hsize ▸ hmax)

/-- What is in the buffer and what is still to come are the messages of the frames that
have not been returned. -/
structure Faithful (aead : Aead) (sent : List Frame) (r : Receiver) (future : Bytes) : Prop where
  inOrder : InOrder sent r
  size : r.session.maxFrameSize ≤ 65505
  error : r.error = none
  stream : r.input ++ future =
    (outputs aead r.frames.length (sent.drop r.frames.length)).flatten

theorem Faithful.length_message (h : Faithful aead sent r future) (hframe : frame ∈ sent)
    (nonce : Nat) : (message aead nonce frame).length < 2 ^ 16 := by
  have hfits := (h.inOrder.fits frame hframe).trans h.size
  rw [message, aead.length_encrypt, Frame.bytes, List.length_append, length_frameHeader,
    FRAME_HEADER_LEN, NOISE_TRANSPORT_TAG_SIZE]
  omega

/-- While frames are left, the next message is the one that the stream goes on with. -/
theorem Faithful.decode (h : Faithful aead sent r future)
    (hframe : sent[r.frames.length]? = some frame) :
    decodeNoiseMessageFrom (r.input ++ future) = some (message aead r.frames.length frame,
      (outputs aead (r.frames.length + 1) (sent.drop (r.frames.length + 1))).flatten) := by
  obtain ⟨hlt, hget⟩ := List.getElem?_eq_some_iff.mp hframe
  refine decodeNoiseMessageFrom_eq_some.mpr
    ⟨h.length_message (List.mem_of_getElem? hframe) _, ?_⟩
  rw [h.stream, List.drop_eq_getElem_cons hlt, hget, outputs, List.flatten_cons]

/-- With the whole message in the buffer, the next frame is returned. -/
theorem Faithful.returns (h : Faithful aead sent r future)
    (hframe : sent[r.frames.length]? = some frame) {ciphertext : Bytes}
    (hinput : decodeNoiseMessageFrom r.input = some (ciphertext, rest)) :
    ∃ r', r.step aead (sent.map Frame.bytes) .decrypt = r' ∧ r'.frames = r.frames ++ [frame] ∧
      Faithful aead sent r' future := by
  have hwhole := h.decode hframe
  rw [decodeNoiseMessageFrom_append future hinput] at hwhole
  obtain ⟨rfl, hrest⟩ := Prod.mk.inj (Option.some.inj hwhole)
  have hsmall : r.session.maxFrameSize < 2 ^ 32 := h.size.trans_lt (by decide)
  have hfits := h.inOrder.fits frame (List.mem_of_getElem? hframe)
  have hpeer : (sent.map Frame.bytes)[r.frames.length]? = some frame.bytes := by
    rw [List.getElem?_map, hframe]
    rfl
  rw [← h.inOrder.read] at hinput hpeer
  have hnext := decryptNextFrame_eq_some.mpr
    ⟨hinput, hpeer, hfits, hfits.trans_lt hsmall, rfl⟩
  have hstep : r.step aead (sent.map Frame.bytes) .decrypt =
      { r with
        session := { r.session with
          transport := { r.session.transport with read := r.session.transport.read + 1 } }
        input := rest
        frames := r.frames ++ [frame] } := by
    rw [Receiver.step, h.error]
    simp only [Option.isSome_none, Bool.false_eq_true, if_false, hnext]
  refine ⟨_, hstep, rfl, ?_, h.size, h.error, ?_⟩
  · rw [← hstep]
    exact (h.inOrder.step aead hsmall .decrypt).1
  · rwa [List.length_append, List.length_singleton]

/-- An incomplete message is waited for. -/
theorem Faithful.waits (h : Faithful aead sent r future)
    (hinput : decodeNoiseMessageFrom r.input = none) :
    r.step aead (sent.map Frame.bytes) .decrypt = r := by
  have hnext : r.session.decryptNextFrame aead (sent.map Frame.bytes) r.input = .ok none := by
    rw [decryptNextFrame, hinput]
  rw [Receiver.step, h.error]
  simp only [Option.isSome_none, Bool.false_eq_true, if_false, hnext]

/-- When all frames have been returned, nothing is left. -/
theorem Faithful.input_eq_nil (h : Faithful aead sent r future)
    (hall : sent[r.frames.length]? = none) : r.input = [] := by
  have hstream := h.stream
  rw [List.drop_eq_nil_of_le (List.getElem?_eq_none_iff.mp hall), outputs, List.flatten_nil] at hstream
  exact (List.append_eq_nil_iff.mp hstream).1

theorem Faithful.step {action : ReceiverAction}
    (h : Faithful aead sent r (arrivals [action] ++ future)) :
    Faithful aead sent (r.step aead (sent.map Frame.bytes) action) future := by
  cases action with
  | arrive chunk =>
    have hin := h.inOrder
    refine ⟨⟨hin.fits, hin.read, hin.front⟩, h.size, h.error, ?_⟩
    have hstream := h.stream
    simp only [arrivals, List.flatMap_cons, List.flatMap_nil, List.append_nil] at hstream
    rwa [← List.append_assoc] at hstream
  | decrypt =>
    have h : Faithful aead sent r future := h
    cases hinput : decodeNoiseMessageFrom r.input with
    | none => rwa [h.waits hinput]
    | some found =>
      cases hframe : sent[r.frames.length]? with
      | none =>
        rw [h.input_eq_nil hframe] at hinput
        cases hinput
      | some frame =>
        obtain ⟨r', hstep, -, hr'⟩ := h.returns hframe hinput
        rwa [hstep]

/-- **What is sent arrives without an error.** -/
theorem Faithful.run {actions : List ReceiverAction}
    (h : Faithful aead sent r (arrivals actions ++ future)) :
    Faithful aead sent (r.run aead (sent.map Frame.bytes) actions) future := by
  induction actions generalizing r with
  | nil => exact h
  | cons action actions ih =>
    refine ih (Faithful.step ?_)
    rwa [← List.append_assoc, arrivals, arrivals, ← List.flatMap_append, List.singleton_append]

/-- Once everything has arrived, each call returns a frame until none is left. -/
theorem Faithful.calls {n : Nat} (h : Faithful aead sent r [])
    (hn : sent.length ≤ r.frames.length + n) :
    ∃ r', r.run aead (sent.map Frame.bytes) (List.replicate n .decrypt) = r' ∧
      Faithful aead sent r' [] ∧ sent.length ≤ r'.frames.length := by
  induction n generalizing r with
  | zero => exact ⟨r, rfl, h, hn⟩
  | succ n ih =>
    rw [List.replicate_succ, Receiver.run, List.foldl_cons]
    cases hframe : sent[r.frames.length]? with
    | none =>
      have hinput : decodeNoiseMessageFrom r.input = none := by
        rw [h.input_eq_nil hframe]
        rfl
      rw [h.waits hinput]
      exact ih h (Nat.le_add_right_of_le (List.getElem?_eq_none_iff.mp hframe))
    | some frame =>
      have hinput := h.decode hframe
      rw [List.append_nil] at hinput
      obtain ⟨r', hstep, hframes, hr'⟩ := h.returns hframe hinput
      rw [hstep]
      refine ih hr' ?_
      rw [hframes, List.length_append, List.length_singleton]
      omega

end Receiver

/-- **Noise framing is faithful.**  Under a valid configuration, every list of frames that
fit is sent, each as one message behind a length of 16 bits.  A receiver with the same
configuration, at which the concatenated messages arrive in any chunks between its calls,
meets no error; once everything is there and it has asked often enough, it has been given
exactly these frames, and its buffer is empty.  Whatever else arrives, the frames that it is
given before the first error are a front part of them. -/
theorem noise_framing_faithful (aead : Aead) {config : NoiseRuntimeConfig} {frames : List Frame}
    (hvalid : config.validate = .ok ())
    (hfits : ∀ frame ∈ frames, frame.payload.length ≤ config.maxFrameSize) :
    ∃ messages sender,
      (NoiseTransportSession.start config).encryptFrames aead frames = .ok (messages, sender) ∧
        (∀ m ∈ messages, ∃ message, message.length < 2 ^ 16 ∧ m = prefixed 2 message) ∧
        (∀ actions, Receiver.arrivals actions = messages.flatten →
          ((Receiver.start config).run aead sender.transport.written actions).error = none ∧
          ∀ n, frames.length ≤ n →
            ∃ r, (Receiver.start config).run aead sender.transport.written
                (actions ++ List.replicate n .decrypt) = r ∧
              r.frames = frames ∧ r.input = [] ∧ r.error = none) ∧
        ∀ actions, ((Receiver.start config).run aead sender.transport.written actions).frames <+:
          frames := by
  have hmax := NoiseRuntimeConfig.le_of_validate hvalid
  obtain ⟨hmessages, hsent⟩ :=
    NoiseTransportSession.encryptFrames_ok aead (s := .start config) hmax hfits
  have hstart : Receiver.InOrder frames (Receiver.start config) :=
    ⟨hfits, rfl, List.nil_prefix⟩
  refine ⟨_, _, hsent, hmessages, ?_, ?_⟩
  · intro actions harrive
    have hrun : Receiver.Faithful aead frames
        ((Receiver.start config).run aead (frames.map Frame.bytes) actions) [] := by
      refine Receiver.Faithful.run ⟨hstart, hmax, rfl, ?_⟩
      rw [harrive, List.append_nil]
      rfl
    refine ⟨hrun.error, fun n hn => ?_⟩
    obtain ⟨r, hcalls, hr, hlength⟩ := hrun.calls (hn.trans (Nat.le_add_left _ _))
    have hframes : r.frames = frames := hr.inOrder.front.eq_of_length_le hlength
    refine ⟨r, ?_, hframes, hr.input_eq_nil ?_, hr.error⟩
    · rw [← hcalls, Receiver.run, List.foldl_append]
      rfl
    · rw [hframes]
      exact List.getElem?_eq_none le_rfl
  · intro actions
    exact (hstart.run (hmax.trans_lt (by decide)) actions).front

/-- A tag that is the number of the message. -/
def plainTag (nonce : Nat) (plaintext : Bytes) : Bytes :=
  plaintext ++ List.replicate NOISE_TRANSPORT_TAG_SIZE (UInt8.ofNat nonce)

theorem length_plainTag (nonce : Nat) (plaintext : Bytes) :
    (plainTag nonce plaintext).length = plaintext.length + NOISE_TRANSPORT_TAG_SIZE := by
  rw [plainTag, List.length_append, List.length_replicate]

/-- Two frames, with a call between the two parts of the first message. -/
theorem noise_framing_faithful_ping :
    ∃ messages sender,
      (NoiseTransportSession.start ⟨32768⟩).encryptFrames ⟨plainTag, length_plainTag⟩
          [⟨.ping, 0, 7, [1, 2]⟩, ⟨.pong, 0, 7, [3]⟩] = .ok (messages, sender) ∧
        ∃ r, (Receiver.start ⟨32768⟩).run ⟨plainTag, length_plainTag⟩ sender.transport.written
            ([.arrive (messages.flatten.take 5), .decrypt, .arrive (messages.flatten.drop 5)] ++
              List.replicate 2 .decrypt) = r ∧
          r.frames = [⟨.ping, 0, 7, [1, 2]⟩, ⟨.pong, 0, 7, [3]⟩] ∧ r.input = [] ∧
          r.error = none := by
  obtain ⟨messages, sender, hsent, -, hreceived, -⟩ :=
    @noise_framing_faithful ⟨plainTag, length_plainTag⟩ ⟨32768⟩
      [⟨.ping, 0, 7, [1, 2]⟩, ⟨.pong, 0, 7, [3]⟩] rfl (by simp)
  refine ⟨messages, sender, hsent, (hreceived _ ?_).2 2 le_rfl⟩
  simp [Receiver.arrivals]

end Maverick
