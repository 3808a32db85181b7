import Maverick.Server.Relay

/-!
# The relay from the target to the response

* `Complete` — the bytes of a whole response for what was read from the target.
* `Downward` — the invariant: the bytes sent and queued are complete frames for
  what was read.
* `Downward.capacity`, `Downward.targetRead` — the steps of this direction.
* `Downward.sent_isPrefix`, `Downward.trailers_last` — what follows for the
  response.
-/

namespace Maverick
namespace Server

open Lib

/-! ## What the response is made of -/

/-- The bytes of the DATA that was sent. -/
def dataOf : List H2Send → Bytes
  | [] => []
  | .data chunk :: sends => chunk ++ dataOf sends
  | .okTrailers :: sends => dataOf sends

@[simp] theorem dataOf_append (sends sends' : List H2Send) :
    dataOf (sends ++ sends') = dataOf sends ++ dataOf sends' := by
  induction sends with
  | nil => rfl
  | cons x sends ih => cases x <;> simp [dataOf, ih]

def tcpData (flowId : UInt64) (chunk : Bytes) : Frame := ⟨.tcpData, 0, flowId, chunk⟩

def tcpFin (flowId : UInt64) : Frame := ⟨.tcpFin, 0, flowId, []⟩

/-- Complete frames, without the Padding ones. -/
def visible (frames : List Frame) : List Frame := frames.filter fun f => !Relay.isPadding f

theorem visible_append (frames frames' : List Frame) :
    visible (frames ++ frames') = visible frames ++ visible frames' := List.filter_append _ _

theorem visible_padding {padding : List Frame} (h : ∀ g ∈ padding, Relay.isPadding g = true) :
    visible padding = [] := by
  rw [visible, List.filter_eq_nil_iff]
  intro g hg
  simp [h g hg]

/-- The bytes are complete enveloped frames that carry `read`, in order, and then
one TcpFin, with any Padding between. -/
def Complete (flowId : UInt64) (read bytes : Bytes) : Prop :=
  ∃ (frames : List Frame) (chunks : List Bytes),
    bytes = frames.flatMap Framing.grpc.bytes ∧
    visible frames = chunks.map (tcpData flowId) ++ [tcpFin flowId] ∧
    chunks.flatten = read

/-! ## Queued frames -/

variable {maxFrameSize : Nat} {frames : List Frame} {s : Relay}

theorem encodeEach_eq_ok (h : ∀ f ∈ frames, f.payload.length ≤ maxFrameSize) :
    encodeEach maxFrameSize frames = .ok (frames.map Framing.grpc.bytes) := by
  induction frames with
  | nil => rfl
  | cons f frames ih =>
    have hf : Framing.grpc.encode maxFrameSize f = .ok (Framing.grpc.bytes f) :=
      Framing.encode_eq_ok (h f (by simp))
    rw [Framing.encode] at hf
    rw [encodeEach, hf, ih fun g hg => h g (by simp [hg])]
    rfl

/-- A frame that does not fit fails the whole list. -/
theorem length_le_of_encodeEach {bytes : List Bytes}
    (h : encodeEach maxFrameSize frames = .ok bytes) :
    ∀ f ∈ frames, f.payload.length ≤ maxFrameSize := by
  induction frames generalizing bytes with
  | nil =>
    intro f hf
    cases hf
  | cons g frames ih =>
    rw [encodeEach] at h
    obtain ⟨head, hhead, h⟩ := Check.bind_eq_ok.mp h
    obtain ⟨tail, htail, -⟩ := Check.bind_eq_ok.mp h
    obtain ⟨message, hmessage, -⟩ := Check.bind_eq_ok.mp hhead
    have hg : g.payload.length ≤ maxFrameSize := by
      unfold Frame.encode at hmessage
      split at hmessage
      · cases hmessage
      · omega
    intro f hf
    rcases List.mem_cons.mp hf with rfl | hf
    exacts [hg, ih htail f hf]

theorem grpc_bytes_ne_nil (f : Frame) : Framing.grpc.bytes f ≠ [] := by
  simp [Framing.bytes, encodeGrpcMessage, putU8]

/-- The Padding frames in front of a frame, of both kinds. -/
def allPaddingBefore (policy : TunnelRelayPolicy) (random cover : RandomBytes) (f : Frame)
    (maxFrameSize : Nat) : List Frame :=
  (paddingBefore policy random cover f maxFrameSize).1 ++
    (paddingBefore policy random cover f maxFrameSize).2

section
variable {policy : TunnelRelayPolicy} {random cover : RandomBytes} {f : Frame} {maxFrameSize : Nat}
  {endStream : Bool}

theorem allPaddingBefore_spec : ∀ g ∈ allPaddingBefore policy random cover f maxFrameSize,
    Relay.isPadding g = true ∧ g.payload.length ≤ maxFrameSize := by
  intro g hg
  rcases List.mem_append.mp hg with hg | hg
  · obtain ⟨htype, hlen⟩ := RuntimePadding.paddingFrame_spec (Option.mem_toList.mp hg)
    exact ⟨by simp [Relay.isPadding, htype], hlen⟩
  · obtain ⟨htype, hlen, -⟩ := RuntimeCoverTraffic.paddingFrames_spec g hg
    exact ⟨by simp [Relay.isPadding, htype], hlen⟩

/-- **What is queued for a frame**: its encoding after those of Padding frames. -/
theorem prepare_spec {pending : PendingH2Send}
    (h : prepareFrameWithPadding policy random cover f maxFrameSize endStream = .ok pending) :
    pending.endStream = endStream ∧ ∃ padding : List Frame,
      (∀ g ∈ padding, Relay.isPadding g = true) ∧
      pending.frames = (padding ++ [f]).map Framing.grpc.bytes := by
  unfold prepareFrameWithPadding at h
  dsimp only at h
  obtain ⟨frames, hframes, hret⟩ := Check.bind_eq_ok.mp h
  cases hret
  refine ⟨rfl, allPaddingBefore policy random cover f maxFrameSize,
    fun g hg => (allPaddingBefore_spec g hg).1, ?_⟩
  rw [encodeEach_eq_ok (length_le_of_encodeEach hframes)] at hframes
  cases hframes
  rfl

/-- A frame that fits is always queued. -/
theorem prepare_isOk (hfit : f.payload.length ≤ maxFrameSize) :
    ∃ pending, prepareFrameWithPadding policy random cover f maxFrameSize endStream =
      .ok pending := by
  have hall : ∀ g ∈ allPaddingBefore policy random cover f maxFrameSize ++ [f],
      g.payload.length ≤ maxFrameSize := by
    intro g hg
    rcases List.mem_append.mp hg with hg | hg
    · exact (allPaddingBefore_spec g hg).2
    · rwa [List.mem_singleton.mp hg]
  have hencode := encodeEach_eq_ok hall
  rw [allPaddingBefore] at hencode
  unfold prepareFrameWithPadding
  dsimp only
  rw [hencode]
  exact ⟨_, rfl⟩

end

/-! ## From the target to the response -/

/-- What is queued for the response. -/
def Relay.queued (s : Relay) : Bytes :=
  match s.pendingSend with
  | some pending => pending.frames.flatten
  | none => []

theorem Relay.queued_some {pending : PendingH2Send} (h : s.pendingSend = some pending) :
    s.queued = pending.frames.flatten := by
  rw [queued, h]

theorem Relay.queued_none (h : s.pendingSend = none) : s.queued = [] := by
  rw [queued, h]

/-- The bytes sent and queued are complete frames for what was read; the queue is
empty unless a send is pending, and the trailers come last. -/
structure Downward (flowId : UInt64) (s : Relay) : Prop where
  frames : ∃ (frames : List Frame) (chunks : List Bytes) (lost : Bytes),
    dataOf s.sent ++ s.queued = frames.flatMap Framing.grpc.bytes ∧
    visible frames = chunks.map (tcpData flowId) ++ (if s.targetEof then [tcpFin flowId] else []) ∧
    chunks.flatten ++ lost = s.read ∧
    (s.outcome = .running ∨ s.targetEof = true → lost = [])
  sends : ∃ chunks : List Bytes,
    s.sent = chunks.map H2Send.data ++ (if s.responseEnded then [.okTrailers] else [])
  ended : s.responseEnded = true → s.targetEof = true ∧ s.pendingSend = none
  queue : ∀ pending, s.pendingSend = some pending →
    pending.frames ≠ [] ∧ (∀ b ∈ pending.frames, b ≠ []) ∧ pending.endStream = s.targetEof

namespace Downward

variable {flowId : UInt64} {s s' : Relay}

theorem same (h : Downward flowId s) (hsame : SameDown s s') : Downward flowId s' := by
  obtain ⟨h1, h2, h3, h4, h5, h6⟩ := hsame
  refine ⟨?_, ?_, ?_, ?_⟩
  · rw [Relay.queued, h1, h2, h4, h5]
    obtain ⟨frames, chunks, lost, hbytes, hvisible, hread, hlost⟩ := h.frames
    refine ⟨frames, chunks, lost, hbytes, hvisible, hread, ?_⟩
    rintro (hrun | heof)
    · rcases h6 with h6 | h6
      · rw [h6] at hrun
        exact hlost (.inl hrun)
      · exact absurd hrun h6
    · exact hlost (.inr heof)
  · rw [h3, h4]
    exact h.sends
  · rw [h1, h2, h3]
    exact h.ended
  · rw [h1, h2]
    exact h.queue

theorem ret (h : Downward flowId s) (result : Except RelayError Unit) :
    Downward flowId (s.ret result) := h.same ⟨rfl, rfl, rfl, rfl, rfl, .inr nofun⟩

theorem again (h : Downward flowId s) : Downward flowId s.again := by
  unfold Relay.again
  split
  exacts [h.ret _, h]

variable {pending : PendingH2Send} {front : Bytes} {rest : List Bytes}

/-- While a send is pending, only DATA has been sent. -/
theorem sends_of_pending (h : Downward flowId s) (hp : s.pendingSend = some pending) :
    s.responseEnded = false ∧ ∃ chunks : List Bytes, s.sent = chunks.map H2Send.data := by
  have hopen : s.responseEnded = false := by
    cases hended : s.responseEnded with
    | false => rfl
    | true =>
      rw [(h.ended hended).2] at hp
      cases hp
  obtain ⟨chunks, hsent⟩ := h.sends
  rw [hopen] at hsent
  exact ⟨hopen, chunks, by simpa using hsent⟩

theorem cutFront_flatten (front : Bytes) (rest : List Bytes) (n : Nat) :
    front.take n ++ (Relay.cutFront front rest n).flatten = front ++ rest.flatten := by
  unfold Relay.cutFront
  split
  · next hempty =>
      have htake : front.take n = front := by
        have := List.take_append_drop n front
        rwa [List.isEmpty_iff.mp hempty, List.append_nil] at this
      rw [htake]
  · rw [List.flatten_cons, ← List.append_assoc, List.take_append_drop]

theorem cutFront_ne_nil {n : Nat} (h : ∀ b ∈ rest, b ≠ []) :
    ∀ b ∈ Relay.cutFront front rest n, b ≠ [] := by
  unfold Relay.cutFront
  split
  · exact h
  next hne =>
    intro b hb
    rcases List.mem_cons.mp hb with rfl | hb
    · simpa using hne
    · exact h b hb

/-- A chunk of the front of the queue is sent. -/
theorem sendChunk (h : Downward flowId s) (hp : s.pendingSend = some pending)
    (hfront : pending.frames = front :: rest) (n : Nat) (trailersOk : Bool) :
    Downward flowId
      (s.sendChunk pending (front.take n) (Relay.cutFront front rest n) trailersOk) := by
  obtain ⟨frames, chunks, lost, hbytes, hvisible, hread, hlost⟩ := h.frames
  obtain ⟨hopen, sends, hsent⟩ := h.sends_of_pending hp
  obtain ⟨-, hne, hend⟩ := h.queue pending hp
  rw [hfront] at hne
  have htotal : dataOf s.sent ++ (front.take n ++ (Relay.cutFront front rest n).flatten) =
      frames.flatMap Framing.grpc.bytes := by
    rw [cutFront_flatten, ← hbytes, Relay.queued_some hp, hfront, List.flatten_cons]
  have hsends : s.sent ++ [H2Send.data (front.take n)] =
      (sends ++ [front.take n]).map H2Send.data := by
    rw [hsent, List.map_append]
    rfl
  have hcut : ∀ b ∈ Relay.cutFront front rest n, b ≠ [] :=
    cutFront_ne_nil fun b hb => hne b (List.mem_cons_of_mem front hb)
  unfold Relay.sendChunk
  split
  · next hempty =>
      rw [List.isEmpty_iff] at hempty
      rw [hempty, List.flatten_nil, List.append_nil] at htotal
      have hdone : Downward flowId { s with
          sent := s.sent ++ [H2Send.data (front.take n)]
          pendingSend := none
          recorded := s.recorded ++ [pending.emission] } := by
        refine ⟨⟨frames, chunks, lost, ?_, hvisible, hread, hlost⟩, ⟨sends ++ [front.take n], ?_⟩,
          ?_, ?_⟩
        · simpa [Relay.queued, dataOf] using htotal
        · simp only [hopen]
          simpa using hsends
        · intro hended
          rw [show s.responseEnded = true from hended] at hopen
          cases hopen
        · intro p hp'
          cases hp'
      split
      · next hstream =>
          split
          · exact hdone.ret _
          rw [hend] at hstream
          refine again ⟨⟨frames, chunks, lost, ?_, hvisible, hread, hlost⟩,
            ⟨sends ++ [front.take n], ?_⟩, fun _ => ⟨hstream, rfl⟩, ?_⟩
          · simpa [Relay.queued, dataOf] using htotal
          · simp only [if_true]
            rw [hsends]
          · intro p hp'
            cases hp'
      · exact hdone.again
  · next hempty =>
      rw [List.isEmpty_iff] at hempty
      refine again ⟨⟨frames, chunks, lost, ?_, hvisible, hread, hlost⟩,
        ⟨sends ++ [front.take n], ?_⟩, ?_, ?_⟩
      · simpa [Relay.queued, dataOf] using htotal
      · simp only [hopen]
        simpa using hsends
      · intro hended
        rw [show s.responseEnded = true from hended] at hopen
        cases hopen
      intro p hp'
      cases hp'
      exact ⟨hempty, hcut, hend⟩

theorem sendChunk_sameUp (s : Relay) (pending : PendingH2Send) (chunk : Bytes) (frames : List Bytes)
    (trailersOk : Bool) : SameUp s (s.sendChunk pending chunk frames trailersOk) := by
  unfold Relay.sendChunk
  split
  · dsimp only
    split
    · split
      · exact ⟨rfl, rfl, rfl, rfl, rfl, rfl, rfl, .inr nofun⟩
      · exact SameUp.again ⟨rfl, rfl, rfl, rfl, rfl, rfl, rfl, .inl rfl⟩
    · exact SameUp.again ⟨rfl, rfl, rfl, rfl, rfl, rfl, rfl, .inl rfl⟩
  · exact SameUp.again ⟨rfl, rfl, rfl, rfl, rfl, rfl, rfl, .inl rfl⟩

theorem sendChunk_noPanic (hrun : s.outcome = .running) (pending : PendingH2Send) (chunk : Bytes)
    (frames : List Bytes) (trailersOk : Bool) :
    NoPanic (s.sendChunk pending chunk frames trailersOk) := by
  unfold Relay.sendChunk
  split
  · dsimp only
    split
    · split
      exacts [.ret _ _, NoPanic.again (noPanic_of_running hrun)]
    · exact NoPanic.again (noPanic_of_running hrun)
  · exact NoPanic.again (noPanic_of_running hrun)

/-- **Capacity** for the pending send. -/
theorem capacity (h : Downward flowId s) (hrun : s.outcome = .running)
    (hpending : s.pendingSend.isSome = true) (capacity : Nat) (dataOk trailersOk : Bool) :
    Downward flowId (s.onCapacity capacity dataOk trailersOk) ∧
      SameUp s (s.onCapacity capacity dataOk trailersOk) ∧
      NoPanic (s.onCapacity capacity dataOk trailersOk) := by
  obtain ⟨pending, hp⟩ := Option.isSome_iff_exists.mp hpending
  have hrunning : NoPanic s := noPanic_of_running hrun
  unfold Relay.onCapacity
  split
  · exact ⟨h.again, (SameUp.refl s).again, hrunning.again⟩
  simp only [hp]
  cases hframes : pending.frames with
  | nil => exact absurd hframes (h.queue pending hp).1
  | cons front rest =>
    dsimp only
    split
    · exact ⟨h.ret _, (SameUp.refl s).ret _, .ret s _⟩
    · exact ⟨h.sendChunk hp hframes _ _, sendChunk_sameUp _ _ _ _ _,
        sendChunk_noPanic hrun _ _ _ _⟩

/-- A frame is queued behind what has been sent. -/
theorem queueFrame (h : Downward flowId s) (hrun : s.outcome = .running)
    (hnone : s.pendingSend = none) (heof : s.targetEof = false) {policy : TunnelRelayPolicy}
    {random cover : RandomBytes} {f : Frame} {maxFrameSize : Nat} {endStream : Bool} (read : Bytes)
    (chunks : List Bytes)
    (hprepare : prepareFrameWithPadding policy random cover f maxFrameSize endStream = .ok pending)
    (hread : s.read ++ chunks.flatten = read) (hvisible : Relay.isPadding f = false)
    (hf : [f] = chunks.map (tcpData flowId) ++ if endStream then [tcpFin flowId] else []) :
    Downward flowId { s with read, targetEof := endStream, pendingSend := some pending }.again := by
  obtain ⟨hend, padding, hpadding, hframes⟩ := prepare_spec hprepare
  obtain ⟨frames, before, lost, hbytes, hbefore, hread', hlost⟩ := h.frames
  rw [hlost (.inl hrun), List.append_nil] at hread'
  rw [heof] at hbefore
  have hopen : s.responseEnded = false := by
    cases hended : s.responseEnded with
    | false => rfl
    | true =>
      rw [(h.ended hended).1] at heof
      cases heof
  refine again ⟨⟨frames ++ (padding ++ [f]), before ++ chunks, [], ?_, ?_, ?_, fun _ => rfl⟩, ?_, ?_,
    ?_⟩
  · show dataOf s.sent ++ pending.frames.flatten = _
    rw [Relay.queued_none hnone, List.append_nil] at hbytes
    rw [hbytes, hframes, List.flatMap_append]
    rfl
  · have hsingle : visible [f] = [f] := by simp [visible, hvisible]
    rw [visible_append, visible_append, visible_padding hpadding, hbefore, List.nil_append, hsingle,
      hf, List.map_append]
    simp
  · rw [List.append_nil, List.flatten_append, hread', hread]
  · show ∃ sends : List Bytes, s.sent = _ ++ if s.responseEnded then _ else _
    exact h.sends
  · intro hended
    rw [show s.responseEnded = true from hended] at hopen
    cases hopen
  intro p hp
  cases hp
  refine ⟨by simp [hframes], ?_, hend⟩
  rw [hframes]
  intro b hb
  obtain ⟨g, -, rfl⟩ := List.mem_map.mp hb
  exact grpc_bytes_ne_nil g

/-- **A read from the target.** -/
theorem targetRead (h : Downward flowId s) (hrun : s.outcome = .running)
    (hnone : s.pendingSend.isNone = true) (heof : s.targetEof = false) (policy : TunnelRelayPolicy)
    (maxFrameSize : Nat) (data : Bytes) (random cover : RandomBytes) :
    Downward flowId (s.onTargetRead policy maxFrameSize flowId data random cover) ∧
      SameUp s (s.onTargetRead policy maxFrameSize flowId data random cover) ∧
      NoPanic (s.onTargetRead policy maxFrameSize flowId data random cover) := by
  have hnone := Option.isNone_iff_eq_none.mp hnone
  unfold Relay.onTargetRead
  split
  · -- the frame for the end always fits
    obtain ⟨pending, hprepare⟩ : ∃ pending, prepareFrameWithPadding policy random cover
        (tcpFin flowId) maxFrameSize true = .ok pending := prepare_isOk (Nat.zero_le maxFrameSize)
    have hqueue := h.queueFrame hrun hnone heof s.read [] hprepare (by simp) rfl rfl
    rw [tcpFin] at hprepare
    rw [hprepare]
    exact ⟨hqueue, SameUp.again ⟨rfl, rfl, rfl, rfl, rfl, rfl, rfl, .inl rfl⟩,
      NoPanic.again (noPanic_of_running hrun)⟩
  · cases hprepare : prepareFrameWithPadding policy random cover ⟨.tcpData, 0, flowId, data⟩
        maxFrameSize false with
    | error e =>
      refine ⟨?_, ⟨rfl, rfl, rfl, rfl, rfl, rfl, rfl, .inr nofun⟩, .ret _ _⟩
      obtain ⟨frames, chunks, lost, hbytes, hvisible, hread, hlost⟩ := h.frames
      refine ⟨⟨frames, chunks, data, hbytes, hvisible, ?_, ?_⟩, h.sends, h.ended, h.queue⟩
      · show chunks.flatten ++ data = s.read ++ data
        rw [← hread, hlost (.inl hrun), List.append_nil]
      rintro (hr | ht)
      · cases hr
      · rw [show s.targetEof = true from ht] at heof
        cases heof
    | ok pending =>
      refine ⟨?_, SameUp.again ⟨rfl, rfl, rfl, rfl, rfl, rfl, rfl, .inl rfl⟩,
        NoPanic.again (noPanic_of_running hrun)⟩
      have hqueue := h.queueFrame hrun hnone heof (s.read ++ data) [data] hprepare (by simp) rfl rfl
      rwa [← heof] at hqueue

/-- What was sent can be completed to a response for what was read. -/
theorem sent_isPrefix (h : Downward flowId s) :
    ∃ response, Complete flowId s.read response ∧ dataOf s.sent <+: response := by
  obtain ⟨frames, chunks, lost, hbytes, hvisible, hread, hlost⟩ := h.frames
  cases heof : s.targetEof with
  | true =>
    rw [hlost (.inr heof), List.append_nil] at hread
    rw [heof] at hvisible
    exact ⟨_, ⟨frames, chunks, hbytes, hvisible, hread⟩, List.prefix_append _ _⟩
  | false =>
    rw [heof] at hvisible
    refine ⟨_, ⟨frames ++ [tcpData flowId lost, tcpFin flowId], chunks ++ [lost], rfl, ?_, ?_⟩, ?_⟩
    · rw [visible_append, hvisible]
      simp [visible, Relay.isPadding, tcpData, tcpFin]
    · rw [← hread, List.flatten_append, List.flatten_singleton]
    · rw [List.flatMap_append, ← hbytes, List.append_assoc]
      exact List.prefix_append _ _

/-- The trailers come after a complete response, and last. -/
theorem trailers_last (h : Downward flowId s) {before after : List H2Send}
    (hsplit : s.sent = before ++ .okTrailers :: after) :
    after = [] ∧ .okTrailers ∉ before ∧ s.targetEof = true ∧
      Complete flowId s.read (dataOf before) := by
  obtain ⟨sends, hsent⟩ := h.sends
  have hdata : ∀ sends : List Bytes, H2Send.okTrailers ∉ sends.map H2Send.data := by
    intro sends hmem
    obtain ⟨chunk, -, heq⟩ := List.mem_map.mp hmem
    cases heq
  cases hended : s.responseEnded with
  | false =>
    rw [hended] at hsent
    have hmem : H2Send.okTrailers ∈ s.sent := by simp [hsplit]
    rw [hsent] at hmem
    simp at hmem
  | true =>
    rw [hended, hsplit] at hsent
    obtain ⟨heof, hnone⟩ := h.ended hended
    have hends : after = [] ∧ before = sends.map H2Send.data := by
      rcases List.append_eq_append_iff.mp hsent with ⟨mid, hmid, htail⟩ | ⟨mid, hmid, htail⟩
      · cases mid with
        | nil =>
          rw [List.nil_append] at htail
          exact ⟨(List.cons.inj htail).2, by simpa using hmid.symm⟩
        | cons x mid =>
          rw [List.cons_append, List.cons.injEq] at htail
          exact absurd (by rw [hmid, ← htail.1]; simp) (hdata sends)
      · have hlen := congrArg List.length htail
        simp only [if_true, List.length_append, List.length_cons, List.length_nil] at hlen
        have hmid0 : mid = [] := List.length_eq_zero_iff.mp (by omega)
        have hafter : after = [] := List.length_eq_zero_iff.mp (by omega)
        exact ⟨hafter, by simpa [hmid0] using hmid⟩
    obtain ⟨rfl, rfl⟩ := hends
    obtain ⟨frames, chunks, lost, hbytes, hvisible, hread, hlost⟩ := h.frames
    rw [hlost (.inr heof), List.append_nil] at hread
    rw [heof] at hvisible
    refine ⟨rfl, hdata sends, heof, frames, chunks, ?_, hvisible, hread⟩
    rw [← hbytes, Relay.queued_none hnone, List.append_nil, hsplit]
    simp [dataOf]

end Downward

end Server
end Maverick
