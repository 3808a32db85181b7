import Maverick.Server.Relay

/-!
# The relay from the request to the target

* `uplink` — what a list of frames carries to the target.
* `Upward` — the invariant: the frames taken off the request are what was written
  and what is pending.
* `Upward.frame`, `Upward.write`, `Upward.more` — the steps of this direction.
* `Upward.written_isPrefix` — what follows for the bytes at the target.
-/

namespace Maverick
namespace Server

open Lib

/-! ## What the frames of a request carry -/

/-- The payloads of the flow's TcpData frames before the first frame that ends
it. -/
def uplink (flowId : UInt64) : List Frame → Bytes
  | [] => []
  | f :: fs =>
    if f.flowId = flowId then
      match f.frameType with
      | .tcpData => f.payload ++ uplink flowId fs
      | .tcpFin | .closeFlow | .tcpReset => []
      | _ => uplink flowId fs
    else uplink flowId fs

variable {flowId : UInt64}

theorem uplink_cons_other {f : Frame} {fs : List Frame} (h : f.flowId ≠ flowId) :
    uplink flowId (f :: fs) = uplink flowId fs := by
  rw [uplink, if_neg h]

theorem uplink_append_padding {skipped : List Frame} (h : ∀ f ∈ skipped, Relay.isPadding f = true)
    (fs : List Frame) : uplink flowId (skipped ++ fs) = uplink flowId fs := by
  induction skipped with
  | nil => rfl
  | cons f skipped ih =>
    have htype : f.frameType = .padding := by simpa [Relay.isPadding] using h f (by simp)
    have hrest := ih fun g hg => h g (by simp [hg])
    rw [List.cons_append, uplink, htype]
    simp [hrest]

/-- The frames of the request so far. -/
def Relay.received (maxFrameSize : Nat) (s : Relay) : List Frame :=
  ((grpcDecoder maxFrameSize).drain s.request).1

/-! ## From the request to the target -/

/-- The frames taken off the request are what was written and what is pending. -/
structure Upward (maxFrameSize : Nat) (flowId : UInt64) (s : Relay) : Prop where
  slot : s.targetWrite.isSome = s.pendingTargetWrite.isNone
  frames : ∃ consumed : List Frame,
    (grpcDecoder maxFrameSize).drain s.request =
      (consumed ++ ((grpcDecoder maxFrameSize).drain s.recvBuf).1,
        ((grpcDecoder maxFrameSize).drain s.recvBuf).2) ∧
    (s.shutDown = false → ∀ fs, uplink flowId (consumed ++ fs) =
      s.written ++ s.pendingTargetWrite.getD [] ++ uplink flowId fs)
  down : s.shutDown = true → s.pendingTargetWrite = none ∧
    uplink flowId (s.received maxFrameSize) = s.written ∧
    (s.clientEof = true ∨ s.outcome ≠ .running)

namespace Upward

variable {maxFrameSize : Nat} {flowId : UInt64} {s s' : Relay}

theorem same (h : Upward maxFrameSize flowId s) (hsame : SameUp s s') :
    Upward maxFrameSize flowId s' := by
  obtain ⟨h1, h2, h3, h4, h5, h6, h7, h8⟩ := hsame
  refine ⟨?_, ?_, ?_⟩
  · rw [h1, h2]
    exact h.slot
  · rw [h2, h4, h5, h6, h7]
    exact h.frames
  rw [h2, h3, h6, h7, Relay.received, h5]
  intro hs
  obtain ⟨hp, hup, hend⟩ := h.down hs
  refine ⟨hp, hup, hend.imp_right ?_⟩
  intro hne
  rcases h8 with h8 | h8
  · rwa [h8]
  · exact h8

theorem ret (h : Upward maxFrameSize flowId s) (result : Except RelayError Unit) :
    Upward maxFrameSize flowId (s.ret result) := h.same ((SameUp.refl s).ret result)

theorem again (h : Upward maxFrameSize flowId s) : Upward maxFrameSize flowId s.again :=
  h.same (SameUp.refl s).again

/-- While the loop reads, the writer is there and has not been shut down. -/
theorem reading (h : Upward maxFrameSize flowId s) (hrun : s.outcome = .running)
    (heof : s.clientEof = false) (hpending : s.pendingTargetWrite.isNone = true) :
    s.targetWrite = some () ∧ s.shutDown = false ∧ s.pendingTargetWrite = none := by
  have hslot := h.slot
  rw [hpending] at hslot
  obtain ⟨w, hw⟩ := Option.isSome_iff_exists.mp hslot
  refine ⟨hw, ?_, Option.isNone_iff_eq_none.mp hpending⟩
  cases hdown : s.shutDown with
  | false => rfl
  | true =>
    obtain ⟨-, -, hend⟩ := h.down hdown
    rcases hend with hend | hend
    · cases heof.symm.trans hend
    · exact absurd hrun hend

/-- The target takes some bytes of the pending write, or all have been taken. -/
theorem write (h : Upward maxFrameSize flowId s) (hrun : s.outcome = .running)
    (hpending : s.pendingTargetWrite.isSome = true) {progress : WriteProgress}
    (hnext : s.onWrite progress = some s') :
    Upward maxFrameSize flowId s' ∧ SameDown s s' ∧ NoPanic s' := by
  have hsame : SameDown s s := ⟨rfl, rfl, rfl, rfl, rfl, .inl rfl⟩
  obtain ⟨bytes, hbytes⟩ := Option.isSome_iff_exists.mp hpending
  have hopen : s.shutDown = false := by
    cases hdown : s.shutDown with
    | false => rfl
    | true =>
      rw [(h.down hdown).1] at hbytes
      cases hbytes
  obtain ⟨consumed, hdrain, hup⟩ := h.frames
  have hup := hup hopen
  rw [hbytes, Option.getD_some] at hup
  have hslot := h.slot
  rw [hbytes] at hslot
  simp only [Relay.onWrite, hbytes] at hnext
  cases progress with
  | complete =>
    dsimp only at hnext
    split at hnext
    · next hnil =>
        subst hnil
        cases hnext
        exact ⟨Upward.again ⟨rfl, ⟨consumed, hdrain, fun _ => hup⟩, fun hdown => by cases hopen.symm.trans hdown⟩,
          SameDown.again ⟨rfl, rfl, rfl, rfl, rfl, .inl rfl⟩,
          NoPanic.again (noPanic_of_running hrun)⟩
    · cases hnext
  | took n =>
    dsimp only at hnext
    split at hnext
    · cases hnext
    split at hnext
    · cases hnext
      exact ⟨h.ret _, hsame.ret _, .ret s _⟩
    cases hnext
    refine ⟨⟨hslot, ⟨consumed, hdrain, fun _ fs => ?_⟩, fun hdown => by cases hopen.symm.trans hdown⟩,
      ⟨rfl, rfl, rfl, rfl, rfl, .inl rfl⟩, noPanic_of_running hrun⟩
    rw [hup fs]
    show _ = s.written ++ bytes.take n ++ bytes.drop n ++ uplink flowId fs
    rw [List.append_assoc s.written (bytes.take n), List.take_append_drop]
  | timedOut | failed message =>
    dsimp only at hnext
    split at hnext
    · cases hnext
    · cases hnext
      exact ⟨h.ret _, hsame.ret _, .ret s _⟩

variable {rest : Bytes}

/-- The frames of the request up to the next that is not Padding, or up to where
it waits for more. -/
theorem consume (h : Upward maxFrameSize flowId s) (hopen : s.shutDown = false)
    (hpending : s.pendingTargetWrite = none) {item : List Frame} {skipped : List Frame}
    (hskip : ∀ f ∈ skipped, Relay.isPadding f = true)
    (hdrain : (grpcDecoder maxFrameSize).drain s.recvBuf =
      (skipped ++ item ++ ((grpcDecoder maxFrameSize).drain rest).1,
        ((grpcDecoder maxFrameSize).drain rest).2)) :
    ∃ consumed : List Frame,
      (grpcDecoder maxFrameSize).drain s.request =
        (consumed ++ ((grpcDecoder maxFrameSize).drain rest).1,
          ((grpcDecoder maxFrameSize).drain rest).2) ∧
      ∀ fs, uplink flowId (consumed ++ fs) = s.written ++ uplink flowId (item ++ fs) := by
  obtain ⟨consumed, hrequest, hup⟩ := h.frames
  refine ⟨consumed ++ (skipped ++ item), ?_, ?_⟩
  · rw [hrequest, hdrain]
    simp only [List.append_assoc]
  intro fs
  rw [List.append_assoc, hup hopen, hpending, Option.getD_none, List.append_nil,
    List.append_assoc skipped, uplink_append_padding hskip]

/-- After a shutdown nothing of the flow is left in the frames of the request. -/
theorem of_shutDown (hslot : s'.targetWrite.isSome = true) (hpending : s'.pendingTargetWrite = none)
    {consumed : List Frame}
    (hdrain : (grpcDecoder maxFrameSize).drain s'.request =
      (consumed ++ ((grpcDecoder maxFrameSize).drain s'.recvBuf).1,
        ((grpcDecoder maxFrameSize).drain s'.recvBuf).2))
    (hup : uplink flowId (consumed ++ ((grpcDecoder maxFrameSize).drain s'.recvBuf).1) = s'.written)
    (hdown : s'.shutDown = true) (hend : s'.clientEof = true ∨ s'.outcome ≠ .running) :
    Upward maxFrameSize flowId s' := by
  refine ⟨?_, ⟨consumed, hdrain, ?_⟩, ?_⟩
  · rw [hslot, hpending]
    rfl
  · intro hopen
    cases hdown.symm.trans hopen
  intro _
  refine ⟨hpending, ?_, hend⟩
  rwa [Relay.received, hdrain]

/-- **The next frame of the request.** -/
theorem frame (h : Upward maxFrameSize flowId s) (hrun : s.outcome = .running)
    (heof : s.clientEof = false) (hpending : s.pendingTargetWrite.isNone = true) {f : Frame}
    (hnext : (grpcDecoder maxFrameSize).next Relay.isPadding s.recvBuf = .ok (some f, rest)) :
    Upward maxFrameSize flowId ({ s with recvBuf := rest }.onFrame flowId f) ∧
      SameDown s ({ s with recvBuf := rest }.onFrame flowId f) ∧
      NoPanic ({ s with recvBuf := rest }.onFrame flowId f) := by
  obtain ⟨hwriter, hopen, hnone⟩ := h.reading hrun heof hpending
  obtain ⟨skipped, hskip, hspec⟩ :=
    (grpcDecoder maxFrameSize).next_spec Relay.isPadding s.recvBuf
  rw [hnext] at hspec
  have hdrain : (grpcDecoder maxFrameSize).drain s.recvBuf =
      (skipped ++ [f] ++ ((grpcDecoder maxFrameSize).drain rest).1,
        ((grpcDecoder maxFrameSize).drain rest).2) := by
    rw [hspec.2, List.append_assoc, List.singleton_append]
  obtain ⟨consumed, hrequest, hup⟩ := h.consume hopen hnone hskip hdrain
  have hrunning : NoPanic s := noPanic_of_running hrun
  -- the frame is passed over
  have hpass : (∀ fs, uplink flowId (f :: fs) = uplink flowId fs) →
      Upward maxFrameSize flowId { s with recvBuf := rest } := by
    intro hf
    refine ⟨h.slot, ⟨consumed, hrequest, fun _ fs => ?_⟩,
      fun hdown => by cases hopen.symm.trans hdown⟩
    show _ = s.written ++ s.pendingTargetWrite.getD [] ++ uplink flowId fs
    rw [hup, List.singleton_append, hf, hnone, Option.getD_none, List.append_nil]
  -- the frame ends the flow
  have hstop : (∀ fs, uplink flowId (f :: fs) = []) →
      uplink flowId (consumed ++ ((grpcDecoder maxFrameSize).drain rest).1) = s.written := by
    intro hf
    rw [hup, List.singleton_append, hf, List.append_nil]
  unfold Relay.onFrame
  by_cases hflow : f.flowId = flowId
  · rw [if_pos hflow]
    have hcons : ∀ fs, uplink flowId (f :: fs) = match f.frameType with
        | .tcpData => f.payload ++ uplink flowId fs
        | .tcpFin | .closeFlow | .tcpReset => []
        | _ => uplink flowId fs := by
      intro fs
      rw [uplink, if_pos hflow]
    cases htype : f.frameType with
    | tcpData =>
      simp only [hwriter]
      refine ⟨Upward.again ⟨rfl, ⟨consumed, hrequest, fun _ fs => ?_⟩,
        fun hdown => by cases hopen.symm.trans hdown⟩,
        SameDown.again ⟨rfl, rfl, rfl, rfl, rfl, .inl rfl⟩, NoPanic.again hrunning⟩
      show _ = s.written ++ f.payload ++ uplink flowId fs
      rw [hup, List.singleton_append, hcons, htype, List.append_assoc]
    | tcpFin | closeFlow =>
      simp only [Relay.shutdownWriter, hwriter, Relay.andThen, hrun]
      refine ⟨Upward.again (of_shutDown rfl hnone hrequest (hstop ?_) rfl (.inl rfl)),
        SameDown.again ⟨rfl, rfl, rfl, rfl, rfl, .inl hrun.symm⟩,
        NoPanic.again (noPanic_of_running rfl)⟩
      intro fs
      rw [hcons, htype]
    | tcpReset =>
      simp only [Relay.shutdownWriter, hwriter, Relay.andThen, hrun]
      refine ⟨of_shutDown rfl hnone hrequest (hstop ?_) rfl (.inr nofun),
        ⟨rfl, rfl, rfl, rfl, rfl, .inr nofun⟩, .ret _ _⟩
      intro fs
      rw [hcons, htype]
    | _ =>
      refine ⟨Upward.again (hpass fun fs => ?_), SameDown.again ⟨rfl, rfl, rfl, rfl, rfl, .inl rfl⟩,
        NoPanic.again hrunning⟩
      rw [hcons, htype]
  · rw [if_neg hflow]
    exact ⟨Upward.again (hpass fun fs => uplink_cons_other hflow),
      SameDown.again ⟨rfl, rfl, rfl, rfl, rfl, .inl rfl⟩, NoPanic.again hrunning⟩

/-- **More of the request**, or its end, when its frames so far are used up. -/
theorem more (h : Upward maxFrameSize flowId s) (hrun : s.outcome = .running)
    (heof : s.clientEof = false) (hpending : s.pendingTargetWrite.isNone = true)
    (hnext : (grpcDecoder maxFrameSize).next Relay.isPadding s.recvBuf = .ok (none, rest)) :
    ∃ consumed : List Frame,
      (grpcDecoder maxFrameSize).drain s.request = (consumed, .ok rest) ∧
      (grpcDecoder maxFrameSize).drain rest = ([], .ok rest) ∧
      ∀ fs, uplink flowId (consumed ++ fs) = s.written ++ uplink flowId fs := by
  obtain ⟨-, hopen, hnone⟩ := h.reading hrun heof hpending
  obtain ⟨skipped, hskip, hspec⟩ :=
    (grpcDecoder maxFrameSize).next_spec Relay.isPadding s.recvBuf
  rw [hnext] at hspec
  obtain ⟨hdrain, hrest⟩ := hspec
  have hdrain' : (grpcDecoder maxFrameSize).drain s.recvBuf =
      (skipped ++ [] ++ ((grpcDecoder maxFrameSize).drain rest).1,
        ((grpcDecoder maxFrameSize).drain rest).2) := by
    rw [hdrain, hrest, List.append_nil, List.append_nil]
  obtain ⟨consumed, hrequest, hup⟩ := h.consume hopen hnone hskip hdrain'
  rw [hrest, List.append_nil] at hrequest
  exact ⟨consumed, hrequest, hrest, hup⟩

theorem written_isPrefix (h : Upward maxFrameSize flowId s) :
    s.written <+: uplink flowId (s.received maxFrameSize) := by
  cases hdown : s.shutDown with
  | true =>
    rw [(h.down hdown).2.1]
  | false =>
    obtain ⟨consumed, hdrain, hup⟩ := h.frames
    rw [Relay.received, hdrain, hup hdown, List.append_assoc]
    exact List.prefix_append _ _

end Upward

end Server
end Maverick
