import Maverick.Server.RelayDownlink
import Maverick.Server.RelayUplink

/-!
# Integrity of the relay

* `faithful_next` — every action keeps the invariants of both directions, since
  each works on one and leaves the other alone.
* `relay_integrity` — both directions are faithful in every run, the trailers come
  once and last, and no `expect` fails.
-/

namespace Maverick
namespace Server

open Lib

/-! ## Both directions together -/

structure Faithful (maxFrameSize : Nat) (flowId : UInt64) (s : Relay) : Prop where
  up : Upward maxFrameSize flowId s
  down : Downward flowId s
  noPanic : NoPanic s

section
variable {policy : TunnelRelayPolicy} {maxFrameSize : Nat} {flowId : UInt64} {recvBuf : Bytes}
  {s s' : Relay}

theorem Faithful.of_up (h : Faithful maxFrameSize flowId s)
    (hstep : Upward maxFrameSize flowId s' ∧ SameDown s s' ∧ NoPanic s') :
    Faithful maxFrameSize flowId s' :=
  ⟨hstep.1, h.down.same hstep.2.1, hstep.2.2⟩

theorem Faithful.of_down (h : Faithful maxFrameSize flowId s)
    (hstep : Downward flowId s' ∧ SameUp s s' ∧ NoPanic s') :
    Faithful maxFrameSize flowId s' :=
  ⟨h.up.same hstep.2.1, hstep.1, hstep.2.2⟩

theorem Faithful.ret (h : Faithful maxFrameSize flowId s) (result : Except RelayError Unit) :
    Faithful maxFrameSize flowId (s.ret result) :=
  ⟨h.up.ret result, h.down.ret result, .ret s result⟩

variable {rest : Bytes}

/-- More bytes of the request. -/
theorem Faithful.requestData (h : Faithful maxFrameSize flowId s) (hrun : s.outcome = .running)
    (heof : s.clientEof = false) (hpending : s.pendingTargetWrite.isNone = true)
    (hnext : (grpcDecoder maxFrameSize).next Relay.isPadding s.recvBuf = .ok (none, rest))
    (chunk : Bytes) :
    Faithful maxFrameSize flowId
      { s with recvBuf := rest ++ chunk, request := s.request ++ chunk } := by
  obtain ⟨-, hopen, hnone⟩ := h.up.reading hrun heof hpending
  obtain ⟨consumed, hrequest, hrest, hup⟩ := h.up.more hrun heof hpending hnext
  refine h.of_up ⟨⟨h.up.slot, ⟨consumed, ?_, ?_⟩, fun hdown => by cases hopen.symm.trans hdown⟩,
    ⟨rfl, rfl, rfl, rfl, rfl, .inl rfl⟩, noPanic_of_running hrun⟩
  · show (grpcDecoder maxFrameSize).drain (s.request ++ chunk) = _
    rw [Decoder.drain_append, hrequest]
    rfl
  · intro _ fs
    show _ = s.written ++ s.pendingTargetWrite.getD [] ++ uplink flowId fs
    rw [hup, hnone, Option.getD_none, List.append_nil]

/-- The end of the request. -/
theorem Faithful.requestEnd (h : Faithful maxFrameSize flowId s) (hrun : s.outcome = .running)
    (heof : s.clientEof = false) (hpending : s.pendingTargetWrite.isNone = true)
    (hnext : (grpcDecoder maxFrameSize).next Relay.isPadding s.recvBuf = .ok (none, rest)) :
    Faithful maxFrameSize flowId
      ({ s with recvBuf := rest }.shutdownWriter.andThen fun s => s.ret (.ok ())) := by
  obtain ⟨hwriter, hopen, hnone⟩ := h.up.reading hrun heof hpending
  obtain ⟨consumed, hrequest, hrest, hup⟩ := h.up.more hrun heof hpending hnext
  have hdrain : (grpcDecoder maxFrameSize).drain s.request =
      (consumed ++ ((grpcDecoder maxFrameSize).drain rest).1,
        ((grpcDecoder maxFrameSize).drain rest).2) := by
    rw [hrest, List.append_nil, hrequest]
  have hall : uplink flowId (consumed ++ ((grpcDecoder maxFrameSize).drain rest).1) = s.written := by
    rw [hrest, hup, uplink, List.append_nil]
  simp only [Relay.shutdownWriter, hwriter, Relay.andThen, hrun]
  exact h.of_up ⟨Upward.of_shutDown rfl hnone hdrain hall rfl (.inr RelayOutcome.noConfusion),
    ⟨rfl, rfl, rfl, rfl, rfl, .inr RelayOutcome.noConfusion⟩, .ret _ _⟩

/-- **Every action is faithful.** -/
theorem faithful_next {a : RelayAction} (h : Faithful maxFrameSize flowId s)
    (hnext : s.next policy maxFrameSize flowId a = some s') : Faithful maxFrameSize flowId s' := by
  unfold Relay.next at hnext
  split at hnext
  · cases hnext
  next hrun =>
  rw [not_not] at hrun
  cases a with
  | idle | capacityFailed | targetReadFailed message =>
    obtain ⟨-, hnext⟩ := Option.ite_none_right_eq_some.mp hnext
    cases hnext
    exact h.ret _
  | write progress =>
    obtain ⟨hpending, hnext⟩ := Option.ite_none_right_eq_some.mp hnext
    exact h.of_up (h.up.write hrun hpending hnext)
  | capacity assigned dataOk trailersOk =>
    obtain ⟨hpending, hnext⟩ := Option.ite_none_right_eq_some.mp hnext
    cases hnext
    exact h.of_down (h.down.capacity hrun hpending _ _ _)
  | targetRead data random cover =>
    obtain ⟨hguard, hnext⟩ := Option.ite_none_right_eq_some.mp hnext
    cases hnext
    exact h.of_down (h.down.targetRead hrun hguard.1 hguard.2.1 _ _ _ _ _)
  | frame =>
    obtain ⟨hguard, hnext⟩ := Option.ite_none_right_eq_some.mp hnext
    split at hnext <;> cases hnext
    · exact h.ret _
    · next hread => exact h.of_up (h.up.frame hrun hguard.1 hguard.2 hread)
  | requestData chunk =>
    obtain ⟨hguard, hnext⟩ := Option.ite_none_right_eq_some.mp hnext
    split at hnext <;> cases hnext
    next hread => exact h.requestData hrun hguard.1 hguard.2 hread chunk
  | requestEnd =>
    obtain ⟨hguard, hnext⟩ := Option.ite_none_right_eq_some.mp hnext
    split at hnext <;> cases hnext
    next hread => exact h.requestEnd hrun hguard.1 hguard.2 hread
  | requestFailed message =>
    obtain ⟨-, hnext⟩ := Option.ite_none_right_eq_some.mp hnext
    split at hnext <;> cases hnext
    exact h.ret _

theorem faithful_of_reach (h : (relay policy maxFrameSize flowId recvBuf).Reach s) :
    Faithful maxFrameSize flowId s := by
  refine h.invariant (I := Faithful maxFrameSize flowId) ?_ ?_
  · refine ⟨⟨rfl, ⟨[], ?_, ?_⟩, ?_⟩, ⟨⟨[], [], [], rfl, rfl, rfl, fun _ => rfl⟩, ⟨[], rfl⟩, ?_, ?_⟩,
      noPanic_of_running rfl⟩
    · rfl
    · intro _ fs
      rfl
    · intro hdown
      cases hdown
    · intro hended
      cases hended
    · intro pending hp
      cases hp
  · intro s a s' hs _ hnext
    exact faithful_next hs hnext

/-- **Integrity of the relay.**  In every run: the bytes written to the target are
a prefix of what the flow's TcpData frames carry before its end, and all of it
when the writer has been shut down; the DATA of the response is a prefix of
complete enveloped frames that carry what the target has sent and then one
TcpFin, with Padding between; the trailers are sent once at most, after the whole
of these frames, and nothing is sent after them; and no `expect` fails. -/
theorem relay_integrity (h : (relay policy maxFrameSize flowId recvBuf).Reach s) :
    s.written <+: uplink flowId (s.received maxFrameSize) ∧
    (s.shutDown = true → s.written = uplink flowId (s.received maxFrameSize)) ∧
    (∃ response, Complete flowId s.read response ∧ dataOf s.sent <+: response) ∧
    (∀ before after, s.sent = before ++ .okTrailers :: after →
      after = [] ∧ .okTrailers ∉ before ∧ s.targetEof = true ∧
        Complete flowId s.read (dataOf before)) ∧
    ∀ message, s.outcome ≠ .panicked message := by
  have hfaithful := faithful_of_reach h
  refine ⟨hfaithful.up.written_isPrefix, ?_, hfaithful.down.sent_isPrefix, ?_, hfaithful.noPanic⟩
  · intro hdown
    exact (hfaithful.up.down hdown).2.1.symm
  · intro before after hsplit
    exact hfaithful.down.trailers_last hsplit

end

namespace EchoRun

open Plain

/-- The client sends two bytes and its end; the target sends them back and ends too. -/
def actions : List RelayAction :=
  [.requestData (Framing.grpc.bytes (tcpData 1 [104, 105]) ++ Framing.grpc.bytes (tcpFin 1)), .frame,
    .write (.took 1), .write (.took 1), .write .complete, .frame,
    .targetRead [104, 105] zeros zeros, .capacity 7 true true, .capacity 100 true true,
    .targetRead [] zeros zeros, .capacity 100 true true]

end EchoRun

theorem relay_integrity_echo : ∃ s, (relay Plain.policy 1024 1 []).Reach s ∧
    s.written = [104, 105] ∧ s.read = [104, 105] ∧ s.sent.length = 4 ∧
    s.written = uplink 1 (s.received 1024) ∧
    ∃ response, Complete 1 s.read response ∧ dataOf s.sent <+: response := by
  obtain ⟨s, hreach, hwritten, hdown, hread, hsent⟩ :=
    (relay Plain.policy 1024 1 []).exists_reach
      (fun s => s.written = [104, 105] ∧ s.shutDown = true ∧ s.read = [104, 105] ∧
        s.sent.length = 4) EchoRun.actions (by decide +kernel)
  obtain ⟨-, hcomplete, hresponse, -⟩ := relay_integrity hreach
  exact ⟨s, hreach, hwritten, hread, hsent, hcomplete hdown, hresponse⟩

end Server
end Maverick
