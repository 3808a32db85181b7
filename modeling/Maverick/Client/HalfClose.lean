import Maverick.Client.Relay

/-!
# Half-close on the client's carriers

A TcpFin of the server ends the download only: H2 and H3 go on with the upload until the local
side ends too.  The WebSocket loop returns with the TcpFin.  And on H2 and H3 the download still
waits for the end of the response: if that fails, the upload is cut off with it.

* `HalfClosed` — what a relay owes to the upload after a TcpFin.
* `ws_fin_ends_upload` — on WebSocket the upload is cut off.
* `Unhindered` — on WebSocket the upload has ended before the TcpFin, and on H2 and H3 the
  response ends well while the upload goes on.
* `upload_survives_fin` — then the upload is sent to its end.
-/

namespace Maverick
namespace Client

open Lib Server

/-- The idle timeout, or an error of the local stream or the carrier. -/
def ClientRelayOutcome.Interrupted : ClientRelayOutcome → Prop
  | .idle | .failed (.io _) => True
  | .failed (.message text) => text = "H3 relay idle timeout" ∨ text = "H3 request transport closed"
  | .returned _ | .failed (.frame _) => False

/-- After the TcpFin the upload goes on, and a relay that has ended without an interruption has
sent all of it. -/
structure HalfClosed (carrier : Carrier) (flowId : UInt64) (s : ClientRelay) : Prop where
  running : s.outcome = none → s.up.phase ≠ .done → s.uploading carrier = true
  ended : ∀ outcome, s.outcome = some outcome → ¬ outcome.Interrupted →
    ∃ chunks : List Bytes, (∀ chunk ∈ chunks, chunk ≠ []) ∧
      Lib.visible Relay.isPadding s.up.sent =
        chunks.map (fun chunk => (tcpData flowId chunk, false)) ++ [(tcpFin flowId, true)] ∧
      chunks.flatten = s.up.read ∧ s.up.ended = true

namespace ClientRelay

/-- The download has ended with a TcpFin. -/
def finSeen (s : ClientRelay) : Bool :=
  match s.down.phase with
  | .stopped f => f.frameType = .tcpFin
  | _ => false

/-- On WebSocket this frame is no TcpFin, or the upload has ended. -/
def MayHand (carrier : Carrier) (flowId : UInt64) (s : ClientRelay) : Option Frame → Prop
  | none => True
  | some f =>
    carrier = .cloudflareWs → f.flowId = flowId ∧ f.frameType = .tcpFin → s.up.phase = .done

instance (carrier : Carrier) (flowId : UInt64) (s : ClientRelay) :
    ∀ handed, Decidable (s.MayHand carrier flowId handed)
  | none => .isTrue trivial
  | some f => inferInstanceAs (Decidable (_ → f.flowId = flowId ∧ f.frameType = .tcpFin → _))

/-- Behind the TcpFin the response has only Padding and ends in time, with status 0 if it has
trailers; and no frame of the upload is too large. -/
def endsWell (carrier : Carrier) (max : Nat) (s : ClientRelay) : ClientRelayAction → Bool
  | .decode =>
    match carrier.decode max s.recvBuf with
    | .ok (some (f, _)) => f.frameType = .padding
    | .ok none => true
    | .error _ => false
  | .streamEnd trailers => s.recvBuf = [] && (checkTrailers trailers).isOk
  | .item (.frame f) => f.payload.length ≤ max && f.frameType = .padding
  | .item (.failed _) | .finishTimedOut => false
  | .send => s.up.queue.all fun item => item.1.payload.length ≤ max
  | _ => true

/-- On WebSocket the TcpFin is read when the upload has ended; an upload that goes on after the
TcpFin sees the response end well. -/
def Unhindered (carrier : Carrier) (max : Nat) (flowId : UInt64) (s : ClientRelay)
    (action : ClientRelayAction) : Prop :=
  s.MayHand carrier flowId (s.handed carrier max action) ∧
    (s.finSeen = true → s.up.phase ≠ .done → s.endsWell carrier max action = true)

instance (carrier : Carrier) (max : Nat) (flowId : UInt64) (s : ClientRelay)
    (action : ClientRelayAction) : Decidable (s.Unhindered carrier max flowId action) :=
  inferInstanceAs (Decidable (_ ∧ _))

end ClientRelay

/-! The local side has sent two bytes and is not done. -/

namespace CutOff

def trace : List ClientRelayAction :=
  [.read [104, 105] Plain.zeros Plain.zeros, .send, .chunk (tcpFin 1).bytes, .decode,
    .shutdown (.ok ())]

end CutOff

/-- **The WebSocket relay returns with the TcpFin**, whatever the local side has to send. -/
theorem ws_fin_ends_upload : ∃ s : ClientRelay,
    (clientRelay .cloudflareWs Plain.policy 65536 1 []).Reach s ∧
    s.down.phase = .stopped (tcpFin 1) ∧ ¬ HalfClosed .cloudflareWs 1 s := by
  obtain ⟨s, hreach, hreturned, hphase, hopen⟩ :=
    (clientRelay .cloudflareWs Plain.policy 65536 1 []).exists_reach
      (fun s => s.outcome = some (.returned .graceful) ∧ s.down.phase = .stopped (tcpFin 1) ∧
        s.up.ended = false) CutOff.trace (by decide +kernel)
  refine ⟨s, hreach, hphase, fun h => ?_⟩
  obtain ⟨-, -, -, -, hended⟩ := h.ended _ hreturned (by simp [ClientRelayOutcome.Interrupted])
  cases hopen.symm.trans hended

section
variable {carrier : Carrier} {policy : TunnelRelayPolicy} {max : Nat} {flowId : UInt64}
  {recvBuf : Bytes} {s s' : ClientRelay} {action : ClientRelayAction} {f : Frame}

theorem ClientRelay.finSeen_iff : s.finSeen = true ↔
    ∃ f, s.down.phase = .stopped f ∧ f.frameType = .tcpFin := by
  unfold finSeen
  split
  · simp_all
  · rename_i hphase
    exact ⟨nofun, fun ⟨f, hf, _⟩ => absurd hf (hphase f)⟩

/-- A TcpFin comes with a frame that the relay takes. -/
theorem ClientEffect.finSeen (h : ClientEffect carrier max flowId s action s')
    (hseen : s'.finSeen = true) : s.finSeen = true ∨
      s'.outcome = s.outcome ∧ s'.up = s.up ∧ ∃ f, s.handed carrier max action = some f ∧
        f.flowId = flowId ∧ f.frameType = .tcpFin := by
  cases h with
  | took f buf _ _ hhanded =>
    obtain ⟨g, hg, htype⟩ := ClientRelay.finSeen_iff.mp hseen
    rw [ClientRelay.takeFrame_down] at hg
    obtain ⟨hstop, rfl⟩ := Inlet.phase_take_eq_stopped.mp hg
    obtain ⟨hflow, -⟩ := stop_of_downloadVerdict hstop
    refine .inr ⟨?_, ClientRelay.takeFrame_up .., g, hhanded, hflow, htype⟩
    simp only [ClientRelay.takeFrame, hflow, htype, if_true]
  | finished _ | shutWs _ _ | sent _ =>
    refine .inl ?_
    rw [ClientRelay.finSeen, ClientRelay.settle_down] at hseen
    exact hseen
  | wrote hwrote =>
    obtain ⟨g, hg, -⟩ := ClientRelay.finSeen_iff.mp hseen
    have hopen := Inlet.isStopped_wrote hwrote
    rw [Inlet.isStopped, show _ = InletPhase.stopped g from hg] at hopen
    cases hopen
  | _ => exact .inl hseen

/-- An upload that is done stays so. -/
theorem ClientEffect.done (h : ClientEffect carrier max flowId s action s')
    (hdone : s.up.phase = .done) : s'.up.phase = .done := by
  cases h with
  | filled hphase _ _ => cases hdone.symm.trans hphase
  | sent hsent =>
    rw [Outlet.sendNext, hdone] at hsent
    cases hsent
  | took | finished | shutWs => simpa using hdone
  | _ => exact hdone

namespace ClientRelay

/-- The relay goes on, was interrupted, or has sent the upload to its end. -/
def Excused (s : ClientRelay) : Prop :=
  s.outcome = none ∨ (∃ outcome, s.outcome = some outcome ∧ outcome.Interrupted) ∨
    s.up.phase = .done

theorem excused_io (s : ClientRelay) (text : String) : (s.fail (.io text)).Excused :=
  .inr (.inl ⟨_, rfl, trivial⟩)

theorem not_reading (hphase : s.down.phase = .stopped f) : s.down.phase ≠ .reading := by
  simp [hphase]

/-! What a running relay does behind the TcpFin, handler by handler. -/

section
variable (hrunning : s.outcome = none)
include hrunning

theorem excused_onShutdown (htype : f.frameType = .tcpFin) (hcarrier : carrier ≠ .cloudflareWs)
    (result : Except String Unit) : (s.onShutdown carrier f result).Excused := by
  match carrier, result with
  | .cloudflareWs, _ => exact absurd rfl hcarrier
  | .h2, .ok _ | .h3, .ok _ => exact .inl hrunning
  | .h2, .error text =>
    rw [onShutdown, if_pos htype]
    exact s.excused_io text
  | .h3, .error text => exact s.excused_io text

variable (hphase : s.down.phase = .stopped f)
include hphase

theorem excused_onFrame {g : Frame} (hpadding : g.frameType = .padding) :
    (s.onFrame carrier flowId g).Excused := by
  unfold onFrame
  rw [if_neg (not_reading hphase), if_pos hpadding]
  exact .inl hrunning

variable (htype : f.frameType = .tcpFin) (hcarrier : carrier ≠ .cloudflareWs)
include htype hcarrier

/-- The relay settles with the upload. -/
theorem excused_settle : (s.settle carrier).Excused := by
  rcases s.settle_cases carrier with heq | ⟨g, hg, hends, -⟩
  · rw [heq]
    exact .inl hrunning
  cases hphase.symm.trans hg
  right; right
  rw [settle_up]
  exact (hends.resolve_left hcarrier).resolve_left (not_not.mpr htype)

theorem excused_onEnd {trailers : Option (List Bytes)}
    (hwell : s.endsWell carrier max (.streamEnd trailers) = true) :
    (s.onEnd carrier trailers).Excused := by
  simp only [endsWell, Bool.and_eq_true, decide_eq_true_eq] at hwell
  rw [onEnd, if_neg (not_reading hphase), if_neg (not_not.mpr hwell.1)]
  cases hstatus : checkTrailers trailers with
  | error text =>
    rw [hstatus] at hwell
    cases hwell.2
  | ok _ => exact excused_settle hrunning hphase htype hcarrier

theorem excused_onItem {item : ChannelItem} (hwell : s.endsWell carrier max (.item item) = true) :
    (s.onItem carrier flowId max item).Excused := by
  cases item with
  | closed => exact s.excused_io _
  | failed error => cases hwell
  | ended =>
    rw [onItem, if_neg (not_reading hphase)]
    exact excused_settle hrunning hphase htype hcarrier
  | frame g =>
    simp only [endsWell, Bool.and_eq_true, decide_eq_true_eq] at hwell
    rw [onItem, if_neg (not_lt.mpr hwell.1)]
    exact excused_onFrame hrunning hphase hwell.2

theorem excused_onSend (hwell : s.endsWell carrier max .send = true)
    (hsend : s.onSend carrier max = some s') : s'.Excused := by
  unfold onSend at hsend
  split at hsend
  · cases hsend
  rename_i hqueue
  simp only [endsWell, hqueue, List.all_cons, Bool.and_eq_true, decide_eq_true_eq] at hwell
  rw [if_neg (not_lt.mpr hwell.1)] at hsend
  obtain ⟨up, -, rfl⟩ := Option.map_eq_some_iff.mp hsend
  exact excused_settle hrunning hphase htype hcarrier

end

/-- While the upload goes on after a TcpFin, only an interruption ends the relay. -/
theorem excused_next (hnext : s.next carrier flowId policy max action = some s')
    (hcarrier : carrier ≠ .cloudflareWs) (hphase : s.down.phase = .stopped f)
    (htype : f.frameType = .tcpFin) (hwell : s.endsWell carrier max action = true) :
    s'.Excused := by
  have hrunning := (next_effect hnext).1
  have hrest : s.down.rest = [] := by rw [Inlet.rest, hphase]
  unfold next at hnext
  split at hnext
  · cases hnext
  cases action with
  | chunk _ | read _ _ _ =>
    obtain ⟨-, hnext⟩ := Option.ite_none_right_eq_some.mp hnext
    cases hnext
    exact .inl hrunning
  | decode =>
    obtain ⟨-, hnext⟩ := Option.ite_none_right_eq_some.mp hnext
    split at hnext <;> rename_i hdecode <;> cases hnext <;>
      simp only [endsWell, hdecode, Bool.false_eq_true, decide_eq_true_eq] at hwell
    rename_i rest
    exact excused_onFrame (s := { s with recvBuf := rest }) hrunning hphase hwell
  | streamEnd trailers =>
    obtain ⟨-, hnext⟩ := Option.ite_none_right_eq_some.mp hnext
    cases hnext
    exact excused_onEnd hrunning hphase htype hcarrier hwell
  | item item =>
    obtain ⟨-, hnext⟩ := Option.ite_none_right_eq_some.mp hnext
    cases hnext
    exact excused_onItem hrunning hphase htype hcarrier hwell
  | write _ | writeTimedOut | writeFailed _ =>
    obtain ⟨hopen, -⟩ := Option.ite_none_right_eq_some.mp hnext
    exact absurd hrest hopen
  | shutdown result =>
    simp only [hphase] at hnext
    obtain ⟨-, hnext⟩ := Option.ite_none_right_eq_some.mp hnext
    cases hnext
    exact excused_onShutdown hrunning htype hcarrier result
  | finishTimedOut => cases hwell
  | requestClosed =>
    obtain ⟨-, hnext⟩ := Option.ite_none_right_eq_some.mp hnext
    cases hnext
    exact .inr (.inl ⟨_, rfl, .inr rfl⟩)
  | send =>
    obtain ⟨-, hnext⟩ := Option.ite_none_right_eq_some.mp hnext
    exact excused_onSend hrunning hphase htype hcarrier hwell hnext
  | idle =>
    cases carrier with
    | cloudflareWs => exact absurd rfl hcarrier
    | h3 =>
      cases hnext
      exact .inr (.inl ⟨_, rfl, .inl rfl⟩)
    | h2 =>
      obtain ⟨-, hnext⟩ := Option.ite_none_right_eq_some.mp hnext
      cases hnext
      exact .inr (.inl ⟨_, rfl, trivial⟩)
  | receiveFailed text | readFailed text | sendFailed text =>
    obtain ⟨-, hnext⟩ := Option.ite_none_right_eq_some.mp hnext
    cases hnext
    exact s.excused_io text

end ClientRelay

/-- A relay that has seen a TcpFin does not end without the upload; on WebSocket the upload has
ended before. -/
def UploadKept (carrier : Carrier) (s : ClientRelay) : Prop :=
  s.finSeen = true → (carrier = .cloudflareWs → s.up.phase = .done) ∧ s.Excused

theorem UploadKept.next (h : UploadKept carrier s) (hgood : s.Unhindered carrier max flowId action)
    (hnext : s.next carrier flowId policy max action = some s') : UploadKept carrier s' := by
  obtain ⟨hrunning, heffect⟩ := ClientRelay.next_effect hnext
  intro hseen'
  rcases heffect.finSeen hseen' with hseen | ⟨houtcome, hup, f, hhanded, htype⟩
  · by_cases hdone : s.up.phase = .done
    · exact ⟨fun _ => heffect.done hdone, .inr (.inr (heffect.done hdone))⟩
    · have hcarrier : carrier ≠ .cloudflareWs := fun heq => hdone ((h hseen).1 heq)
      obtain ⟨f, hphase, htype⟩ := ClientRelay.finSeen_iff.mp hseen
      exact ⟨fun heq => absurd heq hcarrier,
        ClientRelay.excused_next hnext hcarrier hphase htype (hgood.2 hseen hdone)⟩
  · have hmay := hgood.1
    rw [hhanded] at hmay
    refine ⟨fun heq => ?_, .inl (houtcome.trans hrunning)⟩
    rw [hup]
    exact hmay heq htype

/-- **The upload survives the TcpFin.** -/
theorem upload_survives_fin
    (h : (clientRelay carrier policy max flowId recvBuf).ReachBy
      (fun s action => s.Unhindered carrier max flowId action) s)
    (hphase : s.down.phase = .stopped f) (htype : f.frameType = .tcpFin) :
    HalfClosed carrier flowId s := by
  have hjoined := ClientJoined.of_reach h
  have hstart : UploadKept carrier (.start recvBuf) := fun hseen => (by cases hseen)
  have hkept : UploadKept carrier s :=
    h.invariant (I := UploadKept carrier) hstart fun _ _ _ hkept hgood hnext =>
      hkept.next hgood hnext
  obtain ⟨hws, hexcused⟩ := hkept (ClientRelay.finSeen_iff.mpr ⟨f, hphase, htype⟩)
  refine ⟨fun _ hopen => ?_, fun outcome houtcome hfree => ?_⟩
  · cases carrier with
    | h3 => rfl
    | h2 =>
      rw [ClientRelay.uploading, hphase]
      exact decide_eq_true htype
    | cloudflareWs => exact absurd (hws rfl) hopen
  · have hdone : s.up.phase = .done := by
      rcases hexcused with hnone | ⟨_, hsome, hinterrupted⟩ | hdone
      · cases hnone.symm.trans houtcome
      · cases hsome.symm.trans houtcome
        exact absurd hinterrupted hfree
      · exact hdone
    obtain ⟨chunks, hchunks, hread, hitems, hend⟩ := hjoined.up.sent_of_done hdone
    refine ⟨chunks, hchunks, ?_, hread, hend⟩
    rw [hitems, itemsOf_downlinkFrame hchunks]
    rfl

end

/-! H2: the server ends, an upload follows; Padding and the trailers come in between. -/

namespace LateUpload

def trace : List ClientRelayAction :=
  [.chunk (Framing.grpc.bytes (tcpFin 1)), .decode, .shutdown (.ok ()),
    .read [104, 105] Plain.zeros Plain.zeros,
    .chunk (Framing.grpc.bytes ⟨.padding, 0, 1, [0]⟩), .decode, .send, .streamEnd (some [[48]]),
    .read [33] Plain.zeros Plain.zeros, .send,
    .read [] Plain.zeros Plain.zeros, .send]

end LateUpload

theorem upload_survives_fin_late : ∃ s : ClientRelay,
    s.outcome = some (.returned .graceful) ∧
    s.up.sent = [(tcpData 1 [104, 105], false), (tcpData 1 [33], false), (tcpFin 1, true)] ∧
    HalfClosed .h2 1 s := by
  obtain ⟨s, hreach, hreturned, hphase, hsent⟩ :=
    (clientRelay .h2 Plain.policy 65536 1 []).exists_reachBy
      (fun s action => s.Unhindered .h2 65536 1 action)
      (fun s => s.outcome = some (.returned .graceful) ∧ s.down.phase = .stopped (tcpFin 1) ∧
        s.up.sent = [(tcpData 1 [104, 105], false), (tcpData 1 [33], false), (tcpFin 1, true)])
      LateUpload.trace (by decide +kernel)
  exact ⟨s, hreturned, hsent, upload_survives_fin hreach hphase rfl⟩

end Client
end Maverick
