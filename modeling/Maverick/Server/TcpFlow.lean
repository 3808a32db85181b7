import Maverick.Core.Payload
import Maverick.Server.H3Relay
import Maverick.Server.RelayIntegrity
import Maverick.Server.Target

/-!
# A TCP flow from its OpenTcp frame on

`handle_tunnel` and `serve_admitted` treat an OpenTcp frame alike: the payload is decoded,
a permit is taken, the target is opened, a WindowUpdate confirms the flow, and the relay
takes over.  They differ in the relay, and in that the H3 path gives up while the target is
opened once its transport is lost.

* `tcpFlow` — the system, over the relay of a path.
* `TcpFlow.relaying_of_reach` — a flow that relays runs the relay of its path.
* `initial_data_delivered` — what is written for a payload without initial data.
* `initial_data_dropped` — initial data is not written on either path.
-/

namespace Maverick
namespace Server

open Lib

section
variable {ε T R A : Type}

/-- How a tunnel carries a flow. -/
structure TcpPath (R A : Type) where
  relay : System R A
  /-- the loss of the transport cancels the set-up -/
  cancels : Bool

/-- Where a flow stands. -/
inductive TcpFlow (ε T R : Type) where
  | admitting (payload : OpenTcpPayload)
  | opening (payload : OpenTcpPayload) (target : OpenTarget ε T)
  /-- the WindowUpdate is being sent -/
  | confirming (payload : OpenTcpPayload) (target : T)
  | relaying (payload : OpenTcpPayload) (target : T) (relay : R)
  /-- the flow was answered with this frame, which ends the response -/
  | refused (answer : Frame)
  /-- the response cannot be sent any more -/
  | lost

inductive TcpFlowAction (ε T A : Type) where
  /-- `try_user_flow_permit` -/
  | permit (granted : Bool)
  | target (event : OpenTargetEvent ε T)
  | transportLost
  | confirmed (sent : Bool)
  | relay (action : A)

namespace TcpFlow

/-- The flow once `open_target_with_metrics` has moved. -/
def opened (flowId : UInt64) (payload : OpenTcpPayload) : OpenTarget ε T → TcpFlow ε T R
  | .finished _ _ (.ok target) => .confirming payload target
  | .finished _ _ (.error _) => .refused (errorFrame flowId .targetConnectFailed)
  | target => .opening payload target

/-- The flow after the payload of its OpenTcp frame. -/
def init (flowId : UInt64) (input : Bytes) : TcpFlow ε T R :=
  match OpenTcpPayload.decode input with
  | .error _ => .refused (errorFrame flowId .protocolError)
  | .ok payload => .admitting payload

def next (path : TcpPath R A) (egress : ServerEgressPolicyConfig) (flowId : UInt64) :
    TcpFlow ε T R → TcpFlowAction ε T A → Option (TcpFlow ε T R)
  | .admitting payload, .permit granted =>
    if granted then some (.opening payload .resolving)
    else some (.refused (errorFrame flowId .flowLimitExceeded))
  | .opening payload target, .target event =>
    (target.next egress event).map (opened flowId payload)
  | .opening _ _, .transportLost => if path.cancels then some .lost else none
  | .confirming payload target, .confirmed sent =>
    if sent then some (.relaying payload target path.relay.start) else some .lost
  | .relaying payload target relay, .relay action =>
    (path.relay.next relay action).map (.relaying payload target)
  | _, _ => none

end TcpFlow

/-- A flow whose OpenTcp frame has this payload. -/
def tcpFlow (path : TcpPath R A) (egress : ServerEgressPolicyConfig) (flowId : UInt64)
    (input : Bytes) : System (TcpFlow ε T R) (TcpFlowAction ε T A) where
  start := .init flowId input
  next := TcpFlow.next path egress flowId

/-! ## The relay runs as on its own -/

/-- The flow works on this payload, and a relay that runs is one of the path. -/
def TcpFlow.Opened (path : TcpPath R A) (input : Bytes) : TcpFlow ε T R → Prop
  | .admitting payload => OpenTcpPayload.decode input = .ok payload
  | .opening payload _ => OpenTcpPayload.decode input = .ok payload
  | .confirming payload _ => OpenTcpPayload.decode input = .ok payload
  | .relaying payload _ relay => OpenTcpPayload.decode input = .ok payload ∧ path.relay.Reach relay
  | .refused _ => True
  | .lost => True

namespace TcpFlow

variable {path : TcpPath R A} {egress : ServerEgressPolicyConfig} {flowId : UInt64} {input : Bytes}

theorem opened_init : (init flowId input : TcpFlow ε T R).Opened path input := by
  unfold init
  split
  · trivial
  · next hpayload => exact hpayload

theorem opened_opened {payload : OpenTcpPayload} (h : OpenTcpPayload.decode input = .ok payload)
    (target : OpenTarget ε T) : (opened flowId payload target : TcpFlow ε T R).Opened path input := by
  unfold opened
  split
  · exact h
  · trivial
  · exact h

theorem opened_next {s s' : TcpFlow ε T R} {action : TcpFlowAction ε T A}
    (hs : s.Opened path input) (h : s.next path egress flowId action = some s') :
    s'.Opened path input := by
  unfold next at h
  split at h
  · split at h
    · cases h
      exact hs
    · cases h
      trivial
  · obtain ⟨target, -, rfl⟩ := Option.map_eq_some_iff.mp h
    exact opened_opened hs target
  · obtain ⟨-, h⟩ := Option.ite_none_right_eq_some.mp h
    cases h
    trivial
  · split at h
    · cases h
      exact ⟨hs, .start⟩
    · cases h
      trivial
  · obtain ⟨relay, hrelay, rfl⟩ := Option.map_eq_some_iff.mp h
    exact ⟨hs.1, .step hs.2 trivial hrelay⟩
  · cases h

/-- **A flow that relays runs the relay of its path**, for the payload of its frame. -/
theorem relaying_of_reach {payload : OpenTcpPayload} {target : T} {relay : R}
    (h : (tcpFlow path egress flowId input : System (TcpFlow ε T R) _).Reach
      (.relaying payload target relay)) :
    OpenTcpPayload.decode input = .ok payload ∧ path.relay.Reach relay :=
  h.invariant (I := Opened path input) opened_init fun _ _ _ hs _ hnext => opened_next hs hnext

end TcpFlow
end

/-! ## The two paths -/

/-- The H2 path; the relay gets what is left in the receive buffer. -/
def h2Path (policy : TunnelRelayPolicy) (maxFrameSize : Nat) (flowId : UInt64) (recvBuf : Bytes) :
    TcpPath Relay RelayAction := ⟨relay policy maxFrameSize flowId recvBuf, false⟩

def h3Path (policy : TunnelRelayPolicy) (max : Nat) (flowId : UInt64) :
    TcpPath H3Relay H3RelayAction := ⟨h3Relay policy max flowId, true⟩

/-- The target gets the initial data and then what the frames carry. -/
structure UploadDelivered (payload : OpenTcpPayload) (flowId : UInt64) (received : List Frame)
    (written : Bytes) (shutDown : Bool) : Prop where
  isPrefix : written <+: payload.initialData ++ uplink flowId received
  complete : shutDown = true → written = payload.initialData ++ uplink flowId received

section
variable {ε T : Type} {egress : ServerEgressPolicyConfig} {policy : TunnelRelayPolicy}
  {max : Nat} {flowId : UInt64} {input : Bytes} {payload : OpenTcpPayload} {target : T}

theorem uploaded_h2 {recvBuf : Bytes} {r : Relay}
    (h : (tcpFlow (h2Path policy max flowId recvBuf) egress flowId input :
      System (TcpFlow ε T Relay) _).Reach (.relaying payload target r))
    (hempty : payload.initialData = []) :
    UploadDelivered payload flowId (r.received max) r.written r.shutDown := by
  have hfaithful := faithful_of_reach (TcpFlow.relaying_of_reach h).2
  refine ⟨?_, fun hdown => ?_⟩
  · rw [hempty]
    exact hfaithful.up.written_isPrefix
  · rw [hempty]
    exact (hfaithful.up.down hdown).2.1.symm

theorem uploaded_h3 {r : H3Relay}
    (h : (tcpFlow (h3Path policy max flowId) egress flowId input :
      System (TcpFlow ε T H3Relay) _).Reach (.relaying payload target r))
    (hempty : payload.initialData = []) :
    UploadDelivered payload flowId r.up.received r.up.written r.up.shutDown := by
  have hjoined := H3Joined.of_reach (TcpFlow.relaying_of_reach h).2
  have hprefix := hjoined.up.written_isPrefix
  rw [carried_uplinkVerdict] at hprefix
  refine ⟨?_, fun hdown => ?_⟩
  · rwa [hempty]
  · rw [hempty, ← carried_uplinkVerdict]
    exact hjoined.up.written_of_stopped (hjoined.up.shutDown hdown)

/-- **Uploads without initial data arrive.** On either path, for a payload without initial
data. -/
theorem initial_data_delivered (hdecode : OpenTcpPayload.decode input = .ok payload)
    (hempty : payload.initialData = []) :
    (∀ (recvBuf : Bytes) (p : OpenTcpPayload) (target : T) (r : Relay),
      (tcpFlow (h2Path policy max flowId recvBuf) egress flowId input :
        System (TcpFlow ε T Relay) _).Reach (.relaying p target r) →
      p = payload ∧ UploadDelivered payload flowId (r.received max) r.written r.shutDown) ∧
    ∀ (p : OpenTcpPayload) (target : T) (r : H3Relay),
      (tcpFlow (h3Path policy max flowId) egress flowId input :
        System (TcpFlow ε T H3Relay) _).Reach (.relaying p target r) →
      p = payload ∧ UploadDelivered payload flowId r.up.received r.up.written r.up.shutDown := by
  have hsame : ∀ {p}, OpenTcpPayload.decode input = .ok p → p = payload := by
    intro p hp
    rw [hdecode] at hp
    exact (Except.ok.inj hp).symm
  refine ⟨fun recvBuf p target r h => ?_, fun p target r h => ?_⟩
  · obtain rfl := hsame (TcpFlow.relaying_of_reach h).1
    exact ⟨rfl, uploaded_h2 h hempty⟩
  · obtain rfl := hsame (TcpFlow.relaying_of_reach h).1
    exact ⟨rfl, uploaded_h3 h hempty⟩

end

/-! ## Two flows -/

namespace OneTarget

open Plain

def payload (initialData : Bytes) : OpenTcpPayload := ⟨.ipv4 ⟨8, 8, 8, 8⟩, 443, initialData⟩

def h2Flow (initialData : Bytes) :
    System (TcpFlow Unit Unit Relay) (TcpFlowAction Unit Unit RelayAction) :=
  tcpFlow (h2Path policy 65536 1 []) {} 1 (payload initialData).bytes

def h3Flow (initialData : Bytes) :
    System (TcpFlow Unit Unit H3Relay) (TcpFlowAction Unit Unit H3RelayAction) :=
  tcpFlow (h3Path policy 65536 1) {} 1 (payload initialData).bytes

/-- The target is found at its address. -/
def setUp {A : Type} : List (TcpFlowAction Unit Unit A) :=
  [.permit true, .target (.resolved (.answered [⟨.v4 ⟨8, 8, 8, 8⟩, 443⟩])),
    .target (.connect (.completed 0 (.ok ()))), .confirmed true]

/-- The client sends some bytes and its end. -/
def h2Upload (data : Bytes) : List (TcpFlowAction Unit Unit RelayAction) :=
  [.relay (.requestData (Framing.grpc.bytes (tcpData 1 data) ++ Framing.grpc.bytes (tcpFin 1))),
    .relay .frame, .relay (.write (.took data.length)), .relay (.write .complete), .relay .frame]

def h3Upload (data : Bytes) : List (TcpFlowAction Unit Unit H3RelayAction) :=
  [.relay (.receive (.frame (tcpData 1 data))), .relay (.write data.length),
    .relay (.receive (.frame (tcpFin 1))), .relay (.shutdown (.ok ()))]

/-- What can be checked of the relay that a run leads to. -/
theorem exists_relaying {R A : Type} (M : System (TcpFlow Unit Unit R) A) (p : OpenTcpPayload)
    (good : R → Bool) (as : List A) (h : (M.run M.start as).any (fun
      | .relaying p' _ r => p' = p && good r
      | _ => false) = true) : ∃ r, M.Reach (.relaying p () r) ∧ good r = true := by
  obtain ⟨s, hrun, hs⟩ := (Option.any_eq_true _ _).mp h
  cases s with
  | relaying p' target r =>
    simp only [Bool.and_eq_true, decide_eq_true_eq] at hs
    obtain ⟨rfl, hgood⟩ := hs
    exact ⟨r, System.reach_of_run .start hrun, hgood⟩
  | _ => cases hs

theorem reach_h2Flow (initialData : Bytes) (h : initialData ∈ [[], [7]]) :
    ∃ r, (h2Flow initialData).Reach (.relaying (payload initialData) () r) ∧
      r.shutDown = true ∧ r.written = [8] := by
  rcases List.mem_pair.mp h with rfl | rfl <;>
    simpa using exists_relaying (h2Flow _) (payload _) (fun r => r.shutDown && r.written = [8])
      (setUp ++ h2Upload [8]) (by decide +kernel)

theorem reach_h3Flow (initialData : Bytes) (h : initialData ∈ [[], [7]]) :
    ∃ r, (h3Flow initialData).Reach (.relaying (payload initialData) () r) ∧
      r.up.shutDown = true ∧ r.up.written = [8] := by
  rcases List.mem_pair.mp h with rfl | rfl <;>
    simpa using exists_relaying (h3Flow _) (payload _) (fun r => r.up.shutDown && r.up.written = [8])
      (setUp ++ h3Upload [8]) (by decide +kernel)

end OneTarget

/-- Without initial data the one byte of the client arrives, on both paths. -/
theorem initial_data_delivered_oneByte :
    (∃ r, (OneTarget.h2Flow []).Reach (.relaying (OneTarget.payload []) () r) ∧ r.written = [8] ∧
      UploadDelivered (OneTarget.payload []) 1 (r.received 65536) r.written r.shutDown) ∧
    ∃ r, (OneTarget.h3Flow []).Reach (.relaying (OneTarget.payload []) () r) ∧ r.up.written = [8] ∧
      UploadDelivered (OneTarget.payload []) 1 r.up.received r.up.written r.up.shutDown := by
  have hdecode : OpenTcpPayload.decode (OneTarget.payload []).bytes = .ok (OneTarget.payload []) :=
    OpenTcpPayload.decode_eq_ok.mpr ⟨⟨trivial, by decide⟩, rfl⟩
  obtain ⟨r₂, hreach₂, -, hwritten₂⟩ := OneTarget.reach_h2Flow [] (by decide)
  obtain ⟨r₃, hreach₃, -, hwritten₃⟩ := OneTarget.reach_h3Flow [] (by decide)
  exact ⟨⟨r₂, hreach₂, hwritten₂, ((initial_data_delivered hdecode rfl).1 _ _ _ r₂ hreach₂).2⟩,
    r₃, hreach₃, hwritten₃, ((initial_data_delivered hdecode rfl).2 _ _ r₃ hreach₃).2⟩

/-- **Initial data is dropped**, on both paths: the target gets the byte of the TcpData
frame, and its writer is shut down. -/
theorem initial_data_dropped :
    OpenTcpPayload.decode (OneTarget.payload [7]).bytes = .ok (OneTarget.payload [7]) ∧
    (∃ r, (OneTarget.h2Flow [7]).Reach (.relaying (OneTarget.payload [7]) () r) ∧
      r.shutDown = true ∧ r.written = [8] ∧
      ¬ UploadDelivered (OneTarget.payload [7]) 1 (r.received 65536) r.written r.shutDown) ∧
    ∃ r, (OneTarget.h3Flow [7]).Reach (.relaying (OneTarget.payload [7]) () r) ∧
      r.up.shutDown = true ∧ r.up.written = [8] ∧
      ¬ UploadDelivered (OneTarget.payload [7]) 1 r.up.received r.up.written r.up.shutDown := by
  refine ⟨OpenTcpPayload.decode_eq_ok.mpr ⟨⟨trivial, by decide⟩, rfl⟩, ?_, ?_⟩
  · obtain ⟨r, hreach, hdown, hwritten⟩ := OneTarget.reach_h2Flow [7] (by decide)
    refine ⟨r, hreach, hdown, hwritten, fun huploaded => ?_⟩
    have hall := huploaded.complete hdown
    cases hwritten.symm.trans hall
  obtain ⟨r, hreach, hdown, hwritten⟩ := OneTarget.reach_h3Flow [7] (by decide)
  refine ⟨r, hreach, hdown, hwritten, fun huploaded => ?_⟩
  have hall := huploaded.complete hdown
  cases hwritten.symm.trans hall

end Server
end Maverick
