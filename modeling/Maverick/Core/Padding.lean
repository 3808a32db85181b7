import Maverick.Core.Frame

/-!
# Padding and cover traffic

`maverick_core::padding`, as far as it decides which Padding frames go along with
a frame.  The overhead ratio is given by the budgets that the code computes from
it; the floating-point product is not modelled.  Random bytes are arguments.

* `RuntimePadding.paddingFrame_spec`, `RuntimeCoverTraffic.paddingFrames_spec` —
  all of them are Padding frames within the frame size.
* `RuntimeBatcher.push_spec` — a batcher neither loses nor reorders frames.
-/

namespace Maverick

open Lib

inductive PaddingKind where
  | none
  | light
  | auto
  | private_
  deriving DecidableEq

/-- A ratio as what is computed from it: nothing unless it is finite and positive,
else the floor of its product with a payload length. -/
abbrev OverheadRatio := Option (Nat → Nat)

structure ShapingConfig where
  enabled : Bool := false
  maxPaddingBytesPerFrame : UInt16 := 256
  /-- `0.25` by default -/
  maxOverheadRatio : OverheadRatio := some (· / 4)
  maxDelayMs : Nat := 20
  maxBatchBytes : UInt32 := 65536
  coverTraffic : Bool := false
  coverTrafficOperatorApproved : Bool := false
  coverTrafficWindowMs : Nat := 1000

structure ShapingBounds where
  maxPaddingBytesPerFrame : Nat := 256
  maxOverheadRatio : OverheadRatio := some (· / 4)
  maxDelayMs : Nat := 20
  maxBatchBytes : Nat := 65536

/-- `ShapingBounds::from` -/
def ShapingBounds.ofConfig (config : ShapingConfig) : ShapingBounds where
  maxPaddingBytesPerFrame := config.maxPaddingBytesPerFrame.toNat
  maxOverheadRatio := config.maxOverheadRatio
  maxDelayMs := config.maxDelayMs
  maxBatchBytes := config.maxBatchBytes.toNat

/-- A source of random bytes. -/
abbrev RandomBytes := (len : Nat) → Block len

/-- The Padding frame with `len` random bytes. -/
def Frame.randomPadding (random : RandomBytes) (len : Nat) : Frame := ⟨.padding, 0, 0, (random len).1⟩

/-! ## Padding of a frame -/

structure BudgetedPaddingPolicy where
  kind : PaddingKind
  bounds : ShapingBounds

namespace BudgetedPaddingPolicy

/-- `overhead_cap` -/
def overheadCap (p : BudgetedPaddingPolicy) (payloadLen : Nat) : Nat :=
  match p.bounds.maxOverheadRatio with
  | none => 0
  | some budget => budget payloadLen

/-- `pad_outgoing_frame` -/
def padOutgoingFrame (p : BudgetedPaddingPolicy) (frameType : FrameType) (payloadLen : Nat) : Nat :=
  if frameType = .clientHello ∨ frameType = .serverHello ∨ frameType = .error ∨
      frameType = .padding then 0
  else
    let cap := min p.bounds.maxPaddingBytesPerFrame (p.overheadCap payloadLen)
    match p.kind with
    | .none => 0
    | .light => min cap 16
    | .auto => min cap 64
    | .private_ => cap

end BudgetedPaddingPolicy

structure RuntimePadding where
  enabled : Bool
  policy : BudgetedPaddingPolicy

namespace RuntimePadding

def disabled : RuntimePadding := ⟨false, ⟨.none, {}⟩⟩

/-- `RuntimePadding::from_config` -/
def fromConfig (mode : Mode) (config : ShapingConfig) : RuntimePadding :=
  if config.enabled = false then disabled
  else
    match mode with
    | .stable => disabled
    | .auto => ⟨true, ⟨.auto, .ofConfig config⟩⟩
    | .private_ => ⟨true, ⟨.private_, .ofConfig config⟩⟩

/-- `padding_frame` -/
def paddingFrame (p : RuntimePadding) (random : RandomBytes) (frameType : FrameType)
    (payloadLen maxFrameSize : Nat) : Option Frame :=
  if p.enabled = false ∨ maxFrameSize = 0 then none
  else
    let paddingLen := min (p.policy.padOutgoingFrame frameType payloadLen) maxFrameSize
    if paddingLen = 0 then none else some (.randomPadding random paddingLen)

theorem paddingFrame_spec {p : RuntimePadding} {random : RandomBytes} {frameType : FrameType}
    {payloadLen maxFrameSize : Nat} {f : Frame}
    (h : p.paddingFrame random frameType payloadLen maxFrameSize = some f) :
    f.frameType = .padding ∧ f.payload.length ≤ maxFrameSize := by
  unfold paddingFrame at h
  split at h
  · cases h
  dsimp only at h
  split at h
  · cases h
  cases h
  refine ⟨rfl, ?_⟩
  show ((random _).1).length ≤ maxFrameSize
  rw [(random _).2]
  exact Nat.min_le_right _ _

end RuntimePadding

/-! ## Cover traffic -/

structure CoverTrafficPlan where
  maxFramesPerWindow : Nat
  maxBytesPerWindow : Nat
  framePayloadBytes : Nat
  spacingMs : Nat
  deriving DecidableEq

structure CoverTrafficOperatorPolicy where
  operatorApproved : Bool
  windowMs : Nat
  deriving DecidableEq

/-- `CoverTrafficOperatorPolicy::disabled` -/
def CoverTrafficOperatorPolicy.disabled : CoverTrafficOperatorPolicy := ⟨false, 1000⟩

inductive CoverTrafficDecisionReason where
  | ready
  | disabled
  | stableMode
  | missingOperatorApproval
  | invalidWindow
  | missingObservedPayloadBudget
  | budgetUnavailable
  deriving DecidableEq

structure CoverTrafficDecision where
  reason : CoverTrafficDecisionReason
  plan : Option CoverTrafficPlan
  deriving DecidableEq

/-- `cover_traffic_plan` -/
def coverTrafficPlan (mode : Mode) (config : ShapingConfig) (observedPayloadBytes windowMs : Nat) :
    Option CoverTrafficPlan :=
  if mode = .stable ∨ config.enabled = false ∨ config.coverTraffic = false ∨
      observedPayloadBytes = 0 ∨ windowMs = 0 then none
  else
    let bounds := ShapingBounds.ofConfig config
    match bounds.maxOverheadRatio with
    | none => none
    | some budget =>
      let maxBytes := min (budget observedPayloadBytes) bounds.maxBatchBytes
      if maxBytes = 0 then none
      else
        let framePayloadBytes := min bounds.maxPaddingBytesPerFrame maxBytes
        if framePayloadBytes = 0 then none
        else
          let maxFrames := (maxBytes + framePayloadBytes - 1) / framePayloadBytes
          some
            { maxFramesPerWindow := maxFrames
              maxBytesPerWindow := maxBytes
              framePayloadBytes
              spacingMs := max (windowMs / maxFrames) 1 }

/-- `cover_traffic_decision` -/
def coverTrafficDecision (mode : Mode) (config : ShapingConfig) (observedPayloadBytes : Nat)
    (operatorPolicy : CoverTrafficOperatorPolicy) : CoverTrafficDecision :=
  if config.enabled = false ∨ config.coverTraffic = false then ⟨.disabled, none⟩
  else if mode = .stable then ⟨.stableMode, none⟩
  else if operatorPolicy.operatorApproved = false then ⟨.missingOperatorApproval, none⟩
  else if operatorPolicy.windowMs = 0 then ⟨.invalidWindow, none⟩
  else if observedPayloadBytes = 0 then ⟨.missingObservedPayloadBudget, none⟩
  else
    match coverTrafficPlan mode config observedPayloadBytes operatorPolicy.windowMs with
    | some plan => ⟨.ready, some plan⟩
    | none => ⟨.budgetUnavailable, none⟩

structure CoverTrafficEmitter where
  plan : CoverTrafficPlan
  emittedFrames : Nat
  emittedBytes : Nat
  deriving DecidableEq

/-- `CoverTrafficEmitter::new` -/
def CoverTrafficEmitter.new (plan : CoverTrafficPlan) : CoverTrafficEmitter := ⟨plan, 0, 0⟩

/-- `next_padding_frame` -/
def CoverTrafficEmitter.nextPaddingFrame (e : CoverTrafficEmitter) (random : RandomBytes) :
    CoverTrafficEmitter × Option Frame :=
  if e.plan.maxFramesPerWindow ≤ e.emittedFrames ∨ e.plan.maxBytesPerWindow ≤ e.emittedBytes then
    (e, none)
  else
    let remainingBytes := e.plan.maxBytesPerWindow - e.emittedBytes
    let payloadLen := min e.plan.framePayloadBytes remainingBytes
    if payloadLen = 0 then (e, none)
    else
      ({ e with emittedFrames := e.emittedFrames + 1, emittedBytes := e.emittedBytes + payloadLen },
        some (.randomPadding random payloadLen))

theorem CoverTrafficEmitter.nextPaddingFrame_spec {e : CoverTrafficEmitter} {random : RandomBytes}
    {f : Frame} (h : (e.nextPaddingFrame random).2 = some f) :
    f.frameType = .padding ∧ f.payload.length ≤ e.plan.framePayloadBytes ∧
      f.payload.length ≤ e.plan.maxBytesPerWindow := by
  unfold nextPaddingFrame at h
  split at h
  · cases h
  dsimp only at h
  split at h
  · cases h
  cases h
  rw [Frame.randomPadding, (random _).2]
  exact ⟨rfl, by omega, by omega⟩

structure RuntimeCoverTraffic where
  mode : Mode
  config : ShapingConfig
  operatorPolicy : CoverTrafficOperatorPolicy

/-- Frame types that may wait, and that cover traffic goes along with. -/
def isDelayEligible (frameType : FrameType) : Bool :=
  match frameType with
  | .clientHello | .serverHello | .tcpFin | .tcpReset | .closeFlow | .error | .padding => false
  | _ => true

namespace RuntimeCoverTraffic

def disabled : RuntimeCoverTraffic := ⟨.stable, {}, .disabled⟩

/-- `RuntimeCoverTraffic::from_config` -/
def fromConfig (mode : Mode) (config : ShapingConfig) : RuntimeCoverTraffic :=
  if config.enabled = false ∨ config.coverTraffic = false ∨ mode = .stable then disabled
  else
    ⟨mode, config,
      if config.coverTrafficOperatorApproved then ⟨true, config.coverTrafficWindowMs⟩ else .disabled⟩

/-- `padding_frames` -/
def paddingFrames (c : RuntimeCoverTraffic) (random : RandomBytes) (frameType : FrameType)
    (observedPayloadBytes maxFrameSize : Nat) : List Frame :=
  if isDelayEligible frameType = false ∨ observedPayloadBytes = 0 ∨ maxFrameSize = 0 then []
  else
    match (coverTrafficDecision c.mode c.config observedPayloadBytes c.operatorPolicy).plan with
    | none => []
    | some plan =>
      let plan := { plan with
        framePayloadBytes := min plan.framePayloadBytes maxFrameSize
        maxBytesPerWindow := min plan.maxBytesPerWindow maxFrameSize
        maxFramesPerWindow := min plan.maxFramesPerWindow 1 }
      ((CoverTrafficEmitter.new plan).nextPaddingFrame random).2.toList

theorem paddingFrames_spec {c : RuntimeCoverTraffic} {random : RandomBytes} {frameType : FrameType}
    {observedPayloadBytes maxFrameSize : Nat} :
    ∀ f ∈ c.paddingFrames random frameType observedPayloadBytes maxFrameSize,
      f.frameType = .padding ∧ f.payload.length ≤ maxFrameSize ∧ ∃ plan,
        (coverTrafficDecision c.mode c.config observedPayloadBytes c.operatorPolicy).plan =
          some plan ∧ f.payload.length ≤ plan.maxBytesPerWindow := by
  intro f hf
  unfold paddingFrames at hf
  split at hf
  · cases hf
  split at hf
  · cases hf
  next plan hplan =>
    dsimp only at hf
    obtain ⟨htype, hlen, hbytes⟩ :=
      CoverTrafficEmitter.nextPaddingFrame_spec (Option.mem_toList.mp hf)
    exact ⟨htype, le_trans hlen (Nat.min_le_right _ _), plan, hplan,
      le_trans hbytes (Nat.min_le_left _ _)⟩

end RuntimeCoverTraffic

/-! ## Delays and batches -/

/-- `pacing_delay`, in milliseconds -/
def RuntimePadding.pacingDelay (p : RuntimePadding) (frameType : FrameType) (payloadLen : Nat) :
    Option Nat :=
  if p.enabled = false ∨ isDelayEligible frameType = false then none
  else if p.policy.bounds.maxBatchBytes ≤ payloadLen then none
  else
    let delayMs :=
      match p.policy.kind with
      | .none => 0
      | .light => min p.policy.bounds.maxDelayMs 1
      | .auto => min p.policy.bounds.maxDelayMs 5
      | .private_ => p.policy.bounds.maxDelayMs
    if 0 < delayMs then some delayMs else none

def batchCostForPayload (payloadLen : Nat) : Nat := FRAME_HEADER_LEN + payloadLen

def batchCost (f : Frame) : Nat := batchCostForPayload f.payload.length

def isBatchEligible (frameType : FrameType) (payloadLen : Nat) (bounds : ShapingBounds) : Bool :=
  isDelayEligible frameType && batchCostForPayload payloadLen < bounds.maxBatchBytes

structure RuntimeBatcher where
  enabled : Bool
  bounds : ShapingBounds
  pending : List Frame
  pendingBytes : Nat

namespace RuntimeBatcher

def disabled : RuntimeBatcher := ⟨false, {}, [], 0⟩

/-- `RuntimeBatcher::from_config` -/
def fromConfig (mode : Mode) (config : ShapingConfig) : RuntimeBatcher :=
  if config.enabled = false ∨ mode = .stable ∨ config.maxDelayMs = 0 then disabled
  else ⟨true, .ofConfig config, [], 0⟩

def flush (b : RuntimeBatcher) : List Frame × RuntimeBatcher :=
  (b.pending, { b with pending := [], pendingBytes := 0 })

def push (b : RuntimeBatcher) (f : Frame) : List Frame × RuntimeBatcher :=
  if b.enabled = false ∨ isBatchEligible f.frameType f.payload.length b.bounds = false then
    (b.flush.1 ++ [f], b.flush.2)
  else
    let b := { b with
      pendingBytes := b.pendingBytes + batchCost f
      pending := b.pending ++ [f] }
    if b.bounds.maxBatchBytes ≤ b.pendingBytes then b.flush else ([], b)

/-- `flush_due`, with the elapsed time in milliseconds -/
def flushDue (b : RuntimeBatcher) (elapsedMs : Nat) : List Frame × RuntimeBatcher :=
  if b.pending ≠ [] ∧ b.bounds.maxDelayMs ≤ elapsedMs then b.flush else ([], b)

/-- `flush_delay`, in milliseconds -/
def flushDelay (b : RuntimeBatcher) : Option Nat :=
  if b.enabled = true ∧ b.pending ≠ [] then some b.bounds.maxDelayMs else none

theorem pending_fromConfig (mode : Mode) (config : ShapingConfig) :
    (fromConfig mode config).pending = [] := by
  unfold fromConfig
  split <;> rfl

/-- **Nothing is lost or reordered**: what a push returns and what it keeps. -/
theorem push_spec (b : RuntimeBatcher) (f : Frame) :
    (b.push f).1 ++ (b.push f).2.pending = b.pending ++ [f] ∧
    ((b.push f).1 = [] → b.enabled = true ∧ (b.push f).2.enabled = true) ∧
    ((b.push f).1 ≠ [] → (b.push f).2.pending = []) := by
  unfold push
  split
  · exact ⟨List.append_nil _, fun hempty => by simp at hempty, fun _ => rfl⟩
  rename_i hheld
  have henabled : b.enabled = true := by
    cases henabled : b.enabled with
    | false => exact absurd (.inl henabled) hheld
    | true => rfl
  dsimp only
  split
  · exact ⟨List.append_nil _, fun hempty => by simp [flush] at hempty, fun _ => rfl⟩
  · exact ⟨rfl, fun _ => ⟨henabled, henabled⟩, fun hne => absurd rfl hne⟩

end RuntimeBatcher
end Maverick
