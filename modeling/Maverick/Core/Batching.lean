import Maverick.Core.Padding
import Maverick.Lib.Check

/-!
# Batches and cover traffic within their limits

What a whole sequence of calls of a `RuntimeBatcher` returns and keeps, and what a
`CoverTrafficEmitter` spends of the budget it was planned for.

* `RuntimeBatcher.Counted` — the byte counter is the cost of what is pending.
* `batcher_lossless` — in every sequence of calls a batcher is a queue within its limit.
* `Even.lt_frames_iff` — the planner's number of frames, in terms of the bytes they carry.
* `cover_traffic_exact` — an emitter spends exactly what was planned.
-/

namespace Maverick

open Lib Lib.Check

/-! ## Batches -/

/-- `ShapingConfig::validate`; whether the ratio is a number between 0 and 1 is given. -/
def ShapingConfig.validate (config : ShapingConfig) (ratioInRange : Bool) : Except Error Unit := do
  failIf (config.maxPaddingBytesPerFrame = 0)
    (.config "advanced.shaping.max_padding_bytes_per_frame must be greater than zero")
  failIf (ratioInRange = false)
    (.config "advanced.shaping.max_overhead_ratio must be between 0.0 and 1.0")
  failIf (1000 < config.maxDelayMs)
    (.config "advanced.shaping.max_delay_ms must be no greater than 1000")
  failIf (config.maxBatchBytes = 0 ∨ 1048576 < config.maxBatchBytes)
    (.config "advanced.shaping.max_batch_bytes must be between 1 and 1048576")
  failIf (config.coverTraffic ∧ config.enabled = false)
    (.config "advanced.shaping.enabled must be true when cover_traffic is true")
  failIf (config.coverTraffic ∧ config.coverTrafficOperatorApproved = false) (.config
    "advanced.shaping.cover_traffic_operator_approved must be true when cover_traffic is true")
  failIf (config.coverTrafficWindowMs = 0 ∨ 60000 < config.coverTrafficWindowMs)
    (.config "advanced.shaping.cover_traffic_window_ms must be between 1 and 60000")

/-- A call of a batcher. -/
inductive BatcherCall where
  | push (f : Frame)
  | flush
  | flushDue (elapsedMs : Nat)

/-- The frame that a call hands over, if any. -/
def BatcherCall.pushed : BatcherCall → List Frame
  | .push f => [f]
  | _ => []

theorem isDelayEligible_eq_false {frameType : FrameType} :
    isDelayEligible frameType = false ↔ frameType ∈ [FrameType.clientHello, .serverHello, .tcpFin,
      .tcpReset, .closeFlow, .error, .padding] := by
  cases frameType <;> decide

namespace RuntimeBatcher

def call (b : RuntimeBatcher) : BatcherCall → List Frame × RuntimeBatcher
  | .push f => b.push f
  | .flush => b.flush
  | .flushDue elapsedMs => b.flushDue elapsedMs

/-- What the calls return, one list each, and the batcher after them. -/
def run (b : RuntimeBatcher) : List BatcherCall → List (List Frame) × RuntimeBatcher
  | [] => ([], b)
  | c :: calls => ((b.call c).1 :: ((b.call c).2.run calls).1, ((b.call c).2.run calls).2)

/-- The counter is the cost of what is pending, and below the limit; a batcher that is
not in use has nothing pending. -/
structure Counted (config : ShapingConfig) (b : RuntimeBatcher) : Prop where
  bytes : b.pendingBytes = (b.pending.map batchCost).sum
  below : b.pendingBytes < config.maxBatchBytes.toNat
  inUse : b.enabled = true → b.bounds = .ofConfig config
  idle : b.enabled = false → b.pending = []

variable {config : ShapingConfig} {b : RuntimeBatcher}

theorem counted_fromConfig (mode : Mode) (hpos : 0 < config.maxBatchBytes.toNat) :
    Counted config (fromConfig mode config) := by
  unfold fromConfig
  split
  · exact ⟨rfl, hpos, fun henabled => (by cases henabled), fun _ => rfl⟩
  · exact ⟨rfl, hpos, fun _ => rfl, fun _ => rfl⟩

theorem Counted.flush (h : Counted config b) : Counted config b.flush.2 :=
  ⟨rfl, Nat.zero_lt_of_lt h.below, h.inUse, fun _ => rfl⟩

theorem Counted.push (h : Counted config b) (f : Frame) : Counted config (b.push f).2 := by
  unfold RuntimeBatcher.push
  split
  · exact h.flush
  rename_i hheld
  have henabled : b.enabled = true := by
    rw [← Bool.not_eq_false]
    exact fun hdisabled => hheld (.inl hdisabled)
  dsimp only
  split
  · exact ⟨rfl, Nat.zero_lt_of_lt h.below, h.inUse, fun _ => rfl⟩
  rename_i hbelow
  rw [h.inUse henabled] at hbelow
  refine ⟨?_, not_le.mp hbelow, h.inUse, fun hdisabled => ?_⟩
  · simp [h.bytes]
  · cases hdisabled.symm.trans henabled

/-- One call keeps the count, and neither loses nor reorders a frame. -/
theorem Counted.call (h : Counted config b) (c : BatcherCall) :
    Counted config (b.call c).2 ∧
      (b.call c).1 ++ (b.call c).2.pending = b.pending ++ c.pushed := by
  cases c with
  | push f => exact ⟨h.push f, (push_spec b f).1⟩
  | flush => exact ⟨h.flush, rfl⟩
  | flushDue elapsedMs =>
    unfold RuntimeBatcher.call flushDue
    dsimp only
    split
    exacts [⟨h.flush, rfl⟩, ⟨h, (List.append_nil _).symm⟩]

theorem Counted.run (h : Counted config b) (calls : List BatcherCall) :
    Counted config (b.run calls).2 ∧
      (b.run calls).1.flatten ++ (b.run calls).2.pending =
        b.pending ++ calls.flatMap BatcherCall.pushed := by
  induction calls generalizing b with
  | nil => exact ⟨h, (List.append_nil _).symm⟩
  | cons c calls ih =>
    obtain ⟨hcall, hone⟩ := h.call c
    obtain ⟨hrest, hall⟩ := ih hcall
    refine ⟨hrest, ?_⟩
    rw [RuntimeBatcher.run, List.flatten_cons, List.append_assoc, hall, ← List.append_assoc, hone,
      List.append_assoc, List.flatMap_cons]

/-- A frame that may not wait, or that fills a batch, takes what is pending along. -/
theorem Counted.push_passes (h : Counted config b) {f : Frame}
    (hf : isDelayEligible f.frameType = false ∨
      config.maxBatchBytes.toNat ≤ FRAME_HEADER_LEN + f.payload.length) :
    (b.push f).1 = b.pending ++ [f] := by
  rw [RuntimeBatcher.push, if_pos]
  · rfl
  cases henabled : b.enabled with
  | false => exact .inl rfl
  | true =>
    right
    rw [isBatchEligible, h.inUse henabled]
    rcases hf with htype | hlarge
    · rw [htype, Bool.false_and]
    · rw [Bool.and_eq_false_iff]
      exact .inr (decide_eq_false (not_lt.mpr hlarge))

theorem Counted.flushDue_empties (h : Counted config b) {elapsedMs : Nat}
    (helapsed : config.maxDelayMs ≤ elapsedMs) : (b.flushDue elapsedMs).2.pending = [] := by
  unfold RuntimeBatcher.flushDue
  split
  · rfl
  rename_i hkept
  by_contra hpending
  have henabled : b.enabled = true := by
    rw [← Bool.not_eq_false]
    exact fun hdisabled => hpending (h.idle hdisabled)
  refine hkept ⟨hpending, ?_⟩
  rwa [h.inUse henabled]

end RuntimeBatcher

/-- **A batcher is a lossless queue**: in every sequence of calls the frames come out in
the order in which they went in, the counter is exact and below the limit, a frame that may
not wait leaves at once behind everything pending, and no frame stays beyond the delay. -/
theorem batcher_lossless (mode : Mode) (config : ShapingConfig) (ratioInRange : Bool)
    (hvalid : config.validate ratioInRange = .ok ()) (calls : List BatcherCall)
    (returned : List (List Frame)) (b : RuntimeBatcher)
    (hrun : (RuntimeBatcher.fromConfig mode config).run calls = (returned, b)) :
    returned.flatten ++ b.pending = calls.flatMap BatcherCall.pushed ∧
    b.pendingBytes = (b.pending.map fun f => FRAME_HEADER_LEN + f.payload.length).sum ∧
    b.pendingBytes < config.maxBatchBytes.toNat ∧
    (∀ f : Frame, f.frameType ∈ [.clientHello, .serverHello, .tcpFin, .tcpReset, .closeFlow,
        .error, .padding] ∨ config.maxBatchBytes.toNat ≤ FRAME_HEADER_LEN + f.payload.length →
      (b.push f).1 = b.pending ++ [f]) ∧
    ∀ elapsedMs, config.maxDelayMs ≤ elapsedMs → (b.flushDue elapsedMs).2.pending = [] := by
  have hpos : 0 < config.maxBatchBytes.toNat := by
    simp only [ShapingConfig.validate, seq_eq_ok, failIf_eq_ok, not_or] at hvalid
    obtain ⟨-, -, -, ⟨hzero, -⟩, -⟩ := hvalid
    exact Nat.pos_of_ne_zero fun hnat => hzero (UInt32.toNat_inj.mp hnat)
  obtain ⟨hcounted, hall⟩ := (RuntimeBatcher.counted_fromConfig mode hpos).run calls
  rw [hrun, RuntimeBatcher.pending_fromConfig, List.nil_append] at hall
  rw [hrun] at hcounted
  refine ⟨hall, hcounted.bytes, hcounted.below, fun f hf => hcounted.push_passes ?_,
    fun _ helapsed => hcounted.flushDue_empties helapsed⟩
  exact hf.imp_left isDelayEligible_eq_false.mpr

theorem batcher_lossless_oneHeld :
    ∃ returned b, (RuntimeBatcher.fromConfig .auto { enabled := true }).run
        [.push ⟨.tcpData, 0, 1, [7]⟩, .flushDue 19] = (returned, b) ∧
      returned = [[], []] ∧ b.pendingBytes = 15 ∧ (b.flushDue 20).2.pending = [] :=
  have h := batcher_lossless .auto { enabled := true } true rfl
    [.push ⟨.tcpData, 0, 1, [7]⟩, .flushDue 19] _ _ rfl
  ⟨_, _, rfl, rfl, h.2.1, h.2.2.2.2 20 (by decide)⟩

/-! ## Cover traffic -/

namespace CoverTrafficEmitter

/-- What the calls of `next_padding_frame` return, each with its own random bytes. -/
def emit (e : CoverTrafficEmitter) : List RandomBytes → List (Option Frame)
  | [] => []
  | random :: randoms => (e.nextPaddingFrame random).2 :: (e.nextPaddingFrame random).1.emit randoms

end CoverTrafficEmitter

namespace CoverTrafficPlan

/-- A plan has as many frames as its bytes need. -/
structure Even (plan : CoverTrafficPlan) : Prop where
  bytes : 0 < plan.maxBytesPerWindow
  payload : 0 < plan.framePayloadBytes
  frames : plan.maxFramesPerWindow =
    (plan.maxBytesPerWindow + plan.framePayloadBytes - 1) / plan.framePayloadBytes

/-- The emitter after the first `k` frames of a plan. -/
def after (plan : CoverTrafficPlan) (k : Nat) : CoverTrafficEmitter :=
  ⟨plan, k, min (k * plan.framePayloadBytes) plan.maxBytesPerWindow⟩

variable {plan : CoverTrafficPlan}

theorem even_coverTrafficPlan {mode : Mode} {config : ShapingConfig} {observed windowMs : Nat}
    (h : coverTrafficPlan mode config observed windowMs = some plan) : plan.Even := by
  unfold coverTrafficPlan at h
  split at h
  · cases h
  dsimp only at h
  split at h
  · cases h
  split at h
  · cases h
  rename_i hbytes
  split at h
  · cases h
  rename_i hpayload
  cases h
  exact ⟨Nat.pos_of_ne_zero hbytes, Nat.pos_of_ne_zero hpayload, rfl⟩

variable {k : Nat}

/-- There is another frame exactly if those before it do not carry all the bytes. -/
theorem Even.lt_frames_iff (h : plan.Even) :
    k < plan.maxFramesPerWindow ↔ k * plan.framePayloadBytes < plan.maxBytesPerWindow := by
  have hbytes := h.bytes
  rw [h.frames, Nat.lt_iff_add_one_le, Nat.le_div_iff_mul_le h.payload, Nat.add_mul]
  omega

theorem Even.next_after (h : plan.Even) (hk : k < plan.maxFramesPerWindow) (random : RandomBytes) :
    (plan.after k).nextPaddingFrame random = (plan.after (k + 1), some (.randomPadding random
      (min plan.framePayloadBytes (plan.maxBytesPerWindow - k * plan.framePayloadBytes)))) := by
  have hlt := h.lt_frames_iff.mp hk
  have hpayload := h.payload
  have hmin : min (k * plan.framePayloadBytes) plan.maxBytesPerWindow =
      k * plan.framePayloadBytes := Nat.min_eq_left hlt.le
  rw [CoverTrafficEmitter.nextPaddingFrame, after, hmin, if_neg (by dsimp only; omega)]
  dsimp only
  rw [if_neg (by omega), after, Nat.add_mul, Nat.one_mul]
  congr 3
  omega

theorem next_spent (random : RandomBytes) :
    (plan.after plan.maxFramesPerWindow).nextPaddingFrame random =
      (plan.after plan.maxFramesPerWindow, none) := by
  rw [CoverTrafficEmitter.nextPaddingFrame, if_pos (.inl (Nat.le_refl _))]

/-- The frames that are still to come after the first `k`: how many there are, and what
they carry. -/
structure Spends (plan : CoverTrafficPlan) (k : Nat) (frames : List Frame) : Prop where
  count : k + frames.length = plan.maxFramesPerWindow
  padding : ∀ f ∈ frames, f.frameType = .padding ∧ 1 ≤ f.payload.length ∧
    f.payload.length ≤ plan.framePayloadBytes
  full : ∀ f ∈ frames.dropLast, f.payload.length = plan.framePayloadBytes
  total : min (k * plan.framePayloadBytes) plan.maxBytesPerWindow +
    (frames.map (·.payload.length)).sum = plan.maxBytesPerWindow

theorem Even.spends_nil (h : plan.Even) : Spends plan plan.maxFramesPerWindow [] := by
  have hlast := mt h.lt_frames_iff.mpr (Nat.lt_irrefl plan.maxFramesPerWindow)
  refine ⟨rfl, by simp, by simp, ?_⟩
  rw [Nat.min_eq_right (not_lt.mp hlast)]
  rfl

theorem Even.spends_cons (h : plan.Even) (hk : k < plan.maxFramesPerWindow) (random : RandomBytes)
    {frames : List Frame} (hrest : Spends plan (k + 1) frames) :
    Spends plan k (.randomPadding random
      (min plan.framePayloadBytes (plan.maxBytesPerWindow - k * plan.framePayloadBytes)) ::
        frames) := by
  have hlt := h.lt_frames_iff.mp hk
  have hpayload := h.payload
  have hmul : (k + 1) * plan.framePayloadBytes =
      k * plan.framePayloadBytes + plan.framePayloadBytes := Nat.succ_mul _ _
  have hlen : (Frame.randomPadding random (min plan.framePayloadBytes
      (plan.maxBytesPerWindow - k * plan.framePayloadBytes))).payload.length =
      min plan.framePayloadBytes (plan.maxBytesPerWindow - k * plan.framePayloadBytes) :=
    (random _).2
  refine ⟨?_, List.forall_mem_cons.mpr ⟨⟨rfl, ?_, ?_⟩, hrest.padding⟩, ?_, ?_⟩
  · rw [← hrest.count, List.length_cons]
    omega
  · rw [hlen]
    omega
  · rw [hlen]
    omega
  · cases frames with
    | nil => simp
    | cons f frames =>
      -- another frame follows, so this one leaves bytes for it
      have hmore := (h.lt_frames_iff (k := k + 1)).mp (by rw [← hrest.count]; simp)
      rw [List.dropLast_cons_cons]
      refine List.forall_mem_cons.mpr ⟨?_, hrest.full⟩
      rw [hlen]
      omega
  · have htotal := hrest.total
    rw [List.map_cons, List.sum_cons, hlen]
    omega

/-- **The frames of a plan**, from any point of it on. -/
theorem Even.emit_after (h : plan.Even) (randoms : List RandomBytes)
    (hk : k ≤ plan.maxFramesPerWindow) (hlen : plan.maxFramesPerWindow ≤ k + randoms.length) :
    ∃ frames, Spends plan k frames ∧ (plan.after k).emit randoms =
      frames.map some ++ List.replicate (randoms.length - frames.length) none := by
  induction randoms generalizing k with
  | nil =>
    obtain rfl : k = plan.maxFramesPerWindow := Nat.le_antisymm hk hlen
    exact ⟨[], h.spends_nil, rfl⟩
  | cons random randoms ih =>
    rw [List.length_cons] at hlen
    rcases Nat.lt_or_eq_of_le hk with hlt | rfl
    · obtain ⟨frames, hspends, hemit⟩ := ih (k := k + 1) hlt (by omega)
      refine ⟨_, h.spends_cons hlt random hspends, ?_⟩
      rw [CoverTrafficEmitter.emit, h.next_after hlt, hemit]
      simp
    obtain ⟨frames, hspends, hemit⟩ := ih (k := plan.maxFramesPerWindow) hk (by omega)
    have hnil : frames = [] := by
      rw [← List.length_eq_zero_iff]
      have hcount := hspends.count
      omega
    subst hnil
    refine ⟨[], hspends, ?_⟩
    rw [CoverTrafficEmitter.emit, next_spent, hemit]
    simp [List.replicate_succ]

end CoverTrafficPlan

theorem RuntimeCoverTraffic.length_paddingFrames_le (c : RuntimeCoverTraffic)
    (random : RandomBytes) (frameType : FrameType) (observed maxFrameSize : Nat) :
    (c.paddingFrames random frameType observed maxFrameSize).length ≤ 1 := by
  unfold paddingFrames
  split
  · exact Nat.zero_le _
  split
  exacts [Nat.zero_le _, Option.length_toList_le]

/-- **Cover traffic spends its budget exactly.** -/
theorem cover_traffic_exact :
    (∀ (mode : Mode) (config : ShapingConfig) (observed windowMs : Nat) (plan : CoverTrafficPlan),
      coverTrafficPlan mode config observed windowMs = some plan →
      ∀ randoms : List RandomBytes, plan.maxFramesPerWindow ≤ randoms.length →
      ∃ frames : List Frame,
        (CoverTrafficEmitter.new plan).emit randoms =
          frames.map some ++ List.replicate (randoms.length - frames.length) none ∧
        frames.length = plan.maxFramesPerWindow ∧
        (∀ f ∈ frames, f.frameType = .padding ∧ 1 ≤ f.payload.length ∧
          f.payload.length ≤ plan.framePayloadBytes) ∧
        (∀ f ∈ frames.dropLast, f.payload.length = plan.framePayloadBytes) ∧
        (frames.map (·.payload.length)).sum = plan.maxBytesPerWindow) ∧
    ∀ (c : RuntimeCoverTraffic) (random : RandomBytes) (frameType : FrameType)
      (observed maxFrameSize : Nat), 0 < maxFrameSize →
      (c.paddingFrames random frameType observed maxFrameSize).length ≤ 1 ∧
      ∀ f ∈ c.paddingFrames random frameType observed maxFrameSize,
        f.payload.length ≤ maxFrameSize ∧ ∃ plan,
          (coverTrafficDecision c.mode c.config observed c.operatorPolicy).plan = some plan ∧
          f.payload.length ≤ plan.maxBytesPerWindow := by
  refine ⟨fun mode config observed windowMs plan hplan randoms hlen => ?_,
    fun c random frameType observed maxFrameSize _ =>
      ⟨c.length_paddingFrames_le random frameType observed maxFrameSize,
        fun f hf => (c.paddingFrames_spec f hf).2⟩⟩
  have heven := CoverTrafficPlan.even_coverTrafficPlan hplan
  have hnew : CoverTrafficEmitter.new plan = plan.after 0 := by
    simp [CoverTrafficEmitter.new, CoverTrafficPlan.after]
  obtain ⟨frames, hspends, hemit⟩ := heven.emit_after randoms (Nat.zero_le _) (by omega)
  refine ⟨frames, hnew ▸ hemit, ?_, hspends.padding, hspends.full, ?_⟩
  · rw [← hspends.count, Nat.zero_add]
  · simpa using hspends.total

/-- Frames of at most 100 bytes, for a quarter of what is observed. -/
def quarterCover : ShapingConfig where
  enabled := true
  coverTraffic := true
  maxPaddingBytesPerFrame := 100

theorem cover_traffic_exact_quarter :
    ∃ plan, ∃ frames : List Frame, coverTrafficPlan .auto quarterCover 1000 1000 = some plan ∧
      (CoverTrafficEmitter.new plan).emit (List.replicate 4 (Block.fill · 0)) =
        frames.map some ++ List.replicate (4 - frames.length) none ∧
      frames.length = 3 ∧ (frames.map (·.payload.length)).sum = 250 ∧
      (RuntimeCoverTraffic.paddingFrames ⟨.auto, quarterCover, ⟨true, 1000⟩⟩ (Block.fill · 0)
        .tcpData 1000 10).length ≤ 1 := by
  obtain ⟨frames, hemit, hlen, -, -, hsum⟩ := cover_traffic_exact.1 .auto quarterCover 1000 1000 _
    rfl (List.replicate 4 (Block.fill · 0)) (by decide)
  exact ⟨_, frames, rfl, hemit, hlen, hsum, (cover_traffic_exact.2 _ _ _ _ 10 (by decide)).1⟩

end Maverick
