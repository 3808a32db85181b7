import Maverick.Client.Relay

/-!
# The end of a gRPC response

`finish_h2_response`: behind the frame that ends a flow only Padding frames may follow,
then the end of the body and trailers with the status `0`, or none.

* `passPadding_eq_ok` — what the inner loop accepts of the buffer.
* `finishH2Response_eq_ok` — what the whole of it accepts, however the body is cut.
* `finish_response_exact` — exactly which responses are taken as complete.
-/

namespace Maverick
namespace Client

open Lib Server

/-- What the two tests on an `h2::Error` say. -/
structure H2Error where
  isReset : Bool
  isRemote : Bool
  deriving DecidableEq

/-- The trailers, name by name. -/
abbrev HeaderMap := List (String × Bytes)

/-- `HeaderMap::get_all` -/
def HeaderMap.getAll (map : HeaderMap) (name : String) : List Bytes :=
  (map.filter fun entry => entry.1 = name).map Prod.snd

/-- How the body ends, and what awaiting the trailers then gives. -/
inductive BodyEnd where
  | ended (trailers : Except H2Error (Option HeaderMap))
  | failed (error : H2Error)
  deriving DecidableEq

inductive FinishError where
  | frame (error : Error)
  /-- `gRPC response body failed` -/
  | bodyFailed (error : H2Error)
  /-- `gRPC response trailers failed` -/
  | trailersFailed (error : H2Error)
  /-- a `bail!` with this text -/
  | message (text : String)
  deriving DecidableEq

section
variable (maxFrameSize : Nat)

/-- The inner loop: Padding frames are taken off the buffer. -/
def passPadding (buf : Bytes) : Except FinishError Bytes :=
  match (grpcDecoder maxFrameSize).next Relay.isPadding buf with
  | .error e => .error (.frame e)
  | .ok (some _, _) => .error (.message "gRPC response contained data after terminal frame")
  | .ok (none, rest) => .ok rest

variable (allowLegacyUdpReset : Bool)

/-- What is done at the end of the body. -/
def finishBody (rest : Bytes) : BodyEnd → Except FinishError Unit
  | .failed error =>
    if allowLegacyUdpReset = true ∧ error.isReset = true ∧ error.isRemote = true ∧ rest = [] then
      .ok ()
    else .error (.bodyFailed error)
  | .ended trailers =>
    if rest ≠ [] then .error (.message "gRPC response ended with incomplete data")
    else
      match trailers with
      | .error error => .error (.trailersFailed error)
      | .ok trailers =>
        (checkTrailers (trailers.map fun map => map.getAll "grpc-status")).mapError .message

/-- `finish_h2_response`, for a body that gives these chunks and then ends. -/
def finishH2Response : Bytes → List Bytes → BodyEnd → Except FinishError Unit
  | buf, [], ending => do
    let rest ← passPadding maxFrameSize buf
    finishBody allowLegacyUdpReset rest ending
  | buf, chunk :: chunks, ending => do
    let rest ← passPadding maxFrameSize buf
    finishH2Response (rest ++ chunk) chunks ending

end

/-- These bytes are complete enveloped Padding frames within the size limit, one after the
other. -/
def PaddingFrames (maxFrameSize : Nat) (b : Bytes) : Prop :=
  ∃ frames : List Frame,
    (∀ f ∈ frames, f.frameType = .padding ∧ f.payload.length ≤ maxFrameSize ∧
      f.bytes.length < 2 ^ 32) ∧
    b = frames.flatMap fun f => encodeGrpcMessage f.bytes

/-- There are no trailers, or exactly one `grpc-status`, which is `0`. -/
def SuccessfulTrailers : Option HeaderMap → Prop
  | none => True
  | some map => map.getAll "grpc-status" = [[48]]

section
variable {maxFrameSize : Nat} {buf rest : Bytes}

/-- What is left behind some Padding frames. -/
def LeftBehind (maxFrameSize : Nat) (buf rest : Bytes) : Prop :=
  ∃ frames : List Frame, (∀ f ∈ frames, Relay.isPadding f = true) ∧
    (grpcDecoder maxFrameSize).drain buf = (frames, .ok rest)

theorem passPadding_eq_ok :
    passPadding maxFrameSize buf = .ok rest ↔ LeftBehind maxFrameSize buf rest := by
  obtain ⟨skipped, hskipped, hspec⟩ :=
    Decoder.next_spec (D := grpcDecoder maxFrameSize) Relay.isPadding buf
  unfold passPadding
  cases hnext : (grpcDecoder maxFrameSize).next Relay.isPadding buf with
  | error e =>
    rw [hnext] at hspec
    constructor
    · nofun
    rintro ⟨frames, -, hdrain⟩
    rw [hdrain] at hspec
    cases (Prod.mk.inj hspec).2
  | ok p =>
    rw [hnext] at hspec
    match p, hspec with
    | (none, left), ⟨hdrain, _⟩ =>
      constructor
      · intro h
        cases h
        exact ⟨skipped, hskipped, hdrain⟩
      rintro ⟨frames, -, hdrain'⟩
      rw [hdrain] at hdrain'
      rw [← Except.ok.inj (Prod.mk.inj hdrain').2]
    | (some f, left), ⟨hkeep, hdrain⟩ =>
      constructor
      · nofun
      rintro ⟨frames, hall, hdrain'⟩
      rw [hdrain] at hdrain'
      obtain ⟨rfl, -⟩ := Prod.mk.inj hdrain'
      rw [hall f (by simp)] at hkeep
      cases hkeep

/-- **Padding can be passed in two portions.** -/
theorem leftBehind_append (x : Bytes) :
    LeftBehind maxFrameSize (buf ++ x) rest ↔
      ∃ mid, LeftBehind maxFrameSize buf mid ∧ LeftBehind maxFrameSize (mid ++ x) rest := by
  unfold LeftBehind
  rw [Decoder.drain_append]
  constructor
  · rintro ⟨frames, hall, hfeed⟩
    match hdrain : (grpcDecoder maxFrameSize).drain buf with
    | (first, .error e) =>
      rw [hdrain] at hfeed
      cases (Prod.mk.inj hfeed).2
    | (first, .ok mid) =>
      rw [hdrain] at hfeed
      obtain ⟨rfl, hstate⟩ := Prod.mk.inj hfeed
      exact ⟨mid, ⟨first, fun f hf => hall f (List.mem_append_left _ hf), rfl⟩,
        _, fun f hf => hall f (List.mem_append_right _ hf), Prod.ext rfl hstate⟩
  · rintro ⟨mid, ⟨first, hfirst, hdrain⟩, second, hsecond, hdrain'⟩
    refine ⟨first ++ second, fun f hf => ?_, ?_⟩
    · rcases List.mem_append.mp hf with hf | hf
      exacts [hfirst f hf, hsecond f hf]
    · simp only [hdrain, Decoder.feed, hdrain']

/-- Nothing is left exactly behind a sequence of enveloped Padding frames. -/
theorem leftBehind_nil : LeftBehind maxFrameSize buf [] ↔ PaddingFrames maxFrameSize buf := by
  have hdecode : ∀ b f r, (grpcDecoder maxFrameSize).decode b = .ok (some (f, r)) ↔
      (f.payload.length ≤ maxFrameSize ∧ f.bytes.length < 2 ^ 32) ∧
        b = encodeGrpcMessage f.bytes ++ r := by
    intro b f r
    rw [and_assoc]
    exact decodeGrpcFrameFrom_eq_some
  unfold LeftBehind PaddingFrames
  simp only [Decoder.drain_eq_nil_iff hdecode, Relay.isPadding, decide_eq_true_eq]
  constructor
  · rintro ⟨frames, hpadding, hfits, rfl⟩
    exact ⟨frames, fun f hf => ⟨hpadding f hf, hfits f hf⟩, rfl⟩
  · rintro ⟨frames, hall, rfl⟩
    exact ⟨frames, fun f hf => (hall f hf).1, fun f hf => (hall f hf).2, rfl⟩

variable {allow : Bool} {ending : BodyEnd}

/-- **What is accepted, however the body is cut.** -/
theorem finishH2Response_eq_ok {chunks : List Bytes} :
    finishH2Response maxFrameSize allow buf chunks ending = .ok () ↔
      ∃ rest, LeftBehind maxFrameSize (buf ++ chunks.flatten) rest ∧
        finishBody allow rest ending = .ok () := by
  induction chunks generalizing buf with
  | nil =>
    rw [finishH2Response, Check.bind_eq_ok, List.flatten_nil, List.append_nil]
    simp only [passPadding_eq_ok]
  | cons chunk chunks ih =>
    rw [finishH2Response, Check.bind_eq_ok, List.flatten_cons]
    simp only [passPadding_eq_ok, ih, List.append_assoc]
    constructor
    · rintro ⟨mid, hmid, rest, hrest, hend⟩
      exact ⟨rest, (leftBehind_append _).mpr ⟨mid, hmid, hrest⟩, hend⟩
    rintro ⟨rest, hleft, hend⟩
    obtain ⟨mid, hmid, hrest⟩ := (leftBehind_append _).mp hleft
    exact ⟨mid, hmid, rest, hrest, hend⟩

theorem checkTrailers_eq_ok {statuses : Option (List Bytes)} :
    checkTrailers statuses = .ok () ↔ statuses = none ∨ statuses = some [[48]] := by
  match statuses with
  | none => simp [checkTrailers]
  | some [] => simp [checkTrailers]
  | some [status] =>
    rw [checkTrailers]
    split
    · next hzero => simp [hzero]
    · next hother => simp [hother]
  | some (_ :: _ :: _) => simp [checkTrailers]

theorem successfulTrailers_iff {trailers : Option HeaderMap} : SuccessfulTrailers trailers ↔
    trailers.map (fun map => map.getAll "grpc-status") = none ∨
      trailers.map (fun map => map.getAll "grpc-status") = some [[48]] := by
  cases trailers with
  | none => simp [SuccessfulTrailers]
  | some map => simp [SuccessfulTrailers]

theorem finishBody_eq_ok :
    finishBody allow rest ending = .ok () ↔ rest = [] ∧
      ((∃ trailers, ending = .ended (.ok trailers) ∧ SuccessfulTrailers trailers) ∨
        allow = true ∧ ∃ error, ending = .failed error ∧ error.isReset = true ∧
          error.isRemote = true) := by
  cases ending with
  | failed error =>
    simp only [finishBody]
    constructor
    · intro h
      split at h
      · next hlegacy =>
          obtain ⟨hallow, hreset, hremote, hrest⟩ := hlegacy
          exact ⟨hrest, .inr ⟨hallow, error, rfl, hreset, hremote⟩⟩
      · cases h
    · rintro ⟨hrest, ⟨_, hended, -⟩ | ⟨hallow, _, hfailed, hreset, hremote⟩⟩
      · cases hended
      · cases hfailed
        exact if_pos ⟨hallow, hreset, hremote, hrest⟩
  | ended trailers =>
    simp only [finishBody]
    constructor
    · intro h
      split at h
      · cases h
      next hrest =>
        rw [not_not] at hrest
        cases trailers with
        | error e => cases h
        | ok trailers =>
          exact ⟨hrest, .inl ⟨trailers, rfl,
            successfulTrailers_iff.mpr (checkTrailers_eq_ok.mp (Check.mapError_eq_ok.mp h))⟩⟩
    · rintro ⟨rfl, ⟨trailers, hended, hsuccess⟩ | ⟨-, _, hfailed, -⟩⟩
      · cases hended
        exact Check.mapError_eq_ok.mpr (checkTrailers_eq_ok.mpr (successfulTrailers_iff.mp hsuccess))
      · cases hfailed

end

/-- **Complete responses are recognised exactly.**  Whatever the buffer holds and however the
rest of the body is cut: without the exception a response is accepted if and only if it goes
on with complete enveloped Padding frames and nothing else, the body ends without an error,
and there are no trailers or exactly one status `0` in them; the exception only adds a remote
reset behind such frames. -/
theorem finish_response_exact (maxFrameSize : Nat) (buf : Bytes) (chunks : List Bytes)
    (ending : BodyEnd) :
    (finishH2Response maxFrameSize false buf chunks ending = .ok () ↔
      PaddingFrames maxFrameSize (buf ++ chunks.flatten) ∧
        ∃ trailers, ending = .ended (.ok trailers) ∧ SuccessfulTrailers trailers) ∧
    (finishH2Response maxFrameSize true buf chunks ending = .ok () ↔
      finishH2Response maxFrameSize false buf chunks ending = .ok () ∨
        PaddingFrames maxFrameSize (buf ++ chunks.flatten) ∧
          ∃ error, ending = .failed error ∧ error.isReset = true ∧ error.isRemote = true) := by
  simp only [finishH2Response_eq_ok, finishBody_eq_ok, ← leftBehind_nil]
  constructor
  · constructor
    · rintro ⟨rest, hleft, rfl, hend | ⟨hfalse, -⟩⟩
      · exact ⟨hleft, hend⟩
      · cases hfalse
    · rintro ⟨hleft, hend⟩
      exact ⟨[], hleft, rfl, .inl hend⟩
  · constructor
    · rintro ⟨rest, hleft, rfl, hend | ⟨-, hend⟩⟩
      exacts [.inl ⟨[], hleft, rfl, .inl hend⟩, .inr ⟨hleft, hend⟩]
    rintro (⟨rest, hleft, rfl, hend | ⟨hfalse, -⟩⟩ | ⟨hleft, hend⟩)
    · exact ⟨[], hleft, rfl, .inl hend⟩
    · cases hfalse
    · exact ⟨[], hleft, rfl, .inr ⟨trivial, hend⟩⟩

end Client
end Maverick
