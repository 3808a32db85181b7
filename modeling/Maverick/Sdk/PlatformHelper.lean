import Maverick.Lib.Bytes
import Maverick.Lib.Check

/-!
# Messages of the platform helper

The requests and responses that the reference client exchanges with the helper
(`platform_helper_ipc`), with their checks, and the recovery snapshot.  An error
is its message.

* `PlatformHelperResponse.status_of_validate` — the recovery status that a valid
  response of each outcome carries.
-/

namespace Maverick
namespace Sdk

open Lib

/-! ## The recovery snapshot -/

inductive PlatformRecoveryStatus where
  | clean
  | cleanupRequired
  | recovering
  deriving DecidableEq

inductive PlatformRecoveryReason where
  | retainedHelperJournal
  | rollbackFailed
  deriving DecidableEq

structure PlatformRecoverySnapshot where
  status : PlatformRecoveryStatus
  reason : Option PlatformRecoveryReason
  helperJournalPresent : Bool
  deriving DecidableEq

/-- `PlatformRecoverySnapshot::validate` -/
def PlatformRecoverySnapshot.validate (r : PlatformRecoverySnapshot) : Except String Unit :=
  let valid : Bool := match r.status with
    | .clean => !r.helperJournalPresent && r.reason.isNone
    | .cleanupRequired => r.helperJournalPresent && r.reason.isSome
    | .recovering => r.helperJournalPresent && r.reason == some .retainedHelperJournal
  Check.failIf (valid = false) "inconsistent platform recovery snapshot"

def PlatformRecoverySnapshot.connectAllowed (r : PlatformRecoverySnapshot) : Bool :=
  r.status = .clean

/-! ## Requests -/

def PLATFORM_HELPER_IPC_VERSION : UInt16 := 1

def PLATFORM_HELPER_JOURNAL_FILE : String := "maverick-recovery.json"

inductive PlatformHelperOperation where
  | preflight
  | apply
  | rollback
  | status
  deriving DecidableEq

/-- A path as its bytes. -/
abbrev Path := Bytes

/-- `Path::is_absolute` -/
def Path.isAbsolute (p : Path) : Bool := p.head? = some 47

/-- `Path::join` with a relative file name. -/
def Path.join (p : Path) (file : String) : Path :=
  match p.getLast? with
  | none => utf8 file
  | some c => if c = 47 then p ++ utf8 file else p ++ [47] ++ utf8 file

/-- An ASCII letter or digit, `-` or `_`. -/
def isIdByte (b : UInt8) : Bool :=
  (48 ≤ b && b ≤ 57) || (65 ≤ b && b ≤ 90) || (97 ≤ b && b ≤ 122) || b = 45 || b = 95

/-- `validate_version_and_request_id` -/
def validateVersionAndRequestId (version : UInt16) (requestId : String) : Except String Unit := do
  Check.failIf (version ≠ PLATFORM_HELPER_IPC_VERSION) "unsupported platform helper IPC version"
  Check.failIf ((utf8 requestId).length = 0 ∨ 64 < (utf8 requestId).length)
    "platform helper request id length is invalid"
  Check.failIf ((utf8 requestId).all isIdByte = false)
    "platform helper request id contains invalid characters"

/-- `validate_journal_path` -/
def validateJournalPath (journalPath allowedJournalRoot : Path) : Except String Unit := do
  Check.failIf (allowedJournalRoot.isAbsolute = false ∨ journalPath.isAbsolute = false)
    "platform helper journal paths must be absolute"
  Check.failIf (journalPath ≠ allowedJournalRoot.join PLATFORM_HELPER_JOURNAL_FILE)
    "platform helper journal path is outside the fixed location"
  Check.failIf (512 < journalPath.length) "platform helper journal path is too long"

structure PlatformHelperRequest where
  version : UInt16
  requestId : String
  operation : PlatformHelperOperation
  journalPath : Path
  deriving DecidableEq

/-- `PlatformHelperRequest::validate` -/
def PlatformHelperRequest.validate (r : PlatformHelperRequest) (allowedJournalRoot : Path) :
    Except String Unit := do
  validateVersionAndRequestId r.version r.requestId
  validateJournalPath r.journalPath allowedJournalRoot

/-- `PlatformHelperRequest::new` -/
def PlatformHelperRequest.new (requestId : String) (operation : PlatformHelperOperation)
    (allowedJournalRoot : Path) : Except String PlatformHelperRequest := do
  let request : PlatformHelperRequest :=
    { version := PLATFORM_HELPER_IPC_VERSION
      requestId
      operation
      journalPath := allowedJournalRoot.join PLATFORM_HELPER_JOURNAL_FILE }
  request.validate allowedJournalRoot
  return request

/-- A new request is valid and has the operation that was asked for. -/
theorem PlatformHelperRequest.new_eq_ok {requestId : String} {operation : PlatformHelperOperation}
    {root : Path} {request : PlatformHelperRequest}
    (h : PlatformHelperRequest.new requestId operation root = .ok request) :
    request.validate root = .ok () ∧ request.requestId = requestId ∧
      request.operation = operation := by
  unfold PlatformHelperRequest.new at h
  obtain ⟨hvalid, hret⟩ := Check.seq_eq_ok.mp h
  cases hret
  exact ⟨hvalid, rfl, rfl⟩

/-! ## Responses -/

inductive PlatformHelperOutcome where
  | ready
  | applied
  | rolledBack
  | cleanupRequired
  | recovering
  | rejected
  deriving DecidableEq

inductive PlatformHelperErrorClass where
  | invalidRequest
  | permission
  | conflict
  | applyFailed
  | rollbackFailed
  | internal
  deriving DecidableEq

structure PlatformHelperResponse where
  version : UInt16
  requestId : String
  outcome : PlatformHelperOutcome
  recovery : PlatformRecoverySnapshot
  errorClass : Option PlatformHelperErrorClass
  deriving DecidableEq

/-- The status that goes with an outcome; a rejection goes with any. -/
def PlatformHelperOutcome.expectedStatus : PlatformHelperOutcome → Option PlatformRecoveryStatus
  | ready => some .clean
  | rolledBack => some .clean
  | applied => some .cleanupRequired
  | cleanupRequired => some .cleanupRequired
  | recovering => some .recovering
  | rejected => none

/-- `PlatformHelperResponse::validate` -/
def PlatformHelperResponse.validate (r : PlatformHelperResponse) : Except String Unit := do
  validateVersionAndRequestId r.version r.requestId
  r.recovery.validate
  let rejected : Bool := r.outcome = .rejected
  Check.failIf (rejected ≠ r.errorClass.isSome)
    "platform helper rejection and error class must agree"
  match r.outcome.expectedStatus with
  | none => return ()
  | some expectedStatus =>
    Check.failIf (r.recovery.status ≠ expectedStatus)
      "platform helper outcome and recovery state must agree"
    Check.failIf (r.outcome = .applied ∧ r.recovery.reason ≠ some .retainedHelperJournal)
      "platform helper applied state must retain rollback state"

/-- **A valid response** carries the status of its outcome. -/
theorem PlatformHelperResponse.status_of_validate {r : PlatformHelperResponse}
    (h : r.validate = .ok ()) {status : PlatformRecoveryStatus}
    (hstatus : r.outcome.expectedStatus = some status) : r.recovery.status = status := by
  unfold PlatformHelperResponse.validate at h
  obtain ⟨-, h⟩ := Check.seq_eq_ok.mp h
  obtain ⟨-, h⟩ := Check.seq_eq_ok.mp h
  obtain ⟨-, h⟩ := Check.seq_eq_ok.mp h
  rw [hstatus] at h
  obtain ⟨hne, -⟩ := Check.seq_eq_ok.mp h
  rwa [Check.failIf_eq_ok, not_not] at hne

end Sdk
end Maverick
