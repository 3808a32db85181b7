import Maverick.Lib.Async
import Maverick.Sdk.PlatformHelper

/-!
# The reference client controller

The methods of `ReferenceClientController` as they are written, over an
environment that consists of the helper transport and the packet runtime.  Every
wait is a point where the caller can drop the call.

* `ReferenceClientController.new` — the controller in its first state.
* `ReferenceClientController.connect`, `disconnect`, `checkRuntimeHealth`,
  `recover` — its methods.
-/

namespace Maverick
namespace Sdk

open Lib

inductive ReferenceClientState where
  | disconnected
  | connecting
  | connected
  | disconnecting
  | cleanupRequired
  | recovering
  deriving DecidableEq

inductive ReferenceClientErrorClass where
  | preflight
  | apply
  | runtimeStart
  | runtimeHealth
  | runtimeStop
  | rollback
  | protocol
  deriving DecidableEq

structure ReferenceClientController where
  allowedJournalRoot : Path
  requestPrefix : String
  nextRequestNumber : UInt64
  state : ReferenceClientState
  recovery : PlatformRecoverySnapshot
  lastErrorClass : Option ReferenceClientErrorClass
  deriving DecidableEq

/-- The calls of the helper transport and of the packet runtime. -/
inductive ClientOp where
  | exchange (request : PlatformHelperRequest)
  | start
  | stop
  | isHealthy
  deriving DecidableEq

/-- What they return; errors are not looked at. -/
def ClientOp.Answer : ClientOp → Type
  | exchange _ => Except Unit PlatformHelperResponse
  | start => Except Unit Unit
  | stop => Except Unit Unit
  | isHealthy => Bool

/-- Only `is_healthy` returns at once. -/
def ClientOp.awaits : ClientOp → Bool
  | isHealthy => false
  | _ => true

/-- A method of the controller. -/
abbrev ClientM := Async ReferenceClientController ClientOp ClientOp.Answer

/-- `{:016x}` -/
def hex16 (n : UInt64) : String :=
  String.ofList ((List.range 16).map fun i => Nat.digitChar (n.toNat / 16 ^ (15 - i) % 16))

/-- `state_from_recovery` -/
def stateFromRecovery (recovery : PlatformRecoverySnapshot) : ReferenceClientState :=
  match recovery.status with
  | .clean => .disconnected
  | .cleanupRequired => .cleanupRequired
  | .recovering => .recovering

/-- `validate_request_prefix` -/
def validateRequestPrefix (requestPrefix : String) (allowedJournalRoot : Path) : Except String Unit := do
  Check.failIf ((utf8 requestPrefix).length = 0 ∨ 40 < (utf8 requestPrefix).length)
    "reference client request prefix length is invalid"
  Check.failIf ((utf8 requestPrefix).all isIdByte = false)
    "reference client request prefix contains invalid characters"
  let _ ← PlatformHelperRequest.new (requestPrefix ++ "_" ++ hex16 1) .status allowedJournalRoot

namespace ReferenceClientController

def new (allowedJournalRoot : Path) (requestPrefix : String) (recovery : PlatformRecoverySnapshot) :
    Except String ReferenceClientController := do
  recovery.validate
  validateRequestPrefix requestPrefix allowedJournalRoot
  return {
    allowedJournalRoot
    requestPrefix
    nextRequestNumber := 1
    state := stateFromRecovery recovery
    recovery
    lastErrorClass := none }

/-! ## Exchanges with the helper -/

def exchange (request : PlatformHelperRequest) : ClientM (Except Unit PlatformHelperResponse) :=
  Async.perform (ClientOp.exchange request)

def startRuntime : ClientM (Except Unit Unit) := Async.perform ClientOp.start

def stopRuntime : ClientM (Except Unit Unit) := Async.perform ClientOp.stop

def runtimeIsHealthy : ClientM Bool := Async.perform ClientOp.isHealthy

def setState (state : ReferenceClientState) : ClientM Unit :=
  Async.modify fun c => { c with state }

def setErrorClass (lastErrorClass : Option ReferenceClientErrorClass) : ClientM Unit :=
  Async.modify fun c => { c with lastErrorClass }

/-- `next_request` -/
def nextRequest (operation : PlatformHelperOperation) :
    ClientM (Except String PlatformHelperRequest) := do
  let c ← Async.get
  let requestId := c.requestPrefix ++ "_" ++ hex16 c.nextRequestNumber
  if c.nextRequestNumber.toNat + 1 = 2 ^ 64 then
    return .error "reference client request counter exhausted"
  Async.modify fun c => { c with nextRequestNumber := c.nextRequestNumber + 1 }
  return PlatformHelperRequest.new requestId operation c.allowedJournalRoot

/-- `mark_apply_result_uncertain` -/
def markApplyResultUncertain (operation : PlatformHelperOperation) : ClientM Unit :=
  if operation = .apply then setState .cleanupRequired else pure ()

/-- `exchange_expected` -/
def exchangeExpected (operation : PlatformHelperOperation) (expected : PlatformHelperOutcome) :
    ClientM (Except String Unit) := do
  match ← nextRequest operation with
  | .error e => return .error e
  | .ok request =>
  match ← exchange request with
  | .error _ =>
    markApplyResultUncertain operation
    return .error "reference client helper exchange failed"
  | .ok response =>
  if response.validate.isOk = false then
    if response.requestId = request.requestId ∧ response.recovery.validate.isOk = true then
      Async.modify fun c => { c with recovery := response.recovery }
    markApplyResultUncertain operation
    setErrorClass (some .protocol)
    return .error "reference client helper response is invalid"
  if response.requestId ≠ request.requestId then
    markApplyResultUncertain operation
    setErrorClass (some .protocol)
    return .error "reference client helper response id mismatch"
  Async.modify fun c => { c with recovery := response.recovery }
  if response.outcome = .rejected then
    return .error "reference client helper request was rejected"
  if response.outcome ≠ expected then
    markApplyResultUncertain operation
    setErrorClass (some .protocol)
    return .error "reference client helper response outcome mismatch"
  return .ok ()

/-- `fail_from_recovery` -/
def failFromRecovery (cls : ReferenceClientErrorClass) (message : String) :
    ClientM (Except String Unit) := do
  if (← Async.get).lastErrorClass ≠ some .protocol then
    setErrorClass (some cls)
  if (← Async.get).state ≠ .cleanupRequired then
    Async.modify fun c => { c with state := stateFromRecovery c.recovery }
  return .error message

/-! ## Stopping and rolling back -/

/-- `rollback_after_failure` -/
def rollbackAfterFailure : ClientM (Except String Unit) := do
  setState .recovering
  match ← exchangeExpected .rollback .rolledBack with
  | .ok _ =>
    setState .disconnected
    return .ok ()
  | .error _ =>
    Async.modify fun c => { c with state := stateFromRecovery c.recovery }
    if (← Async.get).state = .disconnected then
      setState .cleanupRequired
    return .error "reference client rollback failed"

/-- `stop_runtime_and_rollback` -/
def stopRuntimeAndRollback : ClientM (Except String Unit) := do
  let stopped ← stopRuntime
  match ← rollbackAfterFailure with
  | .error _ =>
    setErrorClass (some .rollback)
    return .error "reference client rollback failed"
  | .ok _ =>
  match stopped with
  | .error _ =>
    setState .cleanupRequired
    setErrorClass (some .runtimeStop)
    return .error "reference client packet runtime stop failed"
  | .ok _ => return .ok ()

/-- The end that the methods share: stop and roll back, and say what failed.  On
success each goes on as `finish` says. -/
def stopAndReport (stopFailed rollbackFailed : String) (finish : ClientM (Except String Unit)) :
    ClientM (Except String Unit) := do
  match ← stopRuntimeAndRollback with
  | .error _ =>
    if (← Async.get).lastErrorClass = some .runtimeStop then
      return .error stopFailed
    return .error rollbackFailed
  | .ok _ => finish

/-! ## The methods -/

/-- `connect` -/
def connect : ClientM (Except String Unit) := do
  let c ← Async.get
  if c.state ≠ .disconnected ∨ c.recovery.connectAllowed = false then
    return .error "reference client is not ready to connect"
  setState .connecting
  setErrorClass none
  match ← exchangeExpected .preflight .ready with
  | .error _ => failFromRecovery .preflight "reference client preflight failed"
  | .ok _ =>
  match ← exchangeExpected .apply .applied with
  | .error _ => failFromRecovery .apply "reference client platform apply failed"
  | .ok _ =>
  match ← startRuntime with
  | .error _ =>
    setState .recovering
    setErrorClass (some .runtimeStart)
    stopAndReport "reference client packet runtime cleanup failed"
      "reference client recovery rollback failed"
      (return .error "reference client packet runtime start failed")
  | .ok _ =>
  match ← runtimeIsHealthy with
  | false =>
    setState .recovering
    setErrorClass (some .runtimeHealth)
    stopAndReport "reference client packet runtime cleanup failed"
      "reference client recovery rollback failed"
      (return .error "reference client packet runtime became unhealthy during startup")
  | true =>
    setState .connected
    setErrorClass none
    return .ok ()

/-- `disconnect` -/
def disconnect : ClientM (Except String Unit) := do
  let c ← Async.get
  if c.state = .disconnected then
    return .ok ()
  if c.state ≠ .connected then
    return .error "reference client is not ready to disconnect"
  setState .disconnecting
  setErrorClass none
  stopAndReport "reference client packet runtime stop failed" "reference client rollback failed" do
    setErrorClass none
    return .ok ()

/-- `check_runtime_health` -/
def checkRuntimeHealth : ClientM (Except String Unit) := do
  if (← Async.get).state ≠ .connected then
    return .error "reference client is not connected"
  match ← runtimeIsHealthy with
  | true => return .ok ()
  | false =>
    setState .recovering
    setErrorClass (some .runtimeHealth)
    stopAndReport "reference client packet runtime cleanup failed"
      "reference client recovery rollback failed"
      (return .error "reference client packet runtime became unhealthy")

/-- `recover` -/
def recover : ClientM (Except String Unit) := do
  let c ← Async.get
  if c.state = .connecting ∨ c.state = .disconnecting ∨ c.state = .cleanupRequired ∨
      c.state = .recovering then
    setState .recovering
    setErrorClass none
    stopAndReport "reference client recovery runtime stop failed"
        "reference client recovery rollback failed" do
      setErrorClass none
      return .ok ()
  else
    return .error "reference client recovery is not required"

end ReferenceClientController

/-- The methods that can be called. -/
inductive ClientMethod where
  | connect
  | disconnect
  | checkRuntimeHealth
  | recover
  deriving DecidableEq

def ClientMethod.run : ClientMethod → ClientM (Except String Unit)
  | connect => ReferenceClientController.connect
  | disconnect => ReferenceClientController.disconnect
  | checkRuntimeHealth => ReferenceClientController.checkRuntimeHealth
  | recover => ReferenceClientController.recover

/-- The sessions of a controller that starts in the state `c`. -/
def clientSessions (c : ReferenceClientController) :
    System (Session ReferenceClientController ClientOp ClientOp.Answer (Except String Unit))
      (SessionAction ClientOp ClientOp.Answer ClientMethod) :=
  sessions c ClientMethod.run ClientOp.awaits

end Sdk
end Maverick
