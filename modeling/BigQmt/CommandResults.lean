import BigQmt.Repository
set_option autoImplicit false

/-!
`qmt/command_results.py`: `QmtCommandResultJournal.ingest`.
-/

namespace BigQmt

open Transact Keyed

inductive ResultStatus where
  | shadowAccepted | snapshotEmitted | rejectedExpired | unknownOrphaned
  | liveCanarySubmitCallReturned | liveCanaryCancelSignalSent | liveCanaryCancelNotCancellable
  | liveCanaryCancelNotSent | liveCanaryMutationUnknown | liveCanaryOrphanedUnknown
  | rejectedSafetyGate | simulationSubmitCallReturned | simulationCancelSignalSent
  | simulationCancelNotCancellable | simulationCancelNotSent | simulationMutationUnknown
  | simulationOrphanedUnknown
  deriving DecidableEq, Repr

namespace ResultStatus

def value : ResultStatus → String
  | .shadowAccepted => "SHADOW_ACCEPTED"
  | .snapshotEmitted => "SNAPSHOT_EMITTED"
  | .rejectedExpired => "REJECTED_EXPIRED"
  | .unknownOrphaned => "UNKNOWN_ORPHANED"
  | .liveCanarySubmitCallReturned => "LIVE_CANARY_SUBMIT_CALL_RETURNED"
  | .liveCanaryCancelSignalSent => "LIVE_CANARY_CANCEL_SIGNAL_SENT"
  | .liveCanaryCancelNotCancellable => "LIVE_CANARY_CANCEL_NOT_CANCELLABLE"
  | .liveCanaryCancelNotSent => "LIVE_CANARY_CANCEL_NOT_SENT"
  | .liveCanaryMutationUnknown => "LIVE_CANARY_MUTATION_UNKNOWN"
  | .liveCanaryOrphanedUnknown => "LIVE_CANARY_ORPHANED_UNKNOWN"
  | .rejectedSafetyGate => "REJECTED_SAFETY_GATE"
  | .simulationSubmitCallReturned => "SIMULATION_SUBMIT_CALL_RETURNED"
  | .simulationCancelSignalSent => "SIMULATION_CANCEL_SIGNAL_SENT"
  | .simulationCancelNotCancellable => "SIMULATION_CANCEL_NOT_CANCELLABLE"
  | .simulationCancelNotSent => "SIMULATION_CANCEL_NOT_SENT"
  | .simulationMutationUnknown => "SIMULATION_MUTATION_UNKNOWN"
  | .simulationOrphanedUnknown => "SIMULATION_ORPHANED_UNKNOWN"

/-- `_RESULT_STATUSES`. -/
def all : List ResultStatus :=
  [.shadowAccepted,.snapshotEmitted,.rejectedExpired,.unknownOrphaned,
    .liveCanarySubmitCallReturned,.liveCanaryCancelSignalSent,.liveCanaryCancelNotCancellable,
    .liveCanaryCancelNotSent,.liveCanaryMutationUnknown,.liveCanaryOrphanedUnknown,
    .rejectedSafetyGate,.simulationSubmitCallReturned,.simulationCancelSignalSent,
    .simulationCancelNotCancellable,.simulationCancelNotSent,.simulationMutationUnknown,
    .simulationOrphanedUnknown]

def ofValue (s : String) : Option ResultStatus := all.find? (fun r => r.value = s)

/-- `_LIVE_SIDE_EFFECT_STATUSES`. -/
def liveSideEffect (r : ResultStatus) : Bool :=
  r ∈ [.liveCanarySubmitCallReturned,.liveCanaryCancelSignalSent,.liveCanaryCancelNotSent,
    .liveCanaryMutationUnknown,.liveCanaryOrphanedUnknown]

/-- `_SIMULATION_SIDE_EFFECT_STATUSES`. -/
def simulationSideEffect (r : ResultStatus) : Bool :=
  r ∈ [.simulationSubmitCallReturned,.simulationCancelSignalSent,.simulationCancelNotSent,
    .simulationMutationUnknown,.simulationOrphanedUnknown]

end ResultStatus

inductive ExecutionMode where
  | shadow | liveCanary | simulationCalibration
  deriving DecidableEq, Repr

def ExecutionMode.ofValue (s : String) : Option ExecutionMode :=
  if s = "SHADOW" then some .shadow
  else if s = "LIVE_CANARY" then some .liveCanary
  else if s = "SIMULATION_CALIBRATION" then some .simulationCalibration
  else none

/-- The side-effect flag that a mode requires with a result. -/
def expectedSideEffect (mode : ExecutionMode) (result : ResultStatus) : Bool :=
  match mode with
  | .shadow => false
  | .liveCanary => result.liveSideEffect
  | .simulationCalibration => result.simulationSideEffect

def sideEffectMessage : ExecutionMode → String
  | .shadow => "SHADOW command result cannot claim a live side effect"
  | .liveCanary => "LIVE_CANARY side-effect flag is inconsistent"
  | .simulationCalibration => "SIMULATION_CALIBRATION side-effect flag is inconsistent"

/-- `logical`: what the fingerprint of a result covers. -/
structure CommandResultIdentity where
  qmtSessionId : String
  qmtSequence : Int
  accountFingerprint : String
  payload : Fields
  deriving DecidableEq

/-- A result after the checks that come before the transaction. -/
structure CommandResult where
  identity : CommandResultIdentity
  commandId : String
  clientOrderId : Option String
  resultStatus : ResultStatus
  executionMode : ExecutionMode
  deriving DecidableEq

def absentOrNull (v : Option Json) : Bool :=
  match v with
  | none | some .null => true
  | some _ => false

def checkOrderIdentity (account : String) (commandType : QmtCommandType) (payload : Fields) :
    Except PyError (Option String) :=
  if commandType = .requestSnapshot then
    refuse (!absentOrNull (payload.get "client_order_id") || !absentOrNull (payload.get "broker_token"))
      (.valueError "snapshot result cannot carry order identity") (.ok none)
  else
    match payload.textAt "client_order_id" with
    | none => .error (.valueError "order command result requires client_order_id")
    | some clientOrderId =>
      refuse (clientOrderId == "") (.valueError "order command result requires client_order_id") <| do
      let expected ← brokerTokenFor account clientOrderId
      refuse (payload.get "broker_token" ≠ some (.text expected))
        (.valueError "command result broker_token does not match durable order identity")
        (.ok (some clientOrderId))

def checkCommandResult (identity : CommandResultIdentity) : Except PyError CommandResult := do
  let payload := identity.payload
  match (payload.textAt "command_type").bind QmtCommandType.ofValue,
      (payload.textAt "result_status").bind ResultStatus.ofValue with
  | some commandType,some resultStatus =>
    match (payload.textAt "execution_mode").bind ExecutionMode.ofValue with
    | none => .error (.valueError "unsupported command result execution mode")
    | some mode =>
      refuse (payload.get "live_side_effect" ≠ some (.bool (expectedSideEffect mode resultStatus)))
        (.valueError (sideEffectMessage mode)) <|
      refuse (!nonemptyText (payload.textAt "command_id"))
        (.valueError "command_id must be non-empty") <|
      refuse (identity.qmtSessionId == "") (.valueError "qmt_session_id must be non-empty") <|
      refuse (identity.qmtSequence ≤ 0) (.valueError "qmt_sequence must be positive") <| do
      let clientOrderId ← checkOrderIdentity identity.accountFingerprint commandType payload
      return ⟨identity,(payload.textAt "command_id").getD "",clientOrderId,resultStatus,mode⟩
  | _,_ => .error (.valueError "unsupported QMT command result")

structure CommandResultIngestResult where
  duplicate : Bool
  orderStatus : Option OrderStatus
  disposition : Option TransitionDisposition
  deriving DecidableEq, Repr

def CommandResult.row (r : CommandResult) : CommandResultRow :=
  ⟨r.commandId,r.identity.qmtSessionId,r.identity.qmtSequence,r.identity.accountFingerprint,
    r.identity.payload⟩

def CommandResult.beginReconciling (r : CommandResult) : Bool :=
  r.resultStatus = .shadowAccepted || r.executionMode = .simulationCalibration ||
    (r.executionMode = .liveCanary &&
      r.resultStatus ∉ [.rejectedSafetyGate,.rejectedExpired])

/-- The join of a fresh result to its order. -/
def reconcileResult (r : CommandResult) (clientOrderId : String) :
    DbTx CommandResultIngestResult := do
  let outcome ← recordExecutionReconciliationInTx
    ⟨r.identity.accountFingerprint,clientOrderId⟩
    ("QMT_COMMAND_RESULT_" ++ r.resultStatus.value) r.beginReconciling
  Tx.raiseIf (outcome.previous ≠ .acknowledged && outcome.current = .acknowledged)
    (.assertionError "command_result must never promote OMS to ACKNOWLEDGED")
  return ⟨false,some outcome.current,some outcome.disposition⟩

def ingestFreshResult (r : CommandResult) : DbTx CommandResultIngestResult := do
  let taken ← Tx.reads (fun db : Db => db.commandResults.any (fun row =>
    row.qmtSessionId == r.identity.qmtSessionId && row.qmtSequence == r.identity.qmtSequence))
  Tx.raiseIf taken
    (.commandResultConflict "QMT session sequence reused by another command result")
  match r.clientOrderId with
  | none =>
    Tx.writes (fun db => { db with commandResults := db.commandResults ++ [r.row] })
    return ⟨false,none,none⟩
  | some clientOrderId =>
    requireIntent ⟨r.identity.accountFingerprint,clientOrderId⟩ "qmt_command_results"
    Tx.writes (fun db => { db with commandResults := db.commandResults ++ [r.row] })
    reconcileResult r clientOrderId

def ingestKnownResult (r : CommandResult) (row : CommandResultRow) :
    DbTx CommandResultIngestResult := do
  Tx.raiseIf (row ≠ r.row)
    (.commandResultConflict "command_id reused with different QMT result")
  match r.clientOrderId with
  | none => return ⟨true,none,none⟩
  | some clientOrderId =>
    let status ← getStatusInTx ⟨r.identity.accountFingerprint,clientOrderId⟩
    return ⟨true,some status,none⟩

def ingestCommandResultInTx (r : CommandResult) : DbTx CommandResultIngestResult := do
  let existing ← Tx.reads (fun db : Db =>
    find CommandResultRow.commandId r.commandId db.commandResults)
  match existing with
  | some row => ingestKnownResult r row
  | none => ingestFreshResult r

end BigQmt
