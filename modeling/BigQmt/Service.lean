import BigQmt.World
set_option autoImplicit false

/-!
`oms/service.py`: the methods of `OfflineOms`, one effect at a time.
-/

namespace BigQmt

open Resumption Proc

structure OmsState where
  sessionId : String
  leaseSeconds : Nat
  lease : LeaderLease
  reconciled : Bool
  closed : Bool
  deriving DecidableEq, Repr

def OmsState.guard (s : OmsState) : Guard := ⟨"OMS instance",s.closed,s.lease⟩

abbrev Oms (α : Type) : Type 1 := Proc Eff PyError OmsState α

/-- Run one guarded transaction of this object. -/
def durable {α : Type} (t : Guard → Txn α) : Oms α := do
  let s ← self
  call (.txn (t s.guard))

def assertLeader : Oms Unit := do
  let s ← self
  if s.closed then
    throw (.runtimeError "OMS instance is closed")
  else
    let now ← ask .clock
    call (.select (assertHeld s.lease now))

def omsHeartbeat : Oms Unit := do
  let s ← self
  if s.closed then
    throw (.runtimeError "OMS instance is closed")
  else
    let now ← ask .clock
    let lease ← call (.txn (.heartbeat s.lease s.leaseSeconds now))
    update (fun s => { s with lease := lease })

def omsClose : Oms Unit := do
  let s ← self
  if s.closed then
    return ()
  else
    let _ ← call (.txn (.release s.lease))
    update (fun s => { s with closed := true, reconciled := false })

/-- `OfflineOms.__init__`; the result is the new object. -/
def constructOms (leaseSeconds : Nat) : Proc Eff PyError Unit OmsState := do
  if leaseSeconds = 0 then
    throw (.valueError "leader_lease_seconds must be positive")
  else
    let sessionId ← ask .uuid4
    let now ← ask .clock
    let token ← ask .uuid4
    let lease ← call (.txn (.acquire sessionId token leaseSeconds now))
    let s : OmsState := ⟨sessionId,leaseSeconds,lease,false,false⟩
    tryCatch (call (.txn (.startSession s.guard sessionId))) (fun e => do
      let _ ← call (.txn (.release lease))
      throw e)
    return s

def transitionOrder (k : OrderKey) (req : TransitionRequest) : Oms TransitionOutcome :=
  durable (fun g => .transitionOrder g k req)

def getStatus (k : OrderKey) : Oms OrderStatus :=
  call (.select (fun db =>
    match db.order? k with
    | none => .error (.orderNotFound k.clientOrderId)
    | some row => .ok row.status))

/-- `EvidenceJournal.ingest`: the conflict is raised after the commit. -/
def ingestBrokerEvidence (e : BrokerEvidenceV1) : Oms EvidenceIngestResult := do
  let result ← durable (fun g => .ingestEvidence g e)
  match result with
  | .ok applied => return applied
  | .error reason => throw (.brokerEvidenceConflict reason)

def evidenceTypeOf : OrderStatus → Option BrokerEvidenceType
  | .acknowledged => some .orderAccepted
  | .partiallyFilled => some .partialFill
  | .filled => some .fullFill
  | .cancelled => some .orderCancelled
  | .rejected => some .orderRejected
  | _ => none

/-- The evidence that `_ingest_active_query_evidence` builds. -/
def queryEvidence (sessionId reason : String) (k : OrderKey) (o : BrokerOrderObservation)
    (evidenceType : BrokerEvidenceType) (observedAtMs : Int) : EvidenceFields where
  source := "execution-driver-active-query"
  sourceKind := .activeOrderQuery
  sourceEventId := sessionId ++ ":" ++ reason ++ ":" ++ k.clientOrderId
  mapperProfile := "execution-driver-query-v1"
  key := k
  brokerToken := none
  brokerOrderId := some o.brokerOrderId
  orderRef := none
  tradeId := none
  evidenceType := evidenceType
  requestedStatus := o.status
  filledQuantity := o.filledQuantity
  observedAtMs := observedAtMs
  rawPayloadRef := "driver://active-order-query/" ++ k.clientOrderId
  rawStatus := none
  routeAccountType := none
  routeAccountFingerprint := none

def ingestActiveQueryEvidence (k : OrderKey) (o : BrokerOrderObservation) (reason : String) :
    Oms EvidenceIngestResult := do
  match evidenceTypeOf o.status with
  | none => throw (.recoveryViolation
      ("active query returned non-broker lifecycle status " ++ o.status.value))
  | some evidenceType =>
    let now ← ask .clock
    let s ← self
    match BrokerEvidenceV1.build
        (queryEvidence s.sessionId reason k o evidenceType (now / 1000)) with
    | .error message => throw (.valueError message)
    | .ok e => ingestBrokerEvidence e

/-- `list_recovery_candidates`. -/
def recoveryCandidates (db : Db) : List BrokerOrder :=
  db.brokerOrders.filter (fun row =>
    row.status ∈ [.created,.riskAccepted,.submitting,.cancelPending,.unknown,.reconciling] ||
      (row.cancelCallStarted && !row.cancelOutcomeResolved))

def cancelUnresolved (row : BrokerOrder) : Bool :=
  row.cancelCallStarted && !row.cancelOutcomeResolved

def recoverPreSubmit (row : BrokerOrder) : Oms Unit := do
  if row.submitCallStarted || row.cancelCallStarted || row.brokerOrderId.isSome then
    throw (.recoveryViolation ("pre-submit state " ++ row.status.value ++
      " has impossible side-effect evidence for " ++ row.key.clientOrderId))
  else
    let _ ← transitionOrder row.key
      { target := .aborted, eventType := "STARTUP_PRE_SUBMIT_ABORT" }

/-- `SUBMITTING` becomes `UNKNOWN`, and an unresolved cancel of a live order is
restored; the result is the status the rest of the loop body sees. -/
def recoverSubmitting (row : BrokerOrder) : Oms OrderStatus := do
  if row.status = .submitting then
    if !row.submitCallStarted then
      throw (.recoveryViolation ("SUBMITTING without submit reservation: " ++ row.key.clientOrderId))
    else
      let _ ← transitionOrder row.key
        { target := .unknown, eventType := "STARTUP_SUBMIT_AMBIGUITY" }
      return .unknown
  else if cancelUnresolved row && row.status ∈ [.acknowledged,.partiallyFilled] then
    let _ ← transitionOrder row.key
      { target := .cancelPending, eventType := "STARTUP_RESTORE_CANCEL_PENDING" }
    return .cancelPending
  else
    return row.status

def recoverCancelPending (row : BrokerOrder) (status : OrderStatus) : Oms OrderStatus := do
  if status = .cancelPending then
    if !row.cancelCallStarted then
      throw (.recoveryViolation ("CANCEL_PENDING without cancel reservation: " ++
        row.key.clientOrderId))
    else
      let _ ← transitionOrder row.key
        { target := .unknown, eventType := "STARTUP_CANCEL_AMBIGUITY" }
      return .unknown
  else
    return status

def recoverUnknown (row : BrokerOrder) (status : OrderStatus) : Oms Unit := do
  if status = .unknown then
    let _ ← transitionOrder row.key
      { target := .reconciling, eventType := "STARTUP_RECONCILE_BEGIN" }
  else
    return ()

/-- The active query that ends the loop body. -/
def recoverQuery (row : BrokerOrder) : Oms Unit := do
  assertLeader
  let evidence ← call (.queryByClientOrderId row.key)
  assertLeader
  match evidence with
  | none =>
    let _ ← transitionOrder row.key
      { target := .manualReview, eventType := "RECONCILE_NOT_FOUND",
        cancelOutcomeResolved := if cancelUnresolved row then some true else none }
  | some o =>
    let _ ← ingestActiveQueryEvidence row.key o "startup-recovery"
    if cancelUnresolved row then
      let status ← getStatus row.key
      let _ ← transitionOrder row.key
        { target := status, eventType := "RECONCILE_CANCEL_AMBIGUITY_RESOLVED",
          cancelOutcomeResolved := some true }
    else
      return ()

/-- One iteration of the loop of `recover`, on the row that was listed. -/
def recoverRow (row : BrokerOrder) : Oms Unit := do
  omsHeartbeat
  if row.status ∈ [.created,.riskAccepted] then
    recoverPreSubmit row
  else
    let status ← recoverSubmitting row
    if cancelUnresolved row && status.brokerTerminal then
      let _ ← transitionOrder row.key
        { target := status, eventType := "STARTUP_CANCEL_ALREADY_TERMINAL",
          cancelOutcomeResolved := some true }
    else
      let status ← recoverCancelPending row status
      recoverUnknown row status
      recoverQuery row

def recover : Oms Unit := do
  assertLeader
  let rows ← call (.select (fun db => .ok (recoveryCandidates db)))
  each recoverRow rows
  omsHeartbeat
  let s ← self
  durable (fun g => .markSessionReconciled g s.sessionId)
  assertLeader
  update (fun s => { s with reconciled := true })

structure SubmitResult where
  status : OrderStatus
  brokerOrderId : Option String
  deriving DecidableEq, Repr

def coreExecutionDecision (ruleVersion : String) (now : Nat) : RiskDecision :=
  ⟨true,.ok,ruleVersion,now⟩

/-- The texts that tell the submit path from the cancel path. -/
structure CallEvents where
  outcomeUnknown : String
  exceptionUnknown : String
  returned : String
  queryBegin : String
  reason : String

def submitEvents : CallEvents :=
  ⟨"SUBMIT_OUTCOME_UNKNOWN","SUBMIT_EXCEPTION_UNKNOWN","SUBMIT_API_RETURNED_LIFECYCLE_UNKNOWN",
    "SUBMIT_ACTIVE_QUERY_BEGIN","post-submit"⟩

def cancelEvents : CallEvents :=
  ⟨"CANCEL_OUTCOME_UNKNOWN","CANCEL_EXCEPTION_UNKNOWN","CANCEL_API_RETURNED_LIFECYCLE_UNKNOWN",
    "CANCEL_ACTIVE_QUERY_BEGIN","post-cancel"⟩

def PyError.isOutcomeUnknown : PyError → Bool
  | .outcomeUnknown _ => true
  | _ => false

/-- `except SubmitOutcomeUnknown` and `except Exception` around the driver call. -/
def callRaised (k : OrderKey) (events : CallEvents) (e : PyError) : Oms SubmitResult := do
  assertLeader
  let _ ← transitionOrder k
    { target := .unknown,
      eventType := if e.isOutcomeUnknown then events.outcomeUnknown else events.exceptionUnknown }
  return ⟨.unknown,none⟩

/-- What follows a driver call that returned, up to the ingested answer of the query. -/
def callReturned (k : OrderKey) (events : CallEvents) :
    Oms (Option (BrokerOrderObservation × EvidenceIngestResult)) := do
  assertLeader
  let _ ← transitionOrder k { target := .unknown, eventType := events.returned }
  let _ ← transitionOrder k { target := .reconciling, eventType := events.queryBegin }
  assertLeader
  let evidence ← call (.queryByClientOrderId k)
  assertLeader
  match evidence with
  | none => return none
  | some o =>
    let applied ← ingestActiveQueryEvidence k o events.reason
    return some (o,applied)

/-- The exception of an effect, as a value. -/
def caught {α : Type} (o : Eff (Except PyError α)) : Oms (Except PyError α) := ask o

def submitDecidedIntent (intent : OrderIntent) (decision : RiskDecision) : Oms SubmitResult := do
  assertLeader
  let s ← self
  if !s.reconciled then
    throw (.notReconciled "startup reconciliation must complete before new intents")
  else
    durable (fun g => .createIntent g intent)
    let status ← durable (fun g => .recordRiskDecision g intent.key decision)
    if status = .riskRejected then
      return ⟨status,none⟩
    else
      durable (fun g => .prepareSubmit g intent.key)
      assertLeader
      let returned ← caught (.submitLimitOrder intent)
      match returned with
      | .error e => callRaised intent.key submitEvents e
      | .ok _ =>
        let answer ← callReturned intent.key submitEvents
        match answer with
        | none => return ⟨.reconciling,none⟩
        | some (o,applied) => return ⟨applied.status,some o.brokerOrderId⟩

def submitIntent (intent : OrderIntent) (decision : Option RiskDecision) : Oms SubmitResult := do
  match decision with
  | some d => submitDecidedIntent intent d
  | none =>
    let now ← ask .clock
    submitDecidedIntent intent (coreExecutionDecision "execution-core-v1" now)

def cancelOrder (k : OrderKey) : Oms SubmitResult := do
  assertLeader
  let s ← self
  if !s.reconciled then
    throw (.notReconciled "startup reconciliation must complete before cancellation")
  else
    durable (fun g => .prepareCancel g k)
    assertLeader
    let returned ← caught (.cancelOrder k)
    match returned with
    | .error e => callRaised k cancelEvents e
    | .ok _ =>
      let answer ← callReturned k cancelEvents
      match answer with
      | none => return ⟨.reconciling,none⟩
      | some (o,applied) =>
        let _ ← transitionOrder k
          { target := applied.status, eventType := "CANCEL_ACTIVE_QUERY_RESOLVED",
            cancelOutcomeResolved := some true }
        return ⟨applied.status,some o.brokerOrderId⟩

/-- `QmtCommandResultJournal.ingest` under the guard of this object. -/
def ingestCommandResult (identity : CommandResultIdentity) : Oms CommandResultIngestResult := do
  match checkCommandResult identity with
  | .error e => throw e
  | .ok r => durable (fun g => .ingestCommandResult g r)

inductive OmsOp where
  | recover
  | submitIntent (intent : OrderIntent) (decision : Option RiskDecision)
  | cancelOrder (k : OrderKey)
  | ingestBrokerEvidence (e : BrokerEvidenceV1)
  | ingestCommandResult (identity : CommandResultIdentity)
  | registerDurableSubmit (row : DurableIdentity) (allowExisting : Bool)
  | heartbeat
  | close

/-- One call by a caller that survives the exceptions it raises. -/
def OmsOp.perform (op : OmsOp) : Oms Unit :=
  tryCatch
    (match op with
      | .recover => BigQmt.recover
      | .submitIntent intent decision => discard (BigQmt.submitIntent intent decision)
      | .cancelOrder k => discard (BigQmt.cancelOrder k)
      | .ingestBrokerEvidence e => discard (BigQmt.ingestBrokerEvidence e)
      | .ingestCommandResult identity => discard (BigQmt.ingestCommandResult identity)
      | .registerDurableSubmit row allow => discard (durable (fun g =>
          .registerDurableSubmit g row allow))
      | .heartbeat => omsHeartbeat
      | .close => omsClose)
    (fun _ => pure ())

/-- A process: the constructor, then any calls on the object it built. -/
def omsProcess (leaseSeconds : Nat) (ops : List OmsOp) : Prog Eff Unit :=
  (constructOms leaseSeconds ()).bind fun r =>
    match r.1 with
    | .error _ => .pure ()
    | .ok s => (each OmsOp.perform ops s).bind (fun _ => .pure ())

end BigQmt
