import BigQmt.Leader
import Mathlib.Logic.Relation
set_option autoImplicit false

/-!
`oms/repository.py`: every writer of `broker_orders`, inside its transaction.
-/

namespace BigQmt

open Transact Keyed

/-- The columns `_get_order_context_in_tx` selects from the join with the intent. -/
structure OrderContext where
  status : OrderStatus
  brokerOrderId : Option String
  filledQuantity : Int
  quantity : Int
  deriving DecidableEq, Repr

structure TransitionRequest where
  target : OrderStatus
  eventType : String
  brokerOrderId : Option String := none
  filledQuantity : Option Int := none
  cancelOutcomeResolved : Option Bool := none
  brokerFact : Bool := false
  deriving DecidableEq, Repr

/-- `next_status` of `_aggregate_broker_status`. -/
def brokerNext (current target : OrderStatus) : OrderStatus :=
  if current = .manualReview then current
  else if current.brokerTerminal then current
  else if target = .acknowledged && current ∈ [.partiallyFilled,.cancelPending] then current
  else target

def aggregateBrokerStatus (current target : OrderStatus) : TransitionOutcome where
  previous := current
  current := brokerNext current target
  requested := target
  changed := brokerNext current target ≠ current
  disposition :=
    if brokerNext current target = current then
      if target = current then .duplicateIgnored else .staleIgnored
    else .applied

/-- `_normalize_broker_status`. -/
def normalizeBrokerStatus (target : OrderStatus) (filled quantity : Int) :
    Except PyError OrderStatus :=
  refuse (target = .filled && filled != quantity) (.invalidFilledQuantity .filledBelowQuantity) <|
  refuse (target = .rejected && filled != 0) (.invalidFilledQuantity .rejectedWithFill) <|
  refuse (target = .cancelled && filled == quantity)
    (.invalidFilledQuantity .cancelledAtQuantity) <|
  if target ∈ [.acknowledged,.partiallyFilled] then
    if filled = quantity then .ok .filled
    else if 0 < filled then .ok .partiallyFilled
    else refuse (target = .partiallyFilled) (.invalidFilledQuantity .partialWithoutFill)
      (.ok target)
  else .ok target

/-- The reported broker id contradicts the stored one. -/
def idMismatch (stored reported : Option String) : Bool :=
  match stored,reported with
  | some s,some r => s != r
  | _,_ => false

def terminalClash (current target : OrderStatus) : Bool :=
  current.brokerTerminal && target.brokerTerminal && current != target

/-- The effective fill and the normalised target of `_transition_in_tx`. -/
def effectiveFill (ctx : OrderContext) (req : TransitionRequest) :
    Except PyError (Int × OrderStatus) :=
  match req.filledQuantity with
  | none => .ok (ctx.filledQuantity,req.target)
  | some f =>
    refuse (f < 0 || ctx.quantity < f) (.invalidFilledQuantity (.outside f ctx.quantity)) <|
    (normalizeBrokerStatus req.target (max ctx.filledQuantity f) ctx.quantity).map
      (fun target => (max ctx.filledQuantity f,target))

/-- The lifecycle checks on a broker fact after normalisation, then the step of
the aggregation, or of the command-path machine for any other request. -/
def nextStatus (ctx : OrderContext) (req : TransitionRequest) (filled : Int)
    (target : OrderStatus) : Except PyError TransitionOutcome :=
  if req.brokerFact then
    refuse (terminalClash ctx.status target)
      (.brokerLifecycleConflict (.terminal ctx.status target)) <|
    refuse (ctx.status ∈ [.cancelled,.rejected] && ctx.filledQuantity < filled)
      (.brokerLifecycleConflict (.gainedFill ctx.filledQuantity filled)) <|
    .ok (aggregateBrokerStatus ctx.status target)
  else
    match transition ctx.status target with
    | none => .error (.invalidTransition ctx.status target)
    | some outcome => .ok outcome

/-- What `_transition_in_tx` decides before it writes anything. -/
def planTransition (clientOrderId : String) (ctx : OrderContext) (req : TransitionRequest) :
    Except PyError (TransitionOutcome × Int) :=
  refuse (idMismatch ctx.brokerOrderId req.brokerOrderId)
    (.brokerOrderIdMismatch clientOrderId (ctx.brokerOrderId.getD "") (req.brokerOrderId.getD "")) <|
  refuse (req.brokerFact && terminalClash ctx.status req.target)
    (.brokerLifecycleConflict (.terminal ctx.status req.target)) <| do
  let (filled,target) ← effectiveFill ctx req
  let outcome ← nextStatus ctx req filled target
  return (outcome,filled)

/-- The columns `_transition_in_tx` sets. -/
def applyTransition (req : TransitionRequest) (outcome : TransitionOutcome) (filled : Int)
    (row : BrokerOrder) : BrokerOrder :=
  { row with
    status := if outcome.changed then outcome.current else row.status
    brokerOrderId := row.brokerOrderId.or req.brokerOrderId
    filledQuantity := filled
    cancelOutcomeResolved := req.cancelOutcomeResolved.getD row.cancelOutcomeResolved }

def Db.context? (db : Db) (k : OrderKey) : Option OrderContext :=
  match db.order? k,db.intent? k with
  | some b,some i => some ⟨b.status,b.brokerOrderId,b.filledQuantity,i.quantity⟩
  | _,_ => none

/-- `fetchone`, and `OrderNotFound` when there is no row. -/
def fetch {α : Type} (k : OrderKey) (select : Db → Option α) : DbTx α := fun db =>
  match select db with
  | none => .error (.orderNotFound k.clientOrderId)
  | some a => .ok (a,db)

def getStatusInTx (k : OrderKey) : DbTx OrderStatus := do
  let row ← fetch k (fun db => db.order? k)
  return row.status

def getOrderContextInTx (k : OrderKey) : DbTx OrderContext := fetch k (fun db => db.context? k)

def transitionInTx (k : OrderKey) (req : TransitionRequest) : DbTx TransitionOutcome := do
  let ctx ← getOrderContextInTx k
  let (outcome,filled) ← Tx.ofExcept (planTransition k.clientOrderId ctx req)
  Tx.writes (Db.updateOrder k (applyTransition req outcome filled))
  insertEvent ⟨k,.named req.eventType,some ctx.status,outcome.current,outcome.disposition⟩
  return outcome

/-- `prepare_submit_in_tx` and `prepare_cancel_in_tx`: one reservation, of the
call whose flag `started` reads and `reserve` sets. -/
def reserveInTx (k : OrderKey) (target : OrderStatus) (eventType : OrderEventType)
    (already : PyError) (started : BrokerOrder → Bool) (reserve : BrokerOrder → BrokerOrder) :
    DbTx Unit := do
  let row ← fetch k (fun db => db.order? k)
  match transition row.status target with
  | none => Tx.raises (.invalidTransition row.status target)
  | some outcome =>
    Tx.raiseIf (!outcome.changed) already
    Tx.raiseIf (started row) already
    Tx.writes (Db.updateOrder k reserve)
    insertEvent ⟨k,eventType,some row.status,target,outcome.disposition⟩

def reserveSubmit (row : BrokerOrder) : BrokerOrder :=
  { row with status := .submitting, submitCallStarted := true }

def reserveCancel (row : BrokerOrder) : BrokerOrder :=
  { row with status := .cancelPending, cancelCallStarted := true, cancelOutcomeResolved := false }

def prepareSubmitInTx (k : OrderKey) : DbTx Unit :=
  reserveInTx k .submitting .submitReserved (.submitAlreadyStarted k.clientOrderId)
    BrokerOrder.submitCallStarted reserveSubmit

def prepareCancelInTx (k : OrderKey) : DbTx Unit :=
  reserveInTx k .cancelPending .cancelReserved (.cancelAlreadyStarted k.clientOrderId)
    BrokerOrder.cancelCallStarted reserveCancel

def markReview (resolved : Option Bool) (row : BrokerOrder) : BrokerOrder :=
  { row with
    status := .manualReview
    cancelOutcomeResolved := resolved.getD row.cancelOutcomeResolved }

def markManualReviewInTx (k : OrderKey) (eventType : String) (resolved : Option Bool) :
    DbTx Unit := do
  let ctx ← getOrderContextInTx k
  Tx.writes (Db.updateOrder k (markReview resolved))
  insertEvent ⟨k,.named eventType,some ctx.status,.manualReview,.applied⟩

/-- The fill that the conflict writer keeps, or its own range check. -/
def conflictFill (ctx : OrderContext) (filled : Option Int) : Except PyError Int :=
  match filled with
  | none => .ok ctx.filledQuantity
  | some f => refuse (f < 0 || ctx.quantity < f)
      (.invalidFilledQuantity (.outside f ctx.quantity)) (.ok (max ctx.filledQuantity f))

def markConflict (filled : Int) (row : BrokerOrder) : BrokerOrder :=
  { row with status := .manualReview, filledQuantity := filled }

def markBrokerConflictManualReviewInTx (k : OrderKey) (filled : Option Int) : DbTx Unit := do
  let ctx ← getOrderContextInTx k
  let effective ← Tx.ofExcept (conflictFill ctx filled)
  Tx.writes (Db.updateOrder k (markConflict effective))
  insertEvent ⟨k,.named "BROKER_EVIDENCE_CONFLICT_MANUAL_REVIEW",some ctx.status,.manualReview,
    .applied⟩

/-- The status that execution-plane evidence may ask for. -/
def reconciliationTarget (beginReconciling : Bool) (current : OrderStatus) : OrderStatus :=
  if beginReconciling then
    if current ∈ [.submitting,.cancelPending] then .unknown
    else if current = .unknown then .reconciling
    else current
  else current

def recordExecutionReconciliationInTx (k : OrderKey) (eventType : String)
    (beginReconciling : Bool) : DbTx TransitionOutcome := do
  let current ← getStatusInTx k
  transitionInTx k
    { target := reconciliationTarget beginReconciling current, eventType := eventType }

def createdOrder (k : OrderKey) : BrokerOrder := ⟨k,.created,none,0,false,false,false⟩

def createIntentInTx (intent : OrderIntent) : DbTx Unit := do
  let inserted ← Tx.attempt (insertIntent intent.toIntentColumns)
  Tx.raiseIf (match inserted with | .ok _ => false | .error _ => true)
    (.duplicateClientOrderId intent.key.clientOrderId)
  insertOrder (createdOrder intent.key)
  insertEvent ⟨intent.key,.named "INTENT_CREATED",none,.created,.applied⟩

def recordRiskDecisionInTx (k : OrderKey) (decision : RiskDecision) : DbTx OrderStatus := do
  insertRisk ⟨decision,k⟩
  let target := if decision.accepted then OrderStatus.riskAccepted else .riskRejected
  let outcome ← transitionInTx k { target := target, eventType := "RISK_DECISION" }
  return outcome.current

def startSessionInTx (sessionId : String) : DbTx Unit := do
  let existing ← Tx.reads (fun db : Db => find RuntimeSession.sessionId sessionId db.runtimeSessions)
  Tx.raiseIf existing.isSome (.integrityError "runtime_sessions")
  Tx.writes (fun db => { db with runtimeSessions := db.runtimeSessions ++ [⟨sessionId,false⟩] })

def Db.reconcileSession (sessionId : String) (db : Db) : Db :=
  { db with runtimeSessions := modify RuntimeSession.sessionId sessionId
              (fun r => { r with reconciled := true }) db.runtimeSessions }

def markSessionReconciledInTx (sessionId : String) : DbTx Unit :=
  Tx.writes (Db.reconcileSession sessionId)

end BigQmt
