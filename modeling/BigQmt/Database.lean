import BigQmt.Commands
import BigQmt.Table
import BigQmt.Transaction
set_option autoImplicit false

/-!
The tables of `core_migrations/0001_initial.sql` and
`qmt/migrations/0001_initial.sql`, with the constraints that `INSERT` checks.
-/

namespace BigQmt

open Transact Keyed

structure BrokerOrder where
  key : OrderKey
  status : OrderStatus
  brokerOrderId : Option String
  filledQuantity : Int
  submitCallStarted : Bool
  cancelCallStarted : Bool
  cancelOutcomeResolved : Bool
  deriving DecidableEq, Repr

structure RiskRow extends RiskDecision where
  key : OrderKey
  deriving DecidableEq, Repr

/-- `event_type`; the two reservations are told apart from the other texts. -/
inductive OrderEventType where
  | submitReserved
  | cancelReserved
  | named (text : String)
  deriving DecidableEq, Repr

structure OrderEvent where
  key : OrderKey
  eventType : OrderEventType
  fromStatus : Option OrderStatus
  toStatus : OrderStatus
  disposition : TransitionDisposition
  deriving DecidableEq, Repr

structure RuntimeSession where
  sessionId : String
  reconciled : Bool
  deriving DecidableEq, Repr

structure LeaderRow where
  sessionId : String
  leaseToken : String
  epoch : Nat
  expiresAt : Nat
  deriving DecidableEq, Repr

structure EvidenceKey where
  fingerprint : EvidenceFingerprint
  accepted : Bool
  resultDisposition : Option TransitionDisposition
  conflictReason : Option String
  deriving DecidableEq, Repr

inductive Classification where
  | new | duplicate | semanticDuplicate | conflict | conflictDuplicate
  deriving DecidableEq, Repr

structure Observation where
  evidence : BrokerEvidenceV1
  classification : Classification
  deriving DecidableEq

structure CommandResultRow where
  commandId : String
  qmtSessionId : String
  qmtSequence : Int
  accountFingerprint : String
  payload : Fields
  deriving DecidableEq

inductive CommandState where
  | processed | unknown
  deriving DecidableEq, Repr

structure DurableIdentity where
  commandId : String
  key : OrderKey
  qmtSessionId : String
  brokerToken : String
  symbol : String
  side : Side
  quantity : Int
  limitPrice : String
  commandState : CommandState
  commandDigest : Raw
  createdMs : Int
  expiresMs : Int
  deriving DecidableEq

inductive DispatchState where
  | planned | published | observedClaimed | observedProcessed | observedRejected | unknown
  | manualReview
  deriving DecidableEq, Repr

structure Dispatch where
  commandId : String
  key : OrderKey
  commandType : QmtCommandType
  qmtSessionId : String
  brokerToken : Option String
  brokerOrderId : Option String
  frameDigest : Raw
  frameBlob : Raw
  dispatchState : DispatchState
  createdMs : Int
  expiresMs : Int
  deriving DecidableEq

structure Db where
  orderIntents : List IntentColumns
  brokerOrders : List BrokerOrder
  riskDecisions : List RiskRow
  orderEvents : List OrderEvent
  runtimeSessions : List RuntimeSession
  omsLeader : Option LeaderRow
  evidenceKeys : List EvidenceKey
  observations : List Observation
  commandResults : List CommandResultRow
  durableIdentities : List DurableIdentity
  dispatches : List Dispatch

namespace Db

def empty : Db := ⟨[],[],[],[],[],none,[],[],[],[],[]⟩

def intent? (db : Db) (k : OrderKey) : Option IntentColumns := find IntentColumns.key k db.orderIntents

def order? (db : Db) (k : OrderKey) : Option BrokerOrder := find BrokerOrder.key k db.brokerOrders

def dispatch? (db : Db) (commandId : String) : Option Dispatch :=
  find Dispatch.commandId commandId db.dispatches

def evidenceKey? (db : Db) (fp : EvidenceFingerprint) : Option EvidenceKey :=
  find EvidenceKey.fingerprint fp db.evidenceKeys

def updateOrder (k : OrderKey) (f : BrokerOrder → BrokerOrder) (db : Db) : Db :=
  { db with brokerOrders := modify BrokerOrder.key k f db.brokerOrders }

def updateDispatch (commandId : String) (f : Dispatch → Dispatch) (db : Db) : Db :=
  { db with dispatches := modify Dispatch.commandId commandId f db.dispatches }

end Db

abbrev DbTx (α : Type) : Type := Tx PyError Db α

/-- A foreign key to `order_intents`. -/
def requireIntent (k : OrderKey) (table : String) : DbTx Unit := do
  let parent ← Tx.reads (fun db : Db => db.intent? k)
  Tx.raiseIf parent.isNone (.integrityError table)

def insertIntent (row : IntentColumns) : DbTx Unit := do
  let existing ← Tx.reads (fun db : Db => db.intent? row.key)
  Tx.raiseIf (existing.isSome || row.quantity ≤ 0) (.integrityError "order_intents")
  Tx.writes (fun db => { db with orderIntents := db.orderIntents ++ [row] })

def insertOrder (row : BrokerOrder) : DbTx Unit := do
  requireIntent row.key "broker_orders"
  let existing ← Tx.reads (fun db : Db => db.order? row.key)
  Tx.raiseIf existing.isSome (.integrityError "broker_orders")
  Tx.writes (fun db => { db with brokerOrders := db.brokerOrders ++ [row] })

def insertRisk (row : RiskRow) : DbTx Unit := do
  requireIntent row.key "risk_decisions"
  let existing ← Tx.reads (fun db : Db => find RiskRow.key row.key db.riskDecisions)
  Tx.raiseIf existing.isSome (.integrityError "risk_decisions")
  Tx.writes (fun db => { db with riskDecisions := db.riskDecisions ++ [row] })

/-- `_insert_event`. -/
def insertEvent (row : OrderEvent) : DbTx Unit := do
  requireIntent row.key "order_events"
  Tx.writes (fun db => { db with orderEvents := db.orderEvents ++ [row] })

/-- The unique index on `(source, account_fingerprint, source_event_id)`. -/
def sourceTaken (fp : EvidenceFingerprint) (db : Db) : Bool :=
  db.evidenceKeys.any (fun r => r.fingerprint.source == fp.source &&
    r.fingerprint.accountFingerprint == fp.accountFingerprint &&
    r.fingerprint.sourceEventId == fp.sourceEventId)

/-- `_insert_key`. -/
def insertEvidenceKey (row : EvidenceKey) : DbTx Unit := do
  let clash ← Tx.reads (sourceTaken row.fingerprint)
  Tx.raiseIf clash (.integrityError "broker_evidence_keys")
  Tx.writes (fun db => { db with evidenceKeys := db.evidenceKeys ++ [row] })

/-- `_insert_observation`. -/
def insertObservation (row : Observation) : DbTx Unit := do
  requireIntent row.evidence.key "broker_evidence_observations"
  Tx.writes (fun db => { db with observations := db.observations ++ [row] })

section inserts
variable {db db' : Db} {u : Unit}

@[simp] theorem requireIntent_eq_ok {k : OrderKey} {table : String} :
    requireIntent k table db = .ok (u,db') ↔ (db.intent? k).isSome = true ∧ db' = db := by
  simp [requireIntent,Option.isSome_iff_ne_none,and_comm]

@[simp] theorem insertIntent_eq_ok {row : IntentColumns} :
    insertIntent row db = .ok (u,db') ↔ db.intent? row.key = none ∧ 0 < row.quantity ∧
      db' = { db with orderIntents := db.orderIntents ++ [row] } := by
  simp [insertIntent,and_assoc]

@[simp] theorem insertOrder_eq_ok {row : BrokerOrder} :
    insertOrder row db = .ok (u,db') ↔ (db.intent? row.key).isSome = true ∧
      db.order? row.key = none ∧
      db' = { db with brokerOrders := db.brokerOrders ++ [row] } := by
  simp [insertOrder]

@[simp] theorem insertRisk_eq_ok {row : RiskRow} :
    insertRisk row db = .ok (u,db') ↔ (db.intent? row.key).isSome = true ∧
      find RiskRow.key row.key db.riskDecisions = none ∧
      db' = { db with riskDecisions := db.riskDecisions ++ [row] } := by
  simp [insertRisk]

@[simp] theorem insertEvent_eq_ok {row : OrderEvent} :
    insertEvent row db = .ok (u,db') ↔ (db.intent? row.key).isSome = true ∧
      db' = { db with orderEvents := db.orderEvents ++ [row] } := by
  simp [insertEvent]

@[simp] theorem insertObservation_eq_ok {row : Observation} :
    insertObservation row db = .ok (u,db') ↔ (db.intent? row.evidence.key).isSome = true ∧
      db' = { db with observations := db.observations ++ [row] } := by
  simp [insertObservation]

@[simp] theorem insertEvidenceKey_eq_ok {row : EvidenceKey} :
    insertEvidenceKey row db = .ok (u,db') ↔
      sourceTaken row.fingerprint db = false ∧
      db' = { db with evidenceKeys := db.evidenceKeys ++ [row] } := by
  simp [insertEvidenceKey]

end inserts
end BigQmt
