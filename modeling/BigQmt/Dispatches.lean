import BigQmt.Repository
set_option autoImplicit false

/-!
The durable transactions of the simulator runtime: `qmt/durable_identity.py`,
and the dispatch plans of `qmt/guojin_sim_oms.py`.
-/

namespace BigQmt

open Transact Keyed

/-- The row that shares the command, the order or the token of an identity. -/
def matchingIdentity (row : DurableIdentity) (db : Db) : Option DurableIdentity :=
  db.durableIdentities.find? (fun r => r.commandId == row.commandId || r.key == row.key ||
    (r.key.accountFingerprint == row.key.accountFingerprint && r.brokerToken == row.brokerToken))

def Db.processIdentity (commandId : String) (db : Db) : Db :=
  { db with durableIdentities := modify DurableIdentity.commandId commandId
              (fun r => { r with commandState := .processed }) db.durableIdentities }

def insertIdentity (row : DurableIdentity) : DbTx Unit := do
  requireIntent row.key "qmt_durable_command_identities"
  let clash ← Tx.reads (matchingIdentity row)
  Tx.raiseIf (clash.isSome || row.quantity ≤ 0 || 100 < row.quantity)
    (.integrityError "qmt_durable_command_identities")
  Tx.writes (fun db => { db with durableIdentities := db.durableIdentities ++ [row] })

/-- The intent that `register_qmt_durable_submit` writes for an order the
database does not have. -/
def importedIntent (row : DurableIdentity) : IntentColumns where
  key := row.key
  strategyId := "qmt-guojin-sim-import"
  strategyVersion := "1"
  symbol := row.symbol
  side := row.side
  quantity := row.quantity
  limitPrice := row.limitPrice
  createdAt := row.createdMs.toNat * 1000
  expiresAt := row.expiresMs.toNat * 1000
  signalId := row.commandId
  reasonCode := "DURABLE_QMT_COMMAND_RECOVERY"

def importedOrder (k : OrderKey) : BrokerOrder := ⟨k,.reconciling,none,0,true,false,false⟩

def linkIdentity (row : DurableIdentity) : DbTx Bool := do
  insertIdentity row
  let current ← getStatusInTx row.key
  insertEvent ⟨row.key,.named "QMT_DURABLE_SUBMIT_LINKED_TO_OMS_DISPATCH",some current,current,
    .applied⟩
  return true

/-- The last instant that `datetime.fromtimestamp` knows, in milliseconds. -/
def lastTimestampMs : Int := 253402300799999

def DurableIdentity.outOfRange (row : DurableIdentity) : Bool :=
  lastTimestampMs < row.createdMs || lastTimestampMs < row.expiresMs

def importIdentity (row : DurableIdentity) : DbTx Bool := do
  Tx.raiseIf row.outOfRange (.valueError "year is out of range")
  insertIntent (importedIntent row)
  insertOrder (importedOrder row.key)
  insertIdentity row
  insertEvent ⟨row.key,.named "QMT_DURABLE_SUBMIT_REGISTERED",none,.reconciling,.applied⟩
  return true

def knownIdentity (row stored : DurableIdentity) : DbTx Bool := do
  if stored.commandState = .unknown && row = { stored with commandState := .processed } then
    Tx.writes (Db.processIdentity row.commandId)
    return false
  else
    Tx.raiseIf (stored ≠ row)
      (.durableIdentityConflict "conflicting durable QMT command identity")
    return false

def registerQmtDurableSubmitInTx (row : DurableIdentity) (allowExisting : Bool) :
    DbTx Bool := do
  let stored ← Tx.reads (matchingIdentity row)
  match stored with
  | some r => knownIdentity row r
  | none =>
    let existing ← Tx.reads (fun db : Db => db.intent? row.key)
    if existing.isSome then
      Tx.raiseIf (!allowExisting)
        (.durableIdentityConflict "OMS order exists without matching durable QMT identity")
      linkIdentity row
    else
      importIdentity row

def QmtCommand.orderKey (command : QmtCommand) : OrderKey :=
  ⟨command.accountFingerprint,command.clientOrderId.getD ""⟩

/-- The row of a new plan. -/
def plannedDispatch (sessionId : String) (command : QmtCommand) (brokerOrderId : Option String)
    (raw : Raw) : Dispatch where
  commandId := command.commandId
  key := command.orderKey
  commandType := command.commandType
  qmtSessionId := sessionId
  brokerToken := command.brokerToken
  brokerOrderId := brokerOrderId
  frameDigest := raw
  frameBlob := raw
  dispatchState := .planned
  createdMs := command.createdMs
  expiresMs := command.expiresMs

/-- The primary key, `UNIQUE(account_fingerprint, client_order_id, command_type)`
and the checks of `qmt_execution_dispatches`. -/
def dispatchRefused (row : Dispatch) (db : Db) : Bool :=
  db.dispatches.any (fun r => r.commandId == row.commandId ||
      (r.key == row.key && r.commandType == row.commandType)) ||
    row.commandType = .requestSnapshot || row.brokerToken.isNone

def insertDispatch (row : Dispatch) : DbTx Unit := do
  requireIntent row.key "qmt_execution_dispatches"
  let refused ← Tx.reads (dispatchRefused row)
  Tx.raiseIf refused (.integrityError "qmt_execution_dispatches")
  Tx.writes (fun db => { db with dispatches := db.dispatches ++ [row] })

def persistDispatchInTx (sessionId : String) (command : QmtCommand)
    (brokerOrderId : Option String) (raw : Raw) : DbTx Dispatch := do
  let existing ← Tx.reads (fun db : Db => db.dispatch? command.commandId)
  match existing with
  | some row =>
    Tx.raiseIf (row.frameDigest ≠ raw || row.frameBlob ≠ raw)
      (.durableIdentityConflict "command identity has a conflicting frame")
    return row
  | none =>
    insertDispatch (plannedDispatch sessionId command brokerOrderId raw)
    let status ← getStatusInTx command.orderKey
    insertEvent ⟨command.orderKey,.named "QMT_DISPATCH_PLAN_COMMITTED",none,status,.applied⟩
    return plannedDispatch sessionId command brokerOrderId raw

def reserveAndPersistDispatchInTx (sessionId : String) (command : QmtCommand)
    (brokerOrderId : Option String) (cancel : Bool) (raw : Raw) : DbTx Dispatch := do
  if cancel then
    prepareCancelInTx command.orderKey
  else
    prepareSubmitInTx command.orderKey
  persistDispatchInTx sessionId command brokerOrderId raw

def setDispatchStateInTx (commandId : String) (state : DispatchState) : DbTx Unit :=
  Tx.writes (Db.updateDispatch commandId (fun r => { r with dispatchState := state }))

def failDispatchManualReviewInTx (command : QmtCommand) (eventType : String) : DbTx Unit := do
  setDispatchStateInTx command.commandId .manualReview
  markManualReviewInTx command.orderKey eventType
    (if command.commandType = .cancelOrder then some true else none)

end BigQmt
