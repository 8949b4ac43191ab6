import BigQmt.CommandSpool
import BigQmt.Mapper
set_option autoImplicit false

/-!
`qmt/guojin_sim_oms.py`: the methods of `GuojinSimOmsRuntime`, one effect at a
time.
-/

namespace BigQmt

open Resumption Proc Keyed

structure QmtInstance where
  instanceId : String
  executionMode : String
  simulationOnly : Bool
  tradingEnabled : Bool
  liveSubmit : Bool
  liveCancel : Bool
  accountType : String
  accountFingerprint : String
  bridgeBuild : String
  sessionId : String
  deriving DecidableEq, Repr

def authorizedGuojinSimFingerprint : String :=
  "sha256:ff266d673e28fbba5da4bfe2c68975f75b6a9fb5b89014503409b2b014ce0702"

def authorizedGuojinSimBuild : String := "p5-simulation-calibration-8"

def guojinSimOmsAuthorized (inst : QmtInstance) : Bool :=
  inst.instanceId == "guojin_sim" && inst.executionMode == "SIMULATION_CALIBRATION" &&
    inst.simulationOnly && inst.tradingEnabled && inst.liveSubmit && inst.liveCancel &&
    inst.accountType == "STOCK" && inst.accountFingerprint == authorizedGuojinSimFingerprint &&
    inst.bridgeBuild == authorizedGuojinSimBuild && inst.sessionId != ""

structure RuntimeState where
  instance_ : QmtInstance
  lease : LeaderLease
  lastHeartbeat : Nat
  closed : Bool
  mapper : Mapper
  deriving DecidableEq

namespace RuntimeState

def guard (s : RuntimeState) : Guard := ⟨"guojin_sim OMS runtime",s.closed,s.lease⟩

def account (s : RuntimeState) : String := s.instance_.accountFingerprint

def session (s : RuntimeState) : String := s.instance_.sessionId

def key (s : RuntimeState) (clientOrderId : String) : OrderKey := ⟨s.account,clientOrderId⟩

end RuntimeState

abbrev Runtime (α : Type) : Type 1 := Proc Eff PyError RuntimeState α

namespace Runtime

def leaseSeconds : Nat := 30

/-- Run one guarded transaction of this object. -/
def durable {α : Type} (t : Guard → Txn α) : Runtime α := do
  let s ← self
  call (.txn (t s.guard))

def select {α : Type} (q : Db → α) : Runtime α := call (.select (fun db => .ok (q db)))

def assertLeader : Runtime Unit := do
  let s ← self
  if s.closed then
    throw (.runtimeError "guojin_sim OMS runtime is closed")
  else
    let now ← ask .clock
    call (.select (assertHeld s.lease now))

def maintain : Runtime Unit := do
  let s ← self
  let started ← ask .monotonic
  if s.lastHeartbeat + 10000000 ≤ started then
    let now ← ask .clock
    let lease ← call (.txn (.heartbeat s.lease leaseSeconds now))
    let ended ← ask .monotonic
    update (fun s => { s with lease := lease, lastHeartbeat := ended })
  else
    return ()

/-- `mapper.register_order`, with the token that has to come back. -/
def registerOrder (clientOrderId symbol : String) (quantity : Int) : Runtime String := do
  let s ← self
  let (token,mapper) ← Proc.ofExcept (s.mapper.registerOrder clientOrderId symbol quantity)
  update (fun s => { s with mapper := mapper })
  return token

def restoreIdentity (row : DurableIdentity) : Runtime Unit := do
  let s ← self
  if row.key.accountFingerprint ≠ s.account then
    throw (.durableIdentityConflict "OMS database account fingerprint changed")
  else
    let token ← registerOrder row.key.clientOrderId row.symbol row.quantity
    if token ≠ row.brokerToken then
      throw (.durableIdentityConflict "persisted OMS broker token mismatch")
    else return ()

def restorePersistedIdentities : Runtime Unit := do
  let rows ← select (fun db =>
    db.durableIdentities.insertionSort (fun a b => a.commandId ≤ b.commandId))
  each restoreIdentity rows

/-- The files that `refresh_identities` has read so far: the validating mapper
and the candidates, in order. -/
structure Candidates where
  validator : Mapper
  rows : List DurableIdentity

def sideOf (s : String) : Option Side :=
  if s = "BUY" then some .buy else if s = "SELL" then some .sell else none

/-- The candidate of a submit frame of this session, or `none` for a frame that
is not one. -/
def candidateOf (inst : QmtInstance) (state : CommandState) (name : String) (raw : Raw) :
    Except PyError (Option DurableIdentity) := do
  let command ← decodeCommandFrame raw
  refuse (name ≠ command.commandId)
    (.valueError "durable command filename/identity mismatch") (.ok ())
  let payload := command.payload
  if command.commandType ≠ .submitLimit || command.accountFingerprint ≠ inst.accountFingerprint ||
      payload.get "simulation_calibration" ≠ some (.bool true) ||
      payload.get "expected_qmt_session_id" ≠ some (.text inst.sessionId) then
    return none
  else
    match payload.numAt "quantity",command.clientOrderId,command.brokerToken,
        payload.textAt "symbol",(payload.textAt "side").bind sideOf,
        payload.textAt "limit_price" with
    | some quantity,some clientOrderId,some token,some symbol,some side,some limitPrice =>
      refuse (100 < quantity)
        (.valueError "durable simulation quantity exceeds Host boundary") (.ok ())
      let expected ← brokerTokenFor command.accountFingerprint clientOrderId
      refuse (token ≠ expected) (.valueError "durable command broker token mismatch") (.ok ())
      return some ⟨command.commandId,⟨command.accountFingerprint,clientOrderId⟩,inst.sessionId,
        token,symbol,side,quantity,limitPrice,state,raw,command.createdMs,command.expiresMs⟩
    -- `decode_command_frame` has validated all six members.
    | _,_,_,_,_,_ => .error (.valueError "durable simulation quantity exceeds Host boundary")

def Candidates.add (c : Candidates) (row : DurableIdentity) : Except PyError Candidates := do
  let (token,validator) ← c.validator.registerOrder row.key.clientOrderId row.symbol row.quantity
  refuse (token ≠ row.brokerToken)
    (.valueError "mapper token differs from durable command token") (.ok ())
  refuse (c.rows.any (fun r => r.key.clientOrderId = row.key.clientOrderId ∧ r ≠ row))
    (.durableIdentityConflict "conflicting durable client identity") (.ok ())
  refuse (c.rows.any (fun r => r.commandId = row.commandId ∧ r ≠ row))
    (.durableIdentityConflict "conflicting durable command identity") (.ok ())
  return ⟨validator,c.rows ++ [row]⟩

def readCandidates (state : CommandState) (dir : SpoolDir) :
    List String → Candidates → Runtime Candidates
  | [],c => return c
  | name :: names,c => do
    let s ← self
    let raw ← call (.readFile dir name)
    let row ← Proc.ofExcept (candidateOf s.instance_ state name raw)
    let c ← match row with
      | none => pure c
      | some row => Proc.ofExcept (c.add row)
    readCandidates state dir names c

def dispatchForOrder (db : Db) (k : OrderKey) (commandType : QmtCommandType) : Option Dispatch :=
  db.dispatches.find? (fun d => d.key = k ∧ d.commandType = commandType)

/-- A stored identity allows a candidate that differs in its state only, and
that only by progress. -/
def identityConflict (stored row : DurableIdentity) : Option PyError :=
  if { stored with commandState := row.commandState } ≠ row then
    some (.durableIdentityConflict "conflicting durable QMT command identity")
  else if stored.commandState ≠ row.commandState ∧
      ¬ (stored.commandState = .unknown ∧ row.commandState = .processed) then
    some (.durableIdentityConflict "conflicting durable command state")
  else none

def checkCandidate (row : DurableIdentity) : Runtime Unit := do
  let stored ← select (matchingIdentity row)
  match stored with
  | some stored =>
    match identityConflict stored row with
    | some e => throw e
    | none => return ()
  | none =>
    let prior ← select (fun db => db.intent? row.key)
    if prior.isSome then
      let dispatch ← select (fun db => db.dispatches.find? (fun d =>
        d.commandId = row.commandId ∧ d.key = row.key ∧ d.commandType = .submitLimit))
      if dispatch.any (fun d => d.qmtSessionId = row.qmtSessionId ∧
          d.brokerToken = some row.brokerToken ∧ d.frameDigest = row.commandDigest ∧
          d.frameBlob = row.commandDigest) then
        return ()
      else
        throw (.durableIdentityConflict
          "OMS order exists without matching durable dispatch authority")
    else return ()

def importCandidate (row : DurableIdentity) : Runtime Unit := do
  let existing ← select (fun db => db.intent? row.key)
  let _ ← durable (fun g => .registerDurableSubmit g row existing.isSome)
  let _ ← registerOrder row.key.clientOrderId row.symbol row.quantity

def refreshIdentities : Runtime Unit := do
  let s ← self
  let processed ← call (.listDir .processed)
  let c ← readCandidates .processed .processed processed ⟨.fresh s.account,[]⟩
  let unknown ← call (.listDir .unknown)
  let c ← readCandidates .unknown .unknown unknown c
  each checkCandidate c.rows
  each importCandidate c.rows

def dispatchOrder (a b : Dispatch) : Bool :=
  a.createdMs < b.createdMs || (a.createdMs = b.createdMs && a.commandId ≤ b.commandId)

def restoreDispatchPlan (row : Dispatch) : Runtime Unit := do
  let s ← self
  let command ← Proc.ofExcept (decodeCommandFrame row.frameBlob)
  let clientOrderId := command.clientOrderId.getD ""
  if row.frameDigest ≠ row.frameBlob || command.commandId ≠ row.commandId ||
      command.accountFingerprint ≠ s.account || clientOrderId ≠ row.key.clientOrderId ||
      command.brokerToken ≠ row.brokerToken ||
      command.payload.get "simulation_calibration" ≠ some (.bool true) ||
      command.payload.get "expected_qmt_session_id" ≠ some (.text s.session) then
    throw (.durableIdentityConflict
      "immutable dispatch plan cannot restore trusted mapper identity")
  else
    let token ← registerOrder clientOrderId ((command.payload.textAt "symbol").getD "")
      ((command.payload.numAt "quantity").getD 0)
    if some token ≠ command.brokerToken then
      throw (.durableIdentityConflict
        "dispatch-plan mapper token differs from durable broker token")
    else return ()

def restoreDispatchPlanIdentities : Runtime Unit := do
  let s ← self
  let rows ← select (fun db => (db.dispatches.filter (fun d =>
    d.key.accountFingerprint = s.account ∧ d.qmtSessionId = s.session ∧
      d.commandType = .submitLimit ∧ d.dispatchState ≠ .manualReview)).insertionSort
      (fun a b => dispatchOrder a b))
  each restoreDispatchPlan rows

/-- A reservation has its plan of the current session. -/
def planned (session : String) (dispatch : Option Dispatch) : Bool :=
  dispatch.any (fun d => d.qmtSessionId = session)

def validateRow (row : BrokerOrder) : Runtime Unit := do
  let s ← self
  let cancelOpen := row.cancelCallStarted && !row.cancelOutcomeResolved &&
    row.status ∈ [.acknowledged,.partiallyFilled,.cancelPending]
  let checkCancel : Runtime Unit := do
    if cancelOpen then
      let dispatch ← select (fun db => dispatchForOrder db row.key .cancelOrder)
      if planned s.session dispatch then return ()
      else durable (fun g => .markManualReview g row.key
        "QMT_CANCEL_RESERVATION_WITHOUT_DISPATCH" (some true))
    else return ()
  if row.status = .submitting && row.submitCallStarted then
    let dispatch ← select (fun db => dispatchForOrder db row.key .submitLimit)
    if planned s.session dispatch then checkCancel
    else durable (fun g => .markManualReview g row.key
      "QMT_SUBMIT_RESERVATION_WITHOUT_DISPATCH" none)
  else checkCancel

def validateDispatchInvariants : Runtime Unit := do
  assertLeader
  let s ← self
  let rows ← select (fun db =>
    db.brokerOrders.filter (fun r => r.key.accountFingerprint = s.account))
  each validateRow rows

def getStatus (k : OrderKey) : Runtime OrderStatus :=
  call (.select (fun db =>
    match db.order? k with
    | none => .error (.orderNotFound k.clientOrderId)
    | some row => .ok row.status))

def beginReconciliation (command : QmtCommand) : Runtime Unit := do
  let k := command.orderKey
  let begin_ : Runtime Unit := do
    let _ ← durable (fun g => .transitionOrder g k
      { target := .reconciling, eventType := "QMT_COMMAND_RECONCILIATION_BEGIN" })
  let current ← getStatus k
  if current ∈ [.submitting,.cancelPending] then
    let _ ← durable (fun g => .transitionOrder g k
      { target := .unknown, eventType := "QMT_COMMAND_PUBLISHED_LIFECYCLE_UNKNOWN" })
    begin_
  else if current = .unknown then
    begin_
  else
    return ()

def setDispatchState (commandId : String) (state : DispatchState) : Runtime Unit :=
  durable (fun g => .setDispatchState g commandId state)

def failDispatchManualReview (command : QmtCommand) (eventType : String) : Runtime Unit :=
  durable (fun g => .failDispatchManualReview g command eventType)

/-- `mapped` of `_recover_dispatch`. -/
def observedState : SpoolDir → DispatchState
  | .inbox => .published
  | .claimed => .observedClaimed
  | .processed => .observedProcessed
  | .rejected => .observedRejected
  | .unknown => .unknown

def dispatchIdentityChanged (s : RuntimeState) (row : Dispatch) (command : QmtCommand) : Bool :=
  row.key.accountFingerprint ≠ s.account || command.accountFingerprint ≠ s.account ||
    some row.key.clientOrderId ≠ command.clientOrderId || row.commandId ≠ command.commandId ||
    row.commandType ≠ command.commandType || row.qmtSessionId ≠ s.session ||
    command.payload.get "expected_qmt_session_id" ≠ some (.text s.session) ||
    row.frameDigest ≠ row.frameBlob

def publishPlanned (command : QmtCommand) : Runtime Unit := do
  let nowMs ← nowMillis
  if command.expiresMs ≤ nowMs then
    failDispatchManualReview command "QMT_DISPATCH_EXPIRED_BEFORE_PUBLICATION"
  else
    publish command
    setDispatchState command.commandId .published
    beginReconciliation command

def recoverDispatch (row : Dispatch) : Runtime Unit := do
  assertLeader
  let s ← self
  let command ← Proc.ofExcept (decodeCommandFrame row.frameBlob)
  if dispatchIdentityChanged s row command then
    throw (.durableIdentityConflict "dispatch identity changed during recovery")
  else
    let located ← locate command.commandId
    match located with
    | none =>
      if row.dispatchState = .planned then
        publishPlanned command
      else if row.dispatchState ∈ [.published,.observedClaimed,.observedProcessed,
          .observedRejected,.unknown] then
        failDispatchManualReview command "QMT_DISPATCH_HISTORY_AMBIGUOUS"
      else return ()
    | some observed =>
      let content ← call (.readFile observed command.commandId)
      if content ≠ row.frameBlob then
        throw (.durableIdentityConflict "spool frame differs from durable dispatch plan")
      else
        if row.dispatchState ≠ observedState observed then
          setDispatchState command.commandId (observedState observed)
        else pure ()
        beginReconciliation command

def recoverDispatches : Runtime Unit := do
  assertLeader
  let s ← self
  let rows ← select (fun db => (db.dispatches.filter (fun d =>
    d.qmtSessionId = s.session ∧ d.dispatchState ≠ .manualReview)).insertionSort
      (fun a b => dispatchOrder a b))
  each recoverDispatch rows

/-- `"simoms-" + sha256("\0".join(parts))[:48]`. -/
def deterministicCommandId (parts : List String) : String :=
  "simoms-" ++ String.ofList ((Sha256.hexdigest (String.intercalate "\x00" parts)).take 48)

def submitPayload (session : String) (intent : OrderIntent) : Fields :=
  .cons "expected_qmt_session_id" (.text session) <|
  .cons "limit_price" (.text intent.limitPrice) <|
  .cons "quantity" (.int intent.quantity) <|
  .cons "side" (.text intent.side.value) <|
  .cons "simulation_calibration" (.bool true) <|
  .cons "symbol" (.text intent.symbol) .nil

def buildSubmitCommand (s : RuntimeState) (intent : OrderIntent) : Except PyError QmtCommand := do
  let token ← brokerTokenFor s.account intent.key.clientOrderId
  return ⟨deterministicCommandId ["submit",s.account,s.session,intent.key.clientOrderId],
    ((intent.createdAt / 1000 : Nat) : Int),((intent.expiresAt / 1000 : Nat) : Int),s.account,
    .submitLimit,some intent.key.clientOrderId,some token,submitPayload s.session intent⟩

def cancelPayload (session brokerOrderId : String) : Fields :=
  .cons "broker_order_id" (.text brokerOrderId) <|
  .cons "expected_qmt_session_id" (.text session) <|
  .cons "simulation_calibration" (.bool true) .nil

def buildCancelCommand (s : RuntimeState) (clientOrderId brokerOrderId : String) (nowMs : Int) :
    Except PyError QmtCommand := do
  let token ← brokerTokenFor s.account clientOrderId
  return ⟨deterministicCommandId ["cancel",s.account,s.session,clientOrderId,brokerOrderId],
    nowMs,nowMs + 30000,s.account,.cancelOrder,some clientOrderId,some token,
    cancelPayload s.session brokerOrderId⟩

def reserveAndPersistDispatch (command : QmtCommand) (brokerOrderId : Option String)
    (cancel : Bool) : Runtime Dispatch := do
  let s ← self
  let raw ← Proc.ofExcept (encodeCommandFrame command)
  durable (fun g => .reserveAndPersistDispatch g s.session command brokerOrderId cancel raw)

def executeIntent (intent : OrderIntent) : Runtime OrderStatus := do
  assertLeader
  maintain
  let s ← self
  if intent.key.accountFingerprint ≠ s.account then
    throw (.valueError "intent account does not match the pinned simulator")
  else
    let now ← ask .clock
    let existing ← select (fun db => dispatchForOrder db intent.key .submitLimit)
    match existing with
    | some row =>
      let command ← Proc.ofExcept (buildSubmitCommand s intent)
      let raw ← Proc.ofExcept (encodeCommandFrame command)
      if row.frameDigest ≠ raw then
        throw (.durableIdentityConflict "same client order has a conflicting dispatch frame")
      else
        recoverDispatch row
        getStatus intent.key
    | none =>
      durable (fun g => .createIntent g intent)
      let _ ← durable (fun g => .recordRiskDecision g intent.key
        ⟨true,.ok,"guojin-sim-accept-all-v1",now⟩)
      let command ← Proc.ofExcept (buildSubmitCommand s intent)
      let row ← reserveAndPersistDispatch command none false
      let _ ← registerOrder intent.key.clientOrderId intent.symbol intent.quantity
      recoverDispatch row
      getStatus intent.key

def cancelIntent (clientOrderId : String) : Runtime OrderStatus := do
  assertLeader
  maintain
  let s ← self
  let k := s.key clientOrderId
  let order ← call (.select (fun db =>
    match db.order? k with
    | none => .error (.orderNotFound clientOrderId)
    | some row => .ok row))
  if order.status ∈ [.filled,.cancelled,.rejected,.aborted,.manualReview] then
    return order.status
  else
    let existing ← select (fun db => dispatchForOrder db k .cancelOrder)
    match existing with
    | some row =>
      recoverDispatch row
      getStatus k
    | none =>
      if order.status ∉ [.acknowledged,.partiallyFilled] then
        throw (.runtimeError
          "cancel is blocked until trusted broker evidence makes it cancellable")
      else
        match order.brokerOrderId.filter (· ≠ "") with
        | none => throw (.runtimeError "cancel requires trusted persistent broker_order_id")
        | some brokerOrderId =>
          let nowMs ← nowMillis
          let command ← Proc.ofExcept (buildCancelCommand s clientOrderId brokerOrderId nowMs)
          let row ← reserveAndPersistDispatch command (some brokerOrderId) true
          recoverDispatch row
          getStatus k

def ingestBrokerEvidence (e : BrokerEvidenceV1) : Runtime EvidenceIngestResult := do
  let result ← durable (fun g => .ingestEvidence g e)
  match result with
  | .ok applied => return applied
  | .error reason => throw (.brokerEvidenceConflict reason)

/-- The arguments of `ingest_execution_command_result` that it reads. -/
structure ExecutionCommandResult where
  sourceEventId : String
  accountFingerprint : String
  commandId : String
  resultStatus : String
  executionMode : String
  payload : Fields
  deriving DecidableEq

/-- `str.rpartition(":")`; `none` when there is no separator. -/
def rpartitionColon (s : String) : Option (String × String) :=
  let tail := s.toList.reverse.takeWhile (· ≠ ':')
  match s.toList.reverse.dropWhile (· ≠ ':') with
  | [] => none
  | _ :: front => some (String.ofList front.reverse,String.ofList tail.reverse)

def digitsValue (cs : List Char) : Option Nat :=
  if cs ≠ [] ∧ cs.all Char.isDigit then
    some (cs.foldl (fun n c => 10 * n + (c.toNat - '0'.toNat)) 0)
  else none

/-- `int(text)` on ASCII text: blanks around, a sign, and digits in groups that
single underscores separate. -/
def pyInt (s : String) : Option Int :=
  let cs := ((s.toList.dropWhile pySpace).reverse.dropWhile pySpace).reverse
  let number := fun (cs : List Char) =>
    let groups := cs.splitOn '_'
    if groups.all (fun g => g ≠ []) then digitsValue groups.flatten else none
  match cs with
  | '-' :: rest => (number rest).map (fun n => -(n : Int))
  | '+' :: rest => (number rest).map (fun n => (n : Int))
  | _ => (number cs).map (fun n => (n : Int))

def observeCommandResultDispatch (commandId resultStatus : String) : Runtime Unit := do
  let row ← select (fun db => db.dispatch? commandId)
  if row.isNone then return ()
  else if resultStatus ∈ ["SIMULATION_MUTATION_UNKNOWN","SIMULATION_ORPHANED_UNKNOWN"] then
    setDispatchState commandId .unknown
  else if resultStatus = "REJECTED_EXPIRED" then
    setDispatchState commandId .observedRejected
  else return ()

def ingestExecutionCommandResult (r : ExecutionCommandResult) : Runtime Unit := do
  let s ← self
  match (rpartitionColon r.sourceEventId).filter (fun p => p.1 ≠ "") with
  | none => throw (.valueError "simulation command result source identity is invalid")
  | some (session,sequenceText) =>
    match pyInt sequenceText with
    | none => throw (.valueError "simulation command result sequence is invalid")
    | some sequence =>
      if r.accountFingerprint ≠ s.account then
        throw (.valueError "simulation command result account mismatch")
      else if r.executionMode ≠ "SIMULATION_CALIBRATION" then
        throw (.valueError "simulation runtime refuses non-simulation command result")
      else
        let checked ← Proc.ofExcept
          (checkCommandResult ⟨session,sequence,r.accountFingerprint,r.payload⟩)
        let _ ← durable (fun g => .ingestCommandResult g checked)
        observeCommandResultDispatch r.commandId r.resultStatus

/-- `close`: the object is closed even when the release raises. -/
def close : Runtime Unit := do
  let s ← self
  if s.closed then
    return ()
  else
    let shut : Runtime Unit := update (fun s => { s with closed := true })
    tryCatch (do
      let _ ← call (.txn (.release s.lease))) (fun e => do
      shut
      throw e)
    shut

/-- The body of `__init__` under its `try`. -/
def initialise : Runtime Unit := do
  restorePersistedIdentities
  refreshIdentities
  restoreDispatchPlanIdentities
  validateDispatchInvariants
  recoverDispatches

/-- `GuojinSimOmsRuntime.__init__`, up to the lease. -/
def construct (inst : QmtInstance) : Proc Eff PyError Unit RuntimeState := do
  if !guojinSimOmsAuthorized inst then
    throw (.valueError "guojin_sim OMS runtime authorization failed")
  else
    let now ← ask .clock
    let token ← ask .uuid4
    let lease ← call (.txn (.acquire ("qmt-host:" ++ inst.sessionId) token leaseSeconds now))
    let started ← ask .monotonic
    return ⟨inst,lease,started,false,.fresh inst.accountFingerprint⟩

inductive Op where
  | executeIntent (intent : OrderIntent)
  | cancelIntent (clientOrderId : String)
  | ingestBrokerEvidence (e : BrokerEvidenceV1)
  | ingestExecutionCommandResult (r : ExecutionCommandResult)
  | recoverDispatches
  | refreshIdentities
  | maintain
  | close

/-- One call by a caller that survives the exceptions it raises. -/
def Op.perform (op : Op) : Runtime Unit :=
  tryCatch
    (match op with
      | .executeIntent intent => discard (Runtime.executeIntent intent)
      | .cancelIntent clientOrderId => discard (Runtime.cancelIntent clientOrderId)
      | .ingestBrokerEvidence e => discard (Runtime.ingestBrokerEvidence e)
      | .ingestExecutionCommandResult r => Runtime.ingestExecutionCommandResult r
      | .recoverDispatches => Runtime.recoverDispatches
      | .refreshIdentities => Runtime.refreshIdentities
      | .maintain => Runtime.maintain
      | .close => Runtime.close)
    (fun _ => pure ())

/-- The rest of the constructor, and then any calls on the object it built. -/
def serve (ops : List Op) : Runtime Unit := do
  tryCatch initialise (fun e => do
    close
    throw e)
  each Op.perform ops

/-- A Host process. -/
def process (inst : QmtInstance) (ops : List Op) : Prog Eff Unit :=
  (construct inst ()).bind fun r =>
    match r.1 with
    | .error _ => .pure ()
    | .ok s => (serve ops s).bind (fun _ => .pure ())

end Runtime

/-- The simulator and the order of the concrete runs. -/
def sampleInstance : QmtInstance where
  instanceId := "guojin_sim"
  executionMode := "SIMULATION_CALIBRATION"
  simulationOnly := true
  tradingEnabled := true
  liveSubmit := true
  liveCancel := true
  accountType := "STOCK"
  accountFingerprint := authorizedGuojinSimFingerprint
  bridgeBuild := authorizedGuojinSimBuild
  sessionId := "qmt-1"

def datedIntent : OrderIntent :=
  { sampleIntent with createdAt := 1000000, window := by decide }

def submitCommandId : String := Runtime.deterministicCommandId
  ["submit",datedIntent.key.accountFingerprint,sampleInstance.sessionId,datedIntent.key.clientOrderId]

end BigQmt
