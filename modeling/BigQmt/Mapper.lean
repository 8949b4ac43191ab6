import BigQmt.Protocol
set_option autoImplicit false

/-!
`qmt/guojin_evidence.py`: the mapper from raw order and deal rows to broker
evidence. An exception leaves the ledger as it was when it was raised.
-/

namespace BigQmt

open Keyed

structure GuojinMapperProfile where
  name : String
  source : String
  terminalInstanceId : String
  evidenceEnabled : Bool
  deriving DecidableEq, Repr

def guojinSimProfile : GuojinMapperProfile :=
  ⟨"qmt-guojin-sim-20260917-v1","qmt:guojin_sim","guojin_sim",true⟩

def guojinProductionProfile : GuojinMapperProfile :=
  ⟨"qmt-guojin-prod-calibration-pending-v1","qmt:guojin","guojin",false⟩

structure GuojinMapperRejection where
  sessionId : String
  sequence : Int
  eventType : EventType
  rowIndex : Option Nat
  reason : String
  deriving DecidableEq, Repr

structure RegisteredOrder where
  clientOrderId : String
  brokerToken : String
  symbol : String
  quantity : Int
  brokerOrderId : Option String
  deriving DecidableEq, Repr

structure Trade where
  brokerToken : String
  tradeId : String
  quantity : Int
  deriving DecidableEq, Repr

/-- `GuojinEvidenceMapper`. -/
structure Mapper where
  accountFingerprint : String
  profile : GuojinMapperProfile
  ordersByToken : List RegisteredOrder
  trades : List Trade
  rejections : List GuojinMapperRejection
  deriving DecidableEq

/-- The row a payload came in: the event, what it is a row of, and its index in
a snapshot. -/
structure RowSource where
  event : QmtEvent
  eventType : EventType
  rowIndex : Option Nat
  sourceKind : BrokerEvidenceSourceKind
  deriving DecidableEq

namespace Mapper

/-- `GuojinSimEvidenceMapper(account_fingerprint=...)`. -/
def fresh (accountFingerprint : String) : Mapper := ⟨accountFingerprint,guojinSimProfile,[],[],[]⟩

def order? (m : Mapper) (token : String) : Option RegisteredOrder :=
  find RegisteredOrder.brokerToken token m.ordersByToken

def registerOrder (m : Mapper) (clientOrderId symbol : String) (quantity : Int) :
    Except PyError (String × Mapper) :=
  refuse (clientOrderId == "") (.valueError "client_order_id must be non-empty") <|
  refuse (quantity ≤ 0) (.valueError "quantity must be a positive integer") <|
  refuse (symbol == "") (.valueError "symbol must be non-empty") <| do
  let token ← brokerTokenFor m.accountFingerprint clientOrderId
  match m.order? token with
  | some existing =>
    refuse (existing.clientOrderId ≠ clientOrderId || existing.symbol ≠ symbol ||
        existing.quantity ≠ quantity)
      (.valueError "broker token reused for conflicting durable order identity") (.ok (token,m))
  | none => .ok (token,{ m with
      ordersByToken := m.ordersByToken ++ [⟨clientOrderId,token,symbol,quantity,none⟩] })

def reject (m : Mapper) (src : RowSource) (eventType : EventType) (reason : String) : Mapper :=
  { m with rejections := m.rejections ++
      [⟨src.event.sessionId,src.event.sequence,eventType,src.rowIndex,reason⟩] }

/-- Why a row is not about a registered order. -/
inductive RowRefusal where
  | rejected (reason : String)
  | raised (e : PyError)
  deriving DecidableEq

/-- `_identity`: the registered order a row is about, or why it has none. -/
def identity (m : Mapper) (event : QmtEvent) (payload : Fields) :
    Except RowRefusal RegisteredOrder :=
  refuse (event.terminalInstanceId ≠ some m.profile.terminalInstanceId)
    (.rejected "TERMINAL_INSTANCE_MISMATCH") <|
  refuse (event.accountFingerprint ≠ m.accountFingerprint) (.rejected "ACCOUNT_MISMATCH") <|
  refuse (event.accountType ≠ some "STOCK") (.rejected "ACCOUNT_TYPE_MISMATCH") <|
  match (payload.textAt "remark").filter isBrokerToken with
  | none => .error (.rejected "MISSING_OR_MALFORMED_TOKEN")
  | some token =>
    match m.order? token with
    | none => .error (.rejected "UNREGISTERED_TOKEN")
    | some order =>
      refuse (token ≠ tokenText m.accountFingerprint order.clientOrderId)
        (.rejected "TOKEN_IDENTITY_MISMATCH") <|
      refuse (payload.get "symbol" ≠ some (.text order.symbol)) (.rejected "SYMBOL_MISMATCH") <|
      refuse (event.source = "active_query" && (payload.get "route_account_type").any unhashable)
        (.raised (.typeError "unhashable type")) <|
      refuse (event.source = "active_query" &&
        !(payload.get "route_account_type").any (oneOf ["STOCK","HUGANGTONG","SHENGANGTONG"]))
        (.rejected "MISSING_ROUTE_ACCOUNT_TYPE") <|
      refuse (event.source = "active_query" &&
        !(payload.textAt "route_account_fingerprint").any isSha256)
        (.rejected "MISSING_ROUTE_ACCOUNT_FINGERPRINT") (.ok order)

/-- `_text`. -/
def text (payload : Fields) (key : String) : Option String :=
  (payload.textAt key).filter (· ≠ "")

/-- What a row says about its order: the part of the evidence that `_map_order`
and `_map_deal` decide. -/
structure RowFact where
  brokerOrderId : Option String
  tradeId : Option String
  evidenceType : BrokerEvidenceType
  filledQuantity : Int
  rawStatus : Option RawStatus
  deriving DecidableEq, Repr

/-- The calibrated order shapes of `_map_order`. -/
def orderFact (order : RegisteredOrder) (payload : Fields) : Except String RowFact :=
  let status := payload.numAt "status_code"
  let submit := payload.numAt "submit_status_code"
  let original := payload.numAt "original_quantity"
  let remaining := payload.numAt "remaining_quantity"
  let brokerOrderId := text payload "broker_order_id"
  let rawStatus : Option RawStatus := some ⟨status.map .int,submit.map .int⟩
  match payload.numAt "filled_quantity" with
  | none => .error "UNCALIBRATED_ORDER_SHAPE"
  | some filled =>
    refuse (submit ≠ some 51 || original ≠ some order.quantity) "UNCALIBRATED_ORDER_SHAPE" <|
    match status with
    | some 50 => refuse (brokerOrderId.isNone || filled ≠ 0 || remaining ≠ some order.quantity)
        "ORDER_ACCEPTED_NOT_SETTLED" (.ok ⟨brokerOrderId,none,.orderAccepted,filled,rawStatus⟩)
    | some 54 => refuse (brokerOrderId.isNone || filled ≠ 0 || remaining ≠ some order.quantity)
        "INVALID_CANCELLED_QUANTITY" (.ok ⟨brokerOrderId,none,.orderCancelled,filled,rawStatus⟩)
    | some 56 => refuse (brokerOrderId.isNone || filled ≠ order.quantity)
        "INVALID_FULL_FILL_QUANTITY" (.ok ⟨brokerOrderId,none,.fullFill,filled,rawStatus⟩)
    | some 57 => refuse (filled ≠ 0) "REJECTED_ORDER_HAS_FILL"
        (.ok ⟨brokerOrderId,none,.orderRejected,filled,rawStatus⟩)
    | _ => .error "UNKNOWN_ORDER_STATUS"

/-- The quantity recorded for a trade of a token. -/
def trade? (m : Mapper) (token tradeId : String) : Option Int :=
  (m.trades.find? (fun t => t.brokerToken = token ∧ t.tradeId = tradeId)).map Trade.quantity

/-- `setdefault(trade_key, quantity)`. -/
def recordTrade (m : Mapper) (token tradeId : String) (quantity : Int) : Mapper :=
  if (m.trade? token tradeId).isSome then m
  else { m with trades := m.trades ++ [⟨token,tradeId,quantity⟩] }

/-- The sum of the quantities recorded for a token. -/
def cumulative (m : Mapper) (token : String) : Int :=
  ((m.trades.filter (fun t => t.brokerToken = token)).map Trade.quantity).sum

/-- The checks of `_map_deal` before it binds the broker order id; the trade is
recorded after the binding. -/
def dealFact (m : Mapper) (order : RegisteredOrder) (payload : Fields) :
    Except String (RowFact × String × Int) :=
  match text payload "broker_order_id",text payload "trade_id",payload.numAt "quantity" with
  | some brokerOrderId,some tradeId,some quantity =>
    refuse (quantity ≤ 0) "INCOMPLETE_DEAL_IDENTITY" <|
    refuse ((m.trade? order.brokerToken tradeId).any (· ≠ quantity)) "TRADE_ID_CONFLICT" <|
    let total := (m.recordTrade order.brokerToken tradeId quantity).cumulative order.brokerToken
    refuse (order.quantity < total) "CUMULATIVE_FILL_EXCEEDS_ORDER" <|
    .ok (⟨some brokerOrderId,some tradeId,
      if total = order.quantity then .fullFill else .partialFill,total,none⟩,tradeId,quantity)
  | _,_,_ => .error "INCOMPLETE_DEAL_IDENTITY"

/-- `_bind_broker_order_id`; `none` is a conflict with the bound id. -/
def bindBrokerOrderId (m : Mapper) (order : RegisteredOrder) (brokerOrderId : Option String) :
    Option Mapper :=
  match order.brokerOrderId,brokerOrderId with
  | _,none => some m
  | none,some b => some { m with
      ordersByToken := modify RegisteredOrder.brokerToken order.brokerToken
        (fun o => { o with brokerOrderId := some b }) m.ordersByToken }
  | some bound,some b => if bound = b then some m else none

def rowSuffix (src : RowSource) : String :=
  match src.rowIndex with
  | none => ""
  | some i =>
    (if src.sourceKind = .activeOrderQuery then "/order/" else "/deal/") ++ toString i

/-- `_build`. -/
def evidenceFields (m : Mapper) (src : RowSource) (order : RegisteredOrder) (payload : Fields)
    (fact : RowFact) : EvidenceFields where
  source := m.profile.source
  sourceKind := src.sourceKind
  mapperProfile := m.profile.name
  key := ⟨src.event.accountFingerprint,order.clientOrderId⟩
  brokerToken := some order.brokerToken
  brokerOrderId := fact.brokerOrderId
  orderRef := text payload "order_ref"
  tradeId := fact.tradeId
  evidenceType := fact.evidenceType
  requestedStatus := fact.evidenceType.status
  filledQuantity := fact.filledQuantity
  rawStatus := fact.rawStatus
  routeAccountType :=
    if src.event.source = "active_query" then text payload "route_account_type" else none
  routeAccountFingerprint :=
    if src.event.source = "active_query" then text payload "route_account_fingerprint" else none
  sourceEventId := src.event.sessionId ++ ":" ++ toString src.event.sequence ++ rowSuffix src
  observedAtMs := src.event.timestampMs
  rawPayloadRef := "qmt://" ++ m.profile.terminalInstanceId ++ "/" ++ src.event.sessionId ++ "/" ++
    toString src.event.sequence ++ rowSuffix src

def build (m : Mapper) (src : RowSource) (order : RegisteredOrder) (payload : Fields)
    (fact : RowFact) : Except PyError (Option BrokerEvidenceV1) :=
  match BrokerEvidenceV1.build (m.evidenceFields src order payload fact) with
  | .ok e => .ok (some e)
  | .error message => .error (.valueError message)

def mapOrder (m : Mapper) (src : RowSource) (order : RegisteredOrder) (payload : Fields) :
    Except PyError (Option BrokerEvidenceV1) × Mapper :=
  match orderFact order payload with
  | .error reason => (.ok none,m.reject src .order reason)
  | .ok fact =>
    match m.bindBrokerOrderId order fact.brokerOrderId with
    | none => (.ok none,m.reject src src.event.eventType "BROKER_ORDER_ID_CONFLICT")
    | some m => (m.build src order payload fact,m)

def mapDeal (m : Mapper) (src : RowSource) (order : RegisteredOrder) (payload : Fields) :
    Except PyError (Option BrokerEvidenceV1) × Mapper :=
  match m.dealFact order payload with
  | .error reason => (.ok none,m.reject src .deal reason)
  | .ok (fact,tradeId,quantity) =>
    match m.bindBrokerOrderId order fact.brokerOrderId with
    | none => (.ok none,m.reject src src.event.eventType "BROKER_ORDER_ID_CONFLICT")
    | some m =>
      let m := m.recordTrade order.brokerToken tradeId quantity
      (m.build src order payload fact,m)

def mapPayload (m : Mapper) (src : RowSource) (payload : Fields) :
    Except PyError (Option BrokerEvidenceV1) × Mapper :=
  match m.identity src.event payload with
  | .error (.raised e) => (.error e,m)
  | .error (.rejected reason) => (.ok none,m.reject src src.eventType reason)
  | .ok order =>
    if !m.profile.evidenceEnabled then
      (.ok none,m.reject src src.eventType "PROFILE_EVIDENCE_DISABLED")
    else if src.eventType = .order then m.mapOrder src order payload
    else m.mapDeal src order payload

/-- `__call__`. -/
def callback (m : Mapper) (event : QmtEvent) : Except PyError (Option BrokerEvidenceV1) × Mapper :=
  match event.eventType with
  | .order => m.mapPayload ⟨event,.order,none,.orderCallback⟩ event.payload
  | .deal => m.mapPayload ⟨event,.deal,none,.dealCallback⟩ event.payload
  | _ => (.error (.valueError "Guojin mapper accepts callback ORDER/DEAL events only"),m)

/-- The rows of one list of a snapshot, from the given index on. -/
def mapRows (m : Mapper) (event : QmtEvent) (eventType : EventType)
    (kind : BrokerEvidenceSourceKind) :
    Nat → List Json → Except PyError (List BrokerEvidenceV1) × Mapper
  | _,[] => (.ok [],m)
  | i,row :: rows =>
    match row.dict with
    | none =>
      mapRows (m.reject ⟨event,eventType,some i,kind⟩ eventType "ROW_NOT_OBJECT") event eventType
        kind (i + 1) rows
    | some payload =>
      match m.mapPayload ⟨event,eventType,some i,kind⟩ payload with
      | (.error e,m) => (.error e,m)
      | (.ok candidate,m) =>
        match mapRows m event eventType kind (i + 1) rows with
        | (.error e,m) => (.error e,m)
        | (.ok rest,m) => (.ok (candidate.toList ++ rest),m)

def mapSnapshotList (m : Mapper) (event : QmtEvent) (eventType : EventType) (key : String)
    (kind : BrokerEvidenceSourceKind) : Except PyError (List BrokerEvidenceV1) × Mapper :=
  match event.payload.listAt key with
  | none => (.ok [],m.reject ⟨event,eventType,none,kind⟩ eventType "ROWS_NOT_LIST")
  | some rows => m.mapRows event eventType kind 0 rows

/-- `map_snapshot`; the second component of the batch is `rejected_rows`. -/
def mapSnapshot (m : Mapper) (event : QmtEvent) :
    Except PyError (List BrokerEvidenceV1 × Nat) × Mapper :=
  if event.eventType ≠ .snapshot || event.source ≠ "active_query" then
    (.error (.valueError "Guojin snapshot mapper requires an active-query snapshot"),m)
  else
    match m.mapSnapshotList event .order "orders" .activeOrderQuery with
    | (.error e,m₁) => (.error e,m₁)
    | (.ok orders,m₁) =>
      match m₁.mapSnapshotList event .deal "deals" .activeDealQuery with
      | (.error e,m₂) => (.error e,m₂)
      | (.ok deals,m₂) =>
        (.ok (orders ++ deals,m₂.rejections.length - m.rejections.length),m₂)

end Mapper
end BigQmt
