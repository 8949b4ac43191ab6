import Mathlib.Data.Finset.Sort
import BigQmt.EventLedger
import BigQmt.Sha256
set_option autoImplicit false

/-!
`read_snapshot` of the Bridge: the queries for the selected account and its linked account
types, the normalised rows they answer with, and the list of their errors.
-/

namespace BigQmt

/-- What an attribute of a broker object is to `str` and `int`: `none` where they raise. -/
inductive BrokerValue where
  | none
  | bool (b : Bool)
  | value (text : Option String) (int : Option Int)
  deriving DecidableEq, Repr

/-- A broker object: `none` where `getattr` raises. -/
abbrev BrokerRow := String → Option BrokerValue

namespace BrokerValue

/-- `_text`. -/
def text : BrokerValue → Option String
  | .none => Option.none
  | .bool b => some (if b then "True" else "False")
  | .value text _ => text

/-- `_decimal_text`. -/
def decimalText : BrokerValue → Option String
  | .none => Option.none
  | .bool b => some (if b then "1" else "0")
  | .value text _ => text

/-- `_int_value`. -/
def intValue : BrokerValue → Option Int
  | .none => Option.none
  | .bool b => some (if b then 1 else 0)
  | .value _ int => int

end BrokerValue

def Json.ofText (text : Option String) : Json := (text.map Json.text).getD .null

def Json.ofInt (n : Option Int) : Json := (n.map Json.int).getD .null

namespace BrokerRow

/-- `_get(obj, name, default)`. -/
def get (row : BrokerRow) (name : String) (default : BrokerValue) : BrokerValue :=
  (row name).getD default

def text (row : BrokerRow) (name : String) : Json := .ofText (row.get name .none).text

def decimalText (row : BrokerRow) (name : String) : Json :=
  .ofText (row.get name .none).decimalText

def intValue (row : BrokerRow) (name : String) : Json := .ofInt (row.get name .none).intValue

/-- `_symbol`. -/
def symbol (row : BrokerRow) : Json :=
  let instrument := (row.get "m_strInstrumentID" .none).text
  let exchange := (row.get "m_strExchangeID" .none).text
  match instrument.filter (· ≠ ""), exchange.filter (· ≠ "") with
  | some i, some e => .text (i ++ "." ++ e)
  | _, _ => .ofText instrument

def normalizeAccount (row : BrokerRow) : List (String × Json) :=
  [("status",row.text "m_strStatus"),
    ("balance",row.decimalText "m_dBalance"),
    ("available_cash",row.decimalText "m_dAvailable"),
    ("instrument_value",row.decimalText "m_dInstrumentValue"),
    ("stock_value",row.decimalText "m_dStockValue"),
    ("trading_date",row.text "m_strTradingDate")]

def normalizePosition (row : BrokerRow) : List (String × Json) :=
  [("symbol",row.symbol),
    ("quantity",row.intValue "m_nVolume"),
    ("sellable_quantity",row.intValue "m_nCanUseVolume"),
    ("frozen_quantity",row.intValue "m_nFrozenVolume"),
    ("on_road_quantity",row.intValue "m_nOnRoadVolume"),
    ("market_value",row.decimalText "m_dMarketValue"),
    ("last_price",row.decimalText "m_dLastPrice"),
    ("open_price",row.decimalText "m_dOpenPrice"),
    ("trading_day",row.text "m_strTradingDay")]

def normalizeOrder (row : BrokerRow) : List (String × Json) :=
  [("symbol",row.symbol),
    ("order_ref",row.text "m_strOrderRef"),
    ("broker_order_id",row.text "m_strOrderSysID"),
    ("remark",row.text "m_strRemark"),
    ("status_code",row.intValue "m_nOrderStatus"),
    ("submit_status_code",row.intValue "m_nOrderSubmitStatus"),
    ("original_quantity",row.intValue "m_nVolumeTotalOriginal"),
    ("filled_quantity",row.intValue "m_nVolumeTraded"),
    ("remaining_quantity",row.intValue "m_nVolumeTotal"),
    ("cancelled_quantity",row.decimalText "m_dCancelAmount"),
    ("limit_price",row.decimalText "m_dLimitPrice"),
    ("average_fill_price",row.decimalText "m_dTradedPrice"),
    ("insert_date",row.text "m_strInsertDate"),
    ("insert_time",row.text "m_strInsertTime"),
    ("error_code",row.intValue "m_nErrorID"),
    ("cancel_info",row.text "m_strCancelInfo"),
    ("operation",row.text "m_strOptName")]

def normalizeDeal (row : BrokerRow) : List (String × Json) :=
  [("symbol",row.symbol),
    ("trade_id",row.text "m_strTradeID"),
    ("order_ref",row.text "m_strOrderRef"),
    ("broker_order_id",row.text "m_strOrderSysID"),
    ("remark",row.text "m_strRemark"),
    ("price",row.decimalText "m_dPrice"),
    ("quantity",row.intValue "m_nVolume"),
    ("trade_date",row.text "m_strTradeDate"),
    ("trade_time",row.text "m_strTradeTime"),
    -- The broker spells the attribute in either way.
    ("commission",.ofText (row.get "m_dCommission" (row.get "m_dComission" .none)).decimalText),
    ("trade_amount",row.decimalText "m_dTradeAmount"),
    ("operation",row.text "m_strOptName")]

end BrokerRow

/-- A member of `QUERY_TYPES`. -/
inductive QueryType where
  | account | position | order | deal
  deriving DecidableEq, Repr

namespace QueryType

def value : QueryType → String
  | .account => "ACCOUNT"
  | .position => "POSITION"
  | .order => "ORDER"
  | .deal => "DEAL"

/-- `data_type.lower()`. -/
def lower : QueryType → String
  | .account => "account"
  | .position => "position"
  | .order => "order"
  | .deal => "deal"

def queryTypes : List QueryType := [.account,.position,.order,.deal]

/-- `_NORMALIZERS`. No normaliser raises: each attribute is read, and converted, in a `try`. -/
def normalize : QueryType → BrokerRow → List (String × Json)
  | .account => BrokerRow.normalizeAccount
  | .position => BrokerRow.normalizePosition
  | .order => BrokerRow.normalizeOrder
  | .deal => BrokerRow.normalizeDeal

def routed : QueryType → Bool
  | .order | .deal => true
  | _ => false

end QueryType

/-- What one call of `get_trade_detail_data` does. -/
inductive QueryAnswer where
  | rows (rows : List BrokerRow)
  | none
  | raises (errorType : String)

/-- `get_trade_detail_data(account_id, account_type, data_type)`. -/
abbrev TradeQuery := String → String → String → QueryAnswer

/-- `_fingerprint`. -/
def accountFingerprint (accountId accountType : String) : Option String :=
  if accountId = "" then none
  else some ("sha256:" ++ String.ofList (Sha256.hexdigest (accountType ++ ":" ++ accountId)))

structure BridgeSnapshot where
  accountFingerprint : Option String
  accountType : String
  account : List Fields
  positions : List Fields
  orders : List Fields
  deals : List Fields
  queryErrors : List Fields
  deriving DecidableEq

namespace BridgeSnapshot

/-- `snapshot[keys[data_type]]`. -/
def rowsOf (s : BridgeSnapshot) : QueryType → List Fields
  | .account => s.account
  | .position => s.positions
  | .order => s.orders
  | .deal => s.deals

def put (s : BridgeSnapshot) (t : QueryType) (rows : List Fields) : BridgeSnapshot :=
  match t with
  | .account => { s with account := rows }
  | .position => { s with positions := rows }
  | .order => { s with orders := rows }
  | .deal => { s with deals := rows }

def fail (s : BridgeSnapshot) (error : List (String × Json)) : BridgeSnapshot :=
  { s with queryErrors := s.queryErrors ++ [.ofList error] }

/-- The snapshot as the payload of its event. -/
def payload (s : BridgeSnapshot) : Fields :=
  let rows := fun rows : List Fields => Json.array (.ofList (rows.map .object))
  .ofList [("account_fingerprint",.ofText s.accountFingerprint),
    ("account_type",.text s.accountType),
    ("account",rows s.account),
    ("positions",rows s.positions),
    ("orders",rows s.orders),
    ("deals",rows s.deals),
    ("query_errors",rows s.queryErrors)]

end BridgeSnapshot

/-- A normalised row; orders and deals carry the route they were queried on. -/
def queriedRow (accountId accountType : String) (t : QueryType) (row : BrokerRow) : Fields :=
  .ofList (t.normalize row ++ if t.routed then
    [("route_account_type",.text accountType),
      ("route_account_fingerprint",.ofText (accountFingerprint accountId accountType))] else [])

/-- The first loop of `read_snapshot`: one query for the selected account. -/
def querySelected (query : TradeQuery) (accountId accountType : String) (s : BridgeSnapshot)
    (t : QueryType) : BridgeSnapshot :=
  match query accountId accountType t.lower with
  | .raises errorType =>
    s.fail [("data_type",.text t.value),("error_type",.text errorType)]
  | .none => s.put t []
  | .rows rows => s.put t (rows.map (queriedRow accountId accountType t))

/-- The second loop: one query for a linked account type. -/
def queryLinked (query : TradeQuery) (accountId linkedType : String) (s : BridgeSnapshot)
    (t : QueryType) : BridgeSnapshot :=
  match query accountId linkedType t.lower with
  | .raises errorType =>
    s.fail [("data_type",.text t.value),("account_type",.text linkedType),
      ("error_code",.text "QUERY_EXCEPTION"),("error_type",.text errorType)]
  | .none =>
    s.fail [("data_type",.text t.value),("account_type",.text linkedType),
      ("error_code",.text "QUERY_RETURNED_NONE")]
  | .rows rows => s.put t (s.rowsOf t ++ rows.map (queriedRow accountId linkedType t))

/-- The linked account types that are queried. -/
def linkedTypes (detected : Finset String) (accountType : String) : List String :=
  (detected.sort (· ≤ ·)).filter (fun linkedType =>
    linkedType ≠ accountType && ["HUGANGTONG","SHENGANGTONG"].contains linkedType)

/-- The part of `_STATE` that `read_snapshot` goes by, and the events it is queued with. -/
structure QueryBridge where
  accountId : Option String
  accountType : Option String
  detectedAccountTypes : Finset String
  tradeQuery : Option TradeQuery
  ledger : EventLedger

namespace QueryBridge

/-- The account and the function to query with. -/
def binding (b : QueryBridge) (accountId accountType : Option String)
    (queryFn : Option TradeQuery) : Except String (String × String × TradeQuery) :=
  match (accountId.or b.accountId).filter (· ≠ ""), (accountType.or b.accountType).filter (· ≠ "")
  with
  | some accountId, some accountType =>
    match queryFn.or b.tradeQuery with
    | none => .error "get_trade_detail_data is unavailable"
    | some query => .ok (accountId,accountType,query)
  | _, _ => .error "QMT account binding is unavailable"

/-- The two loops. -/
def collect (b : QueryBridge) (accountId accountType : String) (query : TradeQuery) :
    BridgeSnapshot :=
  (linkedTypes b.detectedAccountTypes accountType).foldl
    (fun s linkedType =>
      [QueryType.order,QueryType.deal].foldl (queryLinked query accountId linkedType) s)
    (QueryType.queryTypes.foldl (querySelected query accountId accountType)
      ⟨accountFingerprint accountId accountType,accountType,[],[],[],[],[]⟩)

/-- `_enqueue("snapshot", "active_query", snapshot)`; `header` has the rest of the event. -/
def snapshotEvent (header : QmtEvent) (s : BridgeSnapshot) : QmtEvent :=
  { header with
    eventType := .snapshot
    source := "active_query"
    payload := s.payload }

def readSnapshot (b : QueryBridge) (header : QmtEvent) (nowMs : Nat)
    (accountId accountType : Option String) (queryFn : Option TradeQuery) (emit : Bool) :
    Except String (BridgeSnapshot × QueryBridge) := do
  let (accountId,accountType,query) ← b.binding accountId accountType queryFn
  let snapshot := b.collect accountId accountType query
  return (snapshot,if emit then
    { b with ledger := b.ledger.enqueue nowMs (snapshotEvent header snapshot) } else b)

end QueryBridge

/-- What one of the queries made has answered with. -/
def TradeQuery.answered (query : TradeQuery) (accountId : String) (q : String × QueryType) :
    List BrokerRow :=
  match query accountId q.1 q.2.lower with
  | .rows rows => rows
  | _ => []

def TradeQuery.normalised (query : TradeQuery) (accountId : String) (q : String × QueryType) :
    List Fields :=
  (query.answered accountId q).map (queriedRow accountId q.1 q.2)

/-- The queries for the linked account types. -/
def linkedQueries (detected : Finset String) (accountType : String) : List (String × QueryType) :=
  (linkedTypes detected accountType).flatMap (fun linkedType =>
    [QueryType.order,QueryType.deal].map (fun t => (linkedType,t)))

/-- Every query that is made, in its order. -/
def madeQueries (detected : Finset String) (accountType : String) : List (String × QueryType) :=
  QueryType.queryTypes.map (fun t => (accountType,t)) ++ linkedQueries detected accountType

/-- The snapshot holds what a query for each of the rows has answered, and every query has. -/
structure BridgeSnapshot.Complete (s : BridgeSnapshot) (detected : Finset String)
    (query : TradeQuery) (accountId accountType : String) : Prop where
  answered : ∀ q ∈ madeQueries detected accountType,
    ∃ rows, query accountId q.1 q.2.lower = .rows rows
  rows : ∀ t, s.rowsOf t =
    ((madeQueries detected accountType).filter (fun q => q.2 = t)).flatMap
      (query.normalised accountId)

namespace BridgeSnapshot

variable {s : BridgeSnapshot} {t t' : QueryType} {rows : List Fields}

@[simp] theorem rowsOf_put : (s.put t rows).rowsOf t' = if t' = t then rows else s.rowsOf t' := by
  cases t <;> cases t' <;> rfl

@[simp] theorem queryErrors_put : (s.put t rows).queryErrors = s.queryErrors := by
  cases t <;> rfl

@[simp] theorem rowsOf_fail (error : List (String × Json)) :
    (s.fail error).rowsOf t = s.rowsOf t := by
  cases t <;> rfl

@[simp] theorem queryErrors_fail (error : List (String × Json)) :
    (s.fail error).queryErrors = s.queryErrors ++ [.ofList error] := rfl

end BridgeSnapshot

section Loops

variable (query : TradeQuery) (accountId accountType : String)

/-- A selected query reports nothing but what it raises. -/
theorem querySelected_spec (s : BridgeSnapshot) (t : QueryType) (hempty : s.rowsOf t = []) :
    (∀ t', (querySelected query accountId accountType s t).rowsOf t' =
      if t' = t then query.normalised accountId (accountType,t) else s.rowsOf t') ∧
    ((querySelected query accountId accountType s t).queryErrors = [] ↔
      s.queryErrors = [] ∧ ∀ e, query accountId accountType t.lower ≠ .raises e) := by
  unfold querySelected TradeQuery.normalised TradeQuery.answered
  cases hq : query accountId accountType t.lower with
  | rows rows => simp
  | none => simp
  | raises e =>
    constructor
    · intro t'
      by_cases ht : t' = t
      · simp [ht,hempty]
      · simp [ht]
    · simp

/-- A linked query reports what it raises, and an answer that is missing. -/
theorem queryLinked_spec (s : BridgeSnapshot) (linkedType : String) (t : QueryType) :
    (∀ t', (queryLinked query accountId linkedType s t).rowsOf t' =
      if t' = t then s.rowsOf t' ++ query.normalised accountId (linkedType,t) else s.rowsOf t') ∧
    ((queryLinked query accountId linkedType s t).queryErrors = [] ↔
      s.queryErrors = [] ∧ ∃ rows, query accountId linkedType t.lower = .rows rows) := by
  unfold queryLinked TradeQuery.normalised TradeQuery.answered
  cases hq : query accountId linkedType t.lower with
  | rows rows =>
    constructor
    · intro t'
      by_cases ht : t' = t
      · subst ht
        simp
      · simp [ht]
    · simp
  | none => simp
  | raises e => simp

theorem selected_loop {ts : List QueryType} (hts : ts.Nodup) (s : BridgeSnapshot)
    (hempty : ∀ t ∈ ts, s.rowsOf t = []) :
    (∀ t, (ts.foldl (querySelected query accountId accountType) s).rowsOf t =
      if t ∈ ts then query.normalised accountId (accountType,t) else s.rowsOf t) ∧
    ((ts.foldl (querySelected query accountId accountType) s).queryErrors = [] ↔
      s.queryErrors = [] ∧ ∀ t ∈ ts, ∀ e, query accountId accountType t.lower ≠ .raises e) := by
  induction ts generalizing s with
  | nil => simp
  | cons t ts ih =>
    obtain ⟨hrows,herrors⟩ :=
      querySelected_spec query accountId accountType s t (hempty t (by simp))
    simp only [List.nodup_cons] at hts
    have hrest : ∀ t' ∈ ts, (querySelected query accountId accountType s t).rowsOf t' = [] := by
      intro t' ht'
      have hne : t' ≠ t := fun h => hts.1 (h ▸ ht')
      rw [hrows,if_neg hne]
      exact hempty t' (by simp [ht'])
    obtain ⟨ihrows,iherrors⟩ := ih hts.2 _ hrest
    simp only [List.foldl_cons]
    constructor
    · intro t'
      rw [ihrows,hrows]
      by_cases ht : t' = t
      · subst ht
        simp [hts.1]
      · simp [ht]
    · rw [iherrors,herrors]
      simp [and_assoc]

theorem linked_loop (qs : List (String × QueryType)) (s : BridgeSnapshot) :
    (∀ t, (qs.foldl (fun s q => queryLinked query accountId q.1 s q.2) s).rowsOf t =
      s.rowsOf t ++ (qs.filter (fun q => q.2 = t)).flatMap (query.normalised accountId)) ∧
    ((qs.foldl (fun s q => queryLinked query accountId q.1 s q.2) s).queryErrors = [] ↔
      s.queryErrors = [] ∧ ∀ q ∈ qs, ∃ rows, query accountId q.1 q.2.lower = .rows rows) := by
  induction qs generalizing s with
  | nil => simp
  | cons q qs ih =>
    obtain ⟨hrows,herrors⟩ := queryLinked_spec query accountId s q.1 q.2
    obtain ⟨ihrows,iherrors⟩ := ih (queryLinked query accountId q.1 s q.2)
    simp only [List.foldl_cons]
    constructor
    · intro t
      rw [ihrows,hrows]
      by_cases ht : q.2 = t
      · subst ht
        simp
      · have hne : t ≠ q.2 := fun h => ht h.symm
        simp [ht,hne]
    · rw [iherrors,herrors]
      simp [and_assoc]

/-- Both loops: the rows of every answer are kept, and what the list of errors leaves out
is an answer missing from the first loop. -/
theorem QueryBridge.collect_spec (b : QueryBridge) :
    (∀ t, (b.collect accountId accountType query).rowsOf t =
      ((madeQueries b.detectedAccountTypes accountType).filter (fun q => q.2 = t)).flatMap
        (query.normalised accountId)) ∧
    ((b.collect accountId accountType query).queryErrors = [] ↔
      (∀ t : QueryType, ∀ e, query accountId accountType t.lower ≠ .raises e) ∧
        ∀ q ∈ linkedQueries b.detectedAccountTypes accountType,
          ∃ rows, query accountId q.1 q.2.lower = .rows rows) := by
  have hloops : b.collect accountId accountType query =
      (linkedQueries b.detectedAccountTypes accountType).foldl
        (fun s q => queryLinked query accountId q.1 s q.2)
        (QueryType.queryTypes.foldl (querySelected query accountId accountType)
          ⟨accountFingerprint accountId accountType,accountType,[],[],[],[],[]⟩) := by
    unfold QueryBridge.collect linkedQueries
    rw [List.foldl_flatMap]
    rfl
  have hall : ∀ t : QueryType, t ∈ QueryType.queryTypes := by
    intro t
    cases t <;> decide
  obtain ⟨hselected,hraised⟩ := selected_loop query accountId accountType
    (show QueryType.queryTypes.Nodup by decide)
    ⟨accountFingerprint accountId accountType,accountType,[],[],[],[],[]⟩
    (by intro t _; cases t <;> rfl)
  obtain ⟨hlinked,hmissing⟩ := linked_loop query accountId
    (linkedQueries b.detectedAccountTypes accountType)
    (QueryType.queryTypes.foldl (querySelected query accountId accountType)
      ⟨accountFingerprint accountId accountType,accountType,[],[],[],[],[]⟩)
  rw [← hloops] at hlinked hmissing
  constructor
  · intro t
    have hown : (QueryType.queryTypes.map (fun t => (accountType,t))).filter (fun q => q.2 = t) =
        [(accountType,t)] := by
      cases t <;> rfl
    rw [hlinked,hselected,if_pos (hall t)]
    unfold madeQueries
    rw [List.filter_append,hown,List.flatMap_append]
    simp
  · rw [hmissing,hraised]
    simp [hall]

end Loops

namespace QueryBridge

/-- The event is clean where the list of errors is empty. -/
theorem snapshotEvent_clean (header : QmtEvent) (s : BridgeSnapshot) :
    (snapshotEvent header s).cleanSnapshot = true ↔ s.queryErrors = [] := by
  have herrors : s.payload.get "query_errors" =
      some (.array (.ofList (s.queryErrors.map .object))) := rfl
  have htruthy : (Json.array (.ofList (s.queryErrors.map .object))).truthy = true ↔
      s.queryErrors ≠ [] := by
    cases s.queryErrors <;> simp [Json.truthy,Items.ofList]
  simp only [QmtEvent.cleanSnapshot,snapshotEvent,herrors,Option.any_some,decide_true,
    Bool.true_and,Bool.not_eq_true']
  rw [← Bool.not_eq_true,htruthy,not_not]

/-- For the Host that has lost the stream, the list of errors is the signal. -/
theorem snapshotEvent_resyncs {ingress : IngressBuffer} {header : QmtEvent} {s : BridgeSnapshot}
    (hnew : ingress.lastSequence < header.sequence) (hlost : ingress.needsResync = true) :
    (ingress.advance (snapshotEvent header s)).2.needsResync = false ↔ s.queryErrors = [] := by
  have hsequence : ¬ (snapshotEvent header s).sequence ≤ ingress.lastSequence := by
    change ¬ header.sequence ≤ ingress.lastSequence
    omega
  rw [← snapshotEvent_clean header s]
  simp [IngressBuffer.advance,hsequence,hlost]

/-- The queued event is the snapshot. -/
theorem enqueue_snapshot (l : EventLedger) (nowMs : Nat) (header : QmtEvent) (s : BridgeSnapshot) :
    ∃ e, (l.enqueue nowMs (snapshotEvent header s)).feed.events.getLast? = some e ∧
      e.payload = s.payload ∧ (e.cleanSnapshot = true ↔ s.queryErrors = []) := by
  refine ⟨l.feed.event nowMs (snapshotEvent header s),?_,rfl,snapshotEvent_clean header s⟩
  unfold EventLedger.enqueue EventFeed.enqueue
  by_cases hfull : maxQueuedEvents ≤ l.feed.events.length
  · simp [hfull]
  · simp [hfull]

/-- A snapshot without errors is complete exactly where no query for the selected account
goes unanswered, or something else is reported. -/
theorem snapshot_complete_iff {b : QueryBridge} {header : QmtEvent} {nowMs : Nat}
    {accountId? accountType? : Option String} {queryFn : Option TradeQuery} {emit : Bool}
    {accountId accountType : String} {query : TradeQuery}
    (hbinding : b.binding accountId? accountType? queryFn = .ok (accountId,accountType,query)) :
    ∃ s b', b.readSnapshot header nowMs accountId? accountType? queryFn emit = .ok (s,b') ∧
      (emit = true → ∃ e, b'.ledger.feed.events.getLast? = some e ∧ e.payload = s.payload ∧
        (e.cleanSnapshot = true ↔ s.queryErrors = [])) ∧
      ((s.queryErrors = [] → s.Complete b.detectedAccountTypes query accountId accountType) ↔
        ((∃ t : QueryType, query accountId accountType t.lower = .none) →
          (∃ t : QueryType, ∃ e, query accountId accountType t.lower = .raises e) ∨
            ∃ q ∈ linkedQueries b.detectedAccountTypes accountType,
              ∀ rows, query accountId q.1 q.2.lower ≠ .rows rows)) := by
  obtain ⟨hrows,herrors⟩ := b.collect_spec query accountId accountType
  have hread : b.readSnapshot header nowMs accountId? accountType? queryFn emit =
      .ok (b.collect accountId accountType query,if emit then { b with
        ledger := b.ledger.enqueue nowMs
          (snapshotEvent header (b.collect accountId accountType query)) } else b) := by
    simp only [readSnapshot,hbinding,bind,Except.bind]
    rfl
  refine ⟨_,_,hread,?_,?_⟩
  · intro hemit
    rw [if_pos hemit]
    exact enqueue_snapshot b.ledger nowMs header _
  · rw [herrors]
    constructor
    · intro hcomplete hnone
      by_contra hreported
      simp only [not_or,not_exists,not_and,not_forall,not_not] at hreported
      obtain ⟨hraises,hlinked⟩ := hreported
      obtain ⟨t,ht⟩ := hnone
      obtain ⟨rows,hanswer⟩ := (hcomplete ⟨hraises,hlinked⟩).answered (accountType,t)
        (List.mem_append_left _ (List.mem_map.mpr ⟨t,by cases t <;> decide,rfl⟩))
      rw [ht] at hanswer
      cases hanswer
    · intro hcondition ⟨hraises,hlinked⟩
      refine ⟨?_,hrows⟩
      intro q hq
      obtain hq | hq := List.mem_append.mp hq
      · obtain ⟨t,-,rfl⟩ := List.mem_map.mp hq
        cases hanswer : query accountId accountType t.lower with
        | rows rows => exact ⟨rows,rfl⟩
        | none =>
          obtain ⟨t',e,he⟩ | ⟨q',hq',hq''⟩ := hcondition ⟨t,hanswer⟩
          · exact absurd he (hraises t' e)
          · obtain ⟨rows,hrows'⟩ := hlinked q' hq'
            exact absurd hrows' (hq'' rows)
        | raises e => exact absurd hanswer (hraises t e)
      · exact hlinked q hq

/-- The broker answers every query of the selected account but the one for its positions. -/
def unansweredPositions : TradeQuery := fun _ _ dataType =>
  if dataType = "position" then .none else .rows []

def sampleBridge (detected : Finset String) (query : TradeQuery) : QueryBridge :=
  ⟨some "8881",some "STOCK",detected,some query,.start "s" []⟩

def sampleHeader : QmtEvent := ⟨"s",1,1,.snapshot,"active_query","",some "STOCK",none,.nil⟩

theorem snapshot_complete_linked :
    ∃ s b', (sampleBridge {"HUGANGTONG"} (fun _ _ _ => .rows [])).readSnapshot sampleHeader 1 none
        none none true = .ok (s,b') ∧
      (true = true → ∃ e, b'.ledger.feed.events.getLast? = some e ∧ e.payload = s.payload ∧
        (e.cleanSnapshot = true ↔ s.queryErrors = [])) ∧
      ((s.queryErrors = [] → s.Complete {"HUGANGTONG"} (fun _ _ _ => .rows []) "8881" "STOCK") ↔
        ((∃ _ : QueryType, QueryAnswer.rows [] = .none) →
          (∃ _ : QueryType, ∃ e, QueryAnswer.rows [] = .raises e) ∨
            ∃ q ∈ linkedQueries {"HUGANGTONG"} "STOCK",
              ∀ rows, QueryAnswer.rows [] ≠ .rows rows)) :=
  snapshot_complete_iff rfl

/-- The positions are missing, the snapshot is clean. -/
theorem snapshot_hides_unanswered :
    ∃ s b', (sampleBridge ∅ unansweredPositions).readSnapshot sampleHeader 1 none none none true =
        .ok (s,b') ∧ s.queryErrors = [] ∧
      ¬ (s.queryErrors = [] → s.Complete ∅ unansweredPositions "8881" "STOCK") := by
  have hclean : ((sampleBridge ∅ unansweredPositions).collect "8881" "STOCK"
      unansweredPositions).queryErrors = [] := by decide +kernel
  refine ⟨_,_,rfl,hclean,?_⟩
  intro hcomplete
  obtain ⟨rows,hrows⟩ := (hcomplete hclean).answered ("STOCK",.position)
    (List.mem_append_left _ (by decide))
  cases hrows

end QueryBridge

end BigQmt
