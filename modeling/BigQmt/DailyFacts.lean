import BigQmt.Decimals
import BigQmt.EarlyStop
import BigQmt.FactJournal
import BigQmt.RiskRuntime
import BigQmt.UtcText
import Mathlib.Data.Prod.Lex
import Mathlib.Data.Finset.Card
set_option autoImplicit false

/-!
`risk/accounting.py`: the facts of a trading day as the daily ledger writes them, texts of
dates, decimals and instants, and the totals that it reads back from them.
-/

namespace BigQmt.Risk

open Decimals Gregorian

inductive LedgerError where
  | risk (e : RiskError)
  | dailyRiskFactConflict (message : String)
  | writeGuard
  | invalidOperation
  | overflow
  deriving DecidableEq

/-- The context that decimals are added in: 28 digits. -/
def defaultContext : Context := ⟨28,-999999,999999⟩

/-- A `date`. -/
structure TradingDate where
  date : Date
  valid : date.Valid
  year_lt : date.year < 10000
  deriving DecidableEq

/-- An instant that has a UTC text: microseconds since the start of year 1. -/
structure Instant where
  micros : Nat
  micros_lt : micros < 315537897600000000

instance : DecidableEq Instant := fun s t =>
  decidable_of_iff (s.micros = t.micros) (by cases s; cases t; simp)

def DailyRiskEventType.value : DailyRiskEventType → String
  | .orderSubmit => "ORDER_SUBMIT"
  | .cancelRequest => "CANCEL_REQUEST"
  | .trade => "TRADE"

/-- A row of `daily_risk_events` as it is stored. -/
structure EventRow where
  eventKey : String
  accountFingerprint : String
  strategyId : String
  tradingDate : String
  eventType : String
  notional : String
  observedAt : String
  sourceRef : String
  deriving DecidableEq, Repr

/-- A row of `daily_risk_pnl_snapshots` as it is stored. -/
structure SnapshotRow where
  snapshotKey : String
  accountFingerprint : String
  tradingDate : String
  dailyPnl : String
  observedAt : String
  source : String
  deriving DecidableEq, Repr

structure DailyRiskTables where
  events : List EventRow
  snapshots : List SnapshotRow
  deriving DecidableEq, Repr

section Writes

/-- The arguments that all events have; a naive time has no instant. -/
structure EventArgs where
  eventKey : String
  accountFingerprint : String
  strategyId : String
  tradingDate : TradingDate
  observedAt : Option AwareTime
  sourceRef : String

/-- The calls that write; a decimal that is not finite has no number. -/
inductive LedgerCall where
  | recordOrderSubmit (args : EventArgs)
  | recordCancelRequest (args : EventArgs)
  | recordTrade (args : EventArgs) (notional : Option Dec)
  | recordPnlSnapshot (snapshotKey accountFingerprint : String) (tradingDate : TradingDate)
      (dailyPnl : Option Dec) (observedAt : Option AwareTime) (source : String)

def requireAware (name : String) : Option AwareTime → Except RiskError AwareTime
  | some t => .ok t
  | none => .error (.valueError (name ++ " must be timezone-aware"))

def requireFinite (name : String) : Option Dec → Except RiskError Dec
  | some d => .ok d
  | none => .error (.valueError (name ++ " must be finite"))

/-- `_require_decimal` with `positive=True`. -/
def requirePositive (name : String) (value : Option Dec) : Except RiskError Unit := do
  let d ← requireFinite name value
  require (0 < d.value) (name ++ " must be > 0")

/-- The checks of `_record_event`, and the row of the event. -/
def eventRow (args : EventArgs) (eventType : DailyRiskEventType) (notional : Option Dec) :
    Except RiskError EventRow := do
  requireNonempty "event_key" args.eventKey
  requireNonempty "account_fingerprint" args.accountFingerprint
  requireNonempty "strategy_id" args.strategyId
  let notional ← requireFinite "notional" notional
  let observedAt ← requireAware "observed_at" args.observedAt
  requireNonempty "source_ref" args.sourceRef
  let observedText ← utcIso observedAt
  return {
    eventKey := args.eventKey
    accountFingerprint := args.accountFingerprint
    strategyId := args.strategyId
    tradingDate := isoDate args.tradingDate.date
    eventType := eventType.value
    notional := String.ofList notional.text
    observedAt := observedText
    sourceRef := args.sourceRef }

/-- The checks of `record_pnl_snapshot`, and the row of the snapshot. -/
def snapshotRow (snapshotKey accountFingerprint : String) (tradingDate : TradingDate)
    (dailyPnl : Option Dec) (observedAt : Option AwareTime) (source : String) :
    Except RiskError SnapshotRow := do
  requireNonempty "snapshot_key" snapshotKey
  requireNonempty "account_fingerprint" accountFingerprint
  let dailyPnl ← requireFinite "daily_pnl" dailyPnl
  let observedAt ← requireAware "observed_at" observedAt
  requireNonempty "source" source
  let observedText ← utcIso observedAt
  return {
    snapshotKey := snapshotKey
    accountFingerprint := accountFingerprint
    tradingDate := isoDate tradingDate.date
    dailyPnl := String.ofList dailyPnl.text
    observedAt := observedText
    source := source }

/-- `WHERE event_key=?`. -/
def sameEvent (a b : EventRow) : Bool := a.eventKey = b.eventKey

/-- `WHERE snapshot_key=? OR (account_fingerprint=? AND trading_date=? AND observed_at=?)`. -/
def sameSnapshot (a b : SnapshotRow) : Bool :=
  a.snapshotKey = b.snapshotKey || (a.accountFingerprint = b.accountFingerprint &&
    a.tradingDate = b.tradingDate && a.observedAt = b.observedAt)

/-- One transaction: the guard, the row that is found, and the insertion. What raises is rolled
back; `choice` is the place of the row that a query with several answers fetches. -/
def commitFact {ρ : Type} [DecidableEq ρ] (clash : ρ → ρ → Bool) (message : String)
    (guardOk : Bool) (choice : Nat) (log : List ρ) :
    Except RiskError ρ → Except LedgerError Bool × List ρ
  | .error e => (.error (.risk e),log)
  | .ok row =>
    if guardOk then
      match FactJournal.record clash choice log row with
      | (.added,log) => (.ok true,log)
      | (.replayed,log) => (.ok false,log)
      | (.conflict,log) => (.error (.dailyRiskFactConflict message),log)
    else (.error .writeGuard,log)

/-- A call, whether the bound write guard returns, and which row is fetched. -/
structure LedgerWrite where
  call : LedgerCall
  guardOk : Bool
  choice : Nat

/-- What the checks make of a call's arguments. -/
def LedgerCall.row : LedgerCall → Except RiskError EventRow ⊕ Except RiskError SnapshotRow
  | .recordOrderSubmit args => .inl (eventRow args .orderSubmit (some ⟨false,0,0⟩))
  | .recordCancelRequest args => .inl (eventRow args .cancelRequest (some ⟨false,0,0⟩))
  | .recordTrade args notional =>
    .inl (requirePositive "notional" notional >>= fun _ => eventRow args .trade notional)
  | .recordPnlSnapshot snapshotKey account tradingDate dailyPnl observedAt source =>
    .inr (snapshotRow snapshotKey account tradingDate dailyPnl observedAt source)

def LedgerWrite.apply (w : LedgerWrite) (t : DailyRiskTables) :
    Except LedgerError Bool × DailyRiskTables :=
  match w.call.row with
  | .inl row =>
    let (result,events) := commitFact sameEvent "conflicting daily risk event identity" w.guardOk
      w.choice t.events row
    (result,{ t with events })
  | .inr row =>
    let (result,snapshots) := commitFact sameSnapshot "conflicting daily PnL snapshot identity"
      w.guardOk w.choice t.snapshots row
    (result,{ t with snapshots })

/-- The calls of a sequence that returned, and the tables after it. -/
def runWrites (t : DailyRiskTables) : List LedgerWrite → List LedgerCall × DailyRiskTables
  | [] => ([],t)
  | w :: ws =>
    let (result,t') := w.apply t
    let (calls,after) := runWrites t' ws
    (if result.isOk then w.call :: calls else calls,after)

end Writes

section Reads

structure DailyTotals where
  accountFingerprint : String
  tradingDate : TradingDate
  dailyPnl : Dec
  dailyTurnover : Dec
  dailyOrderCount : Nat
  dailyCancelCount : Nat
  pnlObservedAt : Nat
  deriving DecidableEq

/-- `Decimal(text)`. -/
def readDecimal (text : String) : Except LedgerError Dec :=
  match Decimals.read text.toList with
  | some d => .ok d
  | none => .error .invalidOperation

def addDecimal (x y : Dec) : Except LedgerError Dec :=
  match defaultContext.add x y with
  | some d => .ok d
  | none => .error .overflow

/-- The sum of the decimals of some rows, in the order of the rows. -/
def sumNotionals (rows : List EventRow) : Except LedgerError Dec :=
  rows.foldlM (fun total row => readDecimal row.notional >>= addDecimal total) ⟨false,0,0⟩

/-- `ORDER BY observed_at DESC, snapshot_key DESC LIMIT 1`. -/
def latestRow (rows : List SnapshotRow) : Option SnapshotRow :=
  EarlyStop.largest (fun row => toLex (row.observedAt,row.snapshotKey)) rows

def liftRisk {α : Type} : Except RiskError α → Except LedgerError α
  | .ok a => .ok a
  | .error e => .error (.risk e)

namespace DailyRiskTables

def totals (t : DailyRiskTables) (accountFingerprint : String) (tradingDate : TradingDate) :
    Except LedgerError DailyTotals := do
  liftRisk (requireNonempty "account_fingerprint" accountFingerprint)
  let dateText := isoDate tradingDate.date
  let rows := t.events.filter (fun row =>
    row.accountFingerprint = accountFingerprint && row.tradingDate = dateText)
  let ofType := fun (eventType : DailyRiskEventType) =>
    rows.filter (fun row => row.eventType = eventType.value)
  let turnover ← sumNotionals (ofType .trade)
  match latestRow (t.snapshots.filter (fun row =>
      row.accountFingerprint = accountFingerprint && row.tradingDate = dateText)) with
  | none => .error (.risk (.dailyRiskSnapshotUnavailable
      ("no daily PnL snapshot for " ++ accountFingerprint ++ " on " ++ dateText)))
  | some pnl => do
    let dailyPnl ← readDecimal pnl.dailyPnl
    match readUtc pnl.observedAt with
    | none => .error (.risk (.valueError "Invalid isoformat string"))
    | some pnlObservedAt => return {
        accountFingerprint := accountFingerprint
        tradingDate := tradingDate
        dailyPnl := dailyPnl
        dailyTurnover := turnover
        dailyOrderCount := (ofType .orderSubmit).length
        dailyCancelCount := (ofType .cancelRequest).length
        pnlObservedAt := pnlObservedAt }

def strategyTurnover (t : DailyRiskTables) (accountFingerprint strategyId : String)
    (tradingDate : TradingDate) : Except LedgerError Dec := do
  liftRisk (requireNonempty "account_fingerprint" accountFingerprint)
  liftRisk (requireNonempty "strategy_id" strategyId)
  sumNotionals (t.events.filter (fun row => row.accountFingerprint = accountFingerprint &&
    row.strategyId = strategyId && row.tradingDate = isoDate tradingDate.date &&
    row.eventType = "TRADE"))

end DailyRiskTables

end Reads

end BigQmt.Risk
