import BigQmt.ExternalOrders
import BigQmt.RiskEngine
set_option autoImplicit false

/-!
`RuntimeRiskAssembler.build` and the services it reads: the daily ledger, the strategy
heartbeats, the quotes, and `RiskSnapshotBuilder`.
-/

namespace BigQmt.Risk

/-- A constructor: the object, where its `__post_init__` returns. -/
def construct {α : Type} (checked : Except RiskError Unit) (make : checked = .ok () → α) :
    Except RiskError α :=
  match checked,make with
  | .ok (),make => .ok (make rfl)
  | .error e,_ => .error e

theorem construct_eq_ok {α : Type} {checked : Except RiskError Unit}
    {make : checked = .ok () → α} {a : α} :
    construct checked make = .ok a ↔ ∃ h, a = make h := by
  cases checked with
  | error e => simp [construct]
  | ok u => simp [construct,eq_comm]

/-- `timedelta(seconds=age)`, in microseconds: at most 999999999 days. -/
def duration (age : Int) : Except RiskError Int :=
  if 86399999999999 < age then .error (.overflowError "days must have magnitude <= 999999999")
  else .ok (age * 1000000)

inductive DailyRiskEventType where
  | orderSubmit | cancelRequest | trade
  deriving DecidableEq, Repr

/-- A row of `daily_risk_events`; a trading date is its ISO text. -/
structure DailyRiskEvent where
  accountFingerprint : String
  strategyId : String
  tradingDate : String
  eventType : DailyRiskEventType
  notional : ℚ
  deriving DecidableEq

/-- A row of `daily_risk_pnl_snapshots`; `observedAt` is an instant. -/
structure DailyPnlSnapshot where
  snapshotKey : String
  accountFingerprint : String
  tradingDate : String
  dailyPnl : ℚ
  observedAt : Int
  deriving DecidableEq

structure DailyRiskTotals where
  dailyPnl : ℚ
  dailyTurnover : ℚ
  dailyOrderCount : Nat
  dailyCancelCount : Nat
  pnlObservedAt : Int
  deriving DecidableEq

structure DailyRiskLedger where
  events : List DailyRiskEvent
  pnlSnapshots : List DailyPnlSnapshot

namespace DailyRiskLedger

/-- The first row `ORDER BY observed_at DESC, snapshot_key DESC`. -/
def latestPnl : List DailyPnlSnapshot → Option DailyPnlSnapshot
  | [] => none
  | row :: rows =>
    match latestPnl rows with
    | none => some row
    | some best =>
      if best.observedAt < row.observedAt ∨
          best.observedAt = row.observedAt ∧ best.snapshotKey < row.snapshotKey then some row
      else some best

def totals (ledger : DailyRiskLedger) (accountFingerprint tradingDate : String) :
    Except RiskError DailyRiskTotals := do
  requireNonempty "account_fingerprint" accountFingerprint
  let rows := ledger.events.filter (fun row =>
    row.accountFingerprint = accountFingerprint && row.tradingDate = tradingDate)
  let ofType := fun t => rows.filter (fun row => row.eventType = t)
  match latestPnl (ledger.pnlSnapshots.filter (fun row =>
      row.accountFingerprint = accountFingerprint && row.tradingDate = tradingDate)) with
  | none => .error (.dailyRiskSnapshotUnavailable
      ("no daily PnL snapshot for " ++ accountFingerprint ++ " on " ++ tradingDate))
  | some pnl => return {
      dailyPnl := pnl.dailyPnl
      dailyTurnover := ((ofType .trade).map DailyRiskEvent.notional).sum
      dailyOrderCount := (ofType .orderSubmit).length
      dailyCancelCount := (ofType .cancelRequest).length
      pnlObservedAt := pnl.observedAt }

def strategyTurnover (ledger : DailyRiskLedger) (accountFingerprint strategyId tradingDate : String) :
    Except RiskError ℚ := do
  requireNonempty "account_fingerprint" accountFingerprint
  requireNonempty "strategy_id" strategyId
  return ((ledger.events.filter (fun row => row.accountFingerprint = accountFingerprint &&
    row.strategyId = strategyId && row.tradingDate = tradingDate && row.eventType = .trade)).map
      DailyRiskEvent.notional).sum

end DailyRiskLedger

structure StrategyHeartbeat where
  strategyId : String
  strategyVersion : String
  observedAt : AwareTime
  deriving DecidableEq

/-- `StrategyRuntimeService.require_fresh`, on the heartbeats by strategy. -/
def requireFresh (heartbeats : List StrategyHeartbeat) (strategyId strategyVersion : String)
    (now : AwareTime) (maxAgeSeconds : Int) : Except RiskError StrategyHeartbeat := do
  requireNonempty "strategy_id" strategyId
  requireNonempty "strategy_version" strategyVersion
  require (0 < maxAgeSeconds) "max_age_seconds must be > 0"
  match heartbeats.find? (fun heartbeat => heartbeat.strategyId = strategyId) with
  | none => .error (.strategyUnavailable ("no live heartbeat for " ++ strategyId))
  | some heartbeat =>
    if heartbeat.strategyVersion ≠ strategyVersion then
      .error (.strategyIdentityMismatch ("heartbeat version " ++ heartbeat.strategyVersion ++
        " does not match " ++ strategyVersion))
    else if now.instant < heartbeat.observedAt.instant then
      .error (.strategyStale ("heartbeat for " ++ strategyId ++ " is future-dated"))
    else do
      let maxAge ← duration maxAgeSeconds
      if maxAge < now.instant - heartbeat.observedAt.instant then
        .error (.strategyStale ("heartbeat for " ++ strategyId ++ " is stale"))
      else return heartbeat

structure MarketQuote where
  symbol : String
  lastPrice : ℚ
  brokerTime : AwareTime
  observedAt : AwareTime
  deriving DecidableEq

/-- `MarketDataService.latest`, on the quotes by symbol. -/
def latest (quotes : List MarketQuote) (symbol : String) (now : AwareTime) (maxAgeSeconds : Int) :
    Except RiskError MarketQuote := do
  require (nonblank symbol) "symbol must be a non-empty string"
  require (0 < maxAgeSeconds) "max_age_seconds must be > 0"
  match quotes.find? (fun quote => quote.symbol = symbol) with
  | none => .error (.marketDataUnavailable ("no quote for " ++ symbol))
  | some quote =>
    if now.instant < quote.brokerTime.instant then
      .error (.marketDataStale ("broker timestamp for " ++ symbol ++ " is in the future"))
    else if now.instant < quote.observedAt.instant then
      .error (.marketDataStale ("local observation for " ++ symbol ++ " is in the future"))
    else do
      let maxAge ← duration maxAgeSeconds
      if maxAge < now.instant - quote.brokerTime.instant then
        .error (.marketDataStale ("broker quote for " ++ symbol ++ " is stale"))
      else if maxAge < now.instant - quote.observedAt.instant then
        .error (.marketDataStale ("local observation for " ++ symbol ++ " is stale"))
      else return quote

structure AccountState where
  accountFingerprint : String
  availableCash : ℚ
  grossExposure : ℚ
  observedAt : AwareTime
  deriving DecidableEq

structure StrategyState where
  strategyId : String
  strategyVersion : String
  grossExposure : ℚ
  securityGrossExposure : ℚ
  positionCount : Int
  deriving DecidableEq

structure SecurityRiskReference where
  symbol : String
  tickSize : ℚ
  lowerPriceLimit : ℚ
  upperPriceLimit : ℚ
  buyLotSize : Int
  sellLotSize : Int
  sellableQuantity : Int
  grossExposure : ℚ
  deriving DecidableEq

/-- The arguments of `build`, but for the policy, the time and the external orders. -/
structure RuntimeFacts where
  tradingDate : String
  mode : RuntimeMode
  health : RuntimeHealth
  marketOpen : Bool
  globalAmbiguityBlock : Bool
  blockedSymbols : Finset String
  account : AccountState
  strategy : StrategyState
  security : SecurityRiskReference

/-- The arguments of `SecurityRiskSnapshot`. -/
def securityFields (security : SecurityRiskReference) (quote : MarketQuote) : SecurityRiskFields where
  symbol := security.symbol
  tickSize := security.tickSize
  lowerPriceLimit := security.lowerPriceLimit
  upperPriceLimit := security.upperPriceLimit
  referencePrice := quote.lastPrice
  buyLotSize := security.buyLotSize
  sellLotSize := security.sellLotSize
  sellableQuantity := security.sellableQuantity
  grossExposure := security.grossExposure
  observedAt := quote.brokerTime

/-- The arguments of `RiskSnapshot`. -/
def snapshotFields (facts : RuntimeFacts) (blockedSymbols : Finset String)
    (account : AccountRiskSnapshot) (strategy : StrategyRiskSnapshot)
    (security : SecurityRiskSnapshot) : RiskSnapshotFields where
  mode := facts.mode
  databaseHealthy := facts.health.databaseHealthy
  omsHealthy := facts.health.omsHealthy
  leaderHeld := facts.health.leaderHeld
  reconciliationComplete := facts.health.reconciliationComplete
  qmtHealthy := facts.health.qmtHealthy
  marketOpen := facts.marketOpen
  globalAmbiguityBlock := facts.globalAmbiguityBlock
  blockedSymbols := blockedSymbols
  account := account
  strategy := strategy
  security := security

/-- `RiskSnapshotBuilder.build`. -/
def buildSnapshot (quotes : List MarketQuote) (policy : RiskPolicy) (now : AwareTime)
    (facts : RuntimeFacts) (blockedSymbols : Finset String) (account : AccountRiskSnapshot)
    (strategy : StrategyRiskSnapshot) (security : SecurityRiskReference) :
    Except RiskError RiskSnapshot := do
  let quote ← latest quotes security.symbol now policy.marketMaxAgeSeconds
  let securitySnapshot ← construct (securityFields security quote).postInit (.mk _)
  construct (snapshotFields facts blockedSymbols account strategy securitySnapshot).postInit (.mk _)

structure RuntimeRiskAssembler where
  quotes : List MarketQuote
  dailyRisk : DailyRiskLedger
  heartbeats : List StrategyHeartbeat

/-- The arguments of `AccountRiskSnapshot`: external buys count as exposure. -/
def accountFields (facts : RuntimeFacts) (totals : DailyRiskTotals)
    (externalOrders : ExternalOrderRiskSummary) : AccountRiskFields where
  accountFingerprint := facts.account.accountFingerprint
  availableCash := facts.account.availableCash
  grossExposure := facts.account.grossExposure + externalOrders.pendingBuyNotional
  dailyPnl := totals.dailyPnl
  dailyTurnover := totals.dailyTurnover
  dailyOrderCount := totals.dailyOrderCount
  dailyCancelCount := totals.dailyCancelCount
  observedAt := facts.account.observedAt

/-- The arguments of `StrategyRiskSnapshot`. -/
def strategyFields (facts : RuntimeFacts) (turnover : ℚ) (heartbeat : StrategyHeartbeat) :
    StrategyRiskFields where
  strategyId := facts.strategy.strategyId
  strategyVersion := facts.strategy.strategyVersion
  grossExposure := facts.strategy.grossExposure
  securityGrossExposure := facts.strategy.securityGrossExposure
  dailyTurnover := turnover
  positionCount := facts.strategy.positionCount
  heartbeatAt := heartbeat.observedAt

/-- The security with the external buys of its symbol. -/
def securityForRisk (facts : RuntimeFacts) (externalOrders : ExternalOrderRiskSummary) :
    SecurityRiskReference :=
  { facts.security with
    grossExposure := facts.security.grossExposure +
      externalOrders.pendingBuyNotionalFor facts.security.symbol }

/-- `RuntimeRiskAssembler.build`. -/
def RuntimeRiskAssembler.build (assembler : RuntimeRiskAssembler) (policy : RiskPolicy)
    (now : AwareTime) (facts : RuntimeFacts) (externalOrders : ExternalOrderRiskSummary) :
    Except RiskError RiskSnapshot := do
  let totals ← assembler.dailyRisk.totals facts.account.accountFingerprint facts.tradingDate
  if now.instant < totals.pnlObservedAt then
    .error (.runtimeRiskUnavailable "daily PnL snapshot is future-dated")
  else do
    let maxAge ← duration policy.accountMaxAgeSeconds
    if maxAge < now.instant - totals.pnlObservedAt then
      .error (.runtimeRiskUnavailable "daily PnL snapshot is stale")
    else do
      let heartbeat ← requireFresh assembler.heartbeats facts.strategy.strategyId
        facts.strategy.strategyVersion now policy.strategyMaxAgeSeconds
      let account ← construct (accountFields facts totals externalOrders).postInit (.mk _)
      let turnover ← assembler.dailyRisk.strategyTurnover facts.account.accountFingerprint
        facts.strategy.strategyId facts.tradingDate
      let strategy ← construct (strategyFields facts turnover heartbeat).postInit (.mk _)
      buildSnapshot assembler.quotes policy now facts
        (facts.blockedSymbols ∪ externalOrders.blockedSymbols) account strategy
        (securityForRisk facts externalOrders)

/-- What a build reads of the services: the external orders have no part in it. -/
structure ServiceFacts where
  totals : DailyRiskTotals
  heartbeat : StrategyHeartbeat
  turnover : ℚ
  quote : MarketQuote

/-- The services give these facts, all of them fresh. -/
structure RuntimeRiskAssembler.Provides (assembler : RuntimeRiskAssembler) (policy : RiskPolicy)
    (now : AwareTime) (facts : RuntimeFacts) (service : ServiceFacts) : Prop where
  totals : assembler.dailyRisk.totals facts.account.accountFingerprint facts.tradingDate =
    .ok service.totals
  pnlPast : ¬now.instant < service.totals.pnlObservedAt
  pnlFresh : ∃ maxAge, duration policy.accountMaxAgeSeconds = .ok maxAge ∧
    ¬maxAge < now.instant - service.totals.pnlObservedAt
  heartbeat : requireFresh assembler.heartbeats facts.strategy.strategyId
    facts.strategy.strategyVersion now policy.strategyMaxAgeSeconds = .ok service.heartbeat
  turnover : assembler.dailyRisk.strategyTurnover facts.account.accountFingerprint
    facts.strategy.strategyId facts.tradingDate = .ok service.turnover
  quote : latest assembler.quotes facts.security.symbol now policy.marketMaxAgeSeconds =
    .ok service.quote

/-- A build returns a snapshot of the facts of the services, the arguments and the external
orders, where the four constructors accept them. -/
theorem build_eq_ok {assembler : RuntimeRiskAssembler} {policy : RiskPolicy} {now : AwareTime}
    {facts : RuntimeFacts} {externalOrders : ExternalOrderRiskSummary} {snapshot : RiskSnapshot} :
    assembler.build policy now facts externalOrders = .ok snapshot ↔
      ∃ service, assembler.Provides policy now facts service ∧
        ∃ haccount hstrategy hsecurity hsnapshot, snapshot =
          ⟨snapshotFields facts (facts.blockedSymbols ∪ externalOrders.blockedSymbols)
            ⟨accountFields facts service.totals externalOrders,haccount⟩
            ⟨strategyFields facts service.turnover service.heartbeat,hstrategy⟩
            ⟨securityFields (securityForRisk facts externalOrders) service.quote,hsecurity⟩,
            hsnapshot⟩ := by
  simp only [RuntimeRiskAssembler.build,buildSnapshot,bind_eq_ok]
  constructor
  · rintro ⟨totals,htotals,h⟩
    split at h
    · cases h
    · rename_i hpast
      simp only [bind_eq_ok] at h
      obtain ⟨maxAge,hmaxAge,h⟩ := h
      split at h
      · cases h
      · rename_i hfresh
        simp only [bind_eq_ok,construct_eq_ok] at h
        obtain ⟨heartbeat,hheartbeat,_,⟨haccount,rfl⟩,turnover,hturnover,_,⟨hstrategy,rfl⟩,quote,
          hquote,_,⟨hsecurity,rfl⟩,hsnapshot,rfl⟩ := h
        exact ⟨⟨totals,heartbeat,turnover,quote⟩,⟨htotals,hpast,⟨maxAge,hmaxAge,hfresh⟩,hheartbeat,
          hturnover,hquote⟩,haccount,hstrategy,hsecurity,hsnapshot,rfl⟩
  · rintro ⟨service,h,haccount,hstrategy,hsecurity,hsnapshot,rfl⟩
    obtain ⟨maxAge,hmaxAge,hfresh⟩ := h.pnlFresh
    refine ⟨service.totals,h.totals,?_⟩
    simp only [h.pnlPast,if_false,bind_eq_ok]
    refine ⟨maxAge,hmaxAge,?_⟩
    simp only [hfresh,if_false,bind_eq_ok,construct_eq_ok]
    exact ⟨_,h.heartbeat,_,⟨haccount,rfl⟩,_,h.turnover,_,⟨hstrategy,rfl⟩,_,h.quote,_,
      ⟨hsecurity,rfl⟩,hsnapshot,rfl⟩

end BigQmt.Risk
