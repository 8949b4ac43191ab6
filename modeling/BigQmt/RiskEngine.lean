import BigQmt.RiskModels
set_option autoImplicit false

/-!
`evaluate_risk` of `risk/engine.py`, rule by rule in the order of the source.
-/

namespace BigQmt.Risk

open Checklist

abbrev RiskRule : Type := Check RiskFinding

/-- The `if` of one rule and the `reject` under it. -/
def reject (violated : Bool) (level : RiskLevel) (ruleId : String) (code : RiskReasonCode)
    (message : String) : RiskRule :=
  ⟨violated,level,ruleId,code,message⟩

@[simp] theorem reject_violated (violated : Bool) (level : RiskLevel) (ruleId : String)
    (code : RiskReasonCode) (message : String) :
    (reject violated level ruleId code message).violated = violated := rfl

/-- `_is_stale`: a fact of the future is stale, and the age is then not looked at. -/
def isStale (observedAt now : AwareTime) (maxAgeSeconds : Int) : Except RiskError Bool :=
  if now.instant < observedAt.instant then .ok true
  else (now.secondsBefore maxAgeSeconds).map (fun oldest => observedAt.instant < oldest)

/-- `_projected_long_exposure`. -/
def projectedLongExposure (side : Side) (currentTotal currentSymbol orderNotional : ℚ) : ℚ :=
  match side with
  | .buy => currentTotal + orderNotional
  | .sell => max 0 (currentTotal - min currentSymbol orderNotional)

/-- `x % y` of two decimals: what is left after the whole part of `x / y`. -/
def decimalMod (x y : ℚ) : ℚ :=
  let q := x / y
  x - y * (if 0 ≤ q then (q.floor : ℚ) else -((-q).floor : ℚ))

def supportedSuffixes : List String := [".SH",".SZ",".BJ",".HGT",".SGT"]

/-- `symbol.endswith(_SUPPORTED_SUFFIXES)`. -/
def supported (symbol : String) : Bool :=
  supportedSuffixes.any (fun suffix => suffix.toList.isSuffixOf symbol.toList)

def OrderIntent.notional (intent : OrderIntent) : ℚ := intent.limitPrice * intent.quantity

def globalRules (intent : OrderIntent) (snapshot : RiskSnapshot) (policy : RiskPolicy) :
    List RiskRule :=
  [reject (!snapshot.databaseHealthy) .global "GLOBAL_DATABASE_HEALTH" .databaseUnhealthy
      "database health is not confirmed",
    reject (!snapshot.omsHealthy) .global "GLOBAL_OMS_HEALTH" .dataStale
      "OMS health is not confirmed",
    reject (!snapshot.leaderHeld) .global "GLOBAL_LEADER_HELD" .leaderNotHeld
      "active OMS leader ownership is not confirmed",
    reject (!snapshot.reconciliationComplete) .global "GLOBAL_RECONCILIATION_COMPLETE" .dataStale
      "startup reconciliation is incomplete",
    reject (snapshot.mode ∉ policy.permittedExecutionModes) .global "GLOBAL_RUNTIME_MODE"
      .modeNotArmed
      ("runtime mode " ++ snapshot.mode.value ++ " is not permitted by this risk policy"),
    reject (policy.requireQmtHealthy && !snapshot.qmtHealthy) .global "GLOBAL_QMT_HEALTH" .dataStale
      "required QMT health is not confirmed",
    reject snapshot.globalAmbiguityBlock .global "GLOBAL_BLOCKING_AMBIGUITY" .unknownOrder
      "account-wide unresolved execution ambiguity blocks new exposure",
    reject (!snapshot.marketOpen) .global "GLOBAL_MARKET_OPEN" .marketClosed
      "market session is not open for new orders",
    reject (snapshot.account.dailyPnl < -policy.maxDailyLossAbs) .global "GLOBAL_DAILY_LOSS_LIMIT"
      .limitExceeded "daily loss limit has been exceeded",
    reject (policy.maxDailyTurnover < snapshot.account.dailyTurnover + intent.notional) .global
      "GLOBAL_DAILY_TURNOVER_LIMIT" .limitExceeded
      "projected daily turnover exceeds the account policy limit",
    reject (policy.maxDailyOrders < snapshot.account.dailyOrderCount + 1) .global
      "GLOBAL_DAILY_ORDER_LIMIT" .limitExceeded
      "projected daily order count exceeds the policy limit",
    reject (policy.maxDailyCancels < snapshot.account.dailyCancelCount) .global
      "GLOBAL_DAILY_CANCEL_LIMIT" .limitExceeded
      "daily cancel count already exceeds the policy limit"]

/-- The two rules that compare exposures of one snapshot with each other. -/
def consistencyRules (snapshot : RiskSnapshot) : List RiskRule :=
  [reject (snapshot.account.grossExposure < snapshot.security.grossExposure) .account
      "ACCOUNT_SNAPSHOT_CONSISTENCY" .dataStale
      "security exposure exceeds account gross exposure",
    reject (snapshot.account.grossExposure < snapshot.strategy.grossExposure) .account
      "ACCOUNT_STRATEGY_EXPOSURE_CONSISTENCY" .dataStale
      "strategy exposure exceeds account gross exposure"]

def accountIdentityRules (intent : OrderIntent) (snapshot : RiskSnapshot) (policy : RiskPolicy)
    (stale : Bool) : List RiskRule :=
  [reject (intent.accountFingerprint ≠ policy.expectedAccountFingerprint ||
        snapshot.account.accountFingerprint ≠ policy.expectedAccountFingerprint ||
        snapshot.account.accountFingerprint ≠ intent.accountFingerprint) .account
      "ACCOUNT_FINGERPRINT_MATCH" .accountMismatch
      "intent, snapshot and deployed account fingerprints must match",
    reject stale .account "ACCOUNT_SNAPSHOT_FRESHNESS" .dataStale
      "account cash/position snapshot is stale or future-dated"]

def accountLimitRules (intent : OrderIntent) (snapshot : RiskSnapshot) (policy : RiskPolicy) :
    List RiskRule :=
  [reject (snapshot.account.availableCash < policy.minCashBuffer) .account
      "ACCOUNT_MIN_CASH_BUFFER" .limitExceeded
      "available cash is already below the minimum cash buffer",
    reject (policy.maxAccountGrossExposure < projectedLongExposure intent.side
        snapshot.account.grossExposure snapshot.security.grossExposure intent.notional) .account
      "ACCOUNT_PROJECTED_EXPOSURE" .limitExceeded
      "projected account gross exposure exceeds the policy limit"]

/-- The strategy's position count after the order. -/
def projectedPositionCount (intent : OrderIntent) (strategy : StrategyRiskSnapshot) : Int :=
  if intent.side = .buy ∧ strategy.securityGrossExposure = 0 then strategy.positionCount + 1
  else if intent.side = .sell ∧ 0 < strategy.securityGrossExposure ∧
      strategy.securityGrossExposure ≤ intent.notional then max 0 (strategy.positionCount - 1)
  else strategy.positionCount

def strategyRules (intent : OrderIntent) (snapshot : RiskSnapshot) (policy : RiskPolicy)
    (stale : Bool) : List RiskRule :=
  [reject (intent.strategyId ≠ policy.strategy.strategyId ||
        snapshot.strategy.strategyId ≠ policy.strategy.strategyId ||
        snapshot.strategy.strategyId ≠ intent.strategyId ||
        intent.strategyVersion ∉ policy.strategy.allowedVersions ||
        snapshot.strategy.strategyVersion ≠ intent.strategyVersion) .strategy
      "STRATEGY_ID_VERSION_ALLOWLIST" .strategyNotAllowed
      "strategy identity/version is not allow-listed or snapshot identity differs",
    reject stale .strategy "STRATEGY_HEARTBEAT_FRESHNESS" .dataStale
      "strategy heartbeat is stale or future-dated",
    reject (intent.symbol ∉ policy.strategy.allowedSymbols) .strategy "STRATEGY_SYMBOL_UNIVERSE"
      .strategyNotAllowed "symbol is outside the strategy allow-list",
    reject (policy.strategy.maxGrossExposure < projectedLongExposure intent.side
        snapshot.strategy.grossExposure snapshot.strategy.securityGrossExposure intent.notional)
      .strategy "STRATEGY_PROJECTED_EXPOSURE" .limitExceeded
      "projected strategy gross exposure exceeds its capital budget",
    reject (policy.strategy.maxDailyTurnover < snapshot.strategy.dailyTurnover + intent.notional)
      .strategy "STRATEGY_DAILY_TURNOVER_LIMIT" .limitExceeded
      "projected strategy daily turnover exceeds its limit",
    reject (policy.strategy.maxPositionCount < projectedPositionCount intent snapshot.strategy)
      .strategy "STRATEGY_POSITION_COUNT_LIMIT" .limitExceeded
      "projected strategy position count exceeds its limit"]

/-- The rules of an order that do not ask for its size. -/
def orderFactRules (intent : OrderIntent) (snapshot : RiskSnapshot) (policy : RiskPolicy)
    (now : AwareTime) (stale : Bool) : List RiskRule :=
  [reject (intent.isExpired now) .order "ORDER_INTENT_EXPIRY" .intentExpired
      "order intent has expired",
    reject (snapshot.security.symbol ≠ intent.symbol || !supported intent.symbol) .order
      "ORDER_SECURITY_SUPPORTED" .invalidOrder
      "security snapshot must match intent and use a supported market suffix",
    reject stale .order "ORDER_MARKET_DATA_FRESHNESS" .dataStale
      "market/security snapshot is stale or future-dated",
    reject (intent.symbol ∈ snapshot.blockedSymbols) .order "ORDER_SYMBOL_AMBIGUITY" .unknownOrder
      "unresolved order ambiguity blocks new exposure for this symbol",
    reject (decimalMod intent.limitPrice snapshot.security.tickSize ≠ 0) .order "ORDER_TICK_SIZE"
      .invalidOrder "limit price is not aligned to the supplied tick size",
    reject (!(snapshot.security.lowerPriceLimit ≤ intent.limitPrice &&
        intent.limitPrice ≤ snapshot.security.upperPriceLimit)) .order "ORDER_PRICE_BAND"
      .invalidOrder "limit price is outside the supplied daily price band",
    reject (policy.maxPriceDeviationRate < |intent.limitPrice - snapshot.security.referencePrice| /
        snapshot.security.referencePrice) .order "ORDER_REFERENCE_PRICE_DEVIATION" .invalidOrder
      "limit price deviation from reference price exceeds the policy limit"]

def orderSizeRules (intent : OrderIntent) (snapshot : RiskSnapshot) (policy : RiskPolicy) :
    List RiskRule :=
  [reject (intent.quantity % (match intent.side with
        | .buy => snapshot.security.buyLotSize
        | .sell => snapshot.security.sellLotSize) ≠ 0) .order "ORDER_LOT_SIZE" .invalidOrder
      "order quantity is not aligned to the supplied lot rule",
    reject (policy.maxOrderNotional < intent.notional) .order "ORDER_NOTIONAL_LIMIT" .limitExceeded
      "single-order notional exceeds the policy limit",
    reject (policy.maxSecurityGrossExposure < projectedLongExposure intent.side
        snapshot.security.grossExposure snapshot.security.grossExposure intent.notional) .order
      "ORDER_SECURITY_EXPOSURE_LIMIT" .limitExceeded
      "projected security exposure exceeds the policy limit",
    match intent.side with
    | .buy => reject (snapshot.account.availableCash -
        intent.notional * (1 + policy.feeBufferRate) < policy.minCashBuffer) .order
        "ORDER_BUY_CASH_WITH_FEE_BUFFER" .limitExceeded
        "buy cost plus fee buffer would violate available-cash reserve"
    | .sell => reject (snapshot.security.sellableQuantity < intent.quantity) .order
        "ORDER_SELLABLE_QUANTITY" .limitExceeded
        "sell quantity exceeds explicit sellable quantity"]

/-- The three answers of `_is_stale`. -/
structure Staleness where
  account : Bool
  strategy : Bool
  security : Bool
  deriving DecidableEq

def staleness (snapshot : RiskSnapshot) (policy : RiskPolicy) (now : AwareTime) :
    Except RiskError Staleness := do
  let account ← isStale snapshot.account.observedAt now policy.accountMaxAgeSeconds
  let strategy ← isStale snapshot.strategy.heartbeatAt now policy.strategyMaxAgeSeconds
  let security ← isStale snapshot.security.observedAt now policy.marketMaxAgeSeconds
  return ⟨account,strategy,security⟩

def riskRules (intent : OrderIntent) (snapshot : RiskSnapshot) (policy : RiskPolicy)
    (now : AwareTime) (stale : Staleness) : List RiskRule :=
  globalRules intent snapshot policy ++
    accountIdentityRules intent snapshot policy stale.account ++ consistencyRules snapshot ++
    accountLimitRules intent snapshot policy ++
    strategyRules intent snapshot policy stale.strategy ++
    orderFactRules intent snapshot policy now stale.security ++
    orderSizeRules intent snapshot policy

/-- `snapshot_hash`: the times of the snapshot are written in UTC. -/
def snapshotHash (snapshot : RiskSnapshot) : Except RiskError RiskSnapshot :=
  if snapshot.account.observedAt.hasUtc && snapshot.strategy.heartbeatAt.hasUtc &&
      snapshot.security.observedAt.hasUtc then .ok snapshot
  else .error (.overflowError "date value out of range")

def evaluateRisk (intent : OrderIntent) (snapshot : RiskSnapshot) (policy : RiskPolicy)
    (now : AwareTime) : Except RiskError RiskEvaluation := do
  let stale ← staleness snapshot policy now
  let found := findings (riskRules intent snapshot policy now stale)
  let hash ← snapshotHash snapshot
  return ⟨⟨found.isEmpty,(found.head?.map RiskFinding.reasonCode).getD .ok,policy.ruleVersion,
    hash,now⟩,found⟩

/-- The decision is to accept. -/
def accepts (intent : OrderIntent) (snapshot : RiskSnapshot) (policy : RiskPolicy)
    (now : AwareTime) : Bool :=
  match evaluateRisk intent snapshot policy now with
  | .ok evaluation => evaluation.decision.accepted
  | .error _ => false

/-- The decision is to reject. -/
def rejects (intent : OrderIntent) (snapshot : RiskSnapshot) (policy : RiskPolicy)
    (now : AwareTime) : Bool :=
  match evaluateRisk intent snapshot policy now with
  | .ok evaluation => !evaluation.decision.accepted
  | .error _ => false

section
variable {intent : OrderIntent} {snapshot : RiskSnapshot} {policy : RiskPolicy} {now : AwareTime}

theorem snapshotHash_eq_ok {hash : RiskSnapshot} : snapshotHash snapshot = .ok hash ↔
    hash = snapshot ∧ snapshot.account.observedAt.hasUtc = true ∧
      snapshot.strategy.heartbeatAt.hasUtc = true ∧ snapshot.security.observedAt.hasUtc = true := by
  unfold snapshotHash
  split
  · rename_i h
    simp only [Bool.and_eq_true] at h
    simp [h,eq_comm]
  · rename_i h
    simp only [Bool.and_eq_true] at h
    simp only [reduceCtorEq,false_iff]
    rintro ⟨-,h₁,h₂,h₃⟩
    exact h ⟨⟨h₁,h₂⟩,h₃⟩

/-- Evaluation returns when the three ages can be told and the times written; it accepts when no
rule is violated. -/
theorem evaluateRisk_ok {evaluation : RiskEvaluation} :
    evaluateRisk intent snapshot policy now = .ok evaluation ↔
      ∃ stale, staleness snapshot policy now = .ok stale ∧
        snapshotHash snapshot = .ok snapshot ∧
        evaluation = ⟨⟨(findings (riskRules intent snapshot policy now stale)).isEmpty,
          ((findings (riskRules intent snapshot policy now stale)).head?.map
            RiskFinding.reasonCode).getD .ok,policy.ruleVersion,snapshot,now⟩,
          findings (riskRules intent snapshot policy now stale)⟩ := by
  simp only [evaluateRisk,bind_eq_ok,pure,Except.pure,Except.ok.injEq]
  constructor
  · rintro ⟨stale,hstale,hash,hhash,rfl⟩
    obtain ⟨rfl,-⟩ := snapshotHash_eq_ok.mp hhash
    exact ⟨stale,hstale,hhash,rfl⟩
  · rintro ⟨stale,hstale,hhash,rfl⟩
    exact ⟨stale,hstale,snapshot,hhash,rfl⟩

theorem accepts_iff : accepts intent snapshot policy now = true ↔
    ∃ stale, staleness snapshot policy now = .ok stale ∧ snapshotHash snapshot = .ok snapshot ∧
      Passes (riskRules intent snapshot policy now stale) := by
  unfold accepts
  constructor
  · intro h
    cases hrun : evaluateRisk intent snapshot policy now with
    | error e => simp [hrun] at h
    | ok evaluation =>
      obtain ⟨stale,hstale,hhash,rfl⟩ := evaluateRisk_ok.mp hrun
      simp only [hrun,List.isEmpty_iff] at h
      exact ⟨stale,hstale,hhash,findings_eq_nil.mp h⟩
  · rintro ⟨stale,hstale,hhash,hpass⟩
    rw [evaluateRisk_ok.mpr ⟨stale,hstale,hhash,rfl⟩]
    simpa using findings_eq_nil.mpr hpass

/-- Where evaluation returns, it rejects unless it accepts. -/
theorem rejects_iff : rejects intent snapshot policy now = true ↔
    (∃ stale, staleness snapshot policy now = .ok stale) ∧
      snapshotHash snapshot = .ok snapshot ∧ accepts intent snapshot policy now = false := by
  unfold rejects accepts
  constructor
  · intro h
    cases hrun : evaluateRisk intent snapshot policy now with
    | error e => simp [hrun] at h
    | ok evaluation =>
      obtain ⟨stale,hstale,hhash,-⟩ := evaluateRisk_ok.mp hrun
      exact ⟨⟨stale,hstale⟩,hhash,by simpa [hrun] using h⟩
  · rintro ⟨⟨stale,hstale⟩,hhash,haccepts⟩
    have hrun := (@evaluateRisk_ok intent snapshot policy now _).mpr ⟨stale,hstale,hhash,rfl⟩
    rw [hrun] at haccepts ⊢
    simpa using haccepts

/-- A fact is fresh when it is not of the future and not older than the age, which reaches back
no further than the clock. -/
theorem isStale_eq_false {t : AwareTime} {age : Int} : isStale t now age = .ok false ↔
    t.instant ≤ now.instant ∧ age * 1000000 ≤ now.wall ∧
      now.instant - age * 1000000 ≤ t.instant := by
  unfold isStale AwareTime.secondsBefore
  by_cases hfuture : now.instant < t.instant
  · simp only [hfuture,if_true,Except.ok.injEq,Bool.true_eq_false,false_iff]
    omega
  · by_cases hclock : (now.wall : Int) < age * 1000000
    · simp only [hfuture,hclock,if_false,if_true,Except.map,reduceCtorEq,false_iff]
      omega
    · simp only [hfuture,hclock,if_false,Except.map,Except.ok.injEq,decide_eq_false_iff_not]
      omega

/-- Where all rules pass, the three facts are fresh. -/
theorem stale_of_passes {stale : Staleness}
    (h : Passes (riskRules intent snapshot policy now stale)) : stale = ⟨false,false,false⟩ := by
  simp only [riskRules,passes_append] at h
  obtain ⟨⟨⟨⟨⟨⟨-,haccount⟩,-⟩,-⟩,hstrategy⟩,hfact⟩,-⟩ := h
  simp only [accountIdentityRules,strategyRules,orderFactRules,passes_cons,reject_violated]
    at haccount hstrategy hfact
  cases stale
  simp only [Staleness.mk.injEq]
  exact ⟨haccount.2.1,hstrategy.2.1,hfact.2.2.1⟩

theorem staleness_eq_ok {stale : Staleness} : staleness snapshot policy now = .ok stale ↔
    isStale snapshot.account.observedAt now policy.accountMaxAgeSeconds = .ok stale.account ∧
      isStale snapshot.strategy.heartbeatAt now policy.strategyMaxAgeSeconds =
        .ok stale.strategy ∧
      isStale snapshot.security.observedAt now policy.marketMaxAgeSeconds = .ok stale.security := by
  simp only [staleness,bind_eq_ok,pure,Except.pure,Except.ok.injEq]
  constructor
  · rintro ⟨account,haccount,strategy,hstrategy,security,hsecurity,rfl⟩
    exact ⟨haccount,hstrategy,hsecurity⟩
  · rintro ⟨haccount,hstrategy,hsecurity⟩
    exact ⟨_,haccount,_,hstrategy,_,hsecurity,rfl⟩

end

/-- A trading afternoon in Shanghai. -/
def sampleNow : AwareTime := ⟨63918000000000000,28800000000,by decide,by decide⟩

def sampleOrder : OrderIntent where
  strategyId := "manual"
  strategyVersion := "1"
  accountFingerprint := "account-1"
  symbol := "600000.SH"
  side := .buy
  quantity := 200
  limitPrice := 10
  expiresAt := ⟨63918000060000000,28800000000,by decide,by decide⟩
  checked := by decide +kernel

def sampleStrategyPolicy : StrategyPolicy where
  strategyId := "manual"
  allowedVersions := {"1"}
  allowedSymbols := {"600000.SH"}
  maxGrossExposure := 100000
  maxDailyTurnover := 100000
  maxPositionCount := 5
  checked := by decide +kernel

def samplePolicy : RiskPolicy where
  ruleVersion := "p2-1"
  expectedAccountFingerprint := "account-1"
  permittedExecutionModes := {.simulation}
  requireQmtHealthy := true
  accountMaxAgeSeconds := 60
  strategyMaxAgeSeconds := 60
  marketMaxAgeSeconds := 60
  minCashBuffer := 1000
  feeBufferRate := 1 / 1000
  maxAccountGrossExposure := 100000
  maxDailyLossAbs := 1000
  maxDailyTurnover := 100000
  maxDailyOrders := 10
  maxDailyCancels := 10
  maxOrderNotional := 10000
  maxSecurityGrossExposure := 50000
  maxPriceDeviationRate := 1 / 20
  strategy := sampleStrategyPolicy
  checked := by decide +kernel

def sampleAccount : AccountRiskSnapshot where
  accountFingerprint := "account-1"
  availableCash := 50000
  grossExposure := 20000
  dailyPnl := 0
  dailyTurnover := 0
  dailyOrderCount := 0
  dailyCancelCount := 0
  observedAt := sampleNow
  checked := by decide +kernel

def sampleStrategy : StrategyRiskSnapshot where
  strategyId := "manual"
  strategyVersion := "1"
  grossExposure := 10000
  securityGrossExposure := 0
  dailyTurnover := 0
  positionCount := 1
  heartbeatAt := sampleNow
  checked := by decide +kernel

def sampleSecurity : SecurityRiskSnapshot where
  symbol := "600000.SH"
  tickSize := 1 / 100
  lowerPriceLimit := 9
  upperPriceLimit := 11
  referencePrice := 10
  buyLotSize := 100
  sellLotSize := 1
  sellableQuantity := 0
  grossExposure := 0
  observedAt := sampleNow
  checked := by decide +kernel

def sampleRiskSnapshot : RiskSnapshot where
  mode := .simulation
  databaseHealthy := true
  omsHealthy := true
  leaderHeld := true
  reconciliationComplete := true
  qmtHealthy := true
  marketOpen := true
  globalAmbiguityBlock := false
  blockedSymbols := ∅
  account := sampleAccount
  strategy := sampleStrategy
  security := sampleSecurity
  checked := by decide +kernel

example : accepts sampleOrder sampleRiskSnapshot samplePolicy sampleNow = true := by decide +kernel

end BigQmt.Risk
