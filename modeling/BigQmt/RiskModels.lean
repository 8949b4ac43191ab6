import Mathlib.Algebra.Order.Ring.Rat
import Mathlib.Data.Finset.Basic
import Mathlib.Tactic.Linarith
import BigQmt.Checklist
import BigQmt.Operations
set_option autoImplicit false

/-!
The inputs and results of the risk engine: `risk/models.py`, and what the engine reads of an
`OrderIntent`. A `Decimal` is its exact value; each object carries that its `__post_init__`
has returned.
-/

namespace BigQmt.Risk

/-- The exceptions of the risk package and of the services it is fed by. -/
inductive RiskError where
  | valueError (message : String)
  | overflowError (message : String)
  | dailyRiskSnapshotUnavailable (message : String)
  | runtimeRiskUnavailable (message : String)
  | strategyUnavailable (message : String)
  | strategyIdentityMismatch (message : String)
  | strategyStale (message : String)
  | marketDataUnavailable (message : String)
  | marketDataStale (message : String)
  | externalOrderFactConflict (message : String)
  deriving DecidableEq, Repr

/-- An aware `datetime` in a fixed zone: the microseconds its own clock shows since the start
of year 1, and its UTC offset. The clock ends with year 9999. -/
structure AwareTime where
  wall : Nat
  offset : Int
  wall_lt : wall < 315537897600000000
  offset_lt : offset.natAbs < 86400000000
  deriving DecidableEq

namespace AwareTime

/-- The instant that aware times are compared by. -/
def instant (t : AwareTime) : Int := t.wall - t.offset

/-- `now - timedelta(seconds=age)`, as an instant; there is no time before year 1. -/
def secondsBefore (now : AwareTime) (age : Int) : Except RiskError Int :=
  if (now.wall : Int) < age * 1000000 then .error (.overflowError "date value out of range")
  else .ok (now.instant - age * 1000000)

/-- `astimezone(timezone.utc)` has a result. -/
def hasUtc (t : AwareTime) : Bool := 0 ≤ t.instant && t.instant < 315537897600000000

end AwareTime

/-- One check of a `__post_init__`. -/
def require (p : Bool) (message : String) : Except RiskError Unit :=
  if p then .ok () else .error (.valueError message)

theorem require_eq_ok {p : Bool} {message : String} {u : Unit} :
    require p message = .ok u ↔ p = true := by
  cases p <;> simp [require]

theorem bind_eq_ok {ε α β : Type} {x : Except ε α} {f : α → Except ε β} {b : β} :
    (x >>= f) = .ok b ↔ ∃ a, x = .ok a ∧ f a = .ok b := by
  cases x with
  | error e => simp [bind,Except.bind]
  | ok a => simp [bind,Except.bind]

def requireNonempty (name value : String) : Except RiskError Unit :=
  require (nonblank value) (name ++ " must be a non-empty string")

def requireDecimal (name : String) (value : ℚ) : Except RiskError Unit :=
  require (0 ≤ value) (name ++ " must be finite and >= 0")

def requirePositiveDecimal (name : String) (value : ℚ) : Except RiskError Unit := do
  requireDecimal name value
  require (0 < value) (name ++ " must be > 0")

def requireNonnegativeInt (name : String) (value : Int) : Except RiskError Unit :=
  require (0 ≤ value) (name ++ " must be a non-negative integer")

def requirePositiveInt (name : String) (value : Int) : Except RiskError Unit :=
  require (0 < value) (name ++ " must be a positive integer")

/-- `_require_nonempty` on the items of a frozenset. -/
def requireItems (name : String) (values : Finset String) : Except RiskError Unit :=
  require (∀ v ∈ values, nonblank v = true) (name ++ " item must be a non-empty string")

section
variable {name value : String} {x : ℚ} {n : Int} {values : Finset String} {u : Unit}

@[simp] theorem requireNonempty_eq_ok :
    requireNonempty name value = .ok u ↔ nonblank value = true := require_eq_ok

@[simp] theorem requireDecimal_eq_ok : requireDecimal name x = .ok u ↔ 0 ≤ x := by
  simp [requireDecimal,require_eq_ok]

@[simp] theorem requirePositiveDecimal_eq_ok :
    requirePositiveDecimal name x = .ok u ↔ 0 < x := by
  simp only [requirePositiveDecimal,bind_eq_ok,requireDecimal_eq_ok,require_eq_ok,
    decide_eq_true_eq]
  constructor
  · rintro ⟨-,-,h⟩
    exact h
  · intro h
    exact ⟨(),le_of_lt h,h⟩

@[simp] theorem requireNonnegativeInt_eq_ok : requireNonnegativeInt name n = .ok u ↔ 0 ≤ n := by
  simp [requireNonnegativeInt,require_eq_ok]

@[simp] theorem requirePositiveInt_eq_ok : requirePositiveInt name n = .ok u ↔ 0 < n := by
  simp [requirePositiveInt,require_eq_ok]

@[simp] theorem requireItems_eq_ok :
    requireItems name values = .ok u ↔ ∀ v ∈ values, nonblank v = true := by
  simp [requireItems,require_eq_ok]

end

/-- The fields of an `OrderIntent` that `evaluate_risk` reads. -/
structure OrderIntentFields where
  strategyId : String
  strategyVersion : String
  accountFingerprint : String
  symbol : String
  side : Side
  quantity : Int
  limitPrice : ℚ
  expiresAt : AwareTime
  deriving DecidableEq

def OrderIntentFields.postInit (f : OrderIntentFields) : Except RiskError Unit := do
  requireNonempty "strategy_id" f.strategyId
  requireNonempty "strategy_version" f.strategyVersion
  requireNonempty "account_fingerprint" f.accountFingerprint
  requireNonempty "symbol" f.symbol
  requirePositiveInt "quantity" f.quantity
  require (0 < f.limitPrice) "limit_price must be finite and > 0"

structure OrderIntent extends OrderIntentFields where
  checked : toOrderIntentFields.postInit = .ok ()

def OrderIntent.isExpired (intent : OrderIntent) (now : AwareTime) : Bool :=
  intent.expiresAt.instant ≤ now.instant

structure StrategyPolicyFields where
  strategyId : String
  allowedVersions : Finset String
  allowedSymbols : Finset String
  maxGrossExposure : ℚ
  maxDailyTurnover : ℚ
  maxPositionCount : Int
  deriving DecidableEq

def StrategyPolicyFields.postInit (f : StrategyPolicyFields) : Except RiskError Unit := do
  requireNonempty "strategy_id" f.strategyId
  require (f.allowedVersions ≠ ∅) "allowed_versions must be a non-empty frozenset"
  require (f.allowedSymbols ≠ ∅) "allowed_symbols must be a non-empty frozenset"
  requireItems "allowed_versions" f.allowedVersions
  requireItems "allowed_symbols" f.allowedSymbols
  requireDecimal "max_gross_exposure" f.maxGrossExposure
  requireDecimal "max_daily_turnover" f.maxDailyTurnover
  requireNonnegativeInt "max_position_count" f.maxPositionCount

structure StrategyPolicy extends StrategyPolicyFields where
  checked : toStrategyPolicyFields.postInit = .ok ()
  deriving DecidableEq

structure RiskPolicyFields where
  ruleVersion : String
  expectedAccountFingerprint : String
  permittedExecutionModes : Finset RuntimeMode
  requireQmtHealthy : Bool
  accountMaxAgeSeconds : Int
  strategyMaxAgeSeconds : Int
  marketMaxAgeSeconds : Int
  minCashBuffer : ℚ
  feeBufferRate : ℚ
  maxAccountGrossExposure : ℚ
  maxDailyLossAbs : ℚ
  maxDailyTurnover : ℚ
  maxDailyOrders : Int
  maxDailyCancels : Int
  maxOrderNotional : ℚ
  maxSecurityGrossExposure : ℚ
  maxPriceDeviationRate : ℚ
  strategy : StrategyPolicy
  deriving DecidableEq

def RiskPolicyFields.postInit (f : RiskPolicyFields) : Except RiskError Unit := do
  requireNonempty "rule_version" f.ruleVersion
  requireNonempty "expected_account_fingerprint" f.expectedAccountFingerprint
  require (f.permittedExecutionModes ≠ ∅) "permitted_execution_modes must be a non-empty frozenset"
  require (f.permittedExecutionModes = {.simulation})
    "P2 policy may permit SIMULATION only; live modes require a later phase gate"
  requirePositiveInt "account_max_age_seconds" f.accountMaxAgeSeconds
  requirePositiveInt "strategy_max_age_seconds" f.strategyMaxAgeSeconds
  requirePositiveInt "market_max_age_seconds" f.marketMaxAgeSeconds
  requireDecimal "min_cash_buffer" f.minCashBuffer
  requireDecimal "fee_buffer_rate" f.feeBufferRate
  requireDecimal "max_account_gross_exposure" f.maxAccountGrossExposure
  requireDecimal "max_daily_loss_abs" f.maxDailyLossAbs
  requireDecimal "max_daily_turnover" f.maxDailyTurnover
  requireDecimal "max_order_notional" f.maxOrderNotional
  requireDecimal "max_security_gross_exposure" f.maxSecurityGrossExposure
  requireDecimal "max_price_deviation_rate" f.maxPriceDeviationRate
  require (f.feeBufferRate < 1) "fee_buffer_rate must be < 1"
  require (f.maxPriceDeviationRate < 1) "max_price_deviation_rate must be < 1"
  requireNonnegativeInt "max_daily_orders" f.maxDailyOrders
  requireNonnegativeInt "max_daily_cancels" f.maxDailyCancels

structure RiskPolicy extends RiskPolicyFields where
  checked : toRiskPolicyFields.postInit = .ok ()

structure AccountRiskFields where
  accountFingerprint : String
  availableCash : ℚ
  grossExposure : ℚ
  dailyPnl : ℚ
  dailyTurnover : ℚ
  dailyOrderCount : Int
  dailyCancelCount : Int
  observedAt : AwareTime
  deriving DecidableEq

def AccountRiskFields.postInit (f : AccountRiskFields) : Except RiskError Unit := do
  requireNonempty "account_fingerprint" f.accountFingerprint
  requireDecimal "available_cash" f.availableCash
  requireDecimal "gross_exposure" f.grossExposure
  requireDecimal "daily_turnover" f.dailyTurnover
  requireNonnegativeInt "daily_order_count" f.dailyOrderCount
  requireNonnegativeInt "daily_cancel_count" f.dailyCancelCount

structure AccountRiskSnapshot extends AccountRiskFields where
  checked : toAccountRiskFields.postInit = .ok ()

structure StrategyRiskFields where
  strategyId : String
  strategyVersion : String
  grossExposure : ℚ
  securityGrossExposure : ℚ
  dailyTurnover : ℚ
  positionCount : Int
  heartbeatAt : AwareTime
  deriving DecidableEq

def StrategyRiskFields.postInit (f : StrategyRiskFields) : Except RiskError Unit := do
  requireNonempty "strategy_id" f.strategyId
  requireNonempty "strategy_version" f.strategyVersion
  requireDecimal "gross_exposure" f.grossExposure
  requireDecimal "security_gross_exposure" f.securityGrossExposure
  require (f.securityGrossExposure ≤ f.grossExposure)
    "security_gross_exposure cannot exceed strategy gross_exposure"
  requireDecimal "daily_turnover" f.dailyTurnover
  requireNonnegativeInt "position_count" f.positionCount

structure StrategyRiskSnapshot extends StrategyRiskFields where
  checked : toStrategyRiskFields.postInit = .ok ()

structure SecurityRiskFields where
  symbol : String
  tickSize : ℚ
  lowerPriceLimit : ℚ
  upperPriceLimit : ℚ
  referencePrice : ℚ
  buyLotSize : Int
  sellLotSize : Int
  sellableQuantity : Int
  grossExposure : ℚ
  observedAt : AwareTime
  deriving DecidableEq

def SecurityRiskFields.postInit (f : SecurityRiskFields) : Except RiskError Unit := do
  requireNonempty "symbol" f.symbol
  requirePositiveDecimal "tick_size" f.tickSize
  requirePositiveDecimal "lower_price_limit" f.lowerPriceLimit
  requirePositiveDecimal "upper_price_limit" f.upperPriceLimit
  requirePositiveDecimal "reference_price" f.referencePrice
  require (f.lowerPriceLimit ≤ f.upperPriceLimit) "upper_price_limit must be >= lower_price_limit"
  requirePositiveInt "buy_lot_size" f.buyLotSize
  requirePositiveInt "sell_lot_size" f.sellLotSize
  requireNonnegativeInt "sellable_quantity" f.sellableQuantity
  requireDecimal "gross_exposure" f.grossExposure

structure SecurityRiskSnapshot extends SecurityRiskFields where
  checked : toSecurityRiskFields.postInit = .ok ()

structure RiskSnapshotFields where
  mode : RuntimeMode
  databaseHealthy : Bool
  omsHealthy : Bool
  leaderHeld : Bool
  reconciliationComplete : Bool
  qmtHealthy : Bool
  marketOpen : Bool
  globalAmbiguityBlock : Bool
  blockedSymbols : Finset String
  account : AccountRiskSnapshot
  strategy : StrategyRiskSnapshot
  security : SecurityRiskSnapshot

def RiskSnapshotFields.postInit (f : RiskSnapshotFields) : Except RiskError Unit :=
  requireItems "blocked_symbols" f.blockedSymbols

structure RiskSnapshot extends RiskSnapshotFields where
  checked : toRiskSnapshotFields.postInit = .ok ()

inductive RiskLevel where
  | global | account | strategy | order
  deriving DecidableEq, Repr

structure RiskFinding where
  level : RiskLevel
  ruleId : String
  reasonCode : RiskReasonCode
  message : String
  deriving DecidableEq, Repr

/-- A decision; the hash of a snapshot is told by the snapshot it was taken of. -/
structure RiskDecision where
  accepted : Bool
  reasonCode : RiskReasonCode
  ruleVersion : String
  snapshotHash : RiskSnapshot
  decidedAt : AwareTime

structure RiskEvaluation where
  decision : RiskDecision
  findings : List RiskFinding

end BigQmt.Risk
