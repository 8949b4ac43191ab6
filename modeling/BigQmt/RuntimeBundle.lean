import BigQmt.Admission
import BigQmt.HealthOrder
import BigQmt.HealthSync
import BigQmt.RiskRuntime
import BigQmt.Supervisor
set_option autoImplicit false

/-!
The runtime services together: `strategy_api/runtime.py`, `market_data/service.py`, the
refreshes of `service/health_sync.py` and `service/coordinator.py`, over the operations
of one process.
-/

namespace BigQmt.Risk

/-- Microseconds since 1970, as the operations count them. -/
def AwareTime.micros (t : AwareTime) : Int := t.instant - 62135596800000000

inductive QuoteUpdateResult where
  | applied | duplicate | staleIgnored
  deriving DecidableEq, Repr

/-- `MarketDataService.ingest`, on the quotes by symbol. -/
def ingestQuote (quotes : List MarketQuote) (quote : MarketQuote) :
    QuoteUpdateResult × List MarketQuote :=
  match Keyed.find MarketQuote.symbol quote.symbol quotes with
  | none => (.applied,Keyed.put MarketQuote.symbol quote quotes)
  | some previous =>
    if quote.brokerTime.instant < previous.brokerTime.instant then (.staleIgnored,quotes)
    else if quote.brokerTime.instant = previous.brokerTime.instant then
      if quote.lastPrice = previous.lastPrice then (.duplicate,quotes)
      -- one broker time with two prices: the first that was admitted stays
      else (.staleIgnored,quotes)
    else (.applied,Keyed.put MarketQuote.symbol quote quotes)

inductive HeartbeatUpdateResult where
  | applied | duplicate | staleIgnored
  deriving DecidableEq, Repr

/-- The arguments of `StrategyHeartbeat`, with those that only its ingest reads. -/
structure HeartbeatFields extends StrategyHeartbeat where
  sessionId : String
  sequence : Int
  deriving DecidableEq

def HeartbeatFields.postInit (f : HeartbeatFields) : Except RiskError Unit := do
  requireNonempty "strategy_id" f.strategyId
  requireNonempty "strategy_version" f.strategyVersion
  requireNonempty "session_id" f.sessionId
  requirePositiveInt "sequence" f.sequence

structure LiveHeartbeat extends HeartbeatFields where
  checked : toHeartbeatFields.postInit = .ok ()

/-- `==` of two heartbeats: aware times are compared by their instants. -/
def LiveHeartbeat.same (a b : LiveHeartbeat) : Bool :=
  a.strategyId = b.strategyId && a.strategyVersion = b.strategyVersion &&
    a.sessionId = b.sessionId && a.sequence = b.sequence &&
    a.observedAt.instant = b.observedAt.instant

/-- `StrategyRuntimeService.ingest_heartbeat`, on the heartbeats by strategy. -/
def ingestHeartbeat (heartbeats : List LiveHeartbeat) (heartbeat : LiveHeartbeat) :
    HeartbeatUpdateResult × List LiveHeartbeat :=
  let key : LiveHeartbeat → String := fun h => h.strategyId
  match Keyed.find key heartbeat.strategyId heartbeats with
  | none => (.applied,Keyed.put key heartbeat heartbeats)
  | some previous =>
    if heartbeat.sessionId = previous.sessionId then
      if heartbeat.sequence < previous.sequence then (.staleIgnored,heartbeats)
      else if heartbeat.sequence = previous.sequence then
        if heartbeat.same previous then (.duplicate,heartbeats) else (.staleIgnored,heartbeats)
      else if heartbeat.observedAt.instant < previous.observedAt.instant then
        (.staleIgnored,heartbeats)
      else (.applied,Keyed.put key heartbeat heartbeats)
    -- sequence numbers are local to a session: another one has to be strictly newer
    else if heartbeat.observedAt.instant ≤ previous.observedAt.instant then
      (.staleIgnored,heartbeats)
    else (.applied,Keyed.put key heartbeat heartbeats)

structure StrategyHealthRequirement where
  strategyId : String
  strategyVersion : String
  deriving DecidableEq, Repr

/-- What one process holds: the operations and the services that the risk snapshot is
assembled from. -/
structure RuntimeBundle where
  operations : RuntimeServices
  quotes : List MarketQuote
  heartbeats : List LiveHeartbeat
  dailyRisk : DailyRiskLedger

/-- What `bootstrap_runtime_services` is configured with. -/
structure BundleConfig where
  policy : RiskPolicy
  requiredSymbols : List String
  requiredStrategies : List StrategyHealthRequirement

namespace RuntimeBundle

/-- `type(exc).__name__` of the exceptions that a refresh takes note of. -/
def caughtName : RiskError → Option String
  | .marketDataUnavailable _ => some "MarketDataUnavailable"
  | .marketDataStale _ => some "MarketDataStale"
  | .strategyUnavailable _ => some "StrategyUnavailable"
  | .strategyIdentityMismatch _ => some "StrategyIdentityMismatch"
  | .strategyStale _ => some "StrategyStale"
  | _ => none

/-- The loop over the requirements: what each of them lacks, or the exception that is not
caught. -/
def failures {ι : Type} (name : ι → String) (probe : ι → Except RiskError Unit) :
    List ι → Except RiskError (List String)
  | [] => .ok []
  | i :: rest =>
    match probe i with
    | .ok () => failures name probe rest
    | .error e =>
      match caughtName e with
      | none => .error e
      | some exception =>
        (failures name probe rest).map fun found => (name i ++ ":" ++ exception) :: found

/-- One refresh: the component is healthy when no requirement fails. -/
def refreshed (b : RuntimeBundle) (component : HealthComponent) (now : AwareTime)
    (found : List String) : RuntimeBundle :=
  { b with operations := { b.operations with health :=
    (b.operations.health.observe
      ⟨component,found.isEmpty,now.micros,String.intercalate "," found⟩).2 } }

def quoteFresh (b : RuntimeBundle) (cfg : BundleConfig) (now : AwareTime) (symbol : String) :
    Except RiskError Unit :=
  (latest b.quotes symbol now cfg.policy.marketMaxAgeSeconds).map fun _ => ()

/-- `RuntimeHealthSynchronizer.refresh_market_data`. -/
def refreshMarketData (b : RuntimeBundle) (cfg : BundleConfig) (now : AwareTime) :
    Except RiskError RuntimeBundle := do
  let found ← failures id (b.quoteFresh cfg now) cfg.requiredSymbols
  return b.refreshed .marketData now found

def strategyFresh (b : RuntimeBundle) (cfg : BundleConfig) (now : AwareTime)
    (required : StrategyHealthRequirement) : Except RiskError Unit :=
  (requireFresh (b.heartbeats.map fun h => h.toStrategyHeartbeat) required.strategyId
    required.strategyVersion now cfg.policy.strategyMaxAgeSeconds).map fun _ => ()

/-- `RuntimeHealthSynchronizer.refresh_strategies`. -/
def refreshStrategies (b : RuntimeBundle) (cfg : BundleConfig) (now : AwareTime) :
    Except RiskError RuntimeBundle := do
  let found ← failures StrategyHealthRequirement.strategyId (b.strategyFresh cfg now)
    cfg.requiredStrategies
  return b.refreshed .strategy now found

/-- The services that `RuntimeRiskAssembler` reads. -/
def assembler (b : RuntimeBundle) : RuntimeRiskAssembler :=
  ⟨b.quotes,b.dailyRisk,b.heartbeats.map fun h => h.toStrategyHeartbeat⟩

end RuntimeBundle

inductive RuntimeError where
  | operations (e : OperationsError)
  | risk (e : RiskError)
  deriving DecidableEq

structure RuntimeIntentEvaluation where
  operations : OperationsStatus
  snapshot : RiskSnapshot
  risk : RiskEvaluation

/-- The arguments of `evaluate_intent`; mode and health come from the operations. -/
structure IntentFacts where
  tradingDate : String
  marketOpen : Bool
  globalAmbiguityBlock : Bool
  blockedSymbols : Finset String
  externalOrders : ExternalOrderRiskSummary
  account : AccountState
  strategy : StrategyState
  security : SecurityRiskReference

def IntentFacts.under (facts : IntentFacts) (status : OperationsStatus) : RuntimeFacts where
  tradingDate := facts.tradingDate
  mode := status.mode
  health := status.health
  marketOpen := facts.marketOpen
  globalAmbiguityBlock := facts.globalAmbiguityBlock
  blockedSymbols := facts.blockedSymbols
  account := facts.account
  strategy := facts.strategy
  security := facts.security

/-- `OperationsControl.status`, which reads only. -/
def RuntimeBundle.status (b : RuntimeBundle) (now : AwareTime) :
    Except OperationsError OperationsStatus :=
  match OperationsControl.status now.micros b.operations.healthMaxAgeSeconds b.operations with
  | .ok status _ => .ok status
  | .error e _ => .error e

/-- `ExecutionRuntimeCoordinator.evaluate_intent`. -/
def RuntimeBundle.evaluateIntent (b : RuntimeBundle) (cfg : BundleConfig) (intent : OrderIntent)
    (facts : IntentFacts) (now : AwareTime) : Except RuntimeError RuntimeIntentEvaluation := do
  let status ← (b.status now).mapError .operations
  let snapshot ← (b.assembler.build cfg.policy now (facts.under status) facts.externalOrders).mapError
    .risk
  let risk ← (evaluateRisk intent snapshot cfg.policy now).mapError .risk
  return ⟨status,snapshot,risk⟩

/-- A call into the services of one process. -/
inductive BundleCall where
  | operations (disk : Disk) (call : OperationsCall)
  | observeIngress (result : IngressResult)
  | ingestQuote (quote : MarketQuote)
  | clearQuotes
  | ingestHeartbeat (heartbeat : LiveHeartbeat)
  | clearHeartbeats
  | refreshMarketData (now : AwareTime)
  | refreshStrategies (now : AwareTime)
  | record (ledger : DailyRiskLedger)

/-- What a call leaves, whether it returns or raises. -/
def BundleCall.leaves (cfg : BundleConfig) (b : RuntimeBundle) : BundleCall → RuntimeBundle
  | .operations disk call => { b with operations := call.leaves disk b.operations }
  | .observeIngress result =>
    { b with operations := { b.operations with
      health := (b.operations.health.observeQmtIngress result).2 } }
  | .ingestQuote quote => { b with quotes := (Risk.ingestQuote b.quotes quote).2 }
  | .clearQuotes => { b with quotes := [] }
  | .ingestHeartbeat heartbeat =>
    { b with heartbeats := (Risk.ingestHeartbeat b.heartbeats heartbeat).2 }
  | .clearHeartbeats => { b with heartbeats := [] }
  | .refreshMarketData now => (b.refreshMarketData cfg now).toOption.getD b
  | .refreshStrategies now => (b.refreshStrategies cfg now).toOption.getD b
  | .record ledger => { b with dailyRisk := ledger }

/-- The services after the calls. -/
def RuntimeBundle.after (cfg : BundleConfig) (b : RuntimeBundle) (calls : List BundleCall) :
    RuntimeBundle := calls.foldl (BundleCall.leaves cfg) b

end BigQmt.Risk
