import BigQmt.FreshFacts
import BigQmt.RiskTightening
set_option autoImplicit false

/-!
What a process that was bootstrapped rests its decisions on: an accepted intent on what the
services were told in this process and is not too old, and readiness for mutation on
observations of every component, each with its origin.
-/

namespace BigQmt.Risk

open Checklist

/-- Not later than `now`, and not older than the age. -/
def Within (now : AwareTime) (ageSeconds : Int) (t : AwareTime) : Prop :=
  t.instant ≤ now.instant ∧ now.instant - t.instant ≤ ageSeconds * 1000000

theorem duration_eq_ok {age maxAge : Int} (h : duration age = .ok maxAge) :
    maxAge = age * 1000000 := by
  unfold duration at h
  split at h
  · cases h
  · cases h
    rfl

theorem latest_within {quotes : List MarketQuote} {symbol : String} {now : AwareTime} {age : Int}
    {quote : MarketQuote} (h : latest quotes symbol now age = .ok quote) :
    Keyed.find MarketQuote.symbol symbol quotes = some quote ∧
      Within now age quote.brokerTime ∧ Within now age quote.observedAt := by
  simp only [latest,bind_eq_ok] at h
  obtain ⟨-,-,-,-,h⟩ := h
  cases hfind : quotes.find? (fun quote => quote.symbol = symbol) with
  | none => simp [hfind] at h
  | some found =>
    simp only [hfind] at h
    split at h
    · cases h
    · rename_i hbroker
      split at h
      · cases h
      · rename_i hlocal
        simp only [bind_eq_ok] at h
        obtain ⟨maxAge,hmaxAge,h⟩ := h
        split at h
        · cases h
        · rename_i hbrokerAge
          split at h
          · cases h
          · rename_i hlocalAge
            cases h
            cases duration_eq_ok hmaxAge
            exact ⟨hfind,⟨by omega,by omega⟩,⟨by omega,by omega⟩⟩

theorem find_heartbeat (heartbeats : List LiveHeartbeat) (strategyId : String) :
    (heartbeats.map fun h => h.toStrategyHeartbeat).find?
        (fun heartbeat => heartbeat.strategyId = strategyId) =
      (Keyed.find (fun h : LiveHeartbeat => h.strategyId) strategyId heartbeats).map
        fun h => h.toStrategyHeartbeat := by
  rw [List.find?_map]
  rfl

theorem requireFresh_within {heartbeats : List LiveHeartbeat} {strategyId strategyVersion : String}
    {now : AwareTime} {age : Int} {heartbeat : StrategyHeartbeat}
    (h : requireFresh (heartbeats.map fun h => h.toStrategyHeartbeat) strategyId strategyVersion now
      age = .ok heartbeat) :
    ∃ live : LiveHeartbeat, heartbeat = live.toStrategyHeartbeat ∧
      Keyed.find (fun h : LiveHeartbeat => h.strategyId) strategyId heartbeats = some live ∧
      live.strategyVersion = strategyVersion ∧ Within now age live.observedAt := by
  simp only [requireFresh,bind_eq_ok] at h
  obtain ⟨-,-,-,-,-,-,h⟩ := h
  rw [find_heartbeat] at h
  cases hfind : Keyed.find (fun h : LiveHeartbeat => h.strategyId) strategyId heartbeats with
  | none =>
    rw [hfind] at h
    cases h
  | some live =>
    simp only [hfind,Option.map_some] at h
    split at h
    · cases h
    · rename_i hversion
      split at h
      · cases h
      · rename_i hfuture
        simp only [bind_eq_ok] at h
        obtain ⟨maxAge,hmaxAge,h⟩ := h
        split at h
        · cases h
        · rename_i hage
          cases h
          cases duration_eq_ok hmaxAge
          exact ⟨live,rfl,rfl,not_not.mp hversion,by omega,by omega⟩

/-- The quote is the first of the latest that were told of the symbol, and timely. -/
structure QuoteStands (calls : List BundleCall) (symbol : String) (now : AwareTime) (age : Int)
    (quote : MarketQuote) : Prop where
  first : Admission.FirstOfLatest (fun q : MarketQuote => q.brokerTime.instant)
    ((quotesTold calls).filter fun q => q.symbol = symbol) quote
  broker : Within now age quote.brokerTime
  observed : Within now age quote.observedAt

/-- The heartbeat was told of the strategy and of this version, nothing newer followed it, and
it is timely. -/
structure HeartbeatStands (calls : List BundleCall) (strategyId strategyVersion : String)
    (now : AwareTime) (age : Int) (heartbeat : LiveHeartbeat) : Prop where
  holds : Admission.Holds newerHeartbeat
    ((heartbeatsTold calls).filter fun h => h.strategyId = strategyId) heartbeat
  version : heartbeat.strategyVersion = strategyVersion
  observed : Within now age heartbeat.observedAt

section
variable {cfg : BundleConfig} {b : RuntimeBundle} {calls : List BundleCall}

theorem Remembers.latest (h : Remembers cfg b calls) {symbol : String} {now : AwareTime} {age : Int}
    {quote : MarketQuote}
    (hq : Risk.latest (b.after cfg calls).quotes symbol now age = .ok quote) :
    QuoteStands calls symbol now age quote := by
  obtain ⟨hfind,hbroker,hobserved⟩ := latest_within hq
  rw [h.quotes,Admission.find_foldl] at hfind
  refine ⟨Admission.firstOfLatest_foldl (fun a b => ?_) hfind,hbroker,hobserved⟩
  simp [newerQuote]

theorem Remembers.requireFresh (h : Remembers cfg b calls) {strategyId strategyVersion : String}
    {now : AwareTime} {age : Int} {heartbeat : StrategyHeartbeat}
    (hfresh : Risk.requireFresh ((b.after cfg calls).heartbeats.map fun h => h.toStrategyHeartbeat)
      strategyId strategyVersion now age = .ok heartbeat) :
    ∃ live : LiveHeartbeat, heartbeat = live.toStrategyHeartbeat ∧
      HeartbeatStands calls strategyId strategyVersion now age live := by
  obtain ⟨live,hlive,hfind,hversion,hwithin⟩ := requireFresh_within hfresh
  rw [h.heartbeats,Admission.find_foldl] at hfind
  exact ⟨live,hlive,Admission.holds_foldl hfind,hversion,hwithin⟩

/-- What a healthy observation comes from: someone outside reports it, the ingress buffer accepted
an event, or a refresh found every requirement met by what had been told until then. -/
inductive Origin (cfg : BundleConfig) (calls : List BundleCall) : HealthObservation → Prop
  | reported (disk : Disk) (o : HealthObservation)
      (hcall : .operations disk (.observe o) ∈ calls) : Origin cfg calls o
  | ingress (result : IngressResult) (o : HealthObservation)
      (hcall : .observeIngress result ∈ calls) (ho : o ∈ ingressObservations result) :
      Origin cfg calls o
  | marketData (before after : List BundleCall) (now : AwareTime)
      (hcalls : calls = before ++ .refreshMarketData now :: after)
      (hfresh : ∀ symbol ∈ cfg.requiredSymbols,
        ∃ q, QuoteStands before symbol now cfg.policy.marketMaxAgeSeconds q) :
      Origin cfg calls ⟨.marketData,true,now.micros,""⟩
  | strategy (before after : List BundleCall) (now : AwareTime)
      (hcalls : calls = before ++ .refreshStrategies now :: after)
      (hfresh : ∀ required ∈ cfg.requiredStrategies, ∃ h, HeartbeatStands before
        required.strategyId required.strategyVersion now cfg.policy.strategyMaxAgeSeconds h) :
      Origin cfg calls ⟨.strategy,true,now.micros,""⟩

theorem Origin.snoc {o : HealthObservation} (h : Origin cfg calls o) (c : BundleCall) :
    Origin cfg (calls ++ [c]) o := by
  cases h with
  | reported disk o hcall => exact .reported disk o (List.mem_append_left _ hcall)
  | ingress result o hcall ho => exact .ingress result o (List.mem_append_left _ hcall) ho
  | marketData before after now hcalls hfresh =>
    exact .marketData before (after ++ [c]) now (by simp [hcalls]) hfresh
  | strategy before after now hcalls hfresh =>
    exact .strategy before (after ++ [c]) now (by simp [hcalls]) hfresh

theorem failures_eq_nil {ι : Type} {name : ι → String} {probe : ι → Except RiskError Unit}
    {l : List ι} (h : RuntimeBundle.failures name probe l = .ok []) :
    ∀ i ∈ l, probe i = .ok () := by
  induction l with
  | nil => simp
  | cons i l ih =>
    simp only [RuntimeBundle.failures] at h
    cases hprobe : probe i with
    | ok u =>
      simp only [hprobe] at h
      intro j hj
      rcases List.mem_cons.mp hj with rfl | hj
      · exact hprobe
      · exact ih h j hj
    | error e =>
      simp only [hprobe] at h
      cases hname : RuntimeBundle.caughtName e with
      | none => simp [hname] at h
      | some exception =>
        simp only [hname] at h
        cases hrest : RuntimeBundle.failures name probe l <;> simp [hrest,Except.map] at h

theorem probe_ok {α : Type} {x : Except RiskError α} (h : (x.map fun _ => ()) = .ok ()) :
    ∃ a, x = .ok a := by
  cases x with
  | error e => cases h
  | ok a => exact ⟨a,rfl⟩

/-- A healthy observation of a refresh. -/
theorem refreshObservations_healthy {component : HealthComponent} {now : AwareTime}
    {found : Except RiskError (List String)} {o : HealthObservation}
    (ho : o ∈ refreshObservations component now found) (hhealthy : o.healthy = true) :
    found = .ok [] ∧ o = ⟨component,true,now.micros,""⟩ := by
  cases found with
  | error e => simp [refreshObservations] at ho
  | ok found =>
    simp only [refreshObservations,List.mem_singleton] at ho
    subst ho
    rw [List.isEmpty_iff] at hhealthy
    subst hhealthy
    exact ⟨rfl,rfl⟩

theorem origin (hb : b.Fresh) (calls : List BundleCall) {o : HealthObservation}
    (ho : o ∈ observationsTold cfg b calls) (hhealthy : o.healthy = true) :
    Origin cfg calls o := by
  induction calls using List.reverseRecOn generalizing o with
  | nil => simp [observationsTold] at ho
  | append_singleton calls c ih =>
    rw [observationsTold_snoc] at ho
    have hlast : c ∈ calls ++ [c] := by simp
    cases c with
    | operations disk call =>
      cases call with
      | observe o' =>
        rcases List.mem_append.mp ho with ho | ho
        · exact (ih ho hhealthy).snoc _
        · rw [List.mem_singleton.mp ho]
          exact .reported disk o' hlast
      | clear => simp [BundleCall.observations] at ho
      | _ => exact (ih ho hhealthy).snoc _
    | observeIngress result =>
      rcases List.mem_append.mp ho with ho | ho
      · exact (ih ho hhealthy).snoc _
      · exact .ingress result o hlast ho
    | refreshMarketData now =>
      rcases List.mem_append.mp ho with ho | ho
      · exact (ih ho hhealthy).snoc _
      · obtain ⟨hfound,rfl⟩ := refreshObservations_healthy ho hhealthy
        refine .marketData calls [] now rfl fun symbol hsymbol => ?_
        obtain ⟨q,hq⟩ := probe_ok (failures_eq_nil hfound symbol hsymbol)
        exact ⟨q,(remembers cfg hb calls).latest hq⟩
    | refreshStrategies now =>
      rcases List.mem_append.mp ho with ho | ho
      · exact (ih ho hhealthy).snoc _
      · obtain ⟨hfound,rfl⟩ := refreshObservations_healthy ho hhealthy
        refine .strategy calls [] now rfl fun required hrequired => ?_
        obtain ⟨heartbeat,hheartbeat⟩ := probe_ok (failures_eq_nil hfound required hrequired)
        obtain ⟨live,-,hlive⟩ := (remembers cfg hb calls).requireFresh hheartbeat
        exact ⟨live,hlive⟩
    | _ => exact (ih ho hhealthy).snoc _

/-- The flag of a component. -/
def flag (h : RuntimeHealth) : HealthComponent → Bool
  | .database => h.databaseHealthy
  | .oms => h.omsHealthy
  | .leader => h.leaderHeld
  | .reconciliation => h.reconciliationComplete
  | .qmt => h.qmtHealthy
  | .marketData => h.marketDataHealthy
  | .strategy => h.strategyHealthy

theorem flag_iff {r : HealthRegistry} {now maxAge : Int} {s : HealthSnapshot}
    (hs : r.snapshot now maxAge = .ok s) (c : HealthComponent) :
    flag s.runtime c = true ↔ r.fault now (maxAge * 1000000) c = none := by
  unfold HealthRegistry.snapshot at hs
  split_ifs at hs
  cases hs
  cases c <;> simp [flag]

theorem flag_of_ready {h : RuntimeHealth} (hready : h.readyForMutation = true)
    (c : HealthComponent) : flag h c = true := by
  simp only [RuntimeHealth.readyForMutation,Bool.and_eq_true] at hready
  cases c <;> simp [flag,hready]

theorem status_eq_ok {now : AwareTime} {status : OperationsStatus} (h : b.status now = .ok status) :
    ∃ s, b.operations.health.snapshot now.micros b.operations.healthMaxAgeSeconds = .ok s ∧
      status = ⟨b.operations.modes.mode,s.runtime,s.runtime.readyForMutation,s.alerts⟩ := by
  unfold RuntimeBundle.status OperationsControl.status OperationsControl.snapshot at h
  cases hs : b.operations.health.snapshot now.micros b.operations.healthMaxAgeSeconds with
  | error e => simp [hs,Ops.bind_apply] at h
  | ok s =>
    simp only [Ops.bind_apply,Ops.get_apply,hs,Ops.ofExcept_ok,Ops.pure_apply] at h
    cases h
    exact ⟨s,rfl,rfl⟩

/-- The observation is the undisputed latest of its component, healthy, timely, and its origin
is in these calls. -/
structure Stands (cfg : BundleConfig) (b : RuntimeBundle) (calls : List BundleCall)
    (now ageSeconds : Int) (o : HealthObservation) : Prop where
  latest : LatestWins.Unique HealthObservation.observedAt
    (HealthRegistry.seen (observationsTold cfg b calls) o.component) o
  healthy : o.healthy = true
  past : o.observedAt ≤ now
  timely : now - o.observedAt ≤ ageSeconds * 1000000
  origin : Origin cfg calls o

/-- A component counts as healthy on an observation that stands. -/
theorem stands_of_snapshot (hb : b.Fresh) {now age : Int} {s : HealthSnapshot}
    (hs : (b.after cfg calls).operations.health.snapshot now age = .ok s) {c : HealthComponent}
    (hflag : flag s.runtime c = true) : ∃ o, o.component = c ∧ Stands cfg b calls now age o := by
  rw [(remembers cfg hb calls).health] at hs
  obtain ⟨o,ho,hhealthy,hpast,htimely⟩ :=
    HealthRegistry.fault_none_iff.mp ((flag_iff hs c).mp hflag)
  have hunique := (HealthRegistry.healthy_iff_unique
    (HealthRegistry.says_observeAll (observationsTold cfg b calls) c) hhealthy).mp ho
  obtain ⟨hread,hcomponent⟩ := hunique.read
  subst hcomponent
  exact ⟨o,rfl,hunique,hhealthy,by omega,htimely,origin hb calls hread hhealthy⟩

end

namespace BootstrapRequest

/-- A bootstrap that returns has checked its request, and starts with nothing told. -/
theorem bootstrap_eq_ok {r : BootstrapRequest} {disk : Disk} {ledger : DailyRiskLedger}
    {db db' : OperationsDb} {b : RuntimeBundle} (h : r.bootstrap disk ledger db = (.ok b,db')) :
    r.validate = .ok () ∧ r.validateSymbols = .ok () ∧ b.Fresh ∧
      b.operations.modes.mode = .disabled ∧
      b.operations.healthMaxAgeSeconds = r.healthMaxAgeSeconds := by
  unfold bootstrap at h
  cases hvalidate : r.validate with
  | error e => simp [hvalidate] at h
  | ok u =>
    simp only [hvalidate] at h
    cases hstart : RuntimeServices.start disk r.runtimeSessionId r.startedAt.micros true
        r.healthMaxAgeSeconds db with
    | mk result db'' =>
      rw [hstart] at h
      cases result with
      | error e => simp at h
      | ok services =>
        dsimp only at h
        cases hsymbols : r.validateSymbols with
        | error e => simp [hsymbols] at h
        | ok u' =>
          simp only [hsymbols,Prod.mk.injEq,Except.ok.injEq] at h
          obtain ⟨rfl,rfl⟩ := h
          obtain ⟨hmode,hhealth,hage⟩ : services.modes.mode = .disabled ∧
              services.health = .empty ∧ services.healthMaxAgeSeconds = r.healthMaxAgeSeconds := by
            unfold RuntimeServices.start at hstart
            split at hstart
            · simp at hstart
            · split at hstart
              · simp at hstart
              · split at hstart
                · simp at hstart
                · split at hstart
                  · simp at hstart
                  · simp only [Prod.mk.injEq,Except.ok.injEq] at hstart
                    obtain ⟨rfl,-⟩ := hstart
                    exact ⟨rfl,rfl,rfl⟩
          exact ⟨rfl,rfl,⟨rfl,rfl,hhealth⟩,hmode,hage⟩

theorem check_eq_ok {p : Bool} {message : String} {u : Unit} :
    check p message = .ok u ↔ p = true := by
  cases p <;> simp [check]

theorem validate_eq_ok {r : BootstrapRequest} (h : r.validate = .ok ()) :
    r.policy.expectedAccountFingerprint = r.accountFingerprint ∧
      r.policy.strategy.allowedSymbols ⊆ r.requiredSymbols.toFinset ∧
      r.coversStrategy = true := by
  simp only [validate,bind_eq_ok,check_eq_ok,decide_eq_true_eq] at h
  obtain ⟨-,-,-,haccount,-,-,-,hsymbols,-,-,-,hstrategy,-⟩ := h
  exact ⟨haccount,hsymbols,hstrategy⟩

end BootstrapRequest

def sampleRelease : ReleaseManifest where
  applicationBuild := "host-1"
  gitCommit := "0123456789012345678901234567890123456789"
  schemaVersion := 11
  terminalInstanceId := "terminal-1"
  qmtBridgeBuild := "bridge-5"
  configDigest := "sha256:0123456789abcdef0123456789abcdef0123456789abcdef0123456789abcdef"
  checked := by decide +kernel

def sampleObserved : ObservedDeployment where
  applicationBuild := "host-1"
  gitCommit := "0123456789012345678901234567890123456789"
  binarySupportedSchemaVersion := 11
  databaseSchemaVersion := 11
  terminalInstanceId := "terminal-1"
  qmtBridgeBuild := "bridge-5"
  configDigest := "sha256:0123456789abcdef0123456789abcdef0123456789abcdef0123456789abcdef"

def sampleRequest : BootstrapRequest where
  schemaVersion := 11
  expected := sampleRelease
  observed := sampleObserved
  runtimeSessionId := "host-session-1"
  startedAt := sampleNow
  accountFingerprint := "account-1"
  policy := samplePolicy
  requiredSymbols := ["600000.SH"]
  requiredStrategies := [⟨"manual","1"⟩]
  healthMaxAgeSeconds := 60

/-- Five components report, a quote and a heartbeat come in, both refreshes run, and the process is
armed. -/
def sampleCalls : List BundleCall :=
  ([HealthComponent.database,.oms,.leader,.reconciliation,.qmt].map fun c =>
    .operations Disk.healthy (.observe ⟨c,true,sampleNow.micros,""⟩)) ++
  [.ingestQuote ⟨"600000.SH",10,sampleNow,sampleNow⟩,
    .ingestHeartbeat ⟨⟨⟨"manual","1",sampleNow⟩,"strategy-session-1",1⟩,by decide +kernel⟩,
    .refreshMarketData sampleNow,.refreshStrategies sampleNow,
    .operations Disk.healthy (.enterObserve "req-1" "operator" "observe" sampleNow.micros 60),
    .operations Disk.healthy (.armSimulation "req-2" "operator" "arm" sampleNow.micros 60)]

def sampleLedger : DailyRiskLedger :=
  ⟨[],[⟨"pnl-1","account-1","2026-06-30",0,sampleNow.instant⟩]⟩

def sampleFacts : IntentFacts where
  tradingDate := "2026-06-30"
  marketOpen := true
  globalAmbiguityBlock := false
  blockedSymbols := ∅
  externalOrders := .empty
  account := ⟨"account-1",50000,20000,sampleNow⟩
  strategy := ⟨"manual","1",10000,0,1⟩
  security := ⟨"600000.SH",1 / 100,9,11,100,1,0,0⟩

/-- What is seen of the services after a bootstrap and some calls. -/
def BootstrapRequest.seeAfter {α : Type} (r : BootstrapRequest) (calls : List BundleCall)
    (look : RuntimeBundle → Option α) : Option α :=
  (r.bootstrap Disk.healthy sampleLedger .empty).1.toOption.bind fun b =>
    look (b.after r.config calls)

theorem seeAfter_eq_some {α : Type} {r : BootstrapRequest} {calls : List BundleCall}
    {look : RuntimeBundle → Option α} {a : α} (h : r.seeAfter calls look = some a) :
    ∃ b db', r.bootstrap Disk.healthy sampleLedger .empty = (.ok b,db') ∧
      look (b.after r.config calls) = some a := by
  unfold BootstrapRequest.seeAfter at h
  cases hboot : r.bootstrap Disk.healthy sampleLedger .empty with
  | mk result db' =>
    rw [hboot] at h
    cases result with
    | error e => cases h
    | ok b => exact ⟨b,db',rfl,h⟩

section
variable {r : BootstrapRequest} {disk : Disk} {ledger : DailyRiskLedger} {db db' : OperationsDb}
  {b : RuntimeBundle}

/-- What has put a process into SIMULATION: it was armed while every component had an observation
that stood, or the caller of `request_mode` has vouched for the health. -/
inductive Armed (cfg : BundleConfig) (b : RuntimeBundle) (before : List BundleCall) :
    BundleCall → Prop
  | arm (disk : Disk) (requestId actor reason : String) (now maxAge : Int)
      (hready : ∀ c : HealthComponent, ∃ o, o.component = c ∧ Stands cfg b before now maxAge o) :
      Armed cfg b before (.operations disk (.armSimulation requestId actor reason now maxAge))
  | request (disk : Disk) (requestId actor reason : String) (changedAt : Int)
      (health : RuntimeHealth) (hready : health.readyForMutation = true) :
      Armed cfg b before
        (.operations disk (.requestMode requestId .simulation actor reason changedAt health))

/-- A bundle enters SIMULATION only by being armed. -/
theorem armed_of_enters {cfg : BundleConfig} (hb : b.Fresh) (before : List BundleCall)
    {c : BundleCall} (hbefore : (b.after cfg before).operations.modes.mode ≠ .simulation)
    (hafter : (c.leaves cfg (b.after cfg before)).operations.modes.mode = .simulation) :
    Armed cfg b before c := by
  cases c with
  | operations disk call =>
    obtain ⟨requestId,actor,reason,now,maxAge,snapshot,rfl,hs,hready⟩ |
        ⟨requestId,actor,reason,changedAt,health,rfl,hready⟩ :=
      RuntimeServices.enters_simulation hbefore hafter
    · exact .arm disk requestId actor reason now maxAge fun c =>
        stands_of_snapshot hb hs (flag_of_ready hready c)
    · exact .request disk requestId actor reason changedAt health hready
  | refreshMarketData now =>
    obtain ⟨hr,-⟩ | ⟨found,-,hr⟩ := leaves_refreshMarketData cfg (b.after cfg before) now
    · rw [hr] at hafter
      exact absurd hafter hbefore
    · rw [hr] at hafter
      exact absurd hafter hbefore
  | refreshStrategies now =>
    obtain ⟨hr,-⟩ | ⟨found,-,hr⟩ := leaves_refreshStrategies cfg (b.after cfg before) now
    · rw [hr] at hafter
      exact absurd hafter hbefore
    · rw [hr] at hafter
      exact absurd hafter hbefore
  | _ => exact absurd hafter hbefore

/-- The components that `evaluate_risk` asks for. -/
def neededComponents (policy : RiskPolicy) : List HealthComponent :=
  [.database,.oms,.leader,.reconciliation] ++ if policy.requireQmtHealthy then [.qmt] else []

/-- What the services were told in these calls carries the intent. -/
structure Carries (r : BootstrapRequest) (b : RuntimeBundle) (calls : List BundleCall)
    (intent : OrderIntent) (tradingDate : String) (now : AwareTime) : Prop where
  mode : (b.after r.config calls).operations.modes.mode = .simulation
  health : ∀ c ∈ neededComponents r.policy, ∃ o, o.component = c ∧
    Stands r.config b calls now.micros r.healthMaxAgeSeconds o
  heartbeat : ∃ h, HeartbeatStands calls intent.strategyId intent.strategyVersion now
    r.policy.strategyMaxAgeSeconds h
  quote : ∃ q, QuoteStands calls intent.symbol now r.policy.marketMaxAgeSeconds q ∧
    |intent.limitPrice - q.lastPrice| / q.lastPrice ≤ r.policy.maxPriceDeviationRate
  pnl : ∃ row ∈ (b.after r.config calls).dailyRisk.pnlSnapshots,
    row.accountFingerprint = r.accountFingerprint ∧ row.tradingDate = tradingDate ∧
      row.observedAt ≤ now.instant ∧
      now.instant - row.observedAt ≤ r.policy.accountMaxAgeSeconds * 1000000 ∧
      -r.policy.maxDailyLossAbs ≤ row.dailyPnl
  account : intent.accountFingerprint = r.accountFingerprint
  symbol : intent.symbol ∈ r.requiredSymbols
  live : now.instant < intent.expiresAt.instant

theorem modes_of_policy (policy : RiskPolicy) : policy.permittedExecutionModes = {.simulation} := by
  have h := policy.checked
  simp only [RiskPolicyFields.postInit,bind_eq_ok,require_eq_ok,decide_eq_true_eq] at h
  obtain ⟨-,-,-,-,-,-,-,hmodes,-⟩ := h
  exact hmodes

theorem latestPnl_mem {rows : List DailyPnlSnapshot} {row : DailyPnlSnapshot}
    (h : DailyRiskLedger.latestPnl rows = some row) : row ∈ rows := by
  induction rows generalizing row with
  | nil => cases h
  | cons first rows ih =>
    simp only [DailyRiskLedger.latestPnl] at h
    cases hbest : DailyRiskLedger.latestPnl rows with
    | none =>
      simp only [hbest,Option.some.injEq] at h
      simp [h]
    | some best =>
      simp only [hbest] at h
      split at h
      · cases h
        simp
      · cases h
        exact List.mem_cons_of_mem _ (ih hbest)

theorem totals_row {ledger : DailyRiskLedger} {account date : String} {totals : DailyRiskTotals}
    (h : ledger.totals account date = .ok totals) :
    ∃ row ∈ ledger.pnlSnapshots, row.accountFingerprint = account ∧ row.tradingDate = date ∧
      totals.dailyPnl = row.dailyPnl ∧ totals.pnlObservedAt = row.observedAt := by
  simp only [DailyRiskLedger.totals,bind_eq_ok] at h
  obtain ⟨-,-,h⟩ := h
  split at h
  · cases h
  · rename_i row hrow
    cases h
    obtain ⟨hmem,hkeys⟩ := List.mem_filter.mp (latestPnl_mem hrow)
    simp only [Bool.and_eq_true,decide_eq_true_eq] at hkeys
    exact ⟨row,hmem,hkeys.1,hkeys.2,rfl,rfl⟩

theorem mapError_eq_ok {ε ε' α : Type} {f : ε → ε'} {x : Except ε α} {a : α} :
    x.mapError f = .ok a ↔ x = .ok a := by
  cases x <;> simp [Except.mapError]

theorem evaluateIntent_eq_ok {cfg : BundleConfig} {intent : OrderIntent} {facts : IntentFacts}
    {now : AwareTime} {evaluation : RuntimeIntentEvaluation}
    (h : b.evaluateIntent cfg intent facts now = .ok evaluation) :
    b.status now = .ok evaluation.operations ∧
      b.assembler.build cfg.policy now (facts.under evaluation.operations) facts.externalOrders =
        .ok evaluation.snapshot ∧
      evaluateRisk intent evaluation.snapshot cfg.policy now = .ok evaluation.risk := by
  simp only [RuntimeBundle.evaluateIntent,bind_eq_ok,mapError_eq_ok,pure,Except.pure,
    Except.ok.injEq] at h
  obtain ⟨status,hstatus,snapshot,hsnapshot,risk,hrisk,rfl⟩ := h
  exact ⟨hstatus,hsnapshot,hrisk⟩

/-- What the rules that pass say of the snapshot of an accepted intent. -/
structure RulesPass (intent : OrderIntent) (snapshot : RiskSnapshot) (policy : RiskPolicy)
    (now : AwareTime) : Prop where
  database : snapshot.databaseHealthy = true
  oms : snapshot.omsHealthy = true
  leader : snapshot.leaderHeld = true
  reconciliation : snapshot.reconciliationComplete = true
  qmt : policy.requireQmtHealthy = true → snapshot.qmtHealthy = true
  mode : snapshot.mode ∈ policy.permittedExecutionModes
  loss : -policy.maxDailyLossAbs ≤ snapshot.account.dailyPnl
  account : intent.accountFingerprint = policy.expectedAccountFingerprint
  accountSnapshot : snapshot.account.accountFingerprint = policy.expectedAccountFingerprint
  strategy : snapshot.strategy.strategyId = intent.strategyId
  version : snapshot.strategy.strategyVersion = intent.strategyVersion
  symbol : intent.symbol ∈ policy.strategy.allowedSymbols
  live : intent.isExpired now = false
  security : snapshot.security.symbol = intent.symbol
  price : |intent.limitPrice - snapshot.security.referencePrice| /
    snapshot.security.referencePrice ≤ policy.maxPriceDeviationRate

theorem rulesPass_of_accepted {intent : OrderIntent} {snapshot : RiskSnapshot} {policy : RiskPolicy}
    {now : AwareTime} {evaluation : RiskEvaluation}
    (h : evaluateRisk intent snapshot policy now = .ok evaluation)
    (haccepted : evaluation.decision.accepted = true) : RulesPass intent snapshot policy now := by
  obtain ⟨stale,-,-,rfl⟩ := evaluateRisk_ok.mp h
  have hpass := findings_eq_nil.mp (List.isEmpty_iff.mp haccepted)
  simp only [riskRules,passes_append] at hpass
  obtain ⟨⟨⟨⟨⟨⟨hglobal,hidentity⟩,-⟩,-⟩,hstrategy⟩,hfact⟩,-⟩ := hpass
  simp only [globalRules,passes_cons,reject_violated,Bool.not_eq_false',Bool.and_eq_false_iff,
    decide_eq_false_iff_not,not_lt,not_not] at hglobal
  simp only [accountIdentityRules,passes_cons,reject_violated,Bool.or_eq_false_iff,
    decide_eq_false_iff_not,not_not] at hidentity
  simp only [strategyRules,passes_cons,reject_violated,Bool.or_eq_false_iff,
    decide_eq_false_iff_not,not_not] at hstrategy
  simp only [orderFactRules,passes_cons,reject_violated,Bool.or_eq_false_iff,
    decide_eq_false_iff_not,not_lt,not_not] at hfact
  obtain ⟨hdatabase,homs,hleader,hreconciliation,hmode,hqmt,-,-,hloss,-⟩ := hglobal
  obtain ⟨⟨⟨haccount,haccountSnapshot⟩,-⟩,-⟩ := hidentity
  obtain ⟨⟨⟨⟨-,hid⟩,-⟩,hversion⟩,-,hsymbol,-⟩ := hstrategy
  obtain ⟨hlive,⟨hsecurity,-⟩,-,-,-,-,hprice,-⟩ := hfact
  exact {
    database := hdatabase
    oms := homs
    leader := hleader
    reconciliation := hreconciliation
    qmt := fun hrequired => by simpa [hrequired] using hqmt
    mode := hmode
    loss := hloss
    account := haccount
    accountSnapshot := haccountSnapshot
    strategy := hid
    version := hversion
    symbol := hsymbol
    live := hlive
    security := hsecurity
    price := hprice }

end

end BigQmt.Risk
