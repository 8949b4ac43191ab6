import BigQmt.Bootstrap
import BigQmt.OperationsFrame
set_option autoImplicit false

/-!
What the runtime services hold after any sequence of calls, in terms of what they were told,
and what an accepted intent and a runtime that is ready for mutation rest on.
-/

namespace BigQmt.Risk

open Checklist

/-- The quote has a later broker time. -/
def newerQuote (a b : MarketQuote) : Bool := b.brokerTime.instant < a.brokerTime.instant

theorem ingestQuote_table (quotes : List MarketQuote) (quote : MarketQuote) :
    (ingestQuote quotes quote).2 =
      Admission.ingest MarketQuote.symbol newerQuote quotes quote := by
  unfold ingestQuote Admission.ingest newerQuote
  cases Keyed.find MarketQuote.symbol quote.symbol quotes with
  | none => rfl
  | some previous =>
    dsimp only
    by_cases hlate : quote.brokerTime.instant < previous.brokerTime.instant
    · have hnot : ¬previous.brokerTime.instant < quote.brokerTime.instant := by omega
      simp [hlate,hnot]
    · by_cases hsame : quote.brokerTime.instant = previous.brokerTime.instant
      · by_cases hprice : quote.lastPrice = previous.lastPrice <;> simp [hsame,hprice]
      · have hnewer : previous.brokerTime.instant < quote.brokerTime.instant := by omega
        simp [hlate,hsame,hnewer]

/-- The heartbeat follows in the session, or comes from another session that is newer. -/
def newerHeartbeat (a b : LiveHeartbeat) : Bool :=
  if a.sessionId = b.sessionId then
    b.sequence < a.sequence && b.observedAt.instant ≤ a.observedAt.instant
  else b.observedAt.instant < a.observedAt.instant

theorem ingestHeartbeat_table (heartbeats : List LiveHeartbeat) (heartbeat : LiveHeartbeat) :
    (ingestHeartbeat heartbeats heartbeat).2 =
      Admission.ingest (fun h => h.strategyId) newerHeartbeat heartbeats heartbeat := by
  unfold ingestHeartbeat Admission.ingest newerHeartbeat
  dsimp only
  cases Keyed.find (fun h : LiveHeartbeat => h.strategyId) heartbeat.strategyId heartbeats with
  | none => rfl
  | some previous =>
    dsimp only
    by_cases hsession : heartbeat.sessionId = previous.sessionId
    · simp only [hsession,if_true]
      by_cases hlate : heartbeat.sequence < previous.sequence
      · have hnot : ¬previous.sequence < heartbeat.sequence := by omega
        simp [hlate,hnot]
      · by_cases hsame : heartbeat.sequence = previous.sequence
        · by_cases heq : heartbeat.same previous = true <;> simp [hsame,heq]
        · have hnext : previous.sequence < heartbeat.sequence := by omega
          by_cases hback : heartbeat.observedAt.instant < previous.observedAt.instant
          · have hnot : ¬previous.observedAt.instant ≤ heartbeat.observedAt.instant := by omega
            simp [hlate,hsame,hback,hnot]
          · have hle : previous.observedAt.instant ≤ heartbeat.observedAt.instant := by omega
            simp [hlate,hsame,hnext,hback,hle]
    · simp only [hsession,if_false]
      by_cases hback : heartbeat.observedAt.instant ≤ previous.observedAt.instant
      · have hnot : ¬previous.observedAt.instant < heartbeat.observedAt.instant := by omega
        simp [hback,hnot]
      · have hlt : previous.observedAt.instant < heartbeat.observedAt.instant := by omega
        simp [hback,hlt]

/-- The quotes that were ingested since the last clear. -/
def BundleCall.quotes (told : List MarketQuote) : BundleCall → List MarketQuote
  | .ingestQuote quote => told ++ [quote]
  | .clearQuotes => []
  | _ => told

def quotesTold (calls : List BundleCall) : List MarketQuote := calls.foldl BundleCall.quotes []

/-- The heartbeats that were ingested since the last clear. -/
def BundleCall.heartbeats (told : List LiveHeartbeat) : BundleCall → List LiveHeartbeat
  | .ingestHeartbeat heartbeat => told ++ [heartbeat]
  | .clearHeartbeats => []
  | _ => told

def heartbeatsTold (calls : List BundleCall) : List LiveHeartbeat :=
  calls.foldl BundleCall.heartbeats []

section calls

/-- A refresh that returns observes the component, and one that raises changes nothing. -/
theorem leaves_refreshMarketData (cfg : BundleConfig) (b : RuntimeBundle) (now : AwareTime) :
    (BundleCall.refreshMarketData now).leaves cfg b = b ∧
        (∀ found, RuntimeBundle.failures id (b.quoteFresh cfg now) cfg.requiredSymbols ≠ .ok found) ∨
      ∃ found, RuntimeBundle.failures id (b.quoteFresh cfg now) cfg.requiredSymbols = .ok found ∧
        (BundleCall.refreshMarketData now).leaves cfg b = b.refreshed .marketData now found := by
  cases hf : RuntimeBundle.failures id (b.quoteFresh cfg now) cfg.requiredSymbols with
  | error e =>
    refine .inl ⟨?_,by simp⟩
    simp [BundleCall.leaves,RuntimeBundle.refreshMarketData,hf,bind,Except.bind,Except.toOption]
  | ok found =>
    refine .inr ⟨found,rfl,?_⟩
    simp [BundleCall.leaves,RuntimeBundle.refreshMarketData,hf,bind,Except.bind,Except.toOption,
      pure,Except.pure]

theorem leaves_refreshStrategies (cfg : BundleConfig) (b : RuntimeBundle) (now : AwareTime) :
    (BundleCall.refreshStrategies now).leaves cfg b = b ∧
        (∀ found, RuntimeBundle.failures StrategyHealthRequirement.strategyId
          (b.strategyFresh cfg now) cfg.requiredStrategies ≠ .ok found) ∨
      ∃ found, RuntimeBundle.failures StrategyHealthRequirement.strategyId
          (b.strategyFresh cfg now) cfg.requiredStrategies = .ok found ∧
        (BundleCall.refreshStrategies now).leaves cfg b = b.refreshed .strategy now found := by
  cases hf : RuntimeBundle.failures StrategyHealthRequirement.strategyId (b.strategyFresh cfg now)
      cfg.requiredStrategies with
  | error e =>
    refine .inl ⟨?_,by simp⟩
    simp [BundleCall.leaves,RuntimeBundle.refreshStrategies,hf,bind,Except.bind,Except.toOption]
  | ok found =>
    refine .inr ⟨found,rfl,?_⟩
    simp [BundleCall.leaves,RuntimeBundle.refreshStrategies,hf,bind,Except.bind,Except.toOption,
      pure,Except.pure]

variable {cfg : BundleConfig}

theorem leaves_quotes (b : RuntimeBundle) (told : List MarketQuote) (c : BundleCall)
    (h : b.quotes = told.foldl (Admission.ingest MarketQuote.symbol newerQuote) []) :
    (c.leaves cfg b).quotes =
      (c.quotes told).foldl (Admission.ingest MarketQuote.symbol newerQuote) [] := by
  cases c with
  | ingestQuote quote =>
    simp only [BundleCall.leaves,BundleCall.quotes,List.foldl_append,List.foldl_cons,
      List.foldl_nil,← h,ingestQuote_table]
  | clearQuotes => rfl
  | refreshMarketData now =>
    obtain ⟨hr,-⟩ | ⟨found,-,hr⟩ := leaves_refreshMarketData cfg b now
    · rw [hr]
      exact h
    · rw [hr]
      exact h
  | refreshStrategies now =>
    obtain ⟨hr,-⟩ | ⟨found,-,hr⟩ := leaves_refreshStrategies cfg b now
    · rw [hr]
      exact h
    · rw [hr]
      exact h
  | _ => exact h

theorem leaves_heartbeats (b : RuntimeBundle) (told : List LiveHeartbeat) (c : BundleCall)
    (h : b.heartbeats = told.foldl (Admission.ingest (fun h => h.strategyId) newerHeartbeat) []) :
    (c.leaves cfg b).heartbeats =
      (c.heartbeats told).foldl (Admission.ingest (fun h => h.strategyId) newerHeartbeat) [] := by
  cases c with
  | ingestHeartbeat heartbeat =>
    simp only [BundleCall.leaves,BundleCall.heartbeats,List.foldl_append,List.foldl_cons,
      List.foldl_nil,← h,ingestHeartbeat_table]
  | clearHeartbeats => rfl
  | refreshMarketData now =>
    obtain ⟨hr,-⟩ | ⟨found,-,hr⟩ := leaves_refreshMarketData cfg b now
    · rw [hr]
      exact h
    · rw [hr]
      exact h
  | refreshStrategies now =>
    obtain ⟨hr,-⟩ | ⟨found,-,hr⟩ := leaves_refreshStrategies cfg b now
    · rw [hr]
      exact h
    · rw [hr]
      exact h
  | _ => exact h

/-- What an ingress result has observed of the QMT component. -/
def ingressObservations (r : IngressResult) : List HealthObservation :=
  if r.disposition = .duplicate then []
  else
    match eventTime r with
    | none => []
    | some observedAt => [⟨.qmt,HealthRegistry.ingressHealthy r,observedAt,
        if HealthRegistry.ingressHealthy r then ""
        else if r.disposition = .gap then "INGRESS_GAP"
        else "NEEDS_RESYNC"⟩]

theorem observeQmtIngress_told (h : HealthRegistry) (r : IngressResult) :
    (h.observeQmtIngress r).2 = h.observeAll (ingressObservations r) := by
  unfold HealthRegistry.observeQmtIngress ingressObservations
  split
  · rfl
  · cases eventTime r <;> rfl

/-- What a refresh has observed. -/
def refreshObservations (component : HealthComponent) (now : AwareTime) :
    Except RiskError (List String) → List HealthObservation
  | .ok found => [⟨component,found.isEmpty,now.micros,String.intercalate "," found⟩]
  | .error _ => []

/-- The observations that the registry was told since its last clear. -/
def BundleCall.observations (cfg : BundleConfig) (b : RuntimeBundle) (told : List HealthObservation) :
    BundleCall → List HealthObservation
  | .operations _ (.observe o) => told ++ [o]
  | .operations _ .clear => []
  | .observeIngress r => told ++ ingressObservations r
  | .refreshMarketData now => told ++ refreshObservations .marketData now
      (RuntimeBundle.failures id (b.quoteFresh cfg now) cfg.requiredSymbols)
  | .refreshStrategies now => told ++ refreshObservations .strategy now
      (RuntimeBundle.failures StrategyHealthRequirement.strategyId (b.strategyFresh cfg now)
        cfg.requiredStrategies)
  | _ => told

/-- The observations that the registry of `b` was told in these calls. -/
def observationsTold (cfg : BundleConfig) (b : RuntimeBundle) (calls : List BundleCall) :
    List HealthObservation :=
  (calls.foldl (fun p c => (c.leaves cfg p.1,c.observations cfg p.1 p.2)) (b,[])).2

theorem after_snoc (b : RuntimeBundle) (calls : List BundleCall) (c : BundleCall) :
    b.after cfg (calls ++ [c]) = c.leaves cfg (b.after cfg calls) := by
  simp [RuntimeBundle.after]

theorem observationsTold_snoc (b : RuntimeBundle) (calls : List BundleCall) (c : BundleCall) :
    observationsTold cfg b (calls ++ [c]) =
      c.observations cfg (b.after cfg calls) (observationsTold cfg b calls) := by
  have hfst : ∀ (calls : List BundleCall) (p : RuntimeBundle × List HealthObservation),
      (calls.foldl (fun p c => (c.leaves cfg p.1,c.observations cfg p.1 p.2)) p).1 =
        p.1.after cfg calls := by
    intro calls
    induction calls with
    | nil => simp [RuntimeBundle.after]
    | cons c calls ih =>
      intro p
      rw [List.foldl_cons,ih]
      rfl
  simp only [observationsTold,List.foldl_append,List.foldl_cons,List.foldl_nil,hfst]

theorem observeAll_snoc (l : List HealthObservation) (o : HealthObservation) :
    HealthRegistry.empty.observeAll (l ++ [o]) =
      ((HealthRegistry.empty.observeAll l).observe o).2 := by
  simp [HealthRegistry.observeAll]

theorem observeAll_append (l l' : List HealthObservation) :
    HealthRegistry.empty.observeAll (l ++ l') =
      (HealthRegistry.empty.observeAll l).observeAll l' := by
  simp [HealthRegistry.observeAll]

theorem leaves_told (cfg : BundleConfig) (b : RuntimeBundle) (told : List HealthObservation) (c : BundleCall)
    (h : b.operations.health = HealthRegistry.empty.observeAll told) :
    (c.leaves cfg b).operations.health =
        HealthRegistry.empty.observeAll (c.observations cfg b told) ∧
      (c.leaves cfg b).operations.healthMaxAgeSeconds = b.operations.healthMaxAgeSeconds := by
  cases c with
  | operations disk call =>
    obtain ⟨hage,hhealth⟩ := RuntimeServices.leaves_health disk call b.operations
    refine ⟨?_,hage⟩
    change (call.leaves disk b.operations).health = _
    rw [hhealth,h]
    cases call with
    | observe o => exact (observeAll_snoc told o).symm
    | clear => rfl
    | _ => rfl
  | observeIngress r =>
    refine ⟨?_,rfl⟩
    change (b.operations.health.observeQmtIngress r).2 = _
    rw [observeQmtIngress_told,h]
    exact (observeAll_append told _).symm
  | refreshMarketData now =>
    obtain ⟨hr,hfail⟩ | ⟨found,hfound,hr⟩ := leaves_refreshMarketData cfg b now
    · rw [hr,h]
      simp only [BundleCall.observations]
      cases hf : RuntimeBundle.failures id (b.quoteFresh cfg now) cfg.requiredSymbols with
      | error e => simp [refreshObservations]
      | ok found => exact absurd hf (hfail found)
    · rw [hr]
      simp only [BundleCall.observations,hfound,refreshObservations,RuntimeBundle.refreshed,
        observeAll_snoc,h,and_self]
  | refreshStrategies now =>
    obtain ⟨hr,hfail⟩ | ⟨found,hfound,hr⟩ := leaves_refreshStrategies cfg b now
    · rw [hr,h]
      simp only [BundleCall.observations]
      cases hf : RuntimeBundle.failures StrategyHealthRequirement.strategyId
          (b.strategyFresh cfg now) cfg.requiredStrategies with
      | error e => simp [refreshObservations]
      | ok found => exact absurd hf (hfail found)
    · rw [hr]
      simp only [BundleCall.observations,hfound,refreshObservations,RuntimeBundle.refreshed,
        observeAll_snoc,h,and_self]
  | _ => exact ⟨h,rfl⟩

/-- A bundle that was told nothing yet. -/
structure RuntimeBundle.Fresh (b : RuntimeBundle) : Prop where
  quotes : b.quotes = []
  heartbeats : b.heartbeats = []
  health : b.operations.health = .empty

/-- The services hold what they were told. -/
structure Remembers (cfg : BundleConfig) (b : RuntimeBundle) (calls : List BundleCall) : Prop where
  quotes : (b.after cfg calls).quotes =
    (quotesTold calls).foldl (Admission.ingest MarketQuote.symbol newerQuote) []
  heartbeats : (b.after cfg calls).heartbeats =
    (heartbeatsTold calls).foldl (Admission.ingest (fun h => h.strategyId) newerHeartbeat) []
  health : (b.after cfg calls).operations.health =
    HealthRegistry.empty.observeAll (observationsTold cfg b calls)
  maxAge : (b.after cfg calls).operations.healthMaxAgeSeconds = b.operations.healthMaxAgeSeconds

theorem remembers (cfg : BundleConfig) {b : RuntimeBundle} (hb : b.Fresh) (calls : List BundleCall) :
    Remembers cfg b calls := by
  induction calls using List.reverseRecOn with
  | nil => exact ⟨hb.quotes,hb.heartbeats,hb.health,rfl⟩
  | append_singleton calls c ih =>
    have hquotes : quotesTold (calls ++ [c]) = c.quotes (quotesTold calls) := by simp [quotesTold]
    have hheartbeats : heartbeatsTold (calls ++ [c]) = c.heartbeats (heartbeatsTold calls) := by
      simp [heartbeatsTold]
    obtain ⟨hhealth,hage⟩ := leaves_told cfg (b.after cfg calls) _ c ih.health
    constructor
    · rw [after_snoc,hquotes]
      exact leaves_quotes _ _ c ih.quotes
    · rw [after_snoc,hheartbeats]
      exact leaves_heartbeats _ _ c ih.heartbeats
    · rw [after_snoc,observationsTold_snoc]
      exact hhealth
    · rw [after_snoc,hage]
      exact ih.maxAge

end calls
end BigQmt.Risk
