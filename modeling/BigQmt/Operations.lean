import BigQmt.Domain
import Mathlib.Logic.Function.Basic
set_option autoImplicit false

/-!
The runtime mode, the health registry and the control surface over both:
`operations/mode.py`, `operations/health.py` and `operations/control.py`.
An aware `datetime` is the instant it names, in microseconds.
-/

namespace BigQmt

inductive RuntimeMode where
  | disabled | observe | shadow | simulation | liveCanary | liveArmed | halted
  deriving DecidableEq, Repr

def RuntimeMode.value : RuntimeMode → String
  | .disabled => "DISABLED"
  | .observe => "OBSERVE"
  | .shadow => "SHADOW"
  | .simulation => "SIMULATION"
  | .liveCanary => "LIVE_CANARY"
  | .liveArmed => "LIVE_ARMED"
  | .halted => "HALTED"

/-- The exceptions of the operations package. -/
inductive OperationsError where
  | valueError (message : String)
  | overflowError (message : String)
  | modeTransitionDenied (message : String)
  | modeTransitionConflict (message : String)
  | alertEventConflict (message : String)
  | database (message : String)
  deriving DecidableEq, Repr

/-- `str.strip`. -/
def pyStrip (s : String) : String :=
  String.ofList ((s.toList.dropWhile pySpace).reverse.dropWhile pySpace).reverse

theorem nonblank_pyStrip {s : String} (h : pyStrip s ≠ "") : nonblank (pyStrip s) = true := by
  unfold pyStrip at h ⊢
  generalize hl : (s.toList.dropWhile pySpace).reverse = l at h ⊢
  have hne : l.dropWhile pySpace ≠ [] := by
    rintro hnil
    simp [hnil] at h
  have hhead := List.head_dropWhile_not pySpace hne
  simp only [nonblank,String.toList_ofList,List.any_reverse,List.any_eq_true]
  exact ⟨_,List.head_mem hne,by simp [hhead]⟩

inductive HealthComponent where
  | database | oms | leader | reconciliation | qmt | marketData | strategy
  deriving DecidableEq, Repr

namespace HealthComponent

def value : HealthComponent → String
  | .database => "DATABASE"
  | .oms => "OMS"
  | .leader => "LEADER"
  | .reconciliation => "RECONCILIATION"
  | .qmt => "QMT"
  | .marketData => "MARKET_DATA"
  | .strategy => "STRATEGY"

/-- The members in the order of the class, which is the order of iteration. -/
def members : List HealthComponent :=
  [.database,.oms,.leader,.reconciliation,.qmt,.marketData,.strategy]

theorem value_injective {a b : HealthComponent} (h : a.value = b.value) : a = b := by
  cases a <;> cases b <;> first | rfl | exact absurd h (by decide)

end HealthComponent

structure HealthObservation where
  component : HealthComponent
  healthy : Bool
  observedAt : Int
  detail : String
  deriving DecidableEq, Repr

structure HealthAlert where
  component : HealthComponent
  reason : String
  deriving DecidableEq, Repr

structure RuntimeHealth where
  databaseHealthy : Bool
  omsHealthy : Bool
  leaderHeld : Bool
  reconciliationComplete : Bool
  qmtHealthy : Bool
  marketDataHealthy : Bool
  strategyHealthy : Bool
  deriving DecidableEq, Repr

def RuntimeHealth.readyForMutation (h : RuntimeHealth) : Bool :=
  h.databaseHealthy && h.omsHealthy && h.leaderHeld && h.reconciliationComplete &&
    h.qmtHealthy && h.marketDataHealthy && h.strategyHealthy

structure HealthSnapshot where
  runtime : RuntimeHealth
  alerts : List HealthAlert
  deriving DecidableEq, Repr

structure HealthRegistry where
  observations : HealthComponent → Option HealthObservation

namespace HealthRegistry

def empty : HealthRegistry := ⟨fun _ => none⟩

def put (r : HealthRegistry) (o : HealthObservation) : HealthRegistry :=
  ⟨Function.update r.observations o.component (some o)⟩

def observe (r : HealthRegistry) (o : HealthObservation) : Bool × HealthRegistry :=
  match r.observations o.component with
  | none => (true,r.put o)
  | some previous =>
    if o.observedAt < previous.observedAt then (false,r)
    else if o.observedAt = previous.observedAt then
      if o = previous then (false,r)
      else (true,r.put ⟨o.component,false,o.observedAt,"CONFLICTING_SAME_TIMESTAMP"⟩)
    else (true,r.put o)

/-- What `snapshot` finds wrong with a component. -/
def fault (r : HealthRegistry) (now maxAge : Int) (c : HealthComponent) : Option String :=
  match r.observations c with
  | none => some "MISSING"
  | some o =>
    if o.observedAt > now then some "FUTURE_DATED"
    else if now - o.observedAt > maxAge then some "STALE"
    else if !o.healthy then
      some (if pyStrip o.detail = "" then "UNHEALTHY" else pyStrip o.detail)
    else none

def snapshot (r : HealthRegistry) (now maxAgeSeconds : Int) :
    Except OperationsError HealthSnapshot :=
  if maxAgeSeconds ≤ 0 then .error (.valueError "max_age_seconds must be > 0")
  -- `timedelta(seconds=...)` holds at most 999999999 days.
  else if maxAgeSeconds > 86399999999999 then
    .error (.overflowError "days=...; must have magnitude <= 999999999")
  else
    let fault := r.fault now (maxAgeSeconds * 1000000)
    .ok {
      runtime := {
        databaseHealthy := (fault .database).isNone
        omsHealthy := (fault .oms).isNone
        leaderHeld := (fault .leader).isNone
        reconciliationComplete := (fault .reconciliation).isNone
        qmtHealthy := (fault .qmt).isNone
        marketDataHealthy := (fault .marketData).isNone
        strategyHealthy := (fault .strategy).isNone }
      alerts := HealthComponent.members.filterMap (fun c => (fault c).map (HealthAlert.mk c)) }

theorem fault_nonblank {r : HealthRegistry} {now maxAge : Int} {c : HealthComponent}
    {reason : String} (h : r.fault now maxAge c = some reason) : nonblank reason = true := by
  unfold fault at h
  cases ho : r.observations c with
  | none =>
    rw [ho] at h
    cases h
    decide
  | some o =>
    simp only [ho] at h
    split_ifs at h with hf hs hh hd
    · cases h
      decide
    · cases h
      decide
    · cases h
      decide
    · cases h
      exact nonblank_pyStrip hd

/-- The alerts are of different components, and each has something to say. -/
theorem snapshot_alerts {r : HealthRegistry} {now maxAge : Int} {s : HealthSnapshot}
    (h : r.snapshot now maxAge = .ok s) :
    (s.alerts.map HealthAlert.component).Nodup ∧ ∀ a ∈ s.alerts, nonblank a.reason = true := by
  unfold snapshot at h
  split_ifs at h with hpos hbig
  cases h
  constructor
  · have hsub : ∀ (f : HealthComponent → Option String) (cs : List HealthComponent),
        ((cs.filterMap (fun c => (f c).map (HealthAlert.mk c))).map HealthAlert.component).Sublist
          cs := by
      intro f cs
      induction cs with
      | nil => simp
      | cons c cs ih =>
        cases hc : f c with
        | none => simpa [hc] using ih.cons c
        | some reason => simpa [hc] using ih.cons_cons c
    exact (hsub _ _).nodup (by decide)
  · intro a ha
    simp only [List.mem_filterMap,Option.map_eq_some_iff] at ha
    obtain ⟨c,-,reason,hf,rfl⟩ := ha
    exact fault_nonblank hf

end HealthRegistry

/-- A row of `runtime_mode_transitions`. -/
structure ModeTransition where
  requestId : String
  runtimeSessionId : String
  fromMode : RuntimeMode
  toMode : RuntimeMode
  actor : String
  reason : String
  changedAt : Int
  deriving DecidableEq, Repr

structure RuntimeModeController where
  runtimeSessionId : String
  mode : RuntimeMode
  deriving DecidableEq, Repr

end BigQmt
