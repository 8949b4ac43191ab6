import BigQmt.Telemetry
set_option autoImplicit false

/-!
The mode controller of `operations/mode.py`, `operations/control.py`,
`service/supervisor.py` and `service/lifecycle.py`, and the processes over one
database.
-/

namespace BigQmt

/-- `_record_transition`: whether the row is new. -/
def OperationsDb.recordTransition (disk : Disk) (row : ModeTransition) (db : OperationsDb) :
    Except OperationsError (Bool × OperationsDb) :=
  match disk (.transition row.requestId) with
  | some e => .error e
  | none =>
    match db.findRequest row.requestId with
    | some stored =>
      if stored ≠ row then
        .error (.modeTransitionConflict "request_id reused with different transition")
      else .ok (false,db)
    | none => .ok (true,{ db with transitions := db.transitions ++ [row] })

namespace RuntimeModeController

def requireNonempty (name value : String) : Ops Unit :=
  if nonblank value then pure ()
  else throw (.valueError (name ++ " must be a non-empty string"))

def setMode (mode : RuntimeMode) : Ops Unit :=
  modify (fun s => { s with modes := { s.modes with mode := mode } })

def recordTransition (disk : Disk) (requestId : String) (fromMode toMode : RuntimeMode)
    (actor reason : String) (changedAt : Int) : Ops Bool := do
  let s ← get
  Ops.journal (OperationsDb.recordTransition disk
    ⟨requestId,s.modes.runtimeSessionId,fromMode,toMode,actor,reason,changedAt⟩)

/-- The row is the one this request has written. -/
def replays (s : RuntimeServices) (prior : ModeTransition) (target : RuntimeMode)
    (actor reason : String) (changedAt : Int) : Bool :=
  prior.runtimeSessionId = s.modes.runtimeSessionId && prior.toMode = target &&
    prior.actor = actor && prior.reason = reason && prior.changedAt = changedAt

def allowed : RuntimeMode → List RuntimeMode
  | .disabled => [.disabled,.observe]
  | .observe => [.disabled,.observe,.shadow,.simulation]
  | .shadow => [.disabled,.observe,.shadow,.simulation]
  | .simulation => [.disabled,.observe,.simulation]
  | .halted => [.disabled]
  | _ => []

/-- The checks of `request_mode` on a request that is new. -/
def refusal (current target : RuntimeMode) (health : RuntimeHealth) : Option OperationsError :=
  if target = .liveCanary || target = .liveArmed then
    some (.modeTransitionDenied "live modes require a separate production Gate")
  else if target = .halted then
    some (.modeTransitionDenied "use halt() for HALTED transitions")
  else if current = .halted && target ≠ .disabled then
    some (.modeTransitionDenied "HALTED may only transition to DISABLED")
  else if target ∉ allowed current then
    some (.modeTransitionDenied
      ("transition " ++ current.value ++ "->" ++ target.value ++ " is not allowed"))
  else if (target = .shadow || target = .simulation) && !health.readyForMutation then
    some (.modeTransitionDenied "runtime health prerequisites are not satisfied")
  else none

def requestMode (disk : Disk) (requestId : String) (target : RuntimeMode) (actor reason : String)
    (changedAt : Int) (health : RuntimeHealth) : Ops Bool := do
  requireNonempty "request_id" requestId
  requireNonempty "actor" actor
  requireNonempty "reason" reason
  let s ← get
  match s.db.findRequest requestId with
  | some prior =>
    if !replays s prior target actor reason changedAt || s.modes.mode ≠ prior.toMode then
      throw (.modeTransitionConflict "request_id replay does not match current runtime state")
    else pure false
  | none =>
    match refusal s.modes.mode target health with
    | some e => throw e
    | none =>
      let changed ← recordTransition disk requestId s.modes.mode target actor reason changedAt
      if changed then setMode target
      return changed

def halt (disk : Disk) (requestId actor reason : String) (changedAt : Int) : Ops Bool := do
  requireNonempty "request_id" requestId
  requireNonempty "actor" actor
  requireNonempty "reason" reason
  let s ← get
  match s.db.findRequest requestId with
  | some prior =>
    if !replays s prior .halted actor reason changedAt || s.modes.mode ≠ .halted then
      throw (.modeTransitionConflict "halt request replay does not match current runtime state")
    else pure false
  | none =>
    let changed ← recordTransition disk requestId s.modes.mode .halted actor reason changedAt
    if changed then setMode .halted
    return changed

def enforceHealth (disk : Disk) (requestId : String) (health : RuntimeHealth) (changedAt : Int) :
    Ops Bool := do
  let s ← get
  if s.modes.mode = .simulation && !health.readyForMutation then
    halt disk requestId "health-monitor" "mutation runtime health prerequisite lost" changedAt
  else pure false

end RuntimeModeController

structure OperationsStatus where
  mode : RuntimeMode
  health : RuntimeHealth
  readyForMutation : Bool
  alerts : List HealthAlert
  deriving DecidableEq, Repr

namespace OperationsControl

def snapshot (now maxAgeSeconds : Int) : Ops HealthSnapshot := do
  let s ← get
  Ops.ofExcept (s.health.snapshot now maxAgeSeconds)

def status (now maxAgeSeconds : Int) : Ops OperationsStatus := do
  let snapshot ← snapshot now maxAgeSeconds
  let s ← get
  return ⟨s.modes.mode,snapshot.runtime,snapshot.runtime.readyForMutation,snapshot.alerts⟩

def enterObserve (disk : Disk) (requestId actor reason : String) (now maxAgeSeconds : Int) :
    Ops Bool := do
  let snapshot ← snapshot now maxAgeSeconds
  RuntimeModeController.requestMode disk requestId .observe actor reason now snapshot.runtime

def armSimulation (disk : Disk) (requestId actor reason : String) (now maxAgeSeconds : Int) :
    Ops Bool := do
  let snapshot ← snapshot now maxAgeSeconds
  if !snapshot.runtime.readyForMutation then
    throw (.modeTransitionDenied "runtime health is not ready for simulation")
  else RuntimeModeController.requestMode disk requestId .simulation actor reason now snapshot.runtime

def emergencyHalt (disk : Disk) (requestId actor reason : String) (now : Int) : Ops Bool :=
  RuntimeModeController.halt disk requestId actor reason now

def enforceHealth (disk : Disk) (requestId : String) (now maxAgeSeconds : Int) : Ops Bool := do
  let snapshot ← snapshot now maxAgeSeconds
  RuntimeModeController.enforceHealth disk requestId snapshot.runtime now

end OperationsControl

structure SupervisorCycleResult where
  autoHalted : Bool
  telemetry : TelemetrySnapshot
  deriving DecidableEq, Repr

/-- The three writes of a cycle that come before the health is enforced. -/
def RuntimeSupervisor.observe (disk : Disk) (status : OperationsStatus)
    (unknownOrderCount manualReviewCount now : Int) : Ops Unit := do
  OperationsTelemetry.syncHealth disk ⟨status.health,status.alerts⟩ now
  OperationsTelemetry.syncMode disk status.mode now
  OperationsTelemetry.syncExecutionAmbiguity disk unknownOrderCount manualReviewCount now

def RuntimeSupervisor.enforce (disk : Disk) (status : OperationsStatus) (now maxAgeSeconds : Int)
    (haltRequestId : String) : Ops Bool := do
  if status.mode = .simulation && !status.readyForMutation then
    let autoHalted ← OperationsControl.enforceHealth disk haltRequestId now maxAgeSeconds
    if autoHalted then OperationsTelemetry.syncMode disk .halted now
    return autoHalted
  else return false

def RuntimeSupervisor.tick (disk : Disk) (now unknownOrderCount manualReviewCount : Int)
    (haltRequestId : String) : Ops SupervisorCycleResult := do
  let s ← get
  let status ← OperationsControl.status now s.healthMaxAgeSeconds
  observe disk status unknownOrderCount manualReviewCount now
  let autoHalted ← enforce disk status now s.healthMaxAgeSeconds haltRequestId
  let s ← get
  return ⟨autoHalted,s.telemetry.snapshot⟩

def RuntimeLifecycleController.shutdown (disk : Disk) (now : Int) (reason : String) : Ops Bool := do
  let s ← get
  if nonblank reason then
    let changed ← OperationsControl.emergencyHalt disk ("shutdown:" ++ s.modes.runtimeSessionId)
      "runtime-lifecycle" reason now
    OperationsTelemetry.syncMode disk .halted now
    return changed
  else throw (.valueError "reason must be non-empty")

/-- A call into one process, with its arguments. -/
inductive OperationsCall where
  | observe (o : HealthObservation)
  | clear
  | enterObserve (requestId actor reason : String) (now maxAgeSeconds : Int)
  | armSimulation (requestId actor reason : String) (now maxAgeSeconds : Int)
  | requestMode (requestId : String) (target : RuntimeMode) (actor reason : String)
      (changedAt : Int) (health : RuntimeHealth)
  | emergencyHalt (requestId actor reason : String) (now : Int)
  | enforceHealth (requestId : String) (now maxAgeSeconds : Int)
  | syncHealth (snapshot : HealthSnapshot) (observedAt : Int)
  | syncMode (mode : RuntimeMode) (observedAt : Int)
  | syncExecutionAmbiguity (unknownOrderCount manualReviewCount observedAt : Int)
  | tick (now unknownOrderCount manualReviewCount : Int) (haltRequestId : String)
  | shutdown (now : Int) (reason : String)

def OperationsCall.perform (disk : Disk) : OperationsCall → Ops Unit
  | .observe o => modify (fun s => { s with health := (s.health.observe o).2 })
  | .clear => modify (fun s => { s with health := .empty })
  | .enterObserve requestId actor reason now maxAge =>
      discard (OperationsControl.enterObserve disk requestId actor reason now maxAge)
  | .armSimulation requestId actor reason now maxAge =>
      discard (OperationsControl.armSimulation disk requestId actor reason now maxAge)
  | .requestMode requestId target actor reason changedAt health =>
      discard (RuntimeModeController.requestMode disk requestId target actor reason changedAt health)
  | .emergencyHalt requestId actor reason now =>
      discard (OperationsControl.emergencyHalt disk requestId actor reason now)
  | .enforceHealth requestId now maxAge =>
      discard (OperationsControl.enforceHealth disk requestId now maxAge)
  | .syncHealth snapshot observedAt => OperationsTelemetry.syncHealth disk snapshot observedAt
  | .syncMode mode observedAt => OperationsTelemetry.syncMode disk mode observedAt
  | .syncExecutionAmbiguity unknown manual observedAt =>
      OperationsTelemetry.syncExecutionAmbiguity disk unknown manual observedAt
  | .tick now unknown manual haltRequestId =>
      discard (RuntimeSupervisor.tick disk now unknown manual haltRequestId)
  | .shutdown now reason => discard (RuntimeLifecycleController.shutdown disk now reason)

def OperationsCall.leaves (disk : Disk) (c : OperationsCall) (s : RuntimeServices) :
    RuntimeServices := (c.perform disk).leaves s

/-- The constructors of one process over a database, and what they leave there. -/
def RuntimeServices.start (disk : Disk) (runtimeSessionId : String) (startedAt : Int)
    (journaled : Bool) (healthMaxAgeSeconds : Int) (db : OperationsDb) :
    Except OperationsError RuntimeServices × OperationsDb :=
  if !nonblank runtimeSessionId then
    (.error (.valueError "runtime_session_id must be a non-empty string"),db)
  else
    match db.recordTransition disk ⟨"startup:" ++ runtimeSessionId,runtimeSessionId,.disabled,
      .disabled,"system","runtime start defaults to DISABLED",startedAt⟩ with
    | .error e => (.error e,db)
    | .ok (_,db) =>
      match OperationsTelemetry.start journaled db with
      | .error e => (.error e,db)
      | .ok telemetry =>
        if healthMaxAgeSeconds ≤ 0 then
          (.error (.valueError "health_max_age_seconds must be a positive integer"),db)
        else
          (.ok ⟨db,⟨runtimeSessionId,.disabled⟩,.empty,telemetry,healthMaxAgeSeconds⟩,db)

/-- The processes over one database; `db` in the record of a process is what its
last call left there. -/
structure OperationsSystem where
  db : OperationsDb
  processes : Nat → Option RuntimeServices

inductive OperationsMove where
  | start (pid : Nat) (disk : Disk) (runtimeSessionId : String) (startedAt : Int)
      (journaled : Bool) (healthMaxAgeSeconds : Int)
  | call (pid : Nat) (disk : Disk) (c : OperationsCall)
  | stop (pid : Nat)

namespace OperationsSystem

def initial : OperationsSystem := ⟨.empty,fun _ => none⟩

/-- A process as its next call finds it. -/
def process (w : OperationsSystem) (pid : Nat) : Option RuntimeServices :=
  (w.processes pid).map (fun s => { s with db := w.db })

def set (w : OperationsSystem) (pid : Nat) (s : RuntimeServices) : OperationsSystem :=
  ⟨s.db,Function.update w.processes pid (some s)⟩

def step (w : OperationsSystem) : OperationsMove → OperationsSystem
  | .start pid disk session startedAt journaled maxAge =>
    match RuntimeServices.start disk session startedAt journaled maxAge w.db with
    | (.ok s,_) => w.set pid s
    | (.error _,db) => { w with db := db }
  | .call pid disk c =>
    match w.process pid with
    | some s => w.set pid (c.leaves disk s)
    | none => w
  | .stop pid => ⟨w.db,Function.update w.processes pid none⟩

def run (w : OperationsSystem) (ms : List OperationsMove) : OperationsSystem := ms.foldl step w

end OperationsSystem

end BigQmt
