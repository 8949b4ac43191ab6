import BigQmt.AlertStore
set_option autoImplicit false

/-!
`operations/telemetry.py`: the alerts on display, in memory or over the journal.
-/

namespace BigQmt

inductive AlertSeverity where
  | warning | error
  deriving DecidableEq, Repr

def AlertSeverity.value : AlertSeverity → String
  | .warning => "WARNING"
  | .error => "ERROR"

/-- `AlertSeverity(text)`. -/
def AlertSeverity.ofValue (text : String) : Option AlertSeverity :=
  [AlertSeverity.warning,.error].find? (fun s => s.value = text)

theorem AlertSeverity.ofValue_value (s : AlertSeverity) : ofValue s.value = some s := by
  cases s <;> decide

structure ActiveAlert where
  key : String
  severity : AlertSeverity
  detail : String
  firstSeenAt : Int
  lastSeenAt : Int
  occurrences : Nat
  deriving DecidableEq, Repr

/-- `ActiveAlert.__post_init__`. -/
def ActiveAlert.build (a : ActiveAlert) : Except OperationsError ActiveAlert :=
  if a.key = "" then .error (.valueError "key must be non-empty")
  else if a.detail = "" then .error (.valueError "detail must be non-empty")
  else if a.lastSeenAt < a.firstSeenAt then
    .error (.valueError "last_seen_at cannot precede first_seen_at")
  else if a.occurrences = 0 then .error (.valueError "occurrences must be a positive integer")
  else .ok a

/-- The alert a stored state shows. -/
def PersistedAlertState.alert (row : PersistedAlertState) : Except OperationsError ActiveAlert :=
  match AlertSeverity.ofValue row.severity with
  | none => .error (.valueError "not a valid AlertSeverity")
  | some severity =>
    ActiveAlert.build ⟨row.key,severity,row.detail,row.firstSeenAt,row.lastSeenAt,row.occurrences⟩

structure TelemetrySnapshot where
  mode : RuntimeMode
  readyForMutation : Bool
  activeAlerts : List ActiveAlert
  unknownOrderCount : Int
  manualReviewCount : Int
  deriving DecidableEq, Repr

/-- `_alerts` is a dictionary: one alert for each key, in the order of insertion. -/
structure OperationsTelemetry where
  journaled : Bool
  alerts : List ActiveAlert
  mode : RuntimeMode
  readyForMutation : Bool
  unknownOrderCount : Int
  manualReviewCount : Int
  lastHealthSync : Option Int
  lastExecutionSync : Option Int
  lastModeSync : Option Int
  deriving DecidableEq, Repr

/-- The connection and what one process holds in memory. -/
structure RuntimeServices where
  db : OperationsDb
  modes : RuntimeModeController
  health : HealthRegistry
  telemetry : OperationsTelemetry
  healthMaxAgeSeconds : Int

/-- A method: what it has changed by the time it raises stays changed. -/
abbrev Ops := EStateM OperationsError RuntimeServices

def Ops.ofExcept {α : Type} : Except OperationsError α → Ops α
  | .ok a => pure a
  | .error e => throw e

namespace OperationsTelemetry

def find (t : OperationsTelemetry) (key : String) : Option ActiveAlert :=
  Keyed.find ActiveAlert.key key t.alerts

/-- `self._alerts[key] = alert`. -/
def put (t : OperationsTelemetry) (a : ActiveAlert) : OperationsTelemetry :=
  { t with alerts := Keyed.put ActiveAlert.key a t.alerts }

/-- `self._alerts.pop(key, None)`. -/
def pop (t : OperationsTelemetry) (key : String) : OperationsTelemetry :=
  { t with alerts := t.alerts.filter (fun a => a.key ≠ key) }

def fresh (journaled : Bool) : OperationsTelemetry :=
  ⟨journaled,[],.disabled,false,0,0,none,none,none⟩

/-- `__init__`, with the journal or without one. -/
def start (journaled : Bool) (db : OperationsDb) : Except OperationsError OperationsTelemetry :=
  if journaled then
    db.activeAlerts.foldlM (fun t row => row.alert.map t.put) (fresh true)
  else .ok (fresh false)

def snapshot (t : OperationsTelemetry) : TelemetrySnapshot where
  mode := t.mode
  readyForMutation := t.readyForMutation
  activeAlerts := t.alerts.mergeSort (fun a b => decide (a.key ≤ b.key))
  unknownOrderCount := t.unknownOrderCount
  manualReviewCount := t.manualReviewCount

/-- The alert `_upsert` shows without a journal; `none` where it is a late one. -/
def refreshed (t : OperationsTelemetry) (key : String) (severity : AlertSeverity) (detail : String)
    (observedAt : Int) : Option ActiveAlert :=
  match t.find key with
  | some current =>
    if observedAt < current.lastSeenAt then none
    else some ⟨key,severity,detail,current.firstSeenAt,observedAt,current.occurrences + 1⟩
  | none => some ⟨key,severity,detail,observedAt,observedAt,1⟩

/-- An observation made before the last one of its kind. -/
def late (last : Option Int) (observedAt : Int) : Bool := last.any (fun t => observedAt < t)

end OperationsTelemetry

def Ops.telemetry (f : OperationsTelemetry → OperationsTelemetry) : Ops Unit :=
  modify (fun s => { s with telemetry := f s.telemetry })

/-- One transaction of the journal. -/
def Ops.journal {α : Type} (write : OperationsDb → Except OperationsError (α × OperationsDb)) :
    Ops α := do
  let s ← get
  let (a,db) ← Ops.ofExcept (write s.db)
  set { s with db := db }
  return a

namespace OperationsTelemetry

/-- What both kinds of write do with the state of an active alert. -/
def display (row : PersistedAlertState) : Ops Unit := do
  let a ← Ops.ofExcept row.alert
  Ops.telemetry (·.put a)

def upsert (disk : Disk) (key : String) (severity : AlertSeverity) (detail : String)
    (observedAt : Int) (source : String) : Ops Unit := do
  let s ← get
  if s.telemetry.journaled then
    let row ← Ops.journal
      (OperationsDb.recordActive disk key severity.value detail observedAt source none)
    if row.status = .active then display row else Ops.telemetry (·.pop key)
  else
    match s.telemetry.refreshed key severity detail observedAt with
    | none => pure ()
    | some a => do
      let a ← Ops.ofExcept a.build
      Ops.telemetry (·.put a)

def resolve (disk : Disk) (key : String) (observedAt : Int) (source : String) : Ops Unit := do
  let s ← get
  if s.telemetry.journaled then
    let row ← Ops.journal (OperationsDb.recordResolved disk key observedAt source none)
    match row.filter (fun row => row.status = .active) with
    | some row => display row
    | none => Ops.telemetry (·.pop key)
  else Ops.telemetry (·.pop key)

/-- The keys on display that `_resolve_prefix` goes through. -/
def dropped (t : OperationsTelemetry) (pre : String) (keep : List String) : List String :=
  (t.alerts.map ActiveAlert.key).filter (fun key =>
    pre.toList.isPrefixOf key.toList && !keep.contains key)

def resolvePrefix (disk : Disk) (pre : String) (keep : List String) (observedAt : Int)
    (source : String) : Ops Unit := do
  let s ← get
  (s.telemetry.dropped pre keep).forM (fun key => resolve disk key observedAt source)

def healthKey (a : HealthAlert) : String := "health:" ++ a.component.value

def syncHealth (disk : Disk) (snapshot : HealthSnapshot) (observedAt : Int) : Ops Unit := do
  let s ← get
  if late s.telemetry.lastHealthSync observedAt then pure ()
  else
    Ops.telemetry (fun t => { t with
      lastHealthSync := some observedAt
      readyForMutation := snapshot.runtime.readyForMutation })
    snapshot.alerts.forM (fun a => upsert disk (healthKey a) .error a.reason observedAt "health")
    resolvePrefix disk "health:" (snapshot.alerts.map healthKey) observedAt "health"

def syncMode (disk : Disk) (mode : RuntimeMode) (observedAt : Int) : Ops Unit := do
  let s ← get
  if late s.telemetry.lastModeSync observedAt then pure ()
  else
    Ops.telemetry (fun t => { t with lastModeSync := some observedAt, mode := mode })
    if mode = .halted then
      upsert disk "runtime:HALTED" .error "runtime is HALTED" observedAt "mode"
    else resolve disk "runtime:HALTED" observedAt "mode"

def validateCount (name : String) (value : Int) : Ops Unit :=
  if value < 0 then throw (.valueError (name ++ " must be a non-negative integer")) else pure ()

/-- The alert of one of the two counts. -/
def syncCount (disk : Disk) (key : String) (count : Int) (detail : String) (observedAt : Int) :
    Ops Unit :=
  if count ≠ 0 then upsert disk key .error detail observedAt "execution"
  else resolve disk key observedAt "execution"

def syncExecutionAmbiguity (disk : Disk) (unknownOrderCount manualReviewCount observedAt : Int) :
    Ops Unit := do
  validateCount "unknown_order_count" unknownOrderCount
  validateCount "manual_review_count" manualReviewCount
  let s ← get
  if late s.telemetry.lastExecutionSync observedAt then pure ()
  else
    Ops.telemetry (fun t => { t with
      lastExecutionSync := some observedAt
      unknownOrderCount := unknownOrderCount
      manualReviewCount := manualReviewCount })
    syncCount disk "execution:UNKNOWN" unknownOrderCount
      (toString unknownOrderCount ++ " unresolved UNKNOWN order(s)") observedAt
    syncCount disk "execution:MANUAL_REVIEW" manualReviewCount
      (toString manualReviewCount ++ " order(s) require manual review") observedAt

end OperationsTelemetry

namespace Ops

variable {α β : Type} {s : RuntimeServices}

@[simp] theorem pure_apply (a : α) : (pure a : Ops α) s = .ok a s := rfl

@[simp] theorem throw_apply (e : OperationsError) : (throw e : Ops α) s = .error e s := rfl

@[simp] theorem get_apply : (get : Ops RuntimeServices) s = .ok s s := rfl

@[simp] theorem set_apply (s' : RuntimeServices) : (set s' : Ops PUnit) s = .ok ⟨⟩ s' := rfl

@[simp] theorem modify_apply (f : RuntimeServices → RuntimeServices) :
    (modify f : Ops PUnit) s = .ok ⟨⟩ (f s) := rfl

theorem bind_apply (x : Ops α) (f : α → Ops β) :
    (x >>= f) s = match x s with
      | .ok a s' => f a s'
      | .error e s' => .error e s' := by
  change EStateM.bind x f s = _
  unfold EStateM.bind
  cases x s <;> rfl

@[simp] theorem get_bind (f : RuntimeServices → Ops β) : (get >>= f) s = f s s := rfl

@[simp] theorem pure_bind_apply (a : α) (f : α → Ops β) : ((pure a : Ops α) >>= f) s = f a s := rfl

@[simp] theorem telemetry_bind (f : OperationsTelemetry → OperationsTelemetry)
    (m : Unit → Ops β) :
    (Ops.telemetry f >>= m) s = m () { s with telemetry := f s.telemetry } := rfl

@[simp] theorem telemetry_apply (f : OperationsTelemetry → OperationsTelemetry) :
    Ops.telemetry f s = .ok () { s with telemetry := f s.telemetry } := rfl

@[simp] theorem ofExcept_ok (a : α) : (Ops.ofExcept (.ok a) : Ops α) = pure a := rfl

@[simp] theorem ofExcept_error (e : OperationsError) :
    (Ops.ofExcept (.error e) : Ops α) = throw e := rfl

theorem journal_ok {write : OperationsDb → Except OperationsError (α × OperationsDb)} {a : α}
    {db : OperationsDb} (h : write s.db = .ok (a,db)) :
    Ops.journal write s = .ok a { s with db := db } := by
  simp only [Ops.journal,get_bind,h,ofExcept_ok]
  rfl

theorem journal_error {write : OperationsDb → Except OperationsError (α × OperationsDb)}
    {e : OperationsError} (h : write s.db = .error e) : Ops.journal write s = .error e s := by
  simp [Ops.journal,bind_apply,h]

/-- The state a method leaves, whether it returns or raises. -/
def leaves (m : Ops α) (s : RuntimeServices) : RuntimeServices :=
  match m s with
  | .ok _ s' => s'
  | .error _ s' => s'

theorem leaves_ok {m : Ops α} {a : α} {s' : RuntimeServices} (h : m s = .ok a s') :
    m.leaves s = s' := by
  simp [leaves,h]

theorem leaves_error {m : Ops α} {e : OperationsError} {s' : RuntimeServices}
    (h : m s = .error e s') : m.leaves s = s' := by
  simp [leaves,h]

/-- What every run of a method preserves. -/
def Keeps (R : RuntimeServices → RuntimeServices → Prop) (m : Ops α) : Prop :=
  ∀ s, R s (m.leaves s)

section Keeps

variable {R : RuntimeServices → RuntimeServices → Prop}

theorem Keeps.bind {m : Ops α} {f : α → Ops β} (hm : Keeps R m) (hf : ∀ a, Keeps R (f a))
    (htrans : ∀ {a b c}, R a b → R b c → R a c) : Keeps R (m >>= f) := by
  intro s
  have hs := hm s
  cases h : m s with
  | ok a s' =>
    rw [leaves_ok h] at hs
    have heq : (m >>= f).leaves s = (f a).leaves s' := by simp [leaves,bind_apply,h]
    rw [heq]
    exact htrans hs (hf a s')
  | error e s' =>
    rw [leaves_error h] at hs
    have heq : (m >>= f).leaves s = s' := by simp [leaves,bind_apply,h]
    rw [heq]
    exact hs

theorem Keeps.get_bind {f : RuntimeServices → Ops β} (hf : ∀ s, R s ((f s).leaves s)) :
    Keeps R (get >>= f) := hf

theorem Keeps.forM {l : List α} {f : α → Ops PUnit} (hrefl : ∀ a, R a a)
    (hf : ∀ a ∈ l, Keeps R (f a)) (htrans : ∀ {a b c}, R a b → R b c → R a c) :
    Keeps R (l.forM f) := by
  induction l with
  | nil => exact fun s => hrefl s
  | cons a l ih =>
    have hcons : (a :: l).forM f = (f a >>= fun _ => l.forM f) := rfl
    rw [hcons]
    exact (hf a (by simp)).bind (fun _ => ih fun b hb => hf b (by simp [hb])) htrans

end Keeps

end Ops

end BigQmt
