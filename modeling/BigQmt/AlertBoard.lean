import BigQmt.TelemetryWrites
import BigQmt.Lockstep
set_option autoImplicit false

/-!
What a sequence of synchronizations says about each alert, told from the calls alone:
when it was last posted, and whether as raised or as resolved.
-/

namespace BigQmt

/-- A synchronization, with its arguments. -/
inductive SyncCall where
  | health (snapshot : HealthSnapshot) (observedAt : Int)
  | mode (target : RuntimeMode) (observedAt : Int)
  | ambiguity (unknownOrderCount manualReviewCount observedAt : Int)
  deriving DecidableEq, Repr

namespace SyncCall

open OperationsTelemetry

def perform : SyncCall → Ops Unit
  | .health snapshot observedAt => syncHealth Disk.healthy snapshot observedAt
  | .mode target observedAt => syncMode Disk.healthy target observedAt
  | .ambiguity unknownOrderCount manualReviewCount observedAt =>
    syncExecutionAmbiguity Disk.healthy unknownOrderCount manualReviewCount observedAt

/-- For each call of a sequence, whether it raises and the snapshot taken after it. -/
def outcomes (s : RuntimeServices) : List SyncCall → List (Bool × TelemetrySnapshot)
  | [] => []
  | c :: calls =>
    match c.perform s with
    | .ok _ s' => (false,s'.telemetry.snapshot) :: outcomes s' calls
    | .error _ s' => (true,s'.telemetry.snapshot) :: outcomes s' calls

def source : SyncCall → String
  | .health .. => "health"
  | .mode .. => "mode"
  | .ambiguity .. => "execution"

def observedAt : SyncCall → Int
  | .health _ observedAt => observedAt
  | .mode _ observedAt => observedAt
  | .ambiguity _ _ observedAt => observedAt

def counted : SyncCall → Bool
  | .ambiguity unknownOrderCount manualReviewCount _ =>
    decide (0 ≤ unknownOrderCount) && decide (0 ≤ manualReviewCount)
  | _ => true

/-- The alerts a call raises, with their details. An empty reason ends a health
synchronization. -/
def raises : SyncCall → List (String × String)
  | .health snapshot _ =>
    (snapshot.alerts.takeWhile (fun a => a.reason ≠ "")).map (fun a => (healthKey a,a.reason))
  | .mode target _ => if target = .halted then [("runtime:HALTED","runtime is HALTED")] else []
  | .ambiguity unknownOrderCount manualReviewCount _ =>
    (if unknownOrderCount ≠ 0 then
      [("execution:UNKNOWN",toString unknownOrderCount ++ " unresolved UNKNOWN order(s)")]
    else []) ++
    if manualReviewCount ≠ 0 then
      [("execution:MANUAL_REVIEW",toString manualReviewCount ++ " order(s) require manual review")]
    else []

def raisedKeys (c : SyncCall) : List String := c.raises.map Prod.fst

/-- The alerts it resolves, when `shown` are on display. -/
def resolves (shown : String → Bool) : SyncCall → List String
  | .health snapshot _ =>
    if snapshot.alerts.all (fun a => a.reason ≠ "") then
      (HealthComponent.members.map (fun component => "health:" ++ component.value)).filter
        (fun key => shown key && !(snapshot.alerts.map healthKey).contains key)
    else []
  | .mode target _ => if target = .halted then [] else ["runtime:HALTED"]
  | .ambiguity unknownOrderCount manualReviewCount _ =>
    (if unknownOrderCount = 0 then ["execution:UNKNOWN"] else []) ++
      if manualReviewCount = 0 then ["execution:MANUAL_REVIEW"] else []

end SyncCall

/-- The last post of an alert. -/
structure AlertStamp where
  observedAt : Int
  raised : Bool
  deriving DecidableEq, Repr

abbrev AlertStamps := String → Option AlertStamp

namespace AlertStamps

def mark (stamps : AlertStamps) (keys : List String) (stamp : AlertStamp) : AlertStamps :=
  fun key => if key ∈ keys then some stamp else stamps key

def shown (stamps : AlertStamps) (key : String) : Bool := (stamps key).any AlertStamp.raised

end AlertStamps

/-- The last synchronization from each source, and the last post of each alert. -/
structure AlertBoard where
  last : String → Option Int
  stamps : AlertStamps

namespace AlertBoard

def empty : AlertBoard := ⟨fun _ => none,fun _ => none⟩

/-- The call is neither refused for its counts nor a late one. -/
def accepts (board : AlertBoard) (c : SyncCall) : Bool :=
  c.counted && !OperationsTelemetry.late (board.last c.source) c.observedAt

def post (board : AlertBoard) (c : SyncCall) : AlertBoard :=
  if board.accepts c then {
    last := Function.update board.last c.source (some c.observedAt)
    stamps := (board.stamps.mark c.raisedKeys ⟨c.observedAt,true⟩).mark
      (c.resolves board.stamps.shown) ⟨c.observedAt,false⟩ }
  else board

/-- The call posts no alert at an instant at which it was posted before, other than
resolving it again, and no reason that is all white space. -/
structure Fresh (board : AlertBoard) (c : SyncCall) : Prop where
  once : c.raisedKeys.Nodup
  readable : ∀ a ∈ c.raises, nonblank a.2 = true
  raised : ∀ key ∈ c.raisedKeys, ∀ stamp ∈ board.stamps key, stamp.observedAt ≠ c.observedAt
  resolved : ∀ key ∈ c.resolves board.stamps.shown,
    ∀ stamp ∈ board.stamps key, stamp.observedAt = c.observedAt → stamp.raised = false

instance (board : AlertBoard) (c : SyncCall) : Decidable (board.Fresh c) :=
  decidable_of_iff
    (c.raisedKeys.Nodup ∧ (∀ a ∈ c.raises, nonblank a.2 = true) ∧
      (∀ key ∈ c.raisedKeys, ∀ stamp ∈ board.stamps key, stamp.observedAt ≠ c.observedAt) ∧
      ∀ key ∈ c.resolves board.stamps.shown,
        ∀ stamp ∈ board.stamps key, stamp.observedAt = c.observedAt → stamp.raised = false)
    ⟨fun ⟨once,readable,raised,resolved⟩ => ⟨once,readable,raised,resolved⟩,
      fun h => ⟨h.once,h.readable,h.raised,h.resolved⟩⟩

/-- Every call that is accepted is fresh. -/
def Unrepeated (board : AlertBoard) : List SyncCall → Prop
  | [] => True
  | c :: calls => (board.accepts c = true → board.Fresh c) ∧ (board.post c).Unrepeated calls

instance decidableUnrepeated : (board : AlertBoard) → (calls : List SyncCall) →
    Decidable (board.Unrepeated calls)
  | _, [] => .isTrue trivial
  | board, c :: calls =>
    have := decidableUnrepeated (board.post c) calls
    inferInstanceAs
      (Decidable ((board.accepts c = true → board.Fresh c) ∧ (board.post c).Unrepeated calls))

end AlertBoard

end BigQmt
