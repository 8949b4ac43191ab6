import BigQmt.Operations
import BigQmt.Table
set_option autoImplicit false

/-!
The tables of the operations package and `operations/alert_store.py`. A digest is
represented by the fact it is taken of, a stored time text by its instant.
-/

namespace BigQmt

inductive PersistedAlertStatus where
  | active | resolved
  deriving DecidableEq, Repr

/-- What `_semantic_digest` covers. -/
structure AlertFact where
  key : String
  eventType : PersistedAlertStatus
  severity : Option String
  detail : Option String
  observedAt : Int
  source : String
  deriving DecidableEq, Repr

/-- An event id: the caller's, or the one derived from the digest. -/
inductive AlertEventId where
  | given (eventId : String)
  | derived (digest : AlertFact)
  deriving DecidableEq, Repr

/-- A row of `operations_alert_events`. -/
structure AlertEvent where
  eventId : AlertEventId
  fact : AlertFact
  deriving DecidableEq, Repr

/-- A row of `operations_alert_state`. -/
structure PersistedAlertState where
  key : String
  status : PersistedAlertStatus
  severity : String
  detail : String
  firstSeenAt : Int
  lastSeenAt : Int
  occurrences : Nat
  resolvedAt : Option Int
  lastEventId : AlertEventId
  deriving DecidableEq, Repr

structure OperationsDb where
  transitions : List ModeTransition
  alertEvents : List AlertEvent
  alertStates : List PersistedAlertState
  deriving DecidableEq, Repr

/-- A transaction that writes, by what it is about. The write guard and the
database decide for each whether it commits. -/
inductive OperationsWrite where
  | transition (requestId : String)
  | alert (key : String) (eventType : PersistedAlertStatus)
  deriving DecidableEq, Repr

/-- What the write guard and the database make of each transaction. -/
abbrev Disk := OperationsWrite → Option OperationsError

def Disk.healthy : Disk := fun _ => none

namespace OperationsDb

def empty : OperationsDb := ⟨[],[],[]⟩

def findRequest (db : OperationsDb) (requestId : String) : Option ModeTransition :=
  Keyed.find ModeTransition.requestId requestId db.transitions

def stateRow (db : OperationsDb) (key : String) : Option PersistedAlertState :=
  Keyed.find PersistedAlertState.key key db.alertStates

/-- `INSERT ... ON CONFLICT(alert_key) DO UPDATE` with the whole row. -/
def putState (db : OperationsDb) (row : PersistedAlertState) : OperationsDb :=
  { db with alertStates := Keyed.put PersistedAlertState.key row db.alertStates }

/-- `_insert_event`: whether the event is there already. -/
def insertEvent (db : OperationsDb) (eventId : AlertEventId) (f : AlertFact) :
    Except OperationsError (Bool × OperationsDb) :=
  match Keyed.find AlertEvent.eventId eventId db.alertEvents with
  | some e =>
    if e.fact ≠ f then
      .error (.alertEventConflict "event_id reused with different alert semantics")
    else .ok (true,db)
  | none =>
    match db.alertEvents.find? (fun e => e.fact.key = f.key ∧ e.fact.observedAt = f.observedAt) with
    | some e =>
      if e.fact ≠ f then
        .error (.alertEventConflict "conflicting alert facts share the same alert key/timestamp")
      else .ok (true,db)
    | none => .ok (false,{ db with alertEvents := db.alertEvents ++ [⟨eventId,f⟩] })

def eventIdOf (eventId : Option String) (f : AlertFact) : AlertEventId :=
  match eventId with
  | some s => if s = "" then .derived f else .given s
  | none => .derived f

def requireNonempty (name value : String) : Except OperationsError Unit :=
  if nonblank value then .ok () else .error (.valueError (name ++ " must be non-empty"))

def requireEventId (eventId : Option String) : Except OperationsError Unit :=
  match eventId with
  | some s => if s = "" then .ok () else requireNonempty "event_id" s
  | none => .ok ()

/-- The row `record_active` writes for a fact that is news. -/
def activeRow (db : OperationsDb) (eventId : AlertEventId) (key severity detail : String)
    (observedAt : Int) : PersistedAlertState :=
  match db.stateRow key with
  | some row =>
    if row.status = .resolved then
      ⟨key,.active,severity,detail,observedAt,observedAt,1,none,eventId⟩
    else ⟨key,.active,severity,detail,row.firstSeenAt,observedAt,row.occurrences + 1,none,eventId⟩
  | none => ⟨key,.active,severity,detail,observedAt,observedAt,1,none,eventId⟩

/-- `record_active` with its event in the log. -/
def applyActive (db : OperationsDb) (duplicate : Bool) (eventId : AlertEventId)
    (key severity detail : String) (observedAt : Int) :
    Except OperationsError (PersistedAlertState × OperationsDb) :=
  if duplicate then
    match db.stateRow key with
    | none => .error (.alertEventConflict "duplicate ACTIVE event has no current state")
    | some state => .ok (state,db)
  else
    match (db.stateRow key).filter (fun state => observedAt < state.lastSeenAt) with
    | some state => .ok (state,db)
    | none =>
      let row := db.activeRow eventId key severity detail observedAt
      .ok (row,db.putState row)

def recordActive (disk : Disk) (key severity detail : String) (observedAt : Int) (source : String)
    (eventId : Option String) (db : OperationsDb) :
    Except OperationsError (PersistedAlertState × OperationsDb) := do
  requireNonempty "key" key
  requireNonempty "severity" severity
  requireNonempty "detail" detail
  requireNonempty "source" source
  let digest : AlertFact := ⟨key,.active,some severity,some detail,observedAt,source⟩
  requireEventId eventId
  match disk (.alert key .active) with
  | some e => throw e
  | none =>
    let (duplicate,db') ← db.insertEvent (eventIdOf eventId digest) digest
    db'.applyActive duplicate (eventIdOf eventId digest) key severity detail observedAt

/-- `record_resolved` with its event in the log. -/
def applyResolved (db : OperationsDb) (duplicate : Bool) (eventId : AlertEventId) (key : String)
    (observedAt : Int) : Option PersistedAlertState × OperationsDb :=
  match db.stateRow key with
  | none => (none,db)
  | some state =>
    if duplicate then (some state,db)
    else if observedAt < state.lastSeenAt then (some state,db)
    else
      let row := { state with
        status := .resolved,lastSeenAt := observedAt,resolvedAt := some observedAt,
        lastEventId := eventId }
      (some row,db.putState row)

def recordResolved (disk : Disk) (key : String) (observedAt : Int) (source : String)
    (eventId : Option String) (db : OperationsDb) :
    Except OperationsError (Option PersistedAlertState × OperationsDb) := do
  requireNonempty "key" key
  requireNonempty "source" source
  let digest : AlertFact := ⟨key,.resolved,none,none,observedAt,source⟩
  requireEventId eventId
  match disk (.alert key .resolved) with
  | some e => throw e
  | none =>
    let (duplicate,db') ← db.insertEvent (eventIdOf eventId digest) digest
    return db'.applyResolved duplicate (eventIdOf eventId digest) key observedAt

/-- `ORDER BY alert_key`. -/
def activeAlerts (db : OperationsDb) : List PersistedAlertState :=
  (db.alertStates.filter (fun row => row.status = .active)).mergeSort
    (fun a b => decide (a.key ≤ b.key))

section
variable {db db' : OperationsDb}

theorem insertEvent_cases {eventId : AlertEventId} {f : AlertFact} {duplicate : Bool}
    (h : db.insertEvent eventId f = .ok (duplicate,db')) :
    (duplicate = true ∧ db' = db) ∨
      (duplicate = false ∧ db' = { db with alertEvents := db.alertEvents ++ [⟨eventId,f⟩] } ∧
        ∀ e ∈ db.alertEvents, e.fact.key = f.key → e.fact.observedAt ≠ f.observedAt) := by
  unfold insertEvent at h
  cases hid : Keyed.find AlertEvent.eventId eventId db.alertEvents with
  | some e =>
    simp only [hid] at h
    split_ifs at h
    cases h
    exact .inl ⟨rfl,rfl⟩
  | none =>
    simp only [hid] at h
    cases hsame : db.alertEvents.find?
        (fun e => e.fact.key = f.key ∧ e.fact.observedAt = f.observedAt) with
    | some e =>
      simp only [hsame] at h
      split_ifs at h
      cases h
      exact .inl ⟨rfl,rfl⟩
    | none =>
      simp only [hsame] at h
      cases h
      simp only [List.find?_eq_none,decide_eq_true_eq,not_and] at hsame
      exact .inr ⟨rfl,rfl,hsame⟩

theorem recordActive_ok {disk : Disk} {key severity detail source : String} {observedAt : Int}
    {eventId : Option String} {row : PersistedAlertState}
    (h : db.recordActive disk key severity detail observedAt source eventId = .ok (row,db')) :
    ∃ duplicate db₁,
      db.insertEvent (eventIdOf eventId ⟨key,.active,some severity,some detail,observedAt,source⟩)
        ⟨key,.active,some severity,some detail,observedAt,source⟩ = .ok (duplicate,db₁) ∧
      db₁.applyActive duplicate
        (eventIdOf eventId ⟨key,.active,some severity,some detail,observedAt,source⟩) key severity
        detail observedAt = .ok (row,db') := by
  simp only [recordActive,bind,Except.bind] at h
  iterate 6
    split at h
    · cases h
  split at h
  · cases h
  · exact ⟨_,_,‹_›,h⟩

theorem recordResolved_ok {disk : Disk} {key source : String} {observedAt : Int}
    {eventId : Option String} {row : Option PersistedAlertState}
    (h : db.recordResolved disk key observedAt source eventId = .ok (row,db')) :
    ∃ duplicate db₁,
      db.insertEvent (eventIdOf eventId ⟨key,.resolved,none,none,observedAt,source⟩)
        ⟨key,.resolved,none,none,observedAt,source⟩ = .ok (duplicate,db₁) ∧
      (row,db') = db₁.applyResolved duplicate
        (eventIdOf eventId ⟨key,.resolved,none,none,observedAt,source⟩) key observedAt := by
  simp only [recordResolved,bind,Except.bind] at h
  iterate 4
    split at h
    · cases h
  split at h
  · cases h
  · exact ⟨_,_,‹_›,(Except.ok.inj h).symm⟩

end

@[simp] theorem stateRow_putState_self (db : OperationsDb) (row : PersistedAlertState) :
    (db.putState row).stateRow row.key = some row := Keyed.find_put_self

theorem stateRow_putState_isSome {db : OperationsDb} {row : PersistedAlertState} {key : String}
    (h : (db.stateRow key).isSome = true) : ((db.putState row).stateRow key).isSome = true := by
  by_cases hk : key = row.key
  · subst hk
    simp
  · have hne : (db.putState row).stateRow key = db.stateRow key := Keyed.find_put_ne hk
    rw [hne]
    exact h

end OperationsDb

/-- Two facts for one alert and one instant. -/
def AlertFact.Clashes (f g : AlertFact) : Prop :=
  f.key = g.key ∧ f.observedAt = g.observedAt ∧ f ≠ g

/-- What keeps a stored state from being refused as an `ActiveAlert`. -/
structure PersistedAlertState.Displayable (row : PersistedAlertState) : Prop where
  severity : row.severity ∈ ["WARNING","ERROR"]
  key : row.key ≠ ""
  detail : row.detail ≠ ""
  times : row.firstSeenAt ≤ row.lastSeenAt
  occurrences : row.occurrences ≠ 0

namespace OperationsDb

/-- What holds of the alert tables after any writes of the telemetry. -/
structure Sound (db : OperationsDb) : Prop where
  derived : ∀ e ∈ db.alertEvents, e.eventId = .derived e.fact
  unique : ∀ e ∈ db.alertEvents, ∀ e' ∈ db.alertEvents, ¬ e.fact.Clashes e'.fact
  shown : ∀ e ∈ db.alertEvents, e.fact.eventType = .active →
    (db.stateRow e.fact.key).isSome = true
  rows : ∀ row ∈ db.alertStates, row.Displayable

theorem Sound.empty : OperationsDb.empty.Sound where
  derived := by simp [OperationsDb.empty]
  unique := by simp [OperationsDb.empty]
  shown := by simp [OperationsDb.empty]
  rows := by simp [OperationsDb.empty]

/-- The journal has another fact for this alert and instant. -/
def Clash (db : OperationsDb) (f : AlertFact) : Prop :=
  ∃ e ∈ db.alertEvents, e.fact.Clashes f

/-- A write that posts the fact, and nothing else, to the event log. -/
structure Posted (db : OperationsDb) (f : AlertFact) (db' : OperationsDb) : Prop where
  sound : db'.Sound
  transitions : db'.transitions = db.transitions
  news : ∀ e ∈ db'.alertEvents, e ∈ db.alertEvents ∨ e.fact = f
  kept : ∀ e ∈ db.alertEvents, e ∈ db'.alertEvents

theorem Posted.duplicate {db : OperationsDb} (h : db.Sound) (f : AlertFact) : db.Posted f db where
  sound := h
  transitions := rfl
  news := fun _ he => .inl he
  kept := fun _ he => he

theorem Sound.insertEvent {db : OperationsDb} (h : db.Sound) (f : AlertFact) :
    (db.Clash f ∧ ∃ e, db.insertEvent (.derived f) f = .error e) ∨
    (¬ db.Clash f ∧ (∃ e ∈ db.alertEvents, e.fact = f) ∧
      db.insertEvent (.derived f) f = .ok (true,db)) ∨
    (¬ db.Clash f ∧
      (∀ e ∈ db.alertEvents, e.fact.key = f.key → e.fact.observedAt ≠ f.observedAt) ∧
      db.insertEvent (.derived f) f =
        .ok (false,{ db with alertEvents := db.alertEvents ++ [⟨.derived f,f⟩] })) := by
  unfold OperationsDb.insertEvent
  cases hid : Keyed.find AlertEvent.eventId (.derived f) db.alertEvents with
  | some e =>
    have he := Keyed.find_mem hid
    have hfact : e.fact = f := by
      have hkey := Keyed.find_key hid
      rw [h.derived e he] at hkey
      exact AlertEventId.derived.inj hkey
    refine .inr (.inl ⟨?_,⟨e,he,hfact⟩,by simp [hfact]⟩)
    rintro ⟨e',he',hclash⟩
    exact h.unique e' he' e he (hfact ▸ hclash)
  | none =>
    have hnew : ∀ e ∈ db.alertEvents, e.fact ≠ f := by
      intro e he hfact
      have := Keyed.find_eq_none_iff.mp hid e he
      exact this (by rw [h.derived e he,hfact])
    cases hsame : db.alertEvents.find?
        (fun e => e.fact.key = f.key ∧ e.fact.observedAt = f.observedAt) with
    | some e =>
      have he := List.mem_of_find?_eq_some hsame
      have hat := List.find?_some hsame
      simp only [decide_eq_true_eq] at hat
      exact .inl ⟨⟨e,he,hat.1,hat.2,hnew e he⟩,.alertEventConflict _,by simp [hnew e he]; rfl⟩
    | none =>
      simp only [List.find?_eq_none,decide_eq_true_eq,not_and] at hsame
      refine .inr (.inr ⟨?_,hsame,rfl⟩)
      rintro ⟨e,he,hkey,hat,-⟩
      exact hsame e he hkey hat

/-- A new event, with the state that goes with it. -/
theorem Sound.post {db : OperationsDb} (h : db.Sound) {f : AlertFact}
    {states : List PersistedAlertState}
    (hnew : ∀ e ∈ db.alertEvents, e.fact.key = f.key → e.fact.observedAt ≠ f.observedAt)
    (hkept : ∀ key, (db.stateRow key).isSome = true →
      (Keyed.find PersistedAlertState.key key states).isSome = true)
    (hrows : ∀ row ∈ states, row.Displayable)
    (hshown : f.eventType = .active →
      (Keyed.find PersistedAlertState.key f.key states).isSome = true) :
    db.Posted f ⟨db.transitions,db.alertEvents ++ [⟨.derived f,f⟩],states⟩ where
  transitions := rfl
  news := by
    intro e he
    simp only [List.mem_append,List.mem_singleton] at he
    exact he.imp_right (fun h => by rw [h])
  kept := fun e he => List.mem_append_left _ he
  sound := {
    derived := by
      intro e he
      simp only [List.mem_append,List.mem_singleton] at he
      obtain he | rfl := he
      · exact h.derived e he
      · rfl
    unique := by
      intro e he e' he' hclash
      simp only [List.mem_append,List.mem_singleton] at he he'
      obtain he | rfl := he
      · obtain he' | rfl := he'
        · exact h.unique e he e' he' hclash
        · exact hnew e he hclash.1 hclash.2.1
      · obtain he' | rfl := he'
        · exact hnew e' he' hclash.1.symm hclash.2.1.symm
        · exact hclash.2.2 rfl
    shown := by
      intro e he hactive
      simp only [List.mem_append,List.mem_singleton] at he
      obtain he | rfl := he
      · exact hkept _ (h.shown e he hactive)
      · exact hshown hactive
    rows := hrows }

/-- The fact is not taken: there is nothing to read in it, its transaction does
not commit, or the journal has another one in its place. -/
def Refuses (disk : Disk) (db : OperationsDb) (f : AlertFact) : Prop :=
  f.detail.any (fun detail => !nonblank detail) = true ∨
    disk (.alert f.key f.eventType) ≠ none ∨ db.Clash f

theorem ne_empty_of_nonblank {s : String} (h : nonblank s = true) : s ≠ "" := by
  rintro rfl
  exact absurd h (by decide)

theorem stateRow_displayable {db : OperationsDb} (h : db.Sound) {key : String}
    {row : PersistedAlertState} (hrow : db.stateRow key = some row) :
    row.Displayable ∧ row.key = key :=
  ⟨h.rows row (Keyed.find_mem hrow),Keyed.find_key hrow⟩

theorem Sound.activeRow {db : OperationsDb} (h : db.Sound) {key severity detail : String}
    {observedAt : Int} (eventId : AlertEventId) (hkey : key ≠ "") (hdetail : detail ≠ "")
    (hseverity : severity ∈ ["WARNING","ERROR"])
    (hlate : (db.stateRow key).filter (fun state => observedAt < state.lastSeenAt) = none) :
    (db.activeRow eventId key severity detail observedAt).Displayable ∧
      (db.activeRow eventId key severity detail observedAt).key = key := by
  unfold OperationsDb.activeRow
  cases hrow : db.stateRow key with
  | none => exact ⟨⟨hseverity,hkey,hdetail,Int.le_refl _,by simp⟩,rfl⟩
  | some row =>
    rw [hrow] at hlate
    have hold := (stateRow_displayable h hrow).1
    have htimes := hold.times
    simp only [Option.filter_some,decide_eq_true_eq,ite_eq_right_iff,reduceCtorEq,imp_false] at hlate
    dsimp only
    split
    · exact ⟨⟨hseverity,hkey,hdetail,Int.le_refl _,by simp⟩,rfl⟩
    · exact ⟨⟨hseverity,hkey,hdetail,by simp only; omega,by simp⟩,rfl⟩

theorem Sound.putState_rows {db : OperationsDb} (h : db.Sound) {row : PersistedAlertState}
    (hrow : row.Displayable) : ∀ r ∈ (db.putState row).alertStates, r.Displayable := by
  intro r hr
  obtain rfl | hr := Keyed.mem_put hr
  · exact hrow
  · exact h.rows r hr

/-- A new event leaves the rows, and what is done to them, as they are. -/
theorem Sound.applyActive {db : OperationsDb} (h : db.Sound) {f : AlertFact}
    {severity detail : String} (hkey : f.key ≠ "") (hdetail : detail ≠ "")
    (hseverity : severity ∈ ["WARNING","ERROR"])
    (hnew : ∀ e ∈ db.alertEvents, e.fact.key = f.key → e.fact.observedAt ≠ f.observedAt) :
    ∃ row db', OperationsDb.applyActive
        { db with alertEvents := db.alertEvents ++ [⟨.derived f,f⟩] } false (.derived f) f.key
        severity detail f.observedAt = .ok (row,db') ∧
      db.Posted f db' ∧ row.Displayable ∧ row.key = f.key := by
  have hstate : ∀ events, OperationsDb.stateRow { db with alertEvents := events } f.key =
      db.stateRow f.key := fun _ => rfl
  have hactive : ∀ events, OperationsDb.activeRow { db with alertEvents := events } (.derived f)
      f.key severity detail f.observedAt =
        db.activeRow (.derived f) f.key severity detail f.observedAt := fun _ => rfl
  simp only [OperationsDb.applyActive,Bool.false_eq_true,if_false,hstate,hactive]
  cases hlate : (db.stateRow f.key).filter (fun state => f.observedAt < state.lastSeenAt) with
  | some row =>
    have hrow : db.stateRow f.key = some row := (Option.filter_eq_some_iff.mp hlate).1
    refine ⟨row,_,rfl,h.post hnew (fun _ hk => hk) h.rows (fun _ => ?_),stateRow_displayable h hrow⟩
    have hsome : (db.stateRow f.key).isSome = true := by simp [hrow]
    exact hsome
  | none =>
    have hrow := h.activeRow (.derived f) hkey hdetail hseverity hlate
    refine ⟨_,_,rfl,?_,hrow⟩
    refine h.post hnew (fun _ => stateRow_putState_isSome) (h.putState_rows hrow.1) fun _ => ?_
    have hself := stateRow_putState_self db
      (db.activeRow (.derived f) f.key severity detail f.observedAt)
    rw [hrow.2] at hself
    have hsome : ((db.putState (db.activeRow (.derived f) f.key severity detail
        f.observedAt)).stateRow f.key).isSome = true := by
      rw [hself]
      rfl
    exact hsome

theorem Sound.applyResolved {db : OperationsDb} (h : db.Sound) {f : AlertFact}
    (htype : f.eventType = .resolved)
    (hnew : ∀ e ∈ db.alertEvents, e.fact.key = f.key → e.fact.observedAt ≠ f.observedAt) :
    ∃ row? db', OperationsDb.applyResolved
        { db with alertEvents := db.alertEvents ++ [⟨.derived f,f⟩] } false (.derived f) f.key
        f.observedAt = (row?,db') ∧
      db.Posted f db' ∧ ∀ row ∈ row?, row.Displayable ∧ row.key = f.key := by
  have hstate : ∀ events, OperationsDb.stateRow { db with alertEvents := events } f.key =
      db.stateRow f.key := fun _ => rfl
  have hsame : db.Posted f { db with alertEvents := db.alertEvents ++ [⟨.derived f,f⟩] } :=
    h.post hnew (fun _ hk => hk) h.rows (by simp [htype])
  simp only [OperationsDb.applyResolved,Bool.false_eq_true,if_false,hstate]
  cases hrow : db.stateRow f.key with
  | none => exact ⟨none,_,rfl,hsame,by simp⟩
  | some row =>
    have hold := stateRow_displayable h hrow
    by_cases hlate : f.observedAt < row.lastSeenAt
    · exact ⟨some row,_,by simp [hlate],hsame,by simpa using hold⟩
    · have htimes := hold.1.times
      have hresolved : ({ row with
          status := .resolved,lastSeenAt := f.observedAt,resolvedAt := some f.observedAt,
          lastEventId := .derived f } : PersistedAlertState).Displayable :=
        ⟨hold.1.severity,hold.1.key,hold.1.detail,by simp only; omega,hold.1.occurrences⟩
      refine ⟨_,_,by simp only [hlate,if_false]; rfl,?_,by simpa using ⟨hresolved,hold.2⟩⟩
      exact h.post hnew (fun _ => stateRow_putState_isSome) (h.putState_rows hresolved)
        (by simp [htype])

theorem Sound.recordActive {db : OperationsDb} (h : db.Sound) (disk : Disk)
    {key severity detail source : String} {observedAt : Int} (hkey : nonblank key = true)
    (hsource : nonblank source = true) (hseverity : severity ∈ ["WARNING","ERROR"])
    {f : AlertFact} (hf : f = ⟨key,.active,some severity,some detail,observedAt,source⟩) :
    (db.Refuses disk f ∧
      ∃ e, db.recordActive disk key severity detail observedAt source none = .error e) ∨
    (¬ db.Refuses disk f ∧
      ∃ row db', db.recordActive disk key severity detail observedAt source none = .ok (row,db') ∧
        db.Posted f db' ∧ row.Displayable ∧ row.key = key) := by
  have hsev : nonblank severity = true := by
    simp only [List.mem_cons,List.not_mem_nil,or_false] at hseverity
    obtain rfl | rfl := hseverity <;> decide
  by_cases hdetail : nonblank detail = true
  swap
  · refine .inl ⟨.inl (by simpa [hf] using hdetail),.valueError "detail must be non-empty",?_⟩
    simp [OperationsDb.recordActive,requireNonempty,hkey,hsev,hdetail,bind,Except.bind]
  cases hdisk : disk (.alert key .active) with
  | some e =>
    refine .inl ⟨.inr (.inl (by simp [hf,hdisk])),e,?_⟩
    simp [OperationsDb.recordActive,requireNonempty,requireEventId,hkey,hsev,hdetail,hsource,hdisk,
      bind,Except.bind,throw,throwThe,MonadExceptOf.throw]
  | none =>
    have hrefuses : db.Refuses disk f ↔ db.Clash f := by
      simp [Refuses,hf,hdetail,hdisk]
    have hrecord : db.recordActive disk key severity detail observedAt source none =
        (db.insertEvent (.derived f) f).bind fun p =>
          p.2.applyActive p.1 (.derived f) key severity detail observedAt := by
      subst hf
      simp only [OperationsDb.recordActive,requireNonempty,requireEventId,hkey,hsev,hdetail,hsource,
        hdisk,if_true,bind,Except.bind,eventIdOf]
    rw [hrefuses,hrecord]
    obtain ⟨hclash,e,he⟩ | ⟨hclash,⟨e,he,hfact⟩,hins⟩ | ⟨hclash,hnew,hins⟩ := h.insertEvent f
    · exact .inl ⟨hclash,e,by rw [he]; rfl⟩
    · refine .inr ⟨hclash,?_⟩
      have hshown := h.shown e he (by rw [hfact,hf])
      rw [hfact,hf] at hshown
      obtain ⟨row,hrow⟩ := Option.isSome_iff_exists.mp hshown
      refine ⟨row,db,?_,Posted.duplicate h _,stateRow_displayable h hrow⟩
      rw [hins]
      simp [Except.bind,OperationsDb.applyActive,hrow]
    · refine .inr ⟨hclash,?_⟩
      rw [hins]
      subst hf
      exact h.applyActive (ne_empty_of_nonblank hkey) (ne_empty_of_nonblank hdetail) hseverity hnew

theorem Sound.recordResolved {db : OperationsDb} (h : db.Sound) (disk : Disk)
    {key source : String} {observedAt : Int} (hkey : nonblank key = true)
    (hsource : nonblank source = true)
    {f : AlertFact} (hf : f = ⟨key,.resolved,none,none,observedAt,source⟩) :
    (db.Refuses disk f ∧ ∃ e, db.recordResolved disk key observedAt source none = .error e) ∨
    (¬ db.Refuses disk f ∧
      ∃ row? db', db.recordResolved disk key observedAt source none = .ok (row?,db') ∧
        db.Posted f db' ∧ ∀ row ∈ row?, row.Displayable ∧ row.key = key) := by
  cases hdisk : disk (.alert key .resolved) with
  | some e =>
    refine .inl ⟨.inr (.inl (by simp [hf,hdisk])),e,?_⟩
    simp [OperationsDb.recordResolved,requireNonempty,requireEventId,hkey,hsource,hdisk,
      bind,Except.bind,throw,throwThe,MonadExceptOf.throw]
  | none =>
    have hrefuses : db.Refuses disk f ↔ db.Clash f := by
      simp [Refuses,hf,hdisk]
    have hrecord : db.recordResolved disk key observedAt source none =
        (db.insertEvent (.derived f) f).bind fun p =>
          .ok (p.2.applyResolved p.1 (.derived f) key observedAt) := by
      subst hf
      simp only [OperationsDb.recordResolved,requireNonempty,requireEventId,hkey,hsource,hdisk,
        if_true,bind,Except.bind,eventIdOf]
      rfl
    rw [hrefuses,hrecord]
    obtain ⟨hclash,e,he⟩ | ⟨hclash,⟨e,he,hfact⟩,hins⟩ | ⟨hclash,hnew,hins⟩ := h.insertEvent f
    · exact .inl ⟨hclash,e,by rw [he]; rfl⟩
    · refine .inr ⟨hclash,db.stateRow key,db,?_,Posted.duplicate h _,?_⟩
      · rw [hins]
        cases hrow : db.stateRow key <;> simp [Except.bind,OperationsDb.applyResolved,hrow]
      · intro row hrow
        exact stateRow_displayable h hrow
    · refine .inr ⟨hclash,?_⟩
      rw [hins]
      subst hf
      obtain ⟨row?,db',happly,hposted,hrow⟩ := h.applyResolved rfl hnew
      exact ⟨row?,db',congrArg Except.ok happly,hposted,hrow⟩

end OperationsDb

end BigQmt
