import BigQmt.AlertBoard
set_option autoImplicit false

/-!
The telemetry over a journal and the telemetry without one, call by call: the journal
holds what the other one keeps in memory.
-/

namespace BigQmt

/-- The alert a stored state puts on display. -/
def PersistedAlertState.shown (row : PersistedAlertState) : Option ActiveAlert :=
  if row.status = .active then row.alert.toOption else none

theorem ActiveAlert.build_eq {a b : ActiveAlert} (h : a.build = .ok b) : b = a := by
  unfold ActiveAlert.build at h
  split_ifs at h
  exact (Except.ok.inj h).symm

theorem PersistedAlertState.alert_eq {row : PersistedAlertState} {a : ActiveAlert}
    (h : row.alert = .ok a) :
    ∃ severity, AlertSeverity.ofValue row.severity = some severity ∧
      a = ⟨row.key,severity,row.detail,row.firstSeenAt,row.lastSeenAt,row.occurrences⟩ ∧
      a.build = .ok a := by
  unfold PersistedAlertState.alert at h
  cases hs : AlertSeverity.ofValue row.severity with
  | none => simp [hs] at h
  | some severity =>
    simp only [hs] at h
    have heq := ActiveAlert.build_eq h
    exact ⟨severity,rfl,heq,heq ▸ h⟩

/-- The source that posts an alert. -/
def alertSource (key : String) : String :=
  if key = "runtime:HALTED" then "mode"
  else if key ∈ ["execution:UNKNOWN","execution:MANUAL_REVIEW"] then "execution"
  else "health"

theorem nonblank_alertSource (key : String) : nonblank (alertSource key) = true := by
  unfold alertSource
  split
  · decide
  · split <;> decide

namespace OperationsDb

variable {db : OperationsDb} {key severity detail source : String} {observedAt : Int}

def logged (db : OperationsDb) (f : AlertFact) : OperationsDb :=
  { db with alertEvents := db.alertEvents ++ [⟨.derived f,f⟩] }

/-- Nothing is recorded for the alert at this instant, or later. -/
structure Later (db : OperationsDb) (key : String) (observedAt : Int) : Prop where
  events : ∀ e ∈ db.alertEvents, e.fact.key = key → e.fact.observedAt ≠ observedAt
  row : ∀ row, db.stateRow key = some row → row.lastSeenAt ≤ observedAt

theorem Sound.insertEvent_later (h : db.Sound) {f : AlertFact} (hl : db.Later f.key f.observedAt) :
    db.insertEvent (.derived f) f = .ok (false,db.logged f) := by
  obtain ⟨⟨e,he,hc⟩,-⟩ | ⟨-,⟨e,he,hf⟩,-⟩ | ⟨-,-,hins⟩ := h.insertEvent f
  · exact absurd hc.2.1 (hl.events e he hc.1)
  · exact absurd (by rw [hf]) (hl.events e he (by rw [hf]))
  · exact hins

theorem filter_stateRow_later (hl : db.Later key observedAt) :
    (db.stateRow key).filter (fun state => observedAt < state.lastSeenAt) = none := by
  cases hrow : db.stateRow key with
  | none => rfl
  | some row =>
    have hle := hl.row row hrow
    simp [Option.filter_some]
    omega

theorem Sound.recordActive_later (h : db.Sound) (hkey : nonblank key = true)
    (hseverity : nonblank severity = true) (hdetail : nonblank detail = true)
    (hsource : nonblank source = true) (hl : db.Later key observedAt) {f : AlertFact}
    (hf : f = ⟨key,.active,some severity,some detail,observedAt,source⟩) :
    db.recordActive Disk.healthy key severity detail observedAt source none =
      .ok (db.activeRow (.derived f) key severity detail observedAt,
        (db.logged f).putState (db.activeRow (.derived f) key severity detail observedAt)) := by
  have hins := h.insertEvent_later (f := f) (by rw [hf]; exact hl)
  have hlate := filter_stateRow_later hl
  have hstate : (db.logged f).stateRow key = db.stateRow key := rfl
  have hactive : (db.logged f).activeRow (.derived f) key severity detail observedAt =
      db.activeRow (.derived f) key severity detail observedAt := rfl
  subst hf
  simp only [OperationsDb.recordActive,requireNonempty,requireEventId,eventIdOf,Disk.healthy,hkey,
    hseverity,hdetail,hsource,if_true,bind,Except.bind,hins,OperationsDb.applyActive,
    Bool.false_eq_true,if_false,hstate,
    hlate,hactive]

theorem activeRow_active {eventId : AlertEventId} :
    (db.activeRow eventId key severity detail observedAt).status = .active ∧
      (db.activeRow eventId key severity detail observedAt).lastSeenAt = observedAt := by
  unfold activeRow
  cases db.stateRow key with
  | none => exact ⟨rfl,rfl⟩
  | some row =>
    dsimp only
    split <;> exact ⟨rfl,rfl⟩

/-- `record_resolved` on a stored state. -/
def resolvedRow (row : PersistedAlertState) (f : AlertFact) : PersistedAlertState :=
  { row with
    status := .resolved,lastSeenAt := f.observedAt,resolvedAt := some f.observedAt,
    lastEventId := .derived f }

theorem Sound.recordResolved_later (h : db.Sound) (hkey : nonblank key = true)
    (hsource : nonblank source = true) (hl : db.Later key observedAt) {f : AlertFact}
    (hf : f = ⟨key,.resolved,none,none,observedAt,source⟩) :
    db.recordResolved Disk.healthy key observedAt source none =
      .ok (match db.stateRow key with
        | none => (none,db.logged f)
        | some row => (some (resolvedRow row f),(db.logged f).putState (resolvedRow row f))) := by
  have hins := h.insertEvent_later (f := f) (by rw [hf]; exact hl)
  have hstate : (db.logged f).stateRow key = db.stateRow key := rfl
  subst hf
  simp only [OperationsDb.recordResolved,requireNonempty,requireEventId,eventIdOf,Disk.healthy,
    hkey,hsource,if_true,bind,Except.bind,hins,OperationsDb.applyResolved,Bool.false_eq_true,
    if_false,hstate]
  cases hrow : db.stateRow key with
  | none => rfl
  | some row =>
    have hle : ¬ observedAt < row.lastSeenAt := by
      have := hl.row row hrow
      omega
    simp only [hle,if_false]
    rfl

/-- The same resolution once more. -/
theorem Sound.recordResolved_again (h : db.Sound) (hkey : nonblank key = true)
    (hsource : nonblank source = true)
    (hevent : ∃ e ∈ db.alertEvents, e.fact = ⟨key,.resolved,none,none,observedAt,source⟩) :
    db.recordResolved Disk.healthy key observedAt source none = .ok (db.stateRow key,db) := by
  obtain ⟨e,he,hf⟩ := hevent
  have hins : db.insertEvent (.derived e.fact) e.fact = .ok (true,db) := by
    obtain ⟨⟨e',he',hc⟩,-⟩ | ⟨-,-,hins⟩ | ⟨-,hnew,-⟩ := h.insertEvent e.fact
    · exact absurd hc (h.unique e' he' e he)
    · exact hins
    · exact absurd rfl (hnew e he rfl)
  rw [hf] at hins
  simp only [OperationsDb.recordResolved,requireNonempty,requireEventId,eventIdOf,Disk.healthy,
    hkey,hsource,if_true,bind,Except.bind,hins,OperationsDb.applyResolved]
  cases db.stateRow key <;> rfl

end OperationsDb

namespace OperationsTelemetry

variable {t : OperationsTelemetry} {a : ActiveAlert} {key k : String}

@[simp] theorem find_put_self : (t.put a).find a.key = some a := Keyed.find_put_self

theorem find_put_ne (h : k ≠ a.key) : (t.put a).find k = t.find k := Keyed.find_put_ne h

@[simp] theorem find_pop_self : (t.pop key).find key = none := by
  simp [find,pop,Keyed.find]

theorem find_pop_ne (h : k ≠ key) : (t.pop key).find k = t.find k := by
  simp only [find,pop,Keyed.find,List.find?_filter]
  congr 1
  funext a
  by_cases ha : a.key = k
  · simp [ha,h]
  · simp [ha]

variable {s : RuntimeServices} {detail source : String} {observedAt : Int}

theorem upsert_stored (hj : s.telemetry.journaled = true) {row : PersistedAlertState}
    {db : OperationsDb}
    (hrecord : s.db.recordActive Disk.healthy key "ERROR" detail observedAt source none =
      .ok (row,db)) (hactive : row.status = .active) (halert : row.alert = .ok a) :
    upsert Disk.healthy key .error detail observedAt source s =
      .ok () { s with db := db,telemetry := s.telemetry.put a } := by
  have hvalue : AlertSeverity.error.value = "ERROR" := rfl
  unfold upsert
  rw [Ops.get_bind,if_pos hj,hvalue,Ops.bind_apply,Ops.journal_ok hrecord]
  dsimp only
  rw [if_pos hactive]
  simp [display,halert]

theorem upsert_kept (hj : s.telemetry.journaled = false)
    (hrefreshed : s.telemetry.refreshed key .error detail observedAt = some a)
    (hbuild : a.build = .ok a) :
    upsert Disk.healthy key .error detail observedAt source s =
      .ok () { s with telemetry := s.telemetry.put a } := by
  unfold upsert
  rw [Ops.get_bind,hj]
  simp [hrefreshed,hbuild]

theorem resolve_stored (hj : s.telemetry.journaled = true) {row? : Option PersistedAlertState}
    {db : OperationsDb}
    (hrecord : s.db.recordResolved Disk.healthy key observedAt source none = .ok (row?,db))
    (hrow : row?.filter (fun row => row.status = .active) = none) :
    resolve Disk.healthy key observedAt source s =
      .ok () { s with db := db,telemetry := s.telemetry.pop key } := by
  unfold resolve
  rw [Ops.get_bind,if_pos hj,Ops.bind_apply,Ops.journal_ok hrecord]
  dsimp only
  rw [hrow]
  rfl

theorem resolve_kept (hj : s.telemetry.journaled = false) :
    resolve Disk.healthy key observedAt source s =
      .ok () { s with telemetry := s.telemetry.pop key } := by
  unfold resolve
  rw [Ops.get_bind,hj]
  rfl

/-- Everything but the alerts. -/
def marks (t : OperationsTelemetry) : OperationsTelemetry := { t with alerts := [] }

end OperationsTelemetry

/-- `s` has the journal and `m` has none: the alerts and the marks are the same, the
journal's rows are the alerts on display, and the stamps are those of the last posts. -/
structure Mirrors (rest : OperationsTelemetry) (stamps : AlertStamps) (s m : RuntimeServices) :
    Prop where
  rest : s.telemetry.marks = rest
  journaled : s.telemetry.journaled = true
  same : m.telemetry = { s.telemetry with journaled := false }
  sound : s.db.Sound
  display : ∀ key, s.telemetry.find key = (s.db.stateRow key).bind PersistedAlertState.shown
  shown : ∀ key, (s.telemetry.find key).isSome = stamps.shown key
  rows : ∀ key row, s.db.stateRow key = some row →
    ∃ stamp, stamps key = some stamp ∧ row.lastSeenAt ≤ stamp.observedAt
  events : ∀ e ∈ s.db.alertEvents, ∃ stamp, stamps e.fact.key = some stamp ∧
    e.fact.observedAt ≤ stamp.observedAt ∧
    (e.fact.observedAt = stamp.observedAt → stamp.raised = false →
      e.fact = .cleared e.fact.key (alertSource e.fact.key) stamp.observedAt)

namespace Mirrors

variable {rest : OperationsTelemetry} {stamps : AlertStamps} {s m : RuntimeServices}
  {key detail : String} {observedAt : Int}

/-- A post about one alert. -/
theorem update (h : Mirrors rest stamps s m) {db : OperationsDb} {t : OperationsTelemetry}
    {stamp : AlertStamp} (hmarks : t.marks = s.telemetry.marks) (hsound : db.Sound)
    (hlast : ∀ old ∈ stamps key, old.observedAt ≤ stamp.observedAt)
    (hothers : ∀ k, k ≠ key → t.find k = s.telemetry.find k ∧ db.stateRow k = s.db.stateRow k)
    (hself : t.find key = (db.stateRow key).bind PersistedAlertState.shown)
    (hshown : (t.find key).isSome = stamp.raised)
    (hrow : ∀ row, db.stateRow key = some row → row.lastSeenAt ≤ stamp.observedAt)
    (hnews : ∀ e ∈ db.alertEvents, e ∈ s.db.alertEvents ∨
      (e.fact.key = key ∧ e.fact.observedAt = stamp.observedAt))
    (hcleared : stamp.raised = false → ∀ e ∈ db.alertEvents, e.fact.key = key →
      e.fact.observedAt = stamp.observedAt →
        e.fact = .cleared key (alertSource key) stamp.observedAt) :
    Mirrors rest (stamps.mark [key] stamp) { s with db := db,telemetry := t }
      { m with telemetry := { t with journaled := false } } where
  rest := hmarks.trans h.rest
  journaled := (congrArg OperationsTelemetry.journaled hmarks).trans h.journaled
  same := rfl
  sound := hsound
  display := by
    intro k
    by_cases hk : k = key
    · rw [hk]
      exact hself
    · rw [(hothers k hk).1,(hothers k hk).2]
      exact h.display k
  shown := by
    intro k
    by_cases hk : k = key
    · simp [hk,AlertStamps.shown,AlertStamps.mark,hshown]
    · rw [(hothers k hk).1]
      simpa [AlertStamps.shown,AlertStamps.mark,hk] using h.shown k
  rows := by
    intro k row hk
    by_cases heq : k = key
    · subst heq
      exact ⟨stamp,by simp [AlertStamps.mark],hrow row hk⟩
    · rw [(hothers k heq).2] at hk
      simpa [AlertStamps.mark,heq] using h.rows k row hk
  events := by
    intro e he
    by_cases hk : e.fact.key = key
    · refine ⟨stamp,by simp [AlertStamps.mark,hk],?_,?_⟩
      · obtain hold | hnew := hnews e he
        · obtain ⟨old,hstamp,hle,-⟩ := h.events e hold
          rw [hk] at hstamp
          have := hlast old hstamp
          omega
        · omega
      · intro hat hr
        rw [hk]
        exact hcleared hr e he hk hat
    · obtain hold | hnew := hnews e he
      · simpa [AlertStamps.mark,hk] using h.events e hold
      · exact absurd hnew.1 hk

/-- Nothing posted of the alert reaches the instant. -/
theorem later (h : Mirrors rest stamps s m)
    (hfresh : ∀ stamp ∈ stamps key, stamp.observedAt < observedAt) :
    s.db.Later key observedAt where
  events := by
    intro e he hk
    obtain ⟨stamp,hstamp,hle,-⟩ := h.events e he
    have := hfresh stamp (hk ▸ hstamp)
    omega
  row := by
    intro row hrow
    obtain ⟨stamp,hstamp,hle⟩ := h.rows key row hrow
    have := hfresh stamp hstamp
    omega

/-- An alert on display is the one of its active row. -/
theorem active_row (h : Mirrors rest stamps s m) {row : PersistedAlertState}
    (hrow : s.db.stateRow key = some row) :
    (row.status = .active ∧ ∃ a, row.alert = .ok a ∧ s.telemetry.find key = some a) ∨
      (row.status = .resolved ∧ s.telemetry.find key = none) := by
  have hdisplay := h.display key
  obtain ⟨a,ha,-⟩ := (OperationsDb.stateRow_displayable h.sound hrow).1.alert
  rw [hrow] at hdisplay
  cases hstatus : row.status with
  | active =>
    refine .inl ⟨rfl,a,ha,?_⟩
    simpa [PersistedAlertState.shown,hstatus,ha,Except.toOption] using hdisplay
  | resolved => exact .inr ⟨rfl,by simpa [PersistedAlertState.shown,hstatus] using hdisplay⟩

theorem shown_last (h : Mirrors rest stamps s m) {a : ActiveAlert}
    (hfind : s.telemetry.find key = some a) :
    ∃ stamp, stamps key = some stamp ∧ a.lastSeenAt ≤ stamp.observedAt := by
  have hdisplay := h.display key
  rw [hfind] at hdisplay
  cases hrow : s.db.stateRow key with
  | none =>
    rw [hrow] at hdisplay
    cases hdisplay
  | some row =>
    obtain ⟨-,old,hold,hsome⟩ | ⟨-,hnone⟩ := h.active_row hrow
    · rw [hfind] at hsome
      cases hsome
      obtain ⟨_,_,heq,_⟩ := PersistedAlertState.alert_eq hold
      rw [heq]
      exact h.rows key row hrow
    · rw [hfind] at hnone
      cases hnone

theorem find_eq (h : Mirrors rest stamps s m) (key : String) :
    m.telemetry.find key = s.telemetry.find key := by
  rw [h.same]
  rfl

/-- The row the journal writes shows what the other telemetry puts on display. -/
theorem activeRow_alert (h : Mirrors rest stamps s m) (eventId : AlertEventId)
    (hkey : nonblank key = true) (hdetail : nonblank detail = true)
    (hl : s.db.Later key observedAt) :
    ∃ a, (s.db.activeRow eventId key "ERROR" detail observedAt).alert = .ok a ∧
      m.telemetry.refreshed key .error detail observedAt = some a ∧ a.build = .ok a ∧
      a.key = key ∧ (s.db.activeRow eventId key "ERROR" detail observedAt).key = key := by
  have hrow : (s.db.activeRow eventId key "ERROR" detail observedAt).Displayable ∧
      (s.db.activeRow eventId key "ERROR" detail observedAt).key = key :=
    h.sound.activeRow eventId (OperationsDb.ne_empty_of_nonblank hkey)
      (OperationsDb.ne_empty_of_nonblank hdetail) (by simp) (OperationsDb.filter_stateRow_later hl)
  obtain ⟨a,ha,hak,-⟩ := hrow.1.alert
  obtain ⟨severity,hseverity,heq,hbuild⟩ := PersistedAlertState.alert_eq ha
  refine ⟨a,ha,?_,hbuild,hak.trans hrow.2,hrow.2⟩
  have herror : AlertSeverity.ofValue "ERROR" = some severity → severity = .error := fun hs =>
    Option.some.inj (hs.symm.trans (AlertSeverity.ofValue_value .error))
  unfold OperationsTelemetry.refreshed
  rw [h.find_eq key]
  unfold OperationsDb.activeRow at hseverity heq
  cases hstate : s.db.stateRow key with
  | none =>
    have hnone : s.telemetry.find key = none := by rw [h.display key,hstate]; rfl
    simp only [hstate] at hseverity heq
    rw [hnone,heq,herror hseverity]
  | some row =>
    have hle := hl.row row hstate
    obtain ⟨hstatus,old,hold,hfind⟩ | ⟨hstatus,hfind⟩ := h.active_row hstate
    · obtain ⟨_,_,holdeq,_⟩ := PersistedAlertState.alert_eq hold
      have hlate : ¬ observedAt < row.lastSeenAt := by omega
      simp only [hstate,hstatus,reduceCtorEq,if_false] at hseverity heq
      simp only [hfind,heq,herror hseverity,holdeq,hlate,if_false]
    · simp only [hstate,hstatus,if_true] at hseverity heq
      rw [hfind,heq,herror hseverity]

theorem upsert (h : Mirrors rest stamps s m) {E : RuntimeServices → RuntimeServices → Prop}
    {source : String} (hsource : alertSource key = source)
    (hkey : nonblank key = true) (hdetail : nonblank detail = true)
    (hfresh : ∀ stamp ∈ stamps key, stamp.observedAt < observedAt) :
    Lockstep (Mirrors rest (stamps.mark [key] ⟨observedAt,true⟩)) E
      (OperationsTelemetry.upsert Disk.healthy key .error detail observedAt source s)
      (OperationsTelemetry.upsert Disk.healthy key .error detail observedAt source m) := by
  subst hsource
  have hl := h.later hfresh
  generalize hf : AlertFact.mk key .active (some "ERROR") (some detail) observedAt
    (alertSource key) = f
  obtain ⟨a,halert,hrefreshed,hbuild,hakey,hrowkey⟩ :=
    h.activeRow_alert (.derived f) hkey hdetail hl
  have hrecord : s.db.recordActive Disk.healthy key "ERROR" detail observedAt (alertSource key)
      none = .ok (s.db.activeRow (.derived f) key "ERROR" detail observedAt,
        (s.db.logged f).putState (s.db.activeRow (.derived f) key "ERROR" detail observedAt)) :=
    h.sound.recordActive_later hkey (by decide) hdetail (nonblank_alertSource key) hl hf.symm
  have hactive : (s.db.activeRow (.derived f) key "ERROR" detail observedAt).status = .active ∧
      (s.db.activeRow (.derived f) key "ERROR" detail observedAt).lastSeenAt = observedAt :=
    OperationsDb.activeRow_active
  generalize s.db.activeRow (.derived f) key "ERROR" detail observedAt = row at *
  have hposted : s.db.Posted f ((s.db.logged f).putState row) := by
    obtain ⟨_,e,he⟩ | ⟨_,row',db',hrec,hp,_⟩ := h.sound.recordActive Disk.healthy hkey
      (nonblank_alertSource key) (by simp) hf.symm
    · rw [hrecord] at he
      cases he
    · rw [hrecord] at hrec
      cases hrec
      exact hp
  have hput : m.telemetry.put a = { s.telemetry.put a with journaled := false } := by
    rw [h.same]
    rfl
  rw [OperationsTelemetry.upsert_stored h.journaled hrecord hactive.1 halert,
    OperationsTelemetry.upsert_kept (by rw [h.same]) hrefreshed hbuild,hput]
  have hself : ((s.db.logged f).putState row).stateRow key = some row := by
    rw [← hrowkey]
    exact OperationsDb.stateRow_putState_self _ row
  refine .ok (h.update rfl hposted.sound ?_ ?_ ?_ ?_ ?_ ?_ ?_)
  · intro old hold
    have := hfresh old hold
    dsimp only
    omega
  · intro k hk
    exact ⟨OperationsTelemetry.find_put_ne (hakey ▸ hk),Keyed.find_put_ne (hrowkey ▸ hk)⟩
  · have hfind : (s.telemetry.put a).find key = some a := by
      rw [← hakey]
      exact OperationsTelemetry.find_put_self
    rw [hself,hfind]
    simp [PersistedAlertState.shown,hactive.1,halert,Except.toOption]
  · have hfind : (s.telemetry.put a).find key = some a := by
      rw [← hakey]
      exact OperationsTelemetry.find_put_self
    rw [hfind]
    rfl
  · intro r hr
    rw [hself] at hr
    cases hr
    exact Int.le_of_eq hactive.2
  · intro e he
    exact (hposted.news e he).imp_right fun hfact => by rw [hfact,← hf]; exact ⟨rfl,rfl⟩
  · intro hr
    cases hr

/-- What the journal makes of a resolution: the alert it leaves is not on display. -/
theorem resolved_row (h : Mirrors rest stamps s m) (hkey : nonblank key = true)
    (hlast : ∀ stamp ∈ stamps key, stamp.observedAt ≤ observedAt ∧
      (stamp.observedAt = observedAt → stamp.raised = false)) :
    ∃ row? db, s.db.recordResolved Disk.healthy key observedAt (alertSource key) none =
        .ok (row?,db) ∧
      row?.filter (fun row => row.status = .active) = none ∧
      (db.stateRow key).bind PersistedAlertState.shown = none ∧
      (∀ k, k ≠ key → db.stateRow k = s.db.stateRow k) ∧
      ∀ row, db.stateRow key = some row → row.lastSeenAt ≤ observedAt := by
  have hrows : ∀ row, s.db.stateRow key = some row → row.lastSeenAt ≤ observedAt := by
    intro row hrow
    obtain ⟨stamp,hstamp,hle⟩ := h.rows key row hrow
    have := (hlast stamp hstamp).1
    omega
  by_cases hevent : ∃ e ∈ s.db.alertEvents, e.fact.key = key ∧ e.fact.observedAt = observedAt
  · obtain ⟨e,he,hk,hat⟩ := hevent
    obtain ⟨stamp,hstamp,hle,hcleared⟩ := h.events e he
    rw [hk] at hstamp hcleared
    have hl := hlast stamp hstamp
    have hsame : stamp.observedAt = observedAt := by omega
    have hraised := hl.2 hsame
    have hfind : s.telemetry.find key = none := by
      have := h.shown key
      simpa [AlertStamps.shown,hstamp,hraised] using this
    have hfact := hcleared (by omega) hraised
    rw [hsame] at hfact
    refine ⟨_,_,h.sound.recordResolved_again hkey (nonblank_alertSource key) ⟨e,he,hfact⟩,?_,?_,
      fun _ _ => rfl,hrows⟩
    · cases hrow : s.db.stateRow key with
      | none => rfl
      | some row =>
        obtain ⟨-,a,-,hsome⟩ | ⟨hstatus,-⟩ := h.active_row hrow
        · rw [hfind] at hsome
          cases hsome
        · simp [Option.filter_some,hstatus]
    · rw [← h.display key]
      exact hfind
  · have hl : s.db.Later key observedAt := by
      refine ⟨fun e he hk hat => hevent ⟨e,he,hk,hat⟩,hrows⟩
    have hrecord := h.sound.recordResolved_later hkey (nonblank_alertSource key) hl rfl
    cases hrow : s.db.stateRow key with
    | none =>
      rw [hrow] at hrecord
      refine ⟨_,_,hrecord,rfl,?_,fun _ _ => rfl,hrows⟩
      have hstate : ∀ f, (s.db.logged f).stateRow key = s.db.stateRow key := fun _ => rfl
      rw [hstate,hrow]
      rfl
    | some row =>
      rw [hrow] at hrecord
      have hrowkey : row.key = key := (OperationsDb.stateRow_displayable h.sound hrow).2
      have hself : ∀ f, ((s.db.logged f).putState (OperationsDb.resolvedRow row f)).stateRow key =
          some (OperationsDb.resolvedRow row f) := by
        intro f
        have := OperationsDb.stateRow_putState_self (s.db.logged f) (OperationsDb.resolvedRow row f)
        exact hrowkey ▸ this
      refine ⟨_,_,hrecord,by simp [Option.filter_some,OperationsDb.resolvedRow],?_,?_,?_⟩
      · rw [hself]
        simp [PersistedAlertState.shown,OperationsDb.resolvedRow]
      · intro k hk
        exact Keyed.find_put_ne (hrowkey ▸ hk)
      · intro row' hrow'
        rw [hself] at hrow'
        cases hrow'
        exact Int.le_refl _

theorem resolve (h : Mirrors rest stamps s m) {E : RuntimeServices → RuntimeServices → Prop}
    {source : String} (hsource : alertSource key = source) (hkey : nonblank key = true)
    (hlast : ∀ stamp ∈ stamps key, stamp.observedAt ≤ observedAt ∧
      (stamp.observedAt = observedAt → stamp.raised = false)) :
    Lockstep (Mirrors rest (stamps.mark [key] ⟨observedAt,false⟩)) E
      (OperationsTelemetry.resolve Disk.healthy key observedAt source s)
      (OperationsTelemetry.resolve Disk.healthy key observedAt source m) := by
  subst hsource
  obtain ⟨row?,db,hrecord,hrow,hshown,hothers,hle⟩ := h.resolved_row hkey hlast
  have hposted : s.db.Posted (.cleared key (alertSource key) observedAt) db := by
    obtain ⟨_,e,he⟩ | ⟨_,_,db',hrec,hp,_⟩ := h.sound.recordResolved Disk.healthy hkey
      (nonblank_alertSource key) rfl
    · rw [hrecord] at he
      cases he
    · rw [hrecord] at hrec
      cases hrec
      exact hp
  have hpop : m.telemetry.pop key = { s.telemetry.pop key with journaled := false } := by
    rw [h.same]
    rfl
  rw [OperationsTelemetry.resolve_stored h.journaled hrecord hrow,
    OperationsTelemetry.resolve_kept (by rw [h.same]),hpop]
  refine .ok (h.update rfl hposted.sound (fun old hold => (hlast old hold).1) ?_ ?_ ?_ hle ?_ ?_)
  · intro k hk
    exact ⟨OperationsTelemetry.find_pop_ne hk,hothers k hk⟩
  · rw [hshown]
    exact OperationsTelemetry.find_pop_self
  · rw [OperationsTelemetry.find_pop_self]
    rfl
  · intro e he
    exact (hposted.news e he).imp_right fun hfact => by rw [hfact]; exact ⟨rfl,rfl⟩
  · intro _ e he hk hat
    obtain hold | hfact := hposted.news e he
    · obtain ⟨stamp,hstamp,hle',hcleared⟩ := h.events e hold
      rw [hk] at hstamp hcleared
      have hl := hlast stamp hstamp
      dsimp only at hat
      have hsame : stamp.observedAt = observedAt := by omega
      rw [hcleared (by omega) (hl.2 hsame),hsame]
    · exact hfact

/-- Without a reason both raise, and nothing moves. -/
theorem upsert_refused (h : Mirrors rest stamps s m) {Q : RuntimeServices → RuntimeServices → Prop}
    {source : String} (hkey : nonblank key = true)
    (hlast : ∀ stamp ∈ stamps key, stamp.observedAt ≤ observedAt) :
    Lockstep Q (Mirrors rest stamps)
      (OperationsTelemetry.upsert Disk.healthy key .error "" observedAt source s)
      (OperationsTelemetry.upsert Disk.healthy key .error "" observedAt source m) := by
  have hrecord : s.db.recordActive Disk.healthy key AlertSeverity.error.value "" observedAt source
      none = .error (.valueError "detail must be non-empty") := by
    have hseverity : nonblank AlertSeverity.error.value = true := by decide
    have hdetail : nonblank "" = false := by decide
    simp [OperationsDb.recordActive,OperationsDb.requireNonempty,hkey,hseverity,hdetail,
      bind,Except.bind]
  have hs : OperationsTelemetry.upsert Disk.healthy key .error "" observedAt source s =
      .error (.valueError "detail must be non-empty") s := by
    unfold OperationsTelemetry.upsert
    rw [Ops.get_bind,if_pos h.journaled,Ops.bind_apply,Ops.journal_error hrecord]
  have hm : OperationsTelemetry.upsert Disk.healthy key .error "" observedAt source m =
      .error (.valueError "detail must be non-empty") m := by
    have hmemory : m.telemetry.journaled = false := by rw [h.same]
    have hne := OperationsDb.ne_empty_of_nonblank hkey
    unfold OperationsTelemetry.upsert OperationsTelemetry.refreshed
    rw [Ops.get_bind,hmemory,h.find_eq key]
    cases hfind : s.telemetry.find key with
    | none => simp [ActiveAlert.build,hne,Ops.bind_apply]
    | some current =>
      obtain ⟨stamp,hstamp,hle⟩ := h.shown_last hfind
      have hlate : ¬ observedAt < current.lastSeenAt := by
        have := hlast stamp hstamp
        omega
      simp [ActiveAlert.build,hne,hlate,Ops.bind_apply]
  rw [hs,hm]
  exact .error h

end Mirrors

end BigQmt
