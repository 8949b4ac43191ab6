import BigQmt.HealthHalt
set_option autoImplicit false

/-!
A cycle of the supervisor over a journal that halts the runtime: the journal has
taken the resolution of `runtime:HALTED` for that instant, and refuses the alert.
-/

namespace BigQmt

namespace OperationsDb

theorem insertEvent_recorded {db db' : OperationsDb} {eventId : AlertEventId} {f : AlertFact}
    {duplicate : Bool} (h : db.insertEvent eventId f = .ok (duplicate,db')) :
    ∃ e ∈ db'.alertEvents, e.fact = f := by
  unfold insertEvent at h
  cases hid : Keyed.find AlertEvent.eventId eventId db.alertEvents with
  | some e =>
    simp only [hid] at h
    split_ifs at h with hfact
    cases h
    exact ⟨e,Keyed.find_mem hid,by simpa using hfact⟩
  | none =>
    simp only [hid] at h
    cases hsame : db.alertEvents.find?
        (fun e => e.fact.key = f.key ∧ e.fact.observedAt = f.observedAt) with
    | some e =>
      simp only [hsame] at h
      split_ifs at h with hfact
      cases h
      exact ⟨e,List.mem_of_find?_eq_some hsame,by simpa using hfact⟩
    | none =>
      simp only [hsame] at h
      cases h
      exact ⟨_,List.mem_append_right _ (List.mem_singleton_self _),rfl⟩

theorem applyResolved_events (db : OperationsDb) (duplicate : Bool) (eventId : AlertEventId)
    (key : String) (observedAt : Int) :
    (db.applyResolved duplicate eventId key observedAt).2.alertEvents = db.alertEvents := by
  unfold applyResolved
  split
  · rfl
  · split_ifs <;> rfl

theorem recordResolved_recorded {db db' : OperationsDb} {disk : Disk} {key source : String}
    {observedAt : Int} {row : Option PersistedAlertState}
    (h : db.recordResolved disk key observedAt source none = .ok (row,db')) :
    ∃ e ∈ db'.alertEvents, e.fact = .cleared key source observedAt := by
  obtain ⟨duplicate,db₁,hins,happly⟩ := recordResolved_ok h
  have hevents := db₁.applyResolved_events duplicate
    (eventIdOf none (.cleared key source observedAt)) key observedAt
  obtain ⟨e,he,hfact⟩ := insertEvent_recorded hins
  have hdb : db' = (db₁.applyResolved duplicate
    (eventIdOf none (.cleared key source observedAt)) key observedAt).2 := congrArg Prod.snd happly
  exact ⟨e,by rw [hdb,hevents]; exact he,hfact⟩

end OperationsDb

namespace OperationsTelemetry

open RuntimeServices

/-- What goes on display leaves the tables alone. -/
theorem display_db {row : PersistedAlertState} {s s' : RuntimeServices}
    (h : display row s = .ok () s') : s'.db = s.db := by
  unfold display at h
  cases ha : row.alert with
  | error e => simp [ha,Ops.bind_apply] at h
  | ok a =>
    simp only [ha,Ops.ofExcept_ok,Ops.pure_bind_apply,Ops.telemetry_apply] at h
    cases h
    rfl

theorem resolve_recorded {disk : Disk} {key source : String} {observedAt : Int}
    {s s' : RuntimeServices} (hj : s.telemetry.journaled = true)
    (h : resolve disk key observedAt source s = .ok () s') :
    ∃ e ∈ s'.db.alertEvents, e.fact = .cleared key source observedAt := by
  unfold resolve at h
  rw [Ops.get_bind,if_pos hj,Ops.bind_apply] at h
  cases hw : s.db.recordResolved disk key observedAt source none with
  | error e => simp [Ops.journal_error hw] at h
  | ok p =>
    obtain ⟨row,db⟩ := p
    obtain ⟨e,he,hfact⟩ := OperationsDb.recordResolved_recorded hw
    rw [Ops.journal_ok hw] at h
    dsimp only at h
    cases hrow : row.filter (fun row => row.status = .active) with
    | some row =>
      rw [hrow] at h
      have hdb := display_db h
      exact ⟨e,by rw [hdb]; exact he,hfact⟩
    | none =>
      simp only [hrow,Ops.telemetry_apply] at h
      cases h
      exact ⟨e,he,hfact⟩

/-- The synchronization of a mode other than HALTED, as it stands in the journal. -/
theorem syncMode_recorded {disk : Disk} {mode : RuntimeMode} {now : Int} {s s' : RuntimeServices}
    (hj : s.telemetry.journaled = true) (hlate : late s.telemetry.lastModeSync now = false)
    (hmode : mode ≠ .halted) (h : syncMode disk mode now s = .ok () s') :
    s'.telemetry.lastModeSync = some now ∧
      ∃ e ∈ s'.db.alertEvents, e.fact = .cleared "runtime:HALTED" "mode" now := by
  unfold syncMode at h
  rw [Ops.get_bind,if_neg (by simp [hlate]),Ops.telemetry_bind,if_neg hmode] at h
  have hmarks := resolve_marks disk "runtime:HALTED" now "mode"
    { s with telemetry := { s.telemetry with lastModeSync := some now,mode := mode } }
  rw [Ops.leaves_ok h] at hmarks
  refine ⟨hmarks.1,resolve_recorded ?_ h⟩
  exact hj

theorem syncCount_marks (disk : Disk) (key : String) (count : Int) (detail : String)
    (observedAt : Int) : Ops.Keeps SameMarks (syncCount disk key count detail observedAt) := by
  unfold syncCount
  split
  · exact upsert_marks disk _ _ _ _ _
  · exact resolve_marks disk _ _ _

theorem syncExecutionAmbiguity_modeMark (disk : Disk) (unknown manual observedAt : Int) :
    Ops.Keeps (fun s s' : RuntimeServices =>
      s'.telemetry.lastModeSync = s.telemetry.lastModeSync)
      (syncExecutionAmbiguity disk unknown manual observedAt) := by
  have htrans : ∀ {a b c : RuntimeServices},
      b.telemetry.lastModeSync = a.telemetry.lastModeSync →
      c.telemetry.lastModeSync = b.telemetry.lastModeSync →
      c.telemetry.lastModeSync = a.telemetry.lastModeSync := fun h h' => h'.trans h
  have hcount : ∀ name value, Ops.Keeps (fun s s' : RuntimeServices =>
      s'.telemetry.lastModeSync = s.telemetry.lastModeSync) (validateCount name value) := by
    intro name value
    unfold validateCount
    split
    · exact fun _ => rfl
    · exact fun _ => rfl
  refine Ops.Keeps.bind (hcount _ _) (fun _ => ?_) htrans
  refine Ops.Keeps.bind (hcount _ _) (fun _ => Ops.Keeps.get_bind fun s => ?_) htrans
  split
  · rfl
  · refine Ops.Keeps.bind (R := fun s s' : RuntimeServices =>
      s'.telemetry.lastModeSync = s.telemetry.lastModeSync) (fun _ => rfl) (fun _ => ?_) htrans s
    exact Ops.Keeps.bind (fun s => (syncCount_marks disk _ _ _ _ s).1)
      (fun _ s => (syncCount_marks disk _ _ _ _ s).1) htrans

end OperationsTelemetry

namespace RuntimeSupervisor

open OperationsTelemetry RuntimeServices

/-- The three writes of a cycle over a runtime that is not halted resolve its alert. -/
theorem observe_recorded {disk : Disk} {s s' : RuntimeServices} (hs : s.Sound)
    {status : OperationsStatus} {unknown manual now : Int}
    (hcomponents : (status.alerts.map HealthAlert.component).Nodup)
    (hreasons : ∀ a ∈ status.alerts, nonblank a.reason = true) (hunknown : 0 ≤ unknown)
    (hmanual : 0 ≤ manual) (hj : s.telemetry.journaled = true)
    (hlate : late s.telemetry.lastModeSync now = false) (hmode : status.mode ≠ .halted)
    (h : observe disk status unknown manual now s = .ok () s') :
    s'.telemetry.lastModeSync = some now ∧
      ∃ e ∈ s'.db.alertEvents, e.fact = .cleared "runtime:HALTED" "mode" now := by
  unfold observe at h
  rw [Ops.bind_apply] at h
  obtain ⟨s₁,hok,hposted,-⟩ | ⟨e,s₁,herr,-⟩ :=
    @syncHealth_posts disk s hs ⟨status.health,status.alerts⟩ now hcomponents
      fun a ha => OperationsDb.ne_empty_of_nonblank (hreasons a ha)
  swap
  · simp [herr] at h
  have hmarks := syncHealth_marks disk ⟨status.health,status.alerts⟩ now s
  rw [Ops.leaves_ok hok] at hmarks
  rw [hok] at h
  dsimp only at h
  rw [Ops.bind_apply] at h
  obtain ⟨s₂,hok₂,hposted₂,-⟩ | ⟨e,s₂,herr,-⟩ := syncMode_posts disk hposted.sound status.mode now
  swap
  · simp [herr] at h
  have hj₁ : s₁.telemetry.journaled = true := hposted.same.journaled.trans hj
  obtain ⟨hmark,e,he,hfact⟩ := syncMode_recorded hj₁ (by rw [hmarks.1]; exact hlate) hmode hok₂
  rw [hok₂] at h
  dsimp only at h
  have hmark₃ := syncExecutionAmbiguity_modeMark disk unknown manual now s₂
  rw [Ops.leaves_ok h] at hmark₃
  obtain ⟨s₃,hok₃,hposted₃,-⟩ | ⟨e,s₃,herr,-⟩ :=
    syncExecutionAmbiguity_posts disk hposted₂.sound now hunknown hmanual
  · rw [h] at hok₃
    cases hok₃
    exact ⟨hmark₃.trans hmark,e,hposted₃.kept e he,hfact⟩
  · rw [h] at herr
    cases herr

/-- What a change of the mode leaves alone. -/
def SameTelemetry (s s' : RuntimeServices) : Prop :=
  s'.telemetry = s.telemetry ∧ s'.db.alertEvents = s.db.alertEvents

theorem SameTelemetry.trans {a b c : RuntimeServices} (h : SameTelemetry a b)
    (h' : SameTelemetry b c) : SameTelemetry a c := ⟨h'.1.trans h.1,h'.2.trans h.2⟩

theorem requireNonempty_frame (name value : String) :
    Ops.Keeps SameTelemetry (RuntimeModeController.requireNonempty name value) := by
  unfold RuntimeModeController.requireNonempty
  split
  · exact fun _ => ⟨rfl,rfl⟩
  · exact fun _ => ⟨rfl,rfl⟩

theorem recordTransition_frame (disk : Disk) (requestId : String) (fromMode toMode : RuntimeMode)
    (actor reason : String) (changedAt : Int) :
    Ops.Keeps SameTelemetry (RuntimeModeController.recordTransition disk requestId fromMode toMode
      actor reason changedAt) := by
  unfold RuntimeModeController.recordTransition
  refine Ops.Keeps.get_bind fun s => ?_
  obtain ⟨e,he⟩ | he | ⟨-,-,he⟩ := s.db.recordTransition_cases disk
    ⟨requestId,s.modes.runtimeSessionId,fromMode,toMode,actor,reason,changedAt⟩
  · rw [Ops.leaves_error (Ops.journal_error he)]
    exact ⟨rfl,rfl⟩
  · rw [Ops.leaves_ok (Ops.journal_ok he)]
    exact ⟨rfl,rfl⟩
  · rw [Ops.leaves_ok (Ops.journal_ok he)]
    exact ⟨rfl,rfl⟩

theorem halt_frame (disk : Disk) (requestId actor reason : String) (changedAt : Int) :
    Ops.Keeps SameTelemetry (RuntimeModeController.halt disk requestId actor reason changedAt) := by
  unfold RuntimeModeController.halt
  refine Ops.Keeps.bind (requireNonempty_frame _ _) (fun _ => ?_) SameTelemetry.trans
  refine Ops.Keeps.bind (requireNonempty_frame _ _) (fun _ => ?_) SameTelemetry.trans
  refine Ops.Keeps.bind (requireNonempty_frame _ _) (fun _ => ?_) SameTelemetry.trans
  refine Ops.Keeps.get_bind fun s => ?_
  cases hfind : s.db.findRequest requestId with
  | some prior =>
    dsimp only
    split
    · exact ⟨rfl,rfl⟩
    · exact ⟨rfl,rfl⟩
  | none =>
    refine Ops.Keeps.bind (R := SameTelemetry)
      (recordTransition_frame disk requestId s.modes.mode .halted actor reason changedAt)
      (fun changed => ?_) SameTelemetry.trans s
    cases changed with
    | true => exact fun _ => ⟨rfl,rfl⟩
    | false => exact fun _ => ⟨rfl,rfl⟩

/-- Enforcing the health of a runtime that is not halted raises, does nothing, or halts it. -/
theorem enforceHealth_cases (disk : Disk) {s : RuntimeServices} (requestId : String)
    (now maxAge : Int) (hmode : s.modes.mode ≠ .halted) :
    (∃ e, OperationsControl.enforceHealth disk requestId now maxAge s = .error e s) ∨
      OperationsControl.enforceHealth disk requestId now maxAge s = .ok false s ∨
      ∃ s', OperationsControl.enforceHealth disk requestId now maxAge s = .ok true s' ∧
        SameTelemetry s s' := by
  unfold OperationsControl.enforceHealth OperationsControl.snapshot
  rw [Ops.bind_apply,Ops.get_bind]
  cases hsnapshot : s.health.snapshot now maxAge with
  | error e => exact .inl ⟨e,by rw [Ops.ofExcept_error,Ops.throw_apply]⟩
  | ok snapshot =>
    rw [Ops.ofExcept_ok,Ops.pure_apply]
    dsimp only
    unfold RuntimeModeController.enforceHealth
    rw [Ops.get_bind]
    by_cases hunready : (s.modes.mode = .simulation && !snapshot.runtime.readyForMutation) = true
    swap
    · rw [if_neg hunready]
      exact .inr (.inl rfl)
    rw [if_pos hunready]
    have hframe := halt_frame disk requestId "health-monitor"
      "mutation runtime health prerequisite lost" now s
    obtain ⟨-,s',hok,-⟩ | ⟨-,e,herr⟩ :=
      @halt_cases disk s requestId "health-monitor" "mutation runtime health prerequisite lost" now
        hmode (by decide) (by decide)
    · rw [Ops.leaves_ok hok] at hframe
      exact .inr (.inr ⟨s',hok,hframe⟩)
    · exact .inl ⟨e,herr⟩

/-- Over a journal that holds the resolution of this instant, enforcing the health
halts the runtime only to raise. -/
theorem enforce_raises {disk : Disk} {s : RuntimeServices} (hs : s.Sound) {status : OperationsStatus}
    {now maxAge : Int} {haltRequestId : String} (hj : s.telemetry.journaled = true)
    (hmark : s.telemetry.lastModeSync = some now)
    (hcleared : ∃ e ∈ s.db.alertEvents, e.fact = .cleared "runtime:HALTED" "mode" now)
    (hmode : s.modes.mode ≠ .halted)
    (hhalted : ((enforce disk status now maxAge haltRequestId).leaves s).modes.mode = .halted) :
    ∃ e s', enforce disk status now maxAge haltRequestId s = .error e s' := by
  unfold enforce at hhalted ⊢
  by_cases hdue : (status.mode = .simulation && !status.readyForMutation) = true
  swap
  · rw [if_neg hdue] at hhalted
    exact absurd hhalted hmode
  rw [if_pos hdue] at hhalted ⊢
  have hkeeps := (KeepsSound.enforceHealth disk haltRequestId now maxAge).keeps s hs
  obtain ⟨e,he⟩ | he | ⟨s₁,he,hsame⟩ := enforceHealth_cases disk haltRequestId now maxAge hmode
  · exact ⟨e,s,by rw [Ops.bind_apply,he]⟩
  · rw [Ops.leaves,Ops.bind_apply,he] at hhalted
    exact absurd hhalted hmode
  · rw [Ops.leaves_ok he] at hkeeps
    rw [Ops.bind_apply,he]
    dsimp only
    rw [if_pos rfl,Ops.bind_apply]
    have hposts := syncMode_posts disk hkeeps .halted now
    have hdueMode : s₁.telemetry.dueMode .halted now =
        [.raised "runtime:HALTED" "runtime is HALTED" "mode" now] := by
      simp [dueMode,hsame.1,hmark,late]
    rw [hdueMode] at hposts
    obtain ⟨s',-,-,haccepted⟩ | ⟨e,s',herr,-⟩ := hposts
    · refine absurd ⟨?_,.inr (.inr ?_)⟩ (haccepted _ (List.mem_singleton_self _))
      · rw [hsame.1]
        exact hj
      · obtain ⟨e,he,hfact⟩ := hcleared
        refine ⟨e,by rw [hsame.2]; exact he,?_⟩
        rw [hfact]
        exact ⟨rfl,rfl,by simp [AlertFact.cleared,AlertFact.raised]⟩
    · exact ⟨e,s',by rw [herr]⟩

theorem status_cases (s : RuntimeServices) (now maxAge : Int) :
    (∃ e, OperationsControl.status now maxAge s = .error e s) ∨
      ∃ snapshot, s.health.snapshot now maxAge = .ok snapshot ∧
        OperationsControl.status now maxAge s = .ok ⟨s.modes.mode,snapshot.runtime,
          snapshot.runtime.readyForMutation,snapshot.alerts⟩ s := by
  unfold OperationsControl.status OperationsControl.snapshot
  rw [Ops.bind_apply,Ops.get_bind]
  cases hsnapshot : s.health.snapshot now maxAge with
  | error e => exact .inl ⟨e,by rw [Ops.ofExcept_error,Ops.throw_apply]⟩
  | ok snapshot => exact .inr ⟨snapshot,rfl,by rw [Ops.ofExcept_ok,Ops.pure_apply]; rfl⟩

/-- In every history, a tick over a journal that halts the runtime, at a time not before
the last synchronization of the mode, raises. -/
theorem auto_halt_raises (ms : List OperationsMove) (pid : Nat) (s : RuntimeServices)
    (hprocess : (OperationsSystem.initial.run ms).process pid = some s) (disk : Disk)
    (now unknown manual : Int) (haltRequestId : String) (hj : s.telemetry.journaled = true)
    (hlater : ∀ last ∈ s.telemetry.lastModeSync, last ≤ now) (hmode : s.modes.mode ≠ .halted)
    (hhalted : ((OperationsCall.tick now unknown manual haltRequestId).leaves disk s).modes.mode =
      .halted) :
    ∃ e s', tick disk now unknown manual haltRequestId s = .error e s' := by
  have hs : s.Sound := (OperationsSystem.Sound.initial.run ms).process hprocess
  have hlate : late s.telemetry.lastModeSync now = false := by
    unfold late
    cases hlast : s.telemetry.lastModeSync with
    | none => rfl
    | some last => simpa using hlater last hlast
  unfold OperationsCall.leaves OperationsCall.perform at hhalted
  rw [discard_leaves] at hhalted
  unfold tick at hhalted ⊢
  rw [Ops.get_bind,Ops.bind_apply]
  rw [Ops.leaves,Ops.get_bind,Ops.bind_apply] at hhalted
  obtain ⟨e,hstatus⟩ | ⟨snapshot,hsnapshot,hstatus⟩ := status_cases s now s.healthMaxAgeSeconds
  · exact ⟨e,s,by rw [hstatus]⟩
  rw [hstatus] at hhalted ⊢
  dsimp only at hhalted ⊢
  rw [Ops.bind_apply] at hhalted ⊢
  obtain ⟨hcomponents,hreasons⟩ := HealthRegistry.snapshot_alerts hsnapshot
  generalize hst : (⟨s.modes.mode,snapshot.runtime,snapshot.runtime.readyForMutation,
    snapshot.alerts⟩ : OperationsStatus) = status at hhalted ⊢
  have hcomponents : (status.alerts.map HealthAlert.component).Nodup := by simpa [← hst]
  have hreasons : ∀ a ∈ status.alerts, nonblank a.reason = true := by simpa [← hst]
  cases hobserve : observe disk status unknown manual now s with
  | error e s₁ => exact ⟨e,s₁,rfl⟩
  | ok u s₁ =>
    rw [hobserve] at hhalted
    dsimp only at hhalted ⊢
    rw [Ops.bind_apply] at hhalted ⊢
    by_cases hcounts : 0 ≤ unknown ∧ 0 ≤ manual
    swap
    · obtain ⟨e,s₂,herr,-⟩ := observe_negative disk hs hcomponents hreasons hcounts
      rw [hobserve] at herr
      cases herr
    obtain ⟨s₂,hok,hposted,-⟩ | ⟨e,s₂,herr,-⟩ :=
      observe_posts disk hs hcomponents hreasons hcounts.1 hcounts.2
    swap
    · rw [hobserve] at herr
      cases herr
    rw [hobserve] at hok
    cases hok
    obtain ⟨hmark,hcleared⟩ := observe_recorded hs hcomponents hreasons hcounts.1 hcounts.2 hj hlate
      (by rw [← hst]; exact hmode) hobserve
    have hmode₁ : s₁.modes.mode ≠ .halted := by
      rw [hposted.same.modes]
      exact hmode
    have hleft : ((enforce disk status now s.healthMaxAgeSeconds haltRequestId).leaves
        s₁).modes.mode = .halted := by
      rw [Ops.leaves]
      cases henforce : enforce disk status now s.healthMaxAgeSeconds haltRequestId s₁ with
      | error e s₂ => simpa [henforce] using hhalted
      | ok autoHalted s₂ => simpa [henforce] using hhalted
    obtain ⟨e,s₂,herr⟩ := enforce_raises hposted.sound
      (hposted.same.journaled.trans hj) hmark hcleared hmode₁ hleft
    exact ⟨e,s₂,by rw [herr]⟩

/-- Everything the process and the journal have seen was observed before. -/
def observedBefore (s : RuntimeServices) (now : Int) : Bool :=
  HealthComponent.members.all (fun c => (s.health.observations c).all (fun o => o.observedAt < now)) &&
    [s.telemetry.lastHealthSync,s.telemetry.lastModeSync,s.telemetry.lastExecutionSync].all
      (fun last => last.all (fun t => t < now)) &&
    s.db.alertEvents.all (fun e => e.fact.observedAt < now)

def returned {α : Type} : EStateM.Result OperationsError RuntimeServices α → Bool
  | .ok _ _ => true
  | .error _ _ => false

/-- A second after the terminal was lost, a tick halts the runtime. -/
theorem qmtLost_halts : ∃ s, (OperationsSystem.initial.run qmtLostMoves).process 0 = some s ∧
    s.telemetry.journaled = true ∧ observedBefore s 2000000 = true ∧
    s.db.findRequest "halt-2" = none ∧ s.telemetry.lastModeSync = some 1000000 ∧
    s.modes.mode ≠ .halted ∧
    ((OperationsCall.tick 2000000 0 0 "halt-2").leaves .healthy s).modes.mode = .halted ∧
    ∀ r s', tick .healthy 2000000 0 0 "halt-2" s ≠ .ok r s' := by
  have hfacts : ((OperationsSystem.initial.run qmtLostMoves).process 0).any (fun s =>
      s.telemetry.journaled && observedBefore s 2000000 && (s.db.findRequest "halt-2").isNone &&
        decide (s.telemetry.lastModeSync = some 1000000) && decide (s.modes.mode ≠ .halted) &&
        decide (((OperationsCall.tick 2000000 0 0 "halt-2").leaves .healthy s).modes.mode = .halted) &&
        !returned (tick .healthy 2000000 0 0 "halt-2" s)) = true := by
    decide +kernel
  rw [Option.any_eq_true] at hfacts
  obtain ⟨s,hs,hfacts⟩ := hfacts
  simp only [Bool.and_eq_true,decide_eq_true_eq,Option.isNone_iff_eq_none,Bool.not_eq_true'] at hfacts
  obtain ⟨⟨⟨⟨⟨⟨hj,hbefore⟩,hfresh⟩,hlast⟩,hmode⟩,hhalted⟩,hraised⟩ := hfacts
  refine ⟨s,hs,hj,hbefore,hfresh,hlast,hmode,hhalted,fun r s' hok => ?_⟩
  rw [hok] at hraised
  cases hraised

theorem auto_halt_returns_fails : ¬ ∀ (ms : List OperationsMove) (pid : Nat) (s : RuntimeServices),
    (OperationsSystem.initial.run ms).process pid = some s →
    ∀ (disk : Disk) (now unknown manual : Int) (haltRequestId : String),
      s.telemetry.journaled = true → observedBefore s now = true →
      s.db.findRequest haltRequestId = none → s.modes.mode ≠ .halted →
      ((OperationsCall.tick now unknown manual haltRequestId).leaves disk s).modes.mode = .halted →
      ∃ r s', tick disk now unknown manual haltRequestId s = .ok r s' ∧ r.autoHalted = true ∧
        r.telemetry.mode = .halted ∧
        (∃ a ∈ r.telemetry.activeAlerts, a.key = "runtime:HALTED") ∧
        ∃ row ∈ s'.db.activeAlerts, row.key = "runtime:HALTED" := by
  intro h
  obtain ⟨s,hs,hj,hbefore,hfresh,-,hmode,hhalted,hraised⟩ := qmtLost_halts
  obtain ⟨r,s',hok,-⟩ := h qmtLostMoves 0 s hs .healthy 2000000 0 0 "halt-2" hj hbefore hfresh hmode
    hhalted
  exact hraised r s' hok

theorem auto_halt_raises_qmtLost : ∃ s e s',
    (OperationsSystem.initial.run qmtLostMoves).process 0 = some s ∧
      tick .healthy 2000000 0 0 "halt-2" s = .error e s' := by
  obtain ⟨s,hs,hj,-,-,hlast,hmode,hhalted,-⟩ := qmtLost_halts
  obtain ⟨e,s',herr⟩ := auto_halt_raises qmtLostMoves 0 s hs .healthy 2000000 0 0 "halt-2" hj
    (by simp [hlast]) hmode hhalted
  exact ⟨s,e,s',hs,herr⟩

end RuntimeSupervisor
end BigQmt
