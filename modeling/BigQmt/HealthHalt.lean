import BigQmt.TelemetryWrites
set_option autoImplicit false

/-!
Every method of the operations package leaves the tables and the display sound,
and when a cycle of the supervisor halts an unhealthy simulation.
-/

namespace BigQmt

open RuntimeServices

namespace RuntimeServices

/-- A method that a sound process may run. -/
structure KeepsSound {α : Type} (m : Ops α) : Prop where
  keeps : Ops.Keeps (fun s s' => s.Sound → s'.Sound) m

variable {α β : Type}

theorem KeepsSound.pure (a : α) : KeepsSound (pure a : Ops α) := ⟨fun _ h => h⟩

theorem KeepsSound.throw (e : OperationsError) : KeepsSound (throw e : Ops α) := ⟨fun _ h => h⟩

theorem KeepsSound.bind {m : Ops α} {f : α → Ops β} (hm : KeepsSound m)
    (hf : ∀ a, KeepsSound (f a)) : KeepsSound (m >>= f) :=
  ⟨hm.keeps.bind (fun a => (hf a).keeps) fun h h' hs => h' (h hs)⟩

theorem KeepsSound.get {f : RuntimeServices → Ops β} (hf : ∀ s, KeepsSound (f s)) :
    KeepsSound (MonadState.get >>= f) := ⟨fun s => (hf s).keeps s⟩

theorem KeepsSound.ofExcept (r : Except OperationsError α) : KeepsSound (Ops.ofExcept r) := by
  cases r with
  | ok a => exact .pure a
  | error e => exact .throw e

theorem KeepsSound.forM {l : List α} {f : α → Ops PUnit} (hf : ∀ a ∈ l, KeepsSound (f a)) :
    KeepsSound (l.forM f) :=
  ⟨Ops.Keeps.forM (fun _ h => h) (fun a ha => (hf a ha).keeps) fun h h' hs => h' (h hs)⟩

theorem KeepsSound.ite {c : Prop} [Decidable c] {m m' : Ops α} (hm : KeepsSound m)
    (hm' : KeepsSound m') : KeepsSound (if c then m else m') := by
  split
  · exact hm
  · exact hm'

theorem discard_leaves (m : Ops α) (s : RuntimeServices) :
    (Functor.discard m : Ops PUnit).leaves s = m.leaves s := by
  have hmap : (Functor.discard m : Ops PUnit) s = EStateM.map (fun _ => PUnit.unit) m s := rfl
  unfold Ops.leaves
  rw [hmap]
  unfold EStateM.map
  cases m s <;> rfl

theorem KeepsSound.discard {m : Ops α} (hm : KeepsSound m) : KeepsSound (discard m) := by
  refine ⟨fun s => ?_⟩
  rw [discard_leaves]
  exact hm.keeps s

theorem Posts.sound {disk : Disk} {s : RuntimeServices} {fs : List AlertFact} {m : Ops Unit}
    (h : s.Posts disk fs (m s)) : (m.leaves s).Sound := by
  obtain ⟨s',hok,hposted,-⟩ | ⟨e,s',herr,hsound,-⟩ := h
  · rw [Ops.leaves_ok hok]
    exact hposted.sound
  · rw [Ops.leaves_error herr]
    exact hsound

theorem KeepsSound.upsert (disk : Disk) {key : String} (severity : AlertSeverity) (detail : String)
    (observedAt : Int) {source : String} (hkey : nonblank key = true)
    (hsource : nonblank source = true) :
    KeepsSound (OperationsTelemetry.upsert disk key severity detail observedAt source) := by
  refine ⟨fun s hs => ?_⟩
  by_cases hdetail : detail = ""
  · have hleaves :
        (OperationsTelemetry.upsert disk key severity detail observedAt source).leaves s = s := by
      unfold OperationsTelemetry.upsert Ops.leaves
      rw [Ops.get_bind]
      by_cases hj : s.telemetry.journaled = true
      · obtain ⟨-,e,he⟩ | ⟨hok,-⟩ := hs.db.recordActive disk hkey hsource
          (by cases severity <;> simp [AlertSeverity.value])
          (rfl : (⟨key,.active,some severity.value,some detail,observedAt,source⟩ :
            AlertFact) = _)
        · rw [if_pos hj,Ops.bind_apply,Ops.journal_error he]
        · exact absurd (.inl (by simp [hdetail]; decide)) hok
      · rw [if_neg hj]
        have hbuild : ∀ a, s.telemetry.refreshed key severity detail observedAt = some a →
            ∃ e, a.build = .error e := by
          intro a ha
          have had : a.key = key ∧ a.detail = detail := by
            unfold OperationsTelemetry.refreshed at ha
            split at ha
            · split_ifs at ha
              cases ha
              exact ⟨rfl,rfl⟩
            · cases ha
              exact ⟨rfl,rfl⟩
          exact ⟨_,by
            rw [ActiveAlert.build,had.1,had.2,if_neg (OperationsDb.ne_empty_of_nonblank hkey),
              if_pos hdetail]⟩
        cases hr : s.telemetry.refreshed key severity detail observedAt with
        | none => rfl
        | some a =>
          obtain ⟨e,he⟩ := hbuild a hr
          simp [he,Ops.bind_apply]
    rw [hleaves]
    exact hs
  · exact (upsert_posts disk hs hkey hdetail hsource).sound

theorem KeepsSound.resolve (disk : Disk) {key : String} (observedAt : Int) {source : String}
    (hkey : nonblank key = true) (hsource : nonblank source = true) :
    KeepsSound (OperationsTelemetry.resolve disk key observedAt source) :=
  ⟨fun _ hs => (resolve_posts disk hs hkey hsource).sound⟩

theorem KeepsSound.marks {f : OperationsTelemetry → OperationsTelemetry}
    (hf : ∀ t, (f t).alerts = t.alerts) : KeepsSound (Ops.telemetry f) :=
  ⟨fun s hs => hs.marked (hf s.telemetry)⟩

theorem KeepsSound.syncMode (disk : Disk) (mode : RuntimeMode) (observedAt : Int) :
    KeepsSound (OperationsTelemetry.syncMode disk mode observedAt) :=
  ⟨fun _ hs => (OperationsTelemetry.syncMode_posts disk hs mode observedAt).sound⟩

theorem KeepsSound.syncHealth (disk : Disk) (snapshot : HealthSnapshot) (observedAt : Int) :
    KeepsSound (OperationsTelemetry.syncHealth disk snapshot observedAt) := by
  unfold OperationsTelemetry.syncHealth OperationsTelemetry.resolvePrefix
  refine .get fun s => .ite (.pure _) (.bind (.marks fun _ => rfl) fun _ => .bind ?_ fun _ => ?_)
  · exact .forM fun a _ => .upsert disk _ _ _
      (OperationsTelemetry.nonblank_of_health (OperationsTelemetry.healthKey_head a)) (by decide)
  · refine .get fun s => .forM fun key hkey => ?_
    have hpre := (List.mem_filter.mp hkey).2
    simp only [Bool.and_eq_true] at hpre
    exact .resolve disk observedAt (OperationsTelemetry.nonblank_of_health hpre.1) (by decide)

theorem KeepsSound.syncExecutionAmbiguity (disk : Disk) (unknown manual observedAt : Int) :
    KeepsSound (OperationsTelemetry.syncExecutionAmbiguity disk unknown manual observedAt) := by
  refine ⟨fun s hs => ?_⟩
  by_cases h : 0 ≤ unknown ∧ 0 ≤ manual
  · exact (OperationsTelemetry.syncExecutionAmbiguity_posts disk hs observedAt h.1 h.2).sound
  · obtain ⟨e,he⟩ :=
      OperationsTelemetry.syncExecutionAmbiguity_negative disk s observedAt h
    rw [Ops.leaves_error he]
    exact hs

theorem KeepsSound.setMode (mode : RuntimeMode) :
    KeepsSound (RuntimeModeController.setMode mode) :=
  ⟨fun _ hs => ⟨hs.db,hs.telemetry⟩⟩


end RuntimeServices

/-- A transition is refused, repeated or appended. -/
theorem OperationsDb.recordTransition_cases (disk : Disk) (row : ModeTransition)
    (db : OperationsDb) :
    (∃ e, db.recordTransition disk row = .error e) ∨ db.recordTransition disk row = .ok (false,db) ∨
      (disk (.transition row.requestId) = none ∧ db.findRequest row.requestId = none ∧
        db.recordTransition disk row =
          .ok (true,{ db with transitions := db.transitions ++ [row] })) := by
  unfold OperationsDb.recordTransition
  cases hdisk : disk (.transition row.requestId) with
  | some e => exact .inl ⟨e,rfl⟩
  | none =>
    cases hfind : db.findRequest row.requestId with
    | some stored =>
      by_cases hs : stored = row
      · exact .inr (.inl (by simp [hs]))
      · exact .inl ⟨_,by simp [hs]; rfl⟩
    | none => exact .inr (.inr ⟨rfl,rfl,rfl⟩)

theorem OperationsDb.Sound.transitions {db : OperationsDb} (h : db.Sound)
    (rows : List ModeTransition) : OperationsDb.Sound { db with transitions := rows } :=
  ⟨h.derived,h.unique,h.shown,h.rows⟩

theorem OperationsDb.Sound.recordTransition {db db' : OperationsDb} (h : db.Sound) {disk : Disk}
    {row : ModeTransition} {changed : Bool}
    (hr : db.recordTransition disk row = .ok (changed,db')) : db'.Sound := by
  obtain ⟨e,he⟩ | he | ⟨-,-,he⟩ := db.recordTransition_cases disk row
  · rw [hr] at he
    cases he
  · rw [hr] at he
    cases he
    exact h
  · rw [hr] at he
    cases he
    exact h.transitions _

namespace RuntimeServices

theorem KeepsSound.recordTransition (disk : Disk) (requestId : String)
    (fromMode toMode : RuntimeMode) (actor reason : String) (changedAt : Int) :
    KeepsSound (RuntimeModeController.recordTransition disk requestId fromMode toMode actor reason
      changedAt) := by
  refine ⟨fun s hs => ?_⟩
  unfold RuntimeModeController.recordTransition
  cases hr : OperationsDb.recordTransition disk
      ⟨requestId,s.modes.runtimeSessionId,fromMode,toMode,actor,reason,changedAt⟩ s.db with
  | error e =>
    have hleaves : Ops.leaves (MonadState.get >>= fun s => Ops.journal (OperationsDb.recordTransition disk
        ⟨requestId,s.modes.runtimeSessionId,fromMode,toMode,actor,reason,changedAt⟩)) s = s := by
      simp only [Ops.leaves,Ops.get_bind,Ops.journal_error hr]
    rw [hleaves]
    exact hs
  | ok p =>
    have hleaves : Ops.leaves (MonadState.get >>= fun s => Ops.journal (OperationsDb.recordTransition disk
        ⟨requestId,s.modes.runtimeSessionId,fromMode,toMode,actor,reason,changedAt⟩)) s =
        { s with db := p.2 } := by
      simp only [Ops.leaves,Ops.get_bind,Ops.journal_ok hr]
    rw [hleaves]
    exact ⟨hs.db.recordTransition hr,hs.telemetry⟩

theorem KeepsSound.requireNonempty (name value : String) :
    KeepsSound (RuntimeModeController.requireNonempty name value) := .ite (.pure _) (.throw _)

theorem KeepsSound.halt (disk : Disk) (requestId actor reason : String) (changedAt : Int) :
    KeepsSound (RuntimeModeController.halt disk requestId actor reason changedAt) := by
  unfold RuntimeModeController.halt
  refine .bind (.requireNonempty _ _) fun _ => .bind (.requireNonempty _ _) fun _ =>
    .bind (.requireNonempty _ _) fun _ => .get fun s => ?_
  split
  · exact .ite (.throw _) (.pure _)
  · refine .bind (.recordTransition ..) fun changed => ?_
    cases changed with
    | true => exact .bind (.setMode _) fun _ => .pure _
    | false => exact .pure _

theorem KeepsSound.requestMode (disk : Disk) (requestId : String) (target : RuntimeMode)
    (actor reason : String) (changedAt : Int) (health : RuntimeHealth) :
    KeepsSound (RuntimeModeController.requestMode disk requestId target actor reason changedAt
      health) := by
  unfold RuntimeModeController.requestMode
  refine .bind (.requireNonempty _ _) fun _ => .bind (.requireNonempty _ _) fun _ =>
    .bind (.requireNonempty _ _) fun _ => .get fun s => ?_
  split
  · exact .ite (.throw _) (.pure _)
  · split
    · exact .throw _
    · refine .bind (.recordTransition ..) fun changed => ?_
      cases changed with
      | true => exact .bind (.setMode _) fun _ => .pure _
      | false => exact .pure _

theorem KeepsSound.enforceHealth (disk : Disk) (requestId : String) (now maxAge : Int) :
    KeepsSound (OperationsControl.enforceHealth disk requestId now maxAge) := by
  unfold OperationsControl.enforceHealth OperationsControl.snapshot
  refine .bind (.get fun _ => .ofExcept _) fun snapshot => .get fun s => ?_
  exact .ite (.halt ..) (.pure _)

theorem KeepsSound.tick (disk : Disk) (now unknown manual : Int) (haltRequestId : String) :
    KeepsSound (RuntimeSupervisor.tick disk now unknown manual haltRequestId) := by
  unfold RuntimeSupervisor.tick OperationsControl.status OperationsControl.snapshot
    RuntimeSupervisor.observe RuntimeSupervisor.enforce
  refine .get fun s => .bind (.bind (.get fun _ => .ofExcept _) fun _ => .get fun _ => .pure _)
    fun status => .bind ?_ fun _ => .bind ?_ fun _ => .get fun _ => .pure _
  · exact .bind (.syncHealth ..) fun _ => .bind (.syncMode ..) fun _ => .syncExecutionAmbiguity ..
  · refine .ite (.bind (.enforceHealth ..) fun autoHalted => ?_) (.pure _)
    cases autoHalted with
    | true => exact .bind (.syncMode ..) fun _ => .pure _
    | false => exact .pure _

theorem KeepsSound.shutdown (disk : Disk) (now : Int) (reason : String) :
    KeepsSound (RuntimeLifecycleController.shutdown disk now reason) := by
  unfold RuntimeLifecycleController.shutdown
  refine .get fun s => .ite (.bind (.halt ..) fun _ => .bind (.syncMode ..) fun _ => .pure _)
    (.throw _)

theorem KeepsSound.perform (disk : Disk) (c : OperationsCall) : KeepsSound (c.perform disk) := by
  have hhealth : ∀ f : RuntimeServices → HealthRegistry,
      KeepsSound (modify (fun s => { s with health := f s }) : Ops PUnit) :=
    fun _ => ⟨fun _ hs => ⟨hs.db,hs.telemetry⟩⟩
  have hsnapshot : ∀ now maxAge, KeepsSound (OperationsControl.snapshot now maxAge) :=
    fun _ _ => .get fun _ => .ofExcept _
  cases c with
  | observe o => exact hhealth _
  | clear => exact hhealth _
  | enterObserve requestId actor reason now maxAge =>
    exact .discard (.bind (hsnapshot _ _) fun _ => .requestMode ..)
  | armSimulation requestId actor reason now maxAge =>
    exact .discard (.bind (hsnapshot _ _) fun _ => .ite (.throw _) (.requestMode ..))
  | requestMode requestId target actor reason changedAt health => exact .discard (.requestMode ..)
  | emergencyHalt requestId actor reason now => exact .discard (.halt ..)
  | enforceHealth requestId now maxAge => exact .discard (.enforceHealth ..)
  | syncHealth snapshot observedAt => exact .syncHealth ..
  | syncMode mode observedAt => exact .syncMode ..
  | syncExecutionAmbiguity unknown manual observedAt => exact .syncExecutionAmbiguity ..
  | tick now unknown manual haltRequestId => exact .discard (.tick ..)
  | shutdown now reason => exact .discard (.shutdown ..)

end RuntimeServices

theorem OperationsTelemetry.start_sound {journaled : Bool} {db : OperationsDb}
    {t : OperationsTelemetry} (h : OperationsTelemetry.start journaled db = .ok t) : t.Sound := by
  have hfresh : ∀ j, (OperationsTelemetry.fresh j).Sound := fun j =>
    ⟨by simp [OperationsTelemetry.fresh],by simp [OperationsTelemetry.fresh]⟩
  have htimes : ∀ (row : PersistedAlertState) (a : ActiveAlert), row.alert = .ok a →
      a.firstSeenAt ≤ a.lastSeenAt := by
    intro row a ha
    unfold PersistedAlertState.alert ActiveAlert.build at ha
    split at ha
    · cases ha
    · split_ifs at ha
      cases ha
      dsimp only at *
      omega
  have hfold : ∀ (rows : List PersistedAlertState) (t t' : OperationsTelemetry), t.Sound →
      rows.foldlM (fun t row => row.alert.map t.put) t = .ok t' → t'.Sound := by
    intro rows
    induction rows with
    | nil =>
      intro t t' ht h
      cases h
      exact ht
    | cons row rows ih =>
      intro t t' ht h
      rw [List.foldlM_cons] at h
      cases ha : row.alert with
      | error e =>
        rw [ha] at h
        cases h
      | ok a =>
        rw [ha] at h
        exact ih _ t' (ht.put (htimes row a ha)) h
  cases journaled with
  | true => exact hfold _ _ t (hfresh true) h
  | false =>
    cases h
    exact hfresh false

namespace OperationsSystem

structure Sound (w : OperationsSystem) : Prop where
  db : w.db.Sound
  telemetry : ∀ pid s, w.processes pid = some s → s.telemetry.Sound

theorem Sound.initial : initial.Sound := ⟨.empty,by simp [OperationsSystem.initial]⟩

theorem Sound.set {w : OperationsSystem} (h : w.Sound) (pid : Nat) {s : RuntimeServices}
    (hs : s.Sound) : (w.set pid s).Sound where
  db := hs.db
  telemetry := by
    intro pid' s' h'
    simp only [OperationsSystem.set,Function.update_apply] at h'
    split at h'
    · cases h'
      exact hs.telemetry
    · exact h.telemetry pid' s' h'

theorem Sound.process {w : OperationsSystem} (h : w.Sound) {pid : Nat} {s : RuntimeServices}
    (hs : w.process pid = some s) : s.Sound := by
  simp only [OperationsSystem.process,Option.map_eq_some_iff] at hs
  obtain ⟨s,hp,rfl⟩ := hs
  exact ⟨h.db,h.telemetry pid s hp⟩

theorem Sound.start {disk : Disk} {session : String} {startedAt : Int} {journaled : Bool}
    {maxAge : Int} {db : OperationsDb} (h : db.Sound) :
    (RuntimeServices.start disk session startedAt journaled maxAge db).2.Sound ∧
      ∀ s, (RuntimeServices.start disk session startedAt journaled maxAge db).1 = .ok s →
        s.Sound := by
  unfold RuntimeServices.start
  split
  · exact ⟨h,by simp⟩
  · split
    · exact ⟨h,by simp⟩
    · rename_i hr
      have hdb := h.recordTransition hr
      split
      · exact ⟨hdb,by simp⟩
      · rename_i ht
        split
        · exact ⟨hdb,by simp⟩
        · refine ⟨hdb,fun s hs => ?_⟩
          cases hs
          exact ⟨hdb,OperationsTelemetry.start_sound ht⟩

theorem Sound.step {w : OperationsSystem} (h : w.Sound) (m : OperationsMove) :
    (w.step m).Sound := by
  cases m with
  | start pid disk session startedAt journaled maxAge =>
    have hstart := @Sound.start disk session startedAt journaled maxAge w.db h.db
    simp only [OperationsSystem.step]
    revert hstart
    generalize RuntimeServices.start disk session startedAt journaled maxAge w.db = r
    intro hstart
    obtain ⟨r,db⟩ := r
    cases r with
    | ok s => exact h.set pid (hstart.2 s rfl)
    | error e => exact ⟨hstart.1,h.telemetry⟩
  | call pid disk c =>
    simp only [OperationsSystem.step]
    cases hp : w.process pid with
    | none => exact h
    | some s => exact h.set pid ((KeepsSound.perform disk c).keeps s (h.process hp))
  | stop pid =>
    refine ⟨h.db,fun pid' s' h' => ?_⟩
    simp only [OperationsSystem.step,Function.update_apply] at h'
    split at h'
    · cases h'
    · exact h.telemetry pid' s' h'

theorem Sound.run {w : OperationsSystem} (h : w.Sound) (ms : List OperationsMove) :
    (w.run ms).Sound := by
  induction ms generalizing w with
  | nil => exact h
  | cons m ms ih => exact ih (h.step m)

end OperationsSystem

/-! The three writes of a cycle before the health is enforced. -/

namespace OperationsTelemetry

/-- The marks that the later writes of a cycle look at. -/
def SameMarks (s s' : RuntimeServices) : Prop :=
  s'.telemetry.lastModeSync = s.telemetry.lastModeSync ∧
    s'.telemetry.lastExecutionSync = s.telemetry.lastExecutionSync

theorem SameMarks.trans {a b c : RuntimeServices} (h : SameMarks a b) (h' : SameMarks b c) :
    SameMarks a c := ⟨h'.1.trans h.1,h'.2.trans h.2⟩

theorem ofExcept_leaves {α : Type} (r : Except OperationsError α) (s : RuntimeServices) :
    (Ops.ofExcept r).leaves s = s := by
  cases r <;> rfl

theorem display_marks (row : PersistedAlertState) : Ops.Keeps SameMarks (display row) := by
  refine Ops.Keeps.bind ?_ (fun a => ?_) SameMarks.trans
  · intro s
    rw [ofExcept_leaves]
    exact ⟨rfl,rfl⟩
  · exact fun _ => ⟨rfl,rfl⟩

theorem journal_marks {α : Type}
    (write : OperationsDb → Except OperationsError (α × OperationsDb)) :
    Ops.Keeps SameMarks (Ops.journal write) := by
  intro s
  cases hw : write s.db with
  | error e =>
    rw [Ops.leaves_error (Ops.journal_error hw)]
    exact ⟨rfl,rfl⟩
  | ok p =>
    rw [Ops.leaves_ok (Ops.journal_ok hw)]
    exact ⟨rfl,rfl⟩

theorem upsert_marks (disk : Disk) (key : String) (severity : AlertSeverity) (detail : String)
    (observedAt : Int) (source : String) :
    Ops.Keeps SameMarks (upsert disk key severity detail observedAt source) := by
  refine Ops.Keeps.get_bind fun s => ?_
  split
  · refine Ops.Keeps.bind (journal_marks _) (fun row => ?_) SameMarks.trans s
    split
    · exact display_marks row
    · exact fun _ => ⟨rfl,rfl⟩
  · split
    · exact ⟨rfl,rfl⟩
    · rename_i a _
      refine Ops.Keeps.bind (R := SameMarks) (fun s => ?_) (fun a => ?_) SameMarks.trans s
      · rw [ofExcept_leaves]
        exact ⟨rfl,rfl⟩
      · exact fun _ => ⟨rfl,rfl⟩

theorem resolve_marks (disk : Disk) (key : String) (observedAt : Int) (source : String) :
    Ops.Keeps SameMarks (resolve disk key observedAt source) := by
  refine Ops.Keeps.get_bind fun s => ?_
  split
  · refine Ops.Keeps.bind (journal_marks _) (fun row => ?_) SameMarks.trans s
    split
    · exact display_marks _
    · exact fun _ => ⟨rfl,rfl⟩
  · exact ⟨rfl,rfl⟩

theorem syncHealth_marks (disk : Disk) (snapshot : HealthSnapshot) (observedAt : Int) :
    Ops.Keeps SameMarks (syncHealth disk snapshot observedAt) := by
  refine Ops.Keeps.get_bind fun s => ?_
  split
  · exact ⟨rfl,rfl⟩
  · refine Ops.Keeps.bind (R := SameMarks) (fun _ => ⟨rfl,rfl⟩) (fun _ => ?_) SameMarks.trans s
    refine Ops.Keeps.bind (R := SameMarks) ?_ (fun _ => ?_) SameMarks.trans
    · exact Ops.Keeps.forM (fun _ => ⟨rfl,rfl⟩) (fun a _ => upsert_marks disk _ _ _ _ _) SameMarks.trans
    · exact fun s => Ops.Keeps.forM (fun _ => ⟨rfl,rfl⟩) (fun a _ => resolve_marks disk _ _ _)
        SameMarks.trans s

theorem syncMode_executionMark (disk : Disk) (mode : RuntimeMode) (observedAt : Int)
    (s : RuntimeServices) :
    ((syncMode disk mode observedAt).leaves s).telemetry.lastExecutionSync =
      s.telemetry.lastExecutionSync := by
  have hmark : Ops.Keeps (fun s s' : RuntimeServices =>
      s'.telemetry.lastExecutionSync = s.telemetry.lastExecutionSync)
      (syncMode disk mode observedAt) := by
    refine Ops.Keeps.get_bind fun s => ?_
    split
    · rfl
    · refine Ops.Keeps.bind (R := fun s s' : RuntimeServices =>
        s'.telemetry.lastExecutionSync = s.telemetry.lastExecutionSync) (fun _ => rfl) (fun _ => ?_)
        (fun h h' => h'.trans h) s
      split
      · exact fun s => (upsert_marks disk _ _ _ _ _ s).2
      · exact fun s => (resolve_marks disk _ _ _ s).2
  exact hmark s

/-- The facts a cycle posts before it enforces the health. -/
def due (t : OperationsTelemetry) (snapshot : HealthSnapshot) (mode : RuntimeMode)
    (unknownOrderCount manualReviewCount now : Int) : List AlertFact :=
  t.dueHealth snapshot now ++
    (t.dueMode mode now ++ t.dueExecution unknownOrderCount manualReviewCount now)

theorem dueMode_key {t : OperationsTelemetry} {mode : RuntimeMode} {now : Int} {f : AlertFact}
    (hf : f ∈ t.dueMode mode now) : f.key = "runtime:HALTED" := by
  unfold dueMode at hf
  split_ifs at hf
  · simp at hf
  · simp only [List.mem_singleton] at hf
    rw [hf]
    rfl
  · simp only [List.mem_singleton] at hf
    rw [hf]
    rfl

theorem dueExecution_key {t : OperationsTelemetry} {unknown manual now : Int} {f : AlertFact}
    (hf : f ∈ t.dueExecution unknown manual now) :
    f.key = "execution:UNKNOWN" ∨ f.key = "execution:MANUAL_REVIEW" := by
  unfold dueExecution at hf
  split_ifs at hf
  · simp at hf
  · simp only [List.mem_cons,List.not_mem_nil,or_false] at hf
    exact hf.imp (fun h => by simp [h]) (fun h => by simp [h])

/-- There is something to read in every fact of a cycle. -/
theorem due_legible {t : OperationsTelemetry} {snapshot : HealthSnapshot} {mode : RuntimeMode}
    {unknown manual now : Int} (hreasons : ∀ a ∈ snapshot.alerts, nonblank a.reason = true)
    {f : AlertFact} (hf : f ∈ t.due snapshot mode unknown manual now) :
    f.detail.any (fun detail => !nonblank detail) = false := by
  have hcount : ∀ key count detail, nonblank detail = true →
      (AlertFact.ofCount key count detail now).detail.any (fun detail => !nonblank detail) =
        false := by
    intro key count detail h
    unfold AlertFact.ofCount
    split
    · simp [AlertFact.raised,h]
    · rfl
  simp only [due,List.mem_append] at hf
  obtain hf | hf | hf := hf
  · unfold dueHealth at hf
    split at hf
    · simp at hf
    · simp only [List.mem_append,List.mem_map] at hf
      obtain ⟨a,ha,rfl⟩ | ⟨key,-,rfl⟩ := hf
      · simp [AlertFact.raised,hreasons a ha]
      · rfl
  · unfold dueMode at hf
    split_ifs at hf
    · simp at hf
    · simp only [List.mem_singleton] at hf
      subst hf
      change (!nonblank "runtime is HALTED") = false
      decide
    · simp only [List.mem_singleton] at hf
      subst hf
      rfl
  · unfold dueExecution at hf
    split_ifs at hf
    · simp at hf
    · simp only [List.mem_cons,List.not_mem_nil,or_false] at hf
      obtain rfl | rfl := hf
      · exact hcount _ _ _ (nonblank_append (by decide))
      · exact hcount _ _ _ (nonblank_append (by decide))

end OperationsTelemetry

namespace RuntimeSupervisor

open OperationsTelemetry

theorem observe_posts (disk : Disk) {s : RuntimeServices} (hs : s.Sound) {status : OperationsStatus}
    {unknown manual now : Int} (hcomponents : (status.alerts.map HealthAlert.component).Nodup)
    (hreasons : ∀ a ∈ status.alerts, nonblank a.reason = true) (hunknown : 0 ≤ unknown)
    (hmanual : 0 ≤ manual) :
    s.Posts disk (s.telemetry.due ⟨status.health,status.alerts⟩ status.mode unknown manual now)
      (observe disk status unknown manual now s) := by
  unfold observe due
  refine Posts.bind (syncHealth_posts disk hs now hcomponents fun a ha =>
    OperationsDb.ne_empty_of_nonblank (hreasons a ha)) ?_ ?_
  · intro s' hok hposted
    have hmarks := syncHealth_marks disk ⟨status.health,status.alerts⟩ now s
    rw [Ops.leaves_ok hok] at hmarks
    have hmode : s.telemetry.dueMode status.mode now = s'.telemetry.dueMode status.mode now := by
      simp only [dueMode,hmarks.1]
    have hexecution : s.telemetry.dueExecution unknown manual now =
        s'.telemetry.dueExecution unknown manual now := by
      simp only [dueExecution,hmarks.2]
    rw [hmode,hexecution]
    refine Posts.bind (syncMode_posts disk hposted.sound status.mode now) ?_ ?_
    · intro s'' hok' hposted'
      have hmark := syncMode_executionMark disk status.mode now s'
      rw [Ops.leaves_ok hok'] at hmark
      have hexecution : s'.telemetry.dueExecution unknown manual now =
          s''.telemetry.dueExecution unknown manual now := by
        simp only [dueExecution,hmark]
      rw [hexecution]
      exact syncExecutionAmbiguity_posts disk hposted'.sound now hunknown hmanual
    · intro f hf g hg
      rw [dueMode_key hf]
      obtain hg | hg := dueExecution_key hg <;> rw [hg] <;> decide
  · intro f hf g hg hfg
    have hpre := dueHealth_head hf
    rw [hfg] at hpre
    have hout : g.key ∈ ["runtime:HALTED","execution:UNKNOWN","execution:MANUAL_REVIEW"] := by
      obtain hg | hg := List.mem_append.mp hg
      · simp [dueMode_key hg]
      · obtain hg | hg := dueExecution_key hg <;> simp [hg]
    revert hpre
    simp only [List.mem_cons,List.not_mem_nil,or_false] at hout
    obtain hg | hg | hg := hout <;> rw [hg] <;> decide

/-- A negative count stops the cycle before the health is enforced. -/
theorem observe_negative (disk : Disk) {s : RuntimeServices} (hs : s.Sound)
    {status : OperationsStatus} {unknown manual now : Int}
    (hcomponents : (status.alerts.map HealthAlert.component).Nodup)
    (hreasons : ∀ a ∈ status.alerts, nonblank a.reason = true) (h : ¬ (0 ≤ unknown ∧ 0 ≤ manual)) :
    ∃ e s', observe disk status unknown manual now s = .error e s' ∧ s'.modes = s.modes := by
  unfold observe
  rw [Ops.bind_apply]
  obtain ⟨s',hok,hposted,-⟩ | ⟨e,s',herr,-,hsame,-⟩ :=
    @syncHealth_posts disk s hs ⟨status.health,status.alerts⟩ now hcomponents
      fun a ha => OperationsDb.ne_empty_of_nonblank (hreasons a ha)
  · rw [hok]
    dsimp only
    rw [Ops.bind_apply]
    obtain ⟨s'',hok',hposted',-⟩ | ⟨e,s'',herr,-,hsame,-⟩ :=
      syncMode_posts disk hposted.sound status.mode now
    · obtain ⟨e,he⟩ := syncExecutionAmbiguity_negative disk s'' now h
      rw [hok']
      exact ⟨e,s'',he,hposted'.same.modes.trans hposted.same.modes⟩
    · rw [herr]
      exact ⟨e,s'',rfl,hsame.modes.trans hposted.same.modes⟩
  · rw [herr]
    exact ⟨e,s',rfl,hsame.modes⟩

/-- A halt of a runtime that is not halted goes through exactly when its request
is new and its transaction commits. -/
theorem halt_cases (disk : Disk) {s : RuntimeServices} (requestId : String) {actor reason : String}
    (changedAt : Int) (hmode : s.modes.mode ≠ .halted) (hactor : nonblank actor = true)
    (hreason : nonblank reason = true) :
    ((nonblank requestId = true ∧ s.db.findRequest requestId = none ∧
        disk (.transition requestId) = none) ∧
      ∃ s', RuntimeModeController.halt disk requestId actor reason changedAt s = .ok true s' ∧
        s'.modes.mode = .halted) ∨
    (¬ (nonblank requestId = true ∧ s.db.findRequest requestId = none ∧
        disk (.transition requestId) = none) ∧
      ∃ e, RuntimeModeController.halt disk requestId actor reason changedAt s = .error e s) := by
  unfold RuntimeModeController.halt RuntimeModeController.requireNonempty
  by_cases hid : nonblank requestId = true
  · rw [if_pos hid,if_pos hactor,if_pos hreason,Ops.pure_bind_apply,Ops.pure_bind_apply,
      Ops.pure_bind_apply,Ops.get_bind]
    cases hfind : s.db.findRequest requestId with
    | some prior =>
      refine .inr ⟨by simp [hid],.modeTransitionConflict
        "halt request replay does not match current runtime state",?_⟩
      simp [hmode]
    | none =>
      unfold RuntimeModeController.recordTransition
      dsimp only
      rw [Ops.bind_apply,Ops.get_bind]
      cases hdisk : disk (.transition requestId) with
      | some e =>
        have hr : OperationsDb.recordTransition disk
            ⟨requestId,s.modes.runtimeSessionId,s.modes.mode,.halted,actor,reason,changedAt⟩ s.db =
              .error e := by
          simp [OperationsDb.recordTransition,hdisk]
        refine .inr ⟨by simp,e,?_⟩
        rw [Ops.journal_error hr]
      | none =>
        have hr : OperationsDb.recordTransition disk
            ⟨requestId,s.modes.runtimeSessionId,s.modes.mode,.halted,actor,reason,changedAt⟩ s.db =
              .ok (true,{ s.db with transitions := s.db.transitions ++
                [⟨requestId,s.modes.runtimeSessionId,s.modes.mode,.halted,actor,reason,
                  changedAt⟩] }) := by
          simp [OperationsDb.recordTransition,hdisk,hfind]
        refine .inl ⟨⟨hid,rfl,rfl⟩,{ s with
          db := { s.db with transitions := s.db.transitions ++
            [⟨requestId,s.modes.runtimeSessionId,s.modes.mode,.halted,actor,reason,changedAt⟩] }
          modes := { s.modes with mode := .halted } },?_,rfl⟩
        rw [Ops.journal_ok hr]
        rfl
  · refine .inr ⟨by simp [hid],.valueError "request_id must be a non-empty string",?_⟩
    rw [if_neg hid]
    rfl

/-- Nothing stands between the tick and the halt: the counts are counts, the
journal takes every fact of the cycle, and the halt request is new and commits. -/
structure Unhindered (disk : Disk) (s : RuntimeServices) (snapshot : HealthSnapshot)
    (now unknownOrderCount manualReviewCount : Int) (haltRequestId : String) : Prop where
  unknown : 0 ≤ unknownOrderCount
  manual : 0 ≤ manualReviewCount
  alerts : s.telemetry.journaled = true →
    ∀ f ∈ s.telemetry.due snapshot .simulation unknownOrderCount manualReviewCount now,
      disk (.alert f.key f.eventType) = none ∧ ∀ e ∈ s.db.alertEvents, ¬ e.fact.Clashes f
  request : nonblank haltRequestId = true
  fresh : s.db.findRequest haltRequestId = none
  commits : disk (.transition haltRequestId) = none

/-- The health is enforced on the state the three writes leave. -/
theorem enforce_cases (disk : Disk) {s : RuntimeServices} (hs : s.Sound) {status : OperationsStatus}
    {snapshot : HealthSnapshot} {now maxAge : Int} (haltRequestId : String)
    (hstatus : status.mode = .simulation) (hready : status.readyForMutation = false)
    (hmode : s.modes.mode = .simulation) (hsnapshot : s.health.snapshot now maxAge = .ok snapshot)
    (hunready : snapshot.runtime.readyForMutation = false) :
    ((enforce disk status now maxAge haltRequestId).leaves s).modes.mode = .halted ↔
      nonblank haltRequestId = true ∧ s.db.findRequest haltRequestId = none ∧
        disk (.transition haltRequestId) = none := by
  have henforce : OperationsControl.enforceHealth disk haltRequestId now maxAge s =
      RuntimeModeController.halt disk haltRequestId "health-monitor"
        "mutation runtime health prerequisite lost" now s := by
    unfold OperationsControl.enforceHealth OperationsControl.snapshot
      RuntimeModeController.enforceHealth
    rw [Ops.bind_apply,Ops.get_bind,hsnapshot,Ops.ofExcept_ok,Ops.pure_apply]
    dsimp only
    rw [Ops.get_bind,if_pos (by simp [hmode,hunready])]
  have hunfold : enforce disk status now maxAge haltRequestId =
      (OperationsControl.enforceHealth disk haltRequestId now maxAge >>= fun autoHalted =>
        if autoHalted then
          syncMode disk .halted now >>= fun _ => pure autoHalted
        else pure autoHalted) := by
    unfold enforce
    rw [if_pos (by simp [hstatus,hready])]
  have hnot : s.modes.mode ≠ .halted := by simp [hmode]
  obtain ⟨hgo,s',hok,hhalted⟩ | ⟨hstop,e,herr⟩ := 
    @halt_cases disk s haltRequestId "health-monitor" "mutation runtime health prerequisite lost" now
      hnot (by decide) (by decide)
  · refine iff_of_true ?_ hgo
    have hs' : s'.Sound := by
      have hkeeps := (KeepsSound.halt disk haltRequestId "health-monitor"
        "mutation runtime health prerequisite lost" now).keeps s hs
      rwa [Ops.leaves_ok hok] at hkeeps
    have hleaves : (enforce disk status now maxAge haltRequestId).leaves s =
        (syncMode disk .halted now).leaves s' := by
      rw [hunfold]
      unfold Ops.leaves
      rw [Ops.bind_apply,henforce,hok]
      dsimp only
      rw [if_pos rfl,Ops.bind_apply]
      cases syncMode disk .halted now s' <;> rfl
    rw [hleaves]
    obtain ⟨s'',hok',hposted,-⟩ | ⟨e,s'',herr,-,hsame,-⟩ := syncMode_posts disk hs' .halted now
    · rw [Ops.leaves_ok hok',hposted.same.modes,hhalted]
    · rw [Ops.leaves_error herr,hsame.modes,hhalted]
  · refine iff_of_false ?_ hstop
    have hleaves : (enforce disk status now maxAge haltRequestId).leaves s = s := by
      rw [hunfold]
      refine Ops.leaves_error (e := e) ?_
      rw [Ops.bind_apply,henforce,herr]
    rw [hleaves,hmode]
    decide

/-- A simulation is armed and ticks once; then QMT is reported lost at the same instant. -/
def qmtLostMoves : List OperationsMove :=
  .start 0 .healthy "host-1" 0 true 5 ::
    HealthComponent.members.map (fun c => .call 0 .healthy (.observe ⟨c,true,1000000,""⟩)) ++
    [.call 0 .healthy (.enterObserve "observe" "operator" "preflight" 1000000 5),
      .call 0 .healthy (.armSimulation "sim" "operator" "arm" 1000000 5),
      .call 0 .healthy (.tick 1000000 0 0 "halt-1"),
      .call 0 .healthy (.observe ⟨.qmt,false,1000000,"terminal disconnected"⟩)]

theorem qmtLost : ∃ s snapshot, (OperationsSystem.initial.run qmtLostMoves).process 0 = some s ∧
    s.modes.mode = .simulation ∧
    s.health.snapshot 1000000 s.healthMaxAgeSeconds = .ok snapshot ∧
    snapshot.runtime.readyForMutation = false ∧
    ((OperationsCall.tick 1000000 1 0 "halt-2").leaves .healthy s).modes.mode = .simulation := by
  have hsome : ((OperationsSystem.initial.run qmtLostMoves).process 0).isSome = true := by
    decide +kernel
  obtain ⟨s,hs⟩ := Option.isSome_iff_exists.mp hsome
  have hfacts : ((OperationsSystem.initial.run qmtLostMoves).process 0).all (fun s =>
      decide (s.modes.mode = .simulation) &&
        (s.health.snapshot 1000000 s.healthMaxAgeSeconds).toOption.any
          (fun snapshot => !snapshot.runtime.readyForMutation) &&
        decide (((OperationsCall.tick 1000000 1 0 "halt-2").leaves .healthy s).modes.mode =
          .simulation)) = true := by
    decide +kernel
  rw [hs] at hfacts
  simp only [Option.all_some,Bool.and_eq_true,decide_eq_true_eq] at hfacts
  obtain ⟨⟨hmode,hsnapshot⟩,htick⟩ := hfacts
  cases hsnap : s.health.snapshot 1000000 s.healthMaxAgeSeconds with
  | error e => simp [hsnap,Except.toOption] at hsnapshot
  | ok snapshot =>
    refine ⟨s,snapshot,hs,hmode,hsnap,?_,htick⟩
    simpa [hsnap,Except.toOption] using hsnapshot

end RuntimeSupervisor

end BigQmt
