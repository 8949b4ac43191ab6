import BigQmt.TelemetryTwins
import Mathlib.Data.List.TakeWhile
set_option autoImplicit false

/-!
The telemetry shows the same with and without a journal, as long as no alert is posted
twice at one instant.
-/

namespace BigQmt

namespace AlertStamps

variable {stamps : AlertStamps} {keys : List String} {key : String} {stamp : AlertStamp}

@[simp] theorem mark_nil : stamps.mark [] stamp = stamps := by
  funext k
  simp [mark]

theorem mark_snoc :
    (stamps.mark keys stamp).mark [key] stamp = stamps.mark (keys ++ [key]) stamp := by
  funext k
  by_cases hk : k = key
  · simp [mark,hk]
  · simp [mark,hk]

theorem mark_congr {keys' : List String} (h : ∀ k, k ∈ keys ↔ k ∈ keys') :
    stamps.mark keys stamp = stamps.mark keys' stamp := by
  funext k
  simp [mark,h k]

end AlertStamps

namespace OperationsTelemetry

def healthKeys : List String :=
  HealthComponent.members.map (fun component => "health:" ++ component.value)

/-- Every key an alert is posted under. -/
def alertKeys : List String :=
  healthKeys ++ ["runtime:HALTED","execution:UNKNOWN","execution:MANUAL_REVIEW"]

theorem healthKey_mem (a : HealthAlert) : healthKey a ∈ healthKeys := by
  unfold healthKey healthKeys
  exact List.mem_map.mpr ⟨a.component,by cases a.component <;> decide,rfl⟩

theorem healthKeys_known : ∀ key ∈ healthKeys, key ∈ alertKeys ∧ alertSource key = "health" := by
  decide

theorem modeKeys_known : ∀ key ∈ ["runtime:HALTED"],
    key ∈ alertKeys ∧ alertSource key = "mode" := by
  decide

theorem executionKeys_known : ∀ key ∈ ["execution:UNKNOWN","execution:MANUAL_REVIEW"],
    key ∈ alertKeys ∧ alertSource key = "execution" := by
  decide

theorem mem_healthKeys_iff {key : String} (h : key ∈ alertKeys) :
    key ∈ healthKeys ↔ "health:".toList.isPrefixOf key.toList = true := by
  revert key
  decide

theorem alertKeys_nonblank : ∀ key ∈ alertKeys, nonblank key = true := by decide

end OperationsTelemetry

namespace SyncCall

open OperationsTelemetry

variable {c : SyncCall}

/-- The fields a call sets before it posts anything. -/
def marked (t : OperationsTelemetry) : SyncCall → OperationsTelemetry
  | .health snapshot observedAt => { t with
      lastHealthSync := some observedAt
      readyForMutation := snapshot.runtime.readyForMutation }
  | .mode target observedAt => { t with lastModeSync := some observedAt, mode := target }
  | .ambiguity unknownOrderCount manualReviewCount observedAt => { t with
      lastExecutionSync := some observedAt
      unknownOrderCount := unknownOrderCount
      manualReviewCount := manualReviewCount }

theorem raised_known {key : String} (h : key ∈ c.raisedKeys) :
    key ∈ alertKeys ∧ alertSource key = c.source := by
  unfold raisedKeys raises at h
  cases c with
  | health snapshot observedAt =>
    simp only [List.map_map,List.mem_map,Function.comp_apply] at h
    obtain ⟨a,-,rfl⟩ := h
    exact healthKeys_known _ (healthKey_mem a)
  | mode target observedAt =>
    refine modeKeys_known key ?_
    dsimp only at h
    split at h
    · simpa using h
    · simp at h
  | ambiguity unknownOrderCount manualReviewCount observedAt =>
    refine executionKeys_known key ?_
    simp only [List.map_append,List.mem_append] at h
    obtain h | h := h
    · split at h
      · exact List.mem_cons.mpr (.inl (by simpa using h))
      · simp at h
    · split at h
      · exact List.mem_cons_of_mem _ (by simpa using h)
      · simp at h

theorem resolved_known {shown : String → Bool} {key : String} (h : key ∈ c.resolves shown) :
    key ∈ alertKeys ∧ alertSource key = c.source := by
  unfold resolves at h
  cases c with
  | health snapshot observedAt =>
    dsimp only at h
    split at h
    · exact healthKeys_known key (List.mem_filter.mp h).1
    · simp at h
  | mode target observedAt =>
    refine modeKeys_known key ?_
    dsimp only at h
    split at h
    · simp at h
    · exact h
  | ambiguity unknownOrderCount manualReviewCount observedAt =>
    refine executionKeys_known key ?_
    simp only [List.mem_append] at h
    obtain h | h := h
    · split at h
      · exact List.mem_cons.mpr (.inl (by simpa using h))
      · simp at h
    · split at h
      · exact List.mem_cons_of_mem _ h
      · simp at h

theorem mem_resolves_health {snapshot : HealthSnapshot} {observedAt : Int}
    (hreasons : ∀ a ∈ snapshot.alerts, a.reason ≠ "") {shown : String → Bool} {key : String} :
    key ∈ (SyncCall.health snapshot observedAt).resolves shown ↔
      key ∈ healthKeys ∧ shown key = true ∧ key ∉ snapshot.alerts.map healthKey := by
  have hall : snapshot.alerts.all (fun a => a.reason ≠ "") = true := by simpa using hreasons
  simp only [resolves,hall,if_true,List.mem_filter,Bool.and_eq_true,Bool.not_eq_true',
    List.contains_eq_mem,decide_eq_false_iff_not]
  rfl

end SyncCall

/-- Both telemetries have made the calls on the board. -/
structure Twins (board : AlertBoard) (s m : RuntimeServices) : Prop where
  mirrors : Mirrors s.telemetry.marks board.stamps s m
  health : s.telemetry.lastHealthSync = board.last "health"
  mode : s.telemetry.lastModeSync = board.last "mode"
  execution : s.telemetry.lastExecutionSync = board.last "execution"
  known : ∀ key, ∀ stamp ∈ board.stamps key, key ∈ OperationsTelemetry.alertKeys
  ordered : ∀ key, ∀ stamp ∈ board.stamps key,
    ∃ t, board.last (alertSource key) = some t ∧ stamp.observedAt ≤ t

theorem Mirrors.marked {rest : OperationsTelemetry} {stamps : AlertStamps} {s m : RuntimeServices}
    (h : Mirrors rest stamps s m) (c : SyncCall) :
    Mirrors (c.marked s.telemetry).marks stamps { s with telemetry := c.marked s.telemetry }
      { m with telemetry := c.marked m.telemetry } where
  rest := rfl
  journaled := by
    cases c <;> exact h.journaled
  same := by
    rw [h.same]
    cases c <;> rfl
  sound := h.sound
  display := by
    cases c <;> exact h.display
  shown := by
    cases c <;> exact h.shown
  rows := h.rows
  events := h.events

/-- The alert of one count. -/
theorem Mirrors.count {rest : OperationsTelemetry} {stamps : AlertStamps} {s m : RuntimeServices}
    (h : Mirrors rest stamps s m) {E : RuntimeServices → RuntimeServices → Prop}
    {key detail : String} {count observedAt : Int} (hsource : alertSource key = "execution")
    (hkey : nonblank key = true) (hdetail : nonblank detail = true)
    (hraise : count ≠ 0 → ∀ stamp ∈ stamps key, stamp.observedAt < observedAt)
    (hresolve : count = 0 → ∀ stamp ∈ stamps key, stamp.observedAt ≤ observedAt ∧
      (stamp.observedAt = observedAt → stamp.raised = false)) :
    Lockstep (Mirrors rest (stamps.mark [key] ⟨observedAt,decide (count ≠ 0)⟩)) E
      (OperationsTelemetry.syncCount Disk.healthy key count detail observedAt s)
      (OperationsTelemetry.syncCount Disk.healthy key count detail observedAt m) := by
  unfold OperationsTelemetry.syncCount
  by_cases hcount : count = 0
  · simp only [hcount,ne_eq,not_true,if_false,decide_false]
    exact h.resolve hsource hkey (hresolve hcount)
  · simp only [hcount,ne_eq,not_false_eq_true,if_true,decide_true]
    exact h.upsert hsource hkey hdetail (hraise hcount)

namespace Twins

variable {board : AlertBoard} {c : SyncCall} {s m : RuntimeServices}

/-- What is on the board is no later than a call that is accepted. -/
theorem stamp_le (h : Twins board s m) (haccepts : board.accepts c = true) {key : String}
    (hsource : alertSource key = c.source) :
    ∀ stamp ∈ board.stamps key, stamp.observedAt ≤ c.observedAt := by
  intro stamp hstamp
  obtain ⟨t,ht,hle⟩ := h.ordered key stamp hstamp
  simp only [AlertBoard.accepts,OperationsTelemetry.late,← hsource,ht,Option.any_some,
    Bool.and_eq_true,Bool.not_eq_true',decide_eq_false_iff_not] at haccepts
  omega

/-- The whole call is on the board once its posts are made. -/
theorem posted (h : Twins board s m) (haccepts : board.accepts c = true) {s' m' : RuntimeServices}
    (hm : Mirrors (c.marked s.telemetry).marks (board.post c).stamps s' m') :
    Twins (board.post c) s' m' where
  mirrors := by
    rw [hm.rest]
    exact hm
  health := by
    have hlast := congrArg OperationsTelemetry.lastHealthSync hm.rest
    have hold := h.health
    cases c <;>
      simpa [OperationsTelemetry.marks,SyncCall.marked,AlertBoard.post,haccepts,SyncCall.source,
        SyncCall.observedAt,hold] using hlast
  mode := by
    have hlast := congrArg OperationsTelemetry.lastModeSync hm.rest
    have hold := h.mode
    cases c <;>
      simpa [OperationsTelemetry.marks,SyncCall.marked,AlertBoard.post,haccepts,SyncCall.source,
        SyncCall.observedAt,hold] using hlast
  execution := by
    have hlast := congrArg OperationsTelemetry.lastExecutionSync hm.rest
    have hold := h.execution
    cases c <;>
      simpa [OperationsTelemetry.marks,SyncCall.marked,AlertBoard.post,haccepts,SyncCall.source,
        SyncCall.observedAt,hold] using hlast
  known := by
    intro key stamp hstamp
    simp only [AlertBoard.post,haccepts,if_true,AlertStamps.mark] at hstamp
    split at hstamp
    · exact (SyncCall.resolved_known ‹_›).1
    · split at hstamp
      · exact (SyncCall.raised_known ‹_›).1
      · exact h.known key stamp hstamp
  ordered := by
    intro key stamp hstamp
    have hle : alertSource key = c.source →
        ∀ stamp ∈ board.stamps key, stamp.observedAt ≤ c.observedAt := h.stamp_le haccepts
    simp only [AlertBoard.post,haccepts,if_true,AlertStamps.mark] at hstamp ⊢
    split at hstamp
    · cases hstamp
      exact ⟨c.observedAt,by simp [(SyncCall.resolved_known ‹_›).2],Int.le_refl _⟩
    · split at hstamp
      · cases hstamp
        exact ⟨c.observedAt,by simp [(SyncCall.raised_known ‹_›).2],Int.le_refl _⟩
      · obtain ⟨t,ht,hle'⟩ := h.ordered key stamp hstamp
        by_cases hsource : alertSource key = c.source
        · exact ⟨c.observedAt,by simp [hsource],hle hsource stamp hstamp⟩
        · exact ⟨t,by simp [hsource,ht],hle'⟩

theorem raise_ok (h : Twins board s m) (haccepts : board.accepts c = true)
    (hfresh : board.Fresh c) :
    ∀ key ∈ c.raisedKeys, ∀ stamp ∈ board.stamps key, stamp.observedAt < c.observedAt := by
  intro key hkey stamp hstamp
  have hle := h.stamp_le haccepts (SyncCall.raised_known hkey).2 stamp hstamp
  have hne := hfresh.raised key hkey stamp hstamp
  omega

theorem resolve_ok (h : Twins board s m) (haccepts : board.accepts c = true)
    (hfresh : board.Fresh c) :
    ∀ key ∈ c.resolves board.stamps.shown, ∀ stamp ∈ board.stamps key,
      stamp.observedAt ≤ c.observedAt ∧
        (stamp.observedAt = c.observedAt → stamp.raised = false) := by
  intro key hkey stamp hstamp
  exact ⟨h.stamp_le haccepts (SyncCall.resolved_known hkey).2 stamp hstamp,
    hfresh.resolved key hkey stamp hstamp⟩

theorem post_stamps (haccepts : board.accepts c = true) :
    (board.post c).stamps = (board.stamps.mark c.raisedKeys ⟨c.observedAt,true⟩).mark
      (c.resolves board.stamps.shown) ⟨c.observedAt,false⟩ := by
  simp [AlertBoard.post,haccepts]

/-- A synchronization is late in both, or sets its fields and makes its posts in both. -/
theorem sync (h : Twins board s m) (hcounted : c.counted = true) {body : Ops Unit}
    (hbody : board.accepts c = true → ∀ s' m',
      Mirrors (c.marked s.telemetry).marks board.stamps s' m' →
        Lockstep (Mirrors (c.marked s.telemetry).marks (board.post c).stamps)
          (Mirrors (c.marked s.telemetry).marks (board.post c).stamps) (body s') (body m'))
    {method : Ops Unit} (hmethod : method =
      if OperationsTelemetry.late (board.last c.source) c.observedAt then pure ()
      else do
        Ops.telemetry (fun t => c.marked t)
        body) :
    Lockstep (Twins (board.post c)) (Twins (board.post c)) (method s) (method m) := by
  subst hmethod
  cases hlate : OperationsTelemetry.late (board.last c.source) c.observedAt with
  | true =>
    have hrefused : board.accepts c = false := by simp [AlertBoard.accepts,hlate]
    have hsame : board.post c = board := by simp [AlertBoard.post,hrefused]
    rw [hsame]
    exact .ok h
  | false =>
    have haccepts : board.accepts c = true := by simp [AlertBoard.accepts,hcounted,hlate]
    simp only [Bool.false_eq_true,if_false]
    rw [Ops.telemetry_bind,Ops.telemetry_bind]
    exact (hbody haccepts _ _ (h.mirrors.marked c)).mono (fun _ _ hm => h.posted haccepts hm)
      (fun _ _ hm => h.posted haccepts hm)

theorem syncMode {target : RuntimeMode} {observedAt : Int} (h : Twins board s m)
    (hfresh : board.accepts (.mode target observedAt) = true →
      board.Fresh (.mode target observedAt)) :
    Lockstep (Twins (board.post (.mode target observedAt)))
      (Twins (board.post (.mode target observedAt)))
      (OperationsTelemetry.syncMode Disk.healthy target observedAt s)
      (OperationsTelemetry.syncMode Disk.healthy target observedAt m) := by
  have hlast : m.telemetry.lastModeSync = s.telemetry.lastModeSync := by rw [h.mirrors.same]
  unfold OperationsTelemetry.syncMode
  rw [Ops.get_bind,Ops.get_bind,hlast,h.mode]
  refine h.sync rfl ?_ rfl
  intro haccepts s' m' hm
  have hraise := h.raise_ok haccepts (hfresh haccepts)
  have hresolve := h.resolve_ok haccepts (hfresh haccepts)
  rw [post_stamps haccepts]
  by_cases hhalted : target = .halted
  · simp only [SyncCall.raisedKeys,SyncCall.raises,SyncCall.resolves,hhalted,if_true,List.map_cons,
      List.map_nil,AlertStamps.mark_nil] at hraise ⊢
    subst hhalted
    exact hm.upsert (by decide) (by decide) (by decide) (hraise _ (by simp))
  · simp only [SyncCall.raisedKeys,SyncCall.raises,SyncCall.resolves,hhalted,if_false,List.map_nil,
      AlertStamps.mark_nil] at hresolve ⊢
    exact hm.resolve (by decide) (by decide) (hresolve _ (by simp))

/-- The two counts together. -/
theorem ambiguity_stamps {unknownOrderCount manualReviewCount observedAt : Int}
    (stamps : AlertStamps) {shown : String → Bool} :
    (stamps.mark ["execution:UNKNOWN"] ⟨observedAt,decide (unknownOrderCount ≠ 0)⟩).mark
        ["execution:MANUAL_REVIEW"] ⟨observedAt,decide (manualReviewCount ≠ 0)⟩ =
      (stamps.mark (SyncCall.ambiguity unknownOrderCount manualReviewCount observedAt).raisedKeys
        ⟨observedAt,true⟩).mark
        ((SyncCall.ambiguity unknownOrderCount manualReviewCount observedAt).resolves shown)
        ⟨observedAt,false⟩ := by
  funext key
  by_cases hu : unknownOrderCount = 0 <;> by_cases hm : manualReviewCount = 0 <;>
    simp [AlertStamps.mark,SyncCall.raisedKeys,SyncCall.raises,SyncCall.resolves,hu,hm] <;> grind

theorem syncExecutionAmbiguity {unknownOrderCount manualReviewCount observedAt : Int}
    (h : Twins board s m)
    (hfresh : board.accepts (.ambiguity unknownOrderCount manualReviewCount observedAt) = true →
      board.Fresh (.ambiguity unknownOrderCount manualReviewCount observedAt)) :
    Lockstep (Twins (board.post (.ambiguity unknownOrderCount manualReviewCount observedAt)))
      (Twins (board.post (.ambiguity unknownOrderCount manualReviewCount observedAt)))
      (OperationsTelemetry.syncExecutionAmbiguity Disk.healthy unknownOrderCount manualReviewCount
        observedAt s)
      (OperationsTelemetry.syncExecutionAmbiguity Disk.healthy unknownOrderCount manualReviewCount
        observedAt m) := by
  have hlast : m.telemetry.lastExecutionSync = s.telemetry.lastExecutionSync := by
    rw [h.mirrors.same]
  have hrefused : unknownOrderCount < 0 ∨ manualReviewCount < 0 →
      board.post (.ambiguity unknownOrderCount manualReviewCount observedAt) = board := by
    intro hneg
    have hcounted : ¬ (0 ≤ unknownOrderCount ∧ 0 ≤ manualReviewCount) := by omega
    have haccepts : board.accepts (.ambiguity unknownOrderCount manualReviewCount observedAt) =
        false := by
      simp only [AlertBoard.accepts,SyncCall.counted,Bool.and_eq_false_iff,decide_eq_false_iff_not]
      omega
    simp [AlertBoard.post,haccepts]
  unfold OperationsTelemetry.syncExecutionAmbiguity OperationsTelemetry.validateCount
  by_cases hu : unknownOrderCount < 0
  · rw [hrefused (.inl hu)]
    simp only [hu,if_true]
    exact .error h
  · by_cases hr : manualReviewCount < 0
    · rw [hrefused (.inr hr)]
      simp only [hu,hr,if_true,if_false]
      exact .error h
    · simp only [hu,hr,if_false]
      rw [Ops.pure_bind_apply,Ops.pure_bind_apply,Ops.pure_bind_apply,Ops.pure_bind_apply,
        Ops.get_bind,Ops.get_bind,hlast,h.execution]
      refine h.sync (by simp [SyncCall.counted]; omega) ?_ rfl
      intro haccepts s' m' hm
      have hraise := h.raise_ok haccepts (hfresh haccepts)
      have hresolve := h.resolve_ok haccepts (hfresh haccepts)
      have hother : ∀ stamp, board.stamps.mark ["execution:UNKNOWN"] stamp
          "execution:MANUAL_REVIEW" = board.stamps "execution:MANUAL_REVIEW" := by
        intro stamp
        simp [AlertStamps.mark]
      have hstamps := (post_stamps haccepts).trans (ambiguity_stamps board.stamps).symm
      rw [hstamps]
      have hread : ∀ {a b : String}, nonblank b = true → nonblank (a ++ b) = true :=
        OperationsTelemetry.nonblank_append
      refine (hm.count (by decide) (by decide) (hread (by decide)) ?_ ?_).bind fun _ s₁ m₁ hm₁ =>
        hm₁.count (by decide) (by decide) (hread (by decide)) ?_ ?_
      · intro hcount
        exact hraise _ (by simp [SyncCall.raisedKeys,SyncCall.raises,hcount])
      · intro hcount
        exact hresolve _ (by simp [SyncCall.resolves,hcount])
      · intro hcount
        simp only [hother]
        exact hraise _ (by simp [SyncCall.raisedKeys,SyncCall.raises,hcount])
      · intro hcount
        simp only [hother]
        exact hresolve _ (by simp [SyncCall.resolves,hcount])

/-- The alerts of a health snapshot, up to an empty reason. -/
theorem health_raises {snapshot : HealthSnapshot} {observedAt : Int} (h : Twins board s m)
    (haccepts : board.accepts (.health snapshot observedAt) = true)
    (hfresh : board.Fresh (.health snapshot observedAt)) {rest : OperationsTelemetry}
    {s' m' : RuntimeServices} (hm : Mirrors rest board.stamps s' m') :
    Lockstep
      (fun s₁ m₁ => (∀ a ∈ snapshot.alerts, a.reason ≠ "") ∧ Mirrors rest (board.stamps.mark
        (snapshot.alerts.map OperationsTelemetry.healthKey) ⟨observedAt,true⟩) s₁ m₁)
      (Mirrors rest (board.post (.health snapshot observedAt)).stamps)
      (snapshot.alerts.forM (fun a => OperationsTelemetry.upsert Disk.healthy
        (OperationsTelemetry.healthKey a) .error a.reason observedAt "health") s')
      (snapshot.alerts.forM (fun a => OperationsTelemetry.upsert Disk.healthy
        (OperationsTelemetry.healthKey a) .error a.reason observedAt "health") m') := by
  have hraise := h.raise_ok haccepts hfresh
  refine Lockstep.forM (fun done s₁ m₁ => (∀ a ∈ done, a.reason ≠ "") ∧ Mirrors rest
    (board.stamps.mark (done.map OperationsTelemetry.healthKey) ⟨observedAt,true⟩) s₁ m₁) ?_
    ⟨by simp,by simpa using hm⟩
  intro done a left s₁ m₁ hl ⟨hdone,hm₁⟩
  have hraises : (SyncCall.health snapshot observedAt).raises =
      (done ++ (a :: left).takeWhile (fun a => a.reason ≠ "")).map
        (fun a => (OperationsTelemetry.healthKey a,a.reason)) := by
    have hposted : snapshot.alerts.takeWhile (fun a => a.reason ≠ "") =
        done ++ (a :: left).takeWhile (fun a => a.reason ≠ "") := by
      rw [hl]
      exact List.takeWhile_append_of_pos (by simpa using hdone)
    exact congrArg (List.map _) hposted
  have hkey := OperationsTelemetry.healthKeys_known _ (OperationsTelemetry.healthKey_mem a)
  have hnonblank := OperationsTelemetry.alertKeys_nonblank _ hkey.1
  by_cases hreason : a.reason = ""
  · have hraised : (SyncCall.health snapshot observedAt).raisedKeys =
        done.map OperationsTelemetry.healthKey := by
      rw [SyncCall.raisedKeys,hraises]
      simp [hreason,Function.comp_def]
    have hresolves : ∀ shown, (SyncCall.health snapshot observedAt).resolves shown = [] := by
      intro shown
      simp [SyncCall.resolves,hl,hreason]
    have hstamps := post_stamps haccepts
    rw [hraised,hresolves,AlertStamps.mark_nil] at hstamps
    rw [hstamps,hreason]
    refine hm₁.upsert_refused hnonblank ?_
    intro stamp hstamp
    simp only [AlertStamps.mark] at hstamp
    split at hstamp
    · cases hstamp
      exact Int.le_refl _
    · exact h.stamp_le haccepts hkey.2 stamp hstamp
  · have hraised : ∃ more, (SyncCall.health snapshot observedAt).raisedKeys =
        done.map OperationsTelemetry.healthKey ++ OperationsTelemetry.healthKey a :: more := by
      rw [SyncCall.raisedKeys,hraises]
      simp [hreason,Function.comp_def]
    have hread : nonblank a.reason = true := by
      refine hfresh.readable (OperationsTelemetry.healthKey a,a.reason) ?_
      rw [hraises]
      simp [hreason]
    obtain ⟨more,hraised⟩ := hraised
    have honce := hfresh.once
    rw [hraised,List.nodup_append] at honce
    have hnew : OperationsTelemetry.healthKey a ∉ done.map OperationsTelemetry.healthKey :=
      fun hmem => honce.2.2 _ hmem _ List.mem_cons_self rfl
    refine (hm₁.upsert (E := Mirrors rest (board.post (.health snapshot observedAt)).stamps)
      hkey.2 hnonblank hread ?_).mono ?_ (fun _ _ he => he)
    · intro stamp hstamp
      simp only [AlertStamps.mark,hnew,if_false] at hstamp
      exact hraise _ (by rw [hraised]; simp) stamp hstamp
    · intro s₂ m₂ hm₂
      refine ⟨?_,?_⟩
      · intro b hb
        simp only [List.mem_append,List.mem_singleton] at hb
        obtain hb | rfl := hb
        · exact hdone b hb
        · exact hreason
      · rw [List.map_append,List.map_cons,List.map_nil,← AlertStamps.mark_snoc]
        exact hm₂

/-- The health alerts on display that the snapshot no longer names. -/
theorem mem_dropped_iff {snapshot : HealthSnapshot} {observedAt : Int} (h : Twins board s m)
    (hreasons : ∀ a ∈ snapshot.alerts, a.reason ≠ "") {rest : OperationsTelemetry}
    {s₁ m₁ : RuntimeServices} (hm : Mirrors rest (board.stamps.mark
      (snapshot.alerts.map OperationsTelemetry.healthKey) ⟨observedAt,true⟩) s₁ m₁) (key : String) :
    key ∈ s₁.telemetry.dropped "health:" (snapshot.alerts.map OperationsTelemetry.healthKey) ↔
      key ∈ (SyncCall.health snapshot observedAt).resolves board.stamps.shown := by
  have hdisplay : key ∈ s₁.telemetry.alerts.map ActiveAlert.key ↔
      (board.stamps.mark (snapshot.alerts.map OperationsTelemetry.healthKey)
        ⟨observedAt,true⟩).shown key = true := by
    rw [← hm.shown key]
    simp [OperationsTelemetry.find,Keyed.find]
  rw [SyncCall.mem_resolves_health hreasons]
  unfold OperationsTelemetry.dropped
  rw [List.mem_filter,hdisplay]
  simp only [Bool.and_eq_true,Bool.not_eq_true',List.contains_eq_mem,decide_eq_false_iff_not]
  constructor
  · rintro ⟨hshown,hhead,hkeep⟩
    have hold : board.stamps.shown key = true := by
      simpa [AlertStamps.shown,AlertStamps.mark,hkeep] using hshown
    have hknown : key ∈ OperationsTelemetry.alertKeys := by
      cases hstamp : board.stamps key with
      | none => simp [AlertStamps.shown,hstamp] at hold
      | some stamp => exact h.known key stamp hstamp
    exact ⟨(OperationsTelemetry.mem_healthKeys_iff hknown).mpr hhead,hold,hkeep⟩
  · rintro ⟨hmem,hold,hkeep⟩
    have hknown := (OperationsTelemetry.healthKeys_known key hmem).1
    refine ⟨?_,(OperationsTelemetry.mem_healthKeys_iff hknown).mp hmem,hkeep⟩
    simpa [AlertStamps.shown,AlertStamps.mark,hkeep] using hold

/-- The health alerts on display that are resolved. -/
theorem health_resolves {snapshot : HealthSnapshot} {observedAt : Int} (h : Twins board s m)
    (haccepts : board.accepts (.health snapshot observedAt) = true)
    (hfresh : board.Fresh (.health snapshot observedAt))
    (hreasons : ∀ a ∈ snapshot.alerts, a.reason ≠ "") {rest : OperationsTelemetry}
    {s₁ m₁ : RuntimeServices} (hm : Mirrors rest (board.stamps.mark
      (snapshot.alerts.map OperationsTelemetry.healthKey) ⟨observedAt,true⟩) s₁ m₁)
    {E : RuntimeServices → RuntimeServices → Prop} :
    Lockstep (Mirrors rest (board.post (.health snapshot observedAt)).stamps) E
      (OperationsTelemetry.resolvePrefix Disk.healthy "health:"
        (snapshot.alerts.map OperationsTelemetry.healthKey) observedAt "health" s₁)
      (OperationsTelemetry.resolvePrefix Disk.healthy "health:"
        (snapshot.alerts.map OperationsTelemetry.healthKey) observedAt "health" m₁) := by
  have hresolve := h.resolve_ok haccepts hfresh
  have hdropped := h.mem_dropped_iff hreasons hm
  have hraised : (SyncCall.health snapshot observedAt).raisedKeys =
      snapshot.alerts.map OperationsTelemetry.healthKey := by
    have hposted : snapshot.alerts.takeWhile (fun a => a.reason ≠ "") = snapshot.alerts :=
      List.takeWhile_eq_self_iff.mpr (by simpa using hreasons)
    have hraises := congrArg
      (List.map (fun a => (OperationsTelemetry.healthKey a,a.reason))) hposted
    rw [SyncCall.raisedKeys,SyncCall.raises,hraises,List.map_map]
    rfl
  have hsame : m₁.telemetry.alerts = s₁.telemetry.alerts := by rw [hm.same]
  have hstamps := post_stamps haccepts
  rw [hraised,← AlertStamps.mark_congr hdropped] at hstamps
  unfold OperationsTelemetry.resolvePrefix
  rw [Ops.get_bind,Ops.get_bind,hstamps]
  have hlist : m₁.telemetry.dropped = s₁.telemetry.dropped := by
    funext pre keep
    simp only [OperationsTelemetry.dropped,hsame]
  rw [hlist]
  generalize s₁.telemetry.dropped "health:" (snapshot.alerts.map OperationsTelemetry.healthKey) =
    keys at hdropped ⊢
  refine Lockstep.forM (fun done s₂ m₂ => Mirrors rest ((board.stamps.mark
    (snapshot.alerts.map OperationsTelemetry.healthKey) ⟨observedAt,true⟩).mark done
      ⟨observedAt,false⟩) s₂ m₂) ?_ (by simpa using hm)
  intro done key left s₂ m₂ hl hm₂
  have hmem := (hdropped key).mp (by rw [hl]; simp)
  have hknown := SyncCall.resolved_known hmem
  rw [← AlertStamps.mark_snoc]
  refine hm₂.resolve hknown.2 (OperationsTelemetry.alertKeys_nonblank key hknown.1) ?_
  intro stamp hstamp
  have hkeep : key ∉ snapshot.alerts.map OperationsTelemetry.healthKey := by
    exact ((SyncCall.mem_resolves_health hreasons).mp hmem).2.2
  simp only [AlertStamps.mark,hkeep,if_false] at hstamp
  split at hstamp
  · cases hstamp
    exact ⟨Int.le_refl _,fun _ => rfl⟩
  · exact hresolve key hmem stamp hstamp

theorem syncHealth {snapshot : HealthSnapshot} {observedAt : Int} (h : Twins board s m)
    (hfresh : board.accepts (.health snapshot observedAt) = true →
      board.Fresh (.health snapshot observedAt)) :
    Lockstep (Twins (board.post (.health snapshot observedAt)))
      (Twins (board.post (.health snapshot observedAt)))
      (OperationsTelemetry.syncHealth Disk.healthy snapshot observedAt s)
      (OperationsTelemetry.syncHealth Disk.healthy snapshot observedAt m) := by
  have hlast : m.telemetry.lastHealthSync = s.telemetry.lastHealthSync := by rw [h.mirrors.same]
  unfold OperationsTelemetry.syncHealth
  rw [Ops.get_bind,Ops.get_bind,hlast,h.health]
  refine h.sync rfl ?_ rfl
  intro haccepts s' m' hm
  refine (h.health_raises haccepts (hfresh haccepts) hm).bind ?_
  intro _ s₁ m₁ ⟨hreasons,hm₁⟩
  exact h.health_resolves haccepts (hfresh haccepts) hreasons hm₁

/-- One call, in both. -/
theorem perform (h : Twins board s m) (hfresh : board.accepts c = true → board.Fresh c) :
    Lockstep (Twins (board.post c)) (Twins (board.post c)) (c.perform s) (c.perform m) := by
  cases c with
  | health snapshot observedAt => exact h.syncHealth hfresh
  | mode target observedAt => exact h.syncMode hfresh
  | ambiguity unknownOrderCount manualReviewCount observedAt =>
    exact h.syncExecutionAmbiguity hfresh

theorem snapshot_eq (h : Twins board s m) : s.telemetry.snapshot = m.telemetry.snapshot := by
  rw [h.mirrors.same]
  rfl

theorem outcomes_eq {calls : List SyncCall} (h : Twins board s m)
    (hcalls : board.Unrepeated calls) :
    SyncCall.outcomes s calls = SyncCall.outcomes m calls := by
  induction calls generalizing board s m with
  | nil => rfl
  | cons c calls ih =>
    have hstep := h.perform hcalls.1
    unfold SyncCall.outcomes
    cases hs : c.perform s with
    | ok _ s' =>
      cases hm : c.perform m with
      | ok _ m' =>
        rw [hs,hm] at hstep
        cases hstep with
        | ok hnext => simp only [hnext.snapshot_eq,ih hnext hcalls.2]
      | error _ m' =>
        rw [hs,hm] at hstep
        cases hstep
    | error _ s' =>
      cases hm : c.perform m with
      | ok _ m' =>
        rw [hs,hm] at hstep
        cases hstep
      | error _ m' =>
        rw [hs,hm] at hstep
        cases hstep with
        | error hnext => simp only [hnext.snapshot_eq,ih hnext hcalls.2]

end Twins

theorem Twins.fresh {s : RuntimeServices} (hevents : s.db.alertEvents = [])
    (hstates : s.db.alertStates = []) :
    Twins .empty { s with telemetry := .fresh true } { s with telemetry := .fresh false } where
  mirrors := {
    rest := rfl
    journaled := rfl
    same := rfl
    sound := ⟨by simp [hevents],by simp [hevents],by simp [hevents],by simp [hstates]⟩
    display := by simp [OperationsDb.stateRow,hstates,Keyed.find,OperationsTelemetry.find,
      OperationsTelemetry.fresh]
    shown := by simp [Keyed.find,OperationsTelemetry.find,OperationsTelemetry.fresh,
      AlertBoard.empty,AlertStamps.shown]
    rows := by simp [OperationsDb.stateRow,hstates,Keyed.find]
    events := by simp [hevents] }
  health := rfl
  mode := rfl
  execution := rfl
  known := by simp [AlertBoard.empty]
  ordered := by simp [AlertBoard.empty]

/-- A disconnected terminal. -/
def SyncCall.disconnected : HealthSnapshot where
  runtime := ⟨true,true,true,true,false,true,true⟩
  alerts := [⟨.qmt,"disconnect"⟩]

def SyncCall.connected : HealthSnapshot where
  runtime := ⟨true,true,true,true,true,true,true⟩
  alerts := []

end BigQmt
