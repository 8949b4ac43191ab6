import BigQmt.Supervisor
import Mathlib.Data.List.Nodup
set_option autoImplicit false

/-!
What a telemetry write does to the alert tables and to the alerts on display, and
when it raises.
-/

namespace BigQmt

namespace OperationsTelemetry

/-- One alert for each key, first seen no later than last seen. -/
structure Sound (t : OperationsTelemetry) : Prop where
  keys : (t.alerts.map ActiveAlert.key).Nodup
  times : ∀ a ∈ t.alerts, a.firstSeenAt ≤ a.lastSeenAt

theorem Sound.put {t : OperationsTelemetry} (h : t.Sound) {a : ActiveAlert}
    (ha : a.firstSeenAt ≤ a.lastSeenAt) : (t.put a).Sound where
  keys := by
    unfold OperationsTelemetry.put
    rw [Keyed.put_keys]
    split
    · exact h.keys
    · rename_i hnew
      exact List.nodup_append.mpr ⟨h.keys,by simp,by
        intro x hx y hy hxy
        simp only [List.mem_singleton] at hy
        exact hnew (hy ▸ hxy ▸ hx)⟩
  times := by
    intro b hb
    obtain rfl | hb := Keyed.mem_put hb
    · exact ha
    · exact h.times b hb

theorem Sound.pop {t : OperationsTelemetry} (h : t.Sound) (key : String) : (t.pop key).Sound where
  keys := h.keys.sublist (List.filter_sublist.map _)
  times := fun a ha => h.times a (List.mem_filter.mp ha).1

/-- The other keys stay as they are, in their order. -/
theorem put_others (t : OperationsTelemetry) {a : ActiveAlert} {p : String → Bool}
    (h : p a.key = false) :
    ((t.put a).alerts.map ActiveAlert.key).filter p = (t.alerts.map ActiveAlert.key).filter p := by
  unfold OperationsTelemetry.put
  rw [Keyed.put_keys]
  split
  · rfl
  · simp [h]

theorem pop_others (t : OperationsTelemetry) {key : String} {p : String → Bool}
    (h : p key = false) :
    ((t.pop key).alerts.map ActiveAlert.key).filter p =
      (t.alerts.map ActiveAlert.key).filter p := by
  unfold OperationsTelemetry.pop
  induction t.alerts with
  | nil => rfl
  | cons a alerts ih =>
    by_cases hk : a.key = key
    · simpa [hk,h] using ih
    · by_cases hp : p a.key = true <;> simpa [hk,hp] using ih

end OperationsTelemetry

/-- A displayable row becomes its alert. -/
theorem PersistedAlertState.Displayable.alert {row : PersistedAlertState} (h : row.Displayable) :
    ∃ a, row.alert = .ok a ∧ a.key = row.key ∧ a.firstSeenAt ≤ a.lastSeenAt := by
  have hseverity : ∃ s, AlertSeverity.ofValue row.severity = some s := by
    have := h.severity
    simp only [List.mem_cons,List.not_mem_nil,or_false] at this
    obtain hs | hs := this
    · exact ⟨.warning,by rw [hs]; decide⟩
    · exact ⟨.error,by rw [hs]; decide⟩
  obtain ⟨s,hs⟩ := hseverity
  have htimes : ¬ row.lastSeenAt < row.firstSeenAt := by
    have := h.times
    omega
  refine ⟨⟨row.key,s,row.detail,row.firstSeenAt,row.lastSeenAt,row.occurrences⟩,?_,rfl,h.times⟩
  simp [PersistedAlertState.alert,hs,ActiveAlert.build,h.key,h.detail,htimes,h.occurrences]

namespace RuntimeServices

structure Sound (s : RuntimeServices) : Prop where
  db : s.db.Sound
  telemetry : s.telemetry.Sound

/-- What the telemetry never writes. -/
structure SameRuntime (s s' : RuntimeServices) : Prop where
  modes : s'.modes = s.modes
  health : s'.health = s.health
  maxAge : s'.healthMaxAgeSeconds = s.healthMaxAgeSeconds
  transitions : s'.db.transitions = s.db.transitions
  journaled : s'.telemetry.journaled = s.telemetry.journaled

theorem SameRuntime.refl (s : RuntimeServices) : s.SameRuntime s := ⟨rfl,rfl,rfl,rfl,rfl⟩

theorem SameRuntime.trans {a b c : RuntimeServices} (h : a.SameRuntime b) (h' : b.SameRuntime c) :
    a.SameRuntime c :=
  ⟨h'.modes.trans h.modes,h'.health.trans h.health,h'.maxAge.trans h.maxAge,
    h'.transitions.trans h.transitions,h'.journaled.trans h.journaled⟩

/-- The journal, if there is one, does not take the fact. -/
def Refuses (disk : Disk) (s : RuntimeServices) (f : AlertFact) : Prop :=
  s.telemetry.journaled = true ∧ s.db.Refuses disk f

/-- The facts, and nothing else, have been posted. -/
structure Posted (s : RuntimeServices) (fs : List AlertFact) (s' : RuntimeServices) : Prop where
  sound : s'.Sound
  same : s.SameRuntime s'
  news : ∀ e ∈ s'.db.alertEvents, e ∈ s.db.alertEvents ∨ e.fact ∈ fs
  kept : ∀ e ∈ s.db.alertEvents, e ∈ s'.db.alertEvents
  others : ∀ p : String → Bool, (∀ f ∈ fs, p f.key = false) →
    (s'.telemetry.alerts.map ActiveAlert.key).filter p =
      (s.telemetry.alerts.map ActiveAlert.key).filter p

theorem Posted.nil {s : RuntimeServices} (h : s.Sound) : s.Posted [] s :=
  ⟨h,.refl s,fun _ he => .inl he,fun _ he => he,fun _ _ => rfl⟩

theorem Posted.append {s s' s'' : RuntimeServices} {fs gs : List AlertFact} (h : s.Posted fs s')
    (h' : s'.Posted gs s'') : s.Posted (fs ++ gs) s'' where
  sound := h'.sound
  same := h.same.trans h'.same
  news := by
    intro e he
    obtain he | he := h'.news e he
    · exact (h.news e he).imp_right (List.mem_append_left _)
    · exact .inr (List.mem_append_right _ he)
  kept := fun e he => h'.kept e (h.kept e he)
  others := by
    intro p hp
    rw [h'.others p fun f hf => hp f (List.mem_append_right _ hf),
      h.others p fun f hf => hp f (List.mem_append_left _ hf)]

/-- Facts of other alerts do not change what is refused. -/
theorem Posted.refuses_iff {s s' : RuntimeServices} {fs : List AlertFact} (h : s.Posted fs s')
    {disk : Disk} {g : AlertFact} (hg : ∀ f ∈ fs, f.key ≠ g.key) :
    s'.Refuses disk g ↔ s.Refuses disk g := by
  have hclash : s'.db.Clash g ↔ s.db.Clash g := by
    constructor
    · rintro ⟨e,he,hc⟩
      obtain he | he := h.news e he
      · exact ⟨e,he,hc⟩
      · exact absurd hc.1 (hg _ he)
    · rintro ⟨e,he,hc⟩
      exact ⟨e,h.kept e he,hc⟩
  unfold Refuses OperationsDb.Refuses
  rw [h.same.journaled,hclash]

/-- A method posts the facts one after the other, up to the first refused one. -/
def Posts (disk : Disk) (s : RuntimeServices) (fs : List AlertFact)
    (r : EStateM.Result OperationsError RuntimeServices Unit) : Prop :=
  (∃ s', r = .ok () s' ∧ s.Posted fs s' ∧ ∀ f ∈ fs, ¬ s.Refuses disk f) ∨
    (∃ e s', r = .error e s' ∧ s'.Sound ∧ s.SameRuntime s' ∧ ∃ f ∈ fs, s.Refuses disk f)

theorem Posts.nil {disk : Disk} {s : RuntimeServices} (h : s.Sound) : s.Posts disk [] (.ok () s) :=
  .inl ⟨s,rfl,.nil h,by simp⟩

theorem Posts.bind {disk : Disk} {s : RuntimeServices} {fs gs : List AlertFact} {m : Ops Unit}
    {m' : Unit → Ops Unit} (hm : s.Posts disk fs (m s))
    (hm' : ∀ s', m s = .ok () s' → s.Posted fs s' → s'.Posts disk gs (m' () s'))
    (hkeys : ∀ f ∈ fs, ∀ g ∈ gs, f.key ≠ g.key) : s.Posts disk (fs ++ gs) ((m >>= m') s) := by
  rw [Ops.bind_apply]
  obtain ⟨s',hok,hposted,hfs⟩ | ⟨e,s',herr,hsound,hsame,f,hf,hrefused⟩ := hm
  · have hrefuses : ∀ g ∈ gs, (s'.Refuses disk g ↔ s.Refuses disk g) := fun g hg =>
      hposted.refuses_iff fun f hf => hkeys f hf g hg
    rw [hok]
    obtain ⟨s'',hok',hposted',hgs⟩ | ⟨e,s'',herr,hsound,hsame,g,hg,hrefused⟩ := hm' s' hok hposted
    · refine .inl ⟨s'',hok',hposted.append hposted',?_⟩
      intro f hf
      obtain hf | hf := List.mem_append.mp hf
      · exact hfs f hf
      · exact fun h => hgs f hf ((hrefuses f hf).mpr h)
    · exact .inr ⟨e,s'',herr,hsound,hposted.same.trans hsame,g,List.mem_append_right _ hg,
        (hrefuses g hg).mp hrefused⟩
  · rw [herr]
    exact .inr ⟨e,s',rfl,hsound,hsame,f,List.mem_append_left _ hf,hrefused⟩

theorem Posts.forM {α : Type} {disk : Disk} {m : α → Ops Unit} {fact : α → AlertFact} {l : List α}
    (hm : ∀ a ∈ l, ∀ s : RuntimeServices, s.Sound → s.Posts disk [fact a] (m a s))
    (hkeys : (l.map fun a => (fact a).key).Nodup) {s : RuntimeServices}
    (hs : s.Sound) : s.Posts disk (l.map fact) (l.forM m s) := by
  induction l generalizing s with
  | nil => exact .nil hs
  | cons a l ih =>
    have hcons : (a :: l).forM m = (m a >>= fun _ => l.forM m) := rfl
    simp only [List.map_cons,List.nodup_cons,List.mem_map,not_exists,not_and] at hkeys
    rw [hcons]
    refine (hm a (by simp) s hs).bind (fun s' _ hposted =>
      ih (fun b hb => hm b (by simp [hb])) hkeys.2 hposted.sound) ?_
    intro g hg g' hg'
    simp only [List.mem_singleton] at hg
    simp only [List.mem_map] at hg'
    obtain ⟨b,hb,rfl⟩ := hg'
    subst hg
    exact fun h => hkeys.1 b hb h.symm

/-- What one write leaves on display is sound. -/
theorem Posted.single {s : RuntimeServices} {f : AlertFact} {db : OperationsDb}
    (hdb : s.db.Posted f db) {t : OperationsTelemetry} (ht : t.Sound)
    (hj : t.journaled = s.telemetry.journaled)
    (ho : ∀ p : String → Bool, p f.key = false → (t.alerts.map ActiveAlert.key).filter p =
      (s.telemetry.alerts.map ActiveAlert.key).filter p) :
    s.Posted [f] { s with db := db,telemetry := t } where
  sound := ⟨hdb.sound,ht⟩
  same := ⟨rfl,rfl,rfl,hdb.transitions,hj⟩
  news := by simpa using hdb.news
  kept := hdb.kept
  others := fun p hp => ho p (hp f (by simp))

theorem Posted.put {s : RuntimeServices} (hs : s.Sound) {f : AlertFact} {db : OperationsDb}
    (hdb : s.db.Posted f db) {a : ActiveAlert} (hkey : a.key = f.key)
    (ha : a.firstSeenAt ≤ a.lastSeenAt) :
    s.Posted [f] { s with db := db,telemetry := s.telemetry.put a } :=
  .single hdb (hs.telemetry.put ha) rfl fun _ hp => s.telemetry.put_others (hkey ▸ hp)

theorem Posted.pop {s : RuntimeServices} (hs : s.Sound) {f : AlertFact} {db : OperationsDb}
    (hdb : s.db.Posted f db) :
    s.Posted [f] { s with db := db,telemetry := s.telemetry.pop f.key } :=
  .single hdb (hs.telemetry.pop f.key) rfl fun _ hp => s.telemetry.pop_others hp

theorem display_posts {disk : Disk} {s : RuntimeServices} (hs : s.Sound) {f : AlertFact}
    {db : OperationsDb} (hdb : s.db.Posted f db) (hf : ¬ s.Refuses disk f)
    {row : PersistedAlertState} (hrow : row.Displayable) (hkey : row.key = f.key) :
    s.Posts disk [f] (OperationsTelemetry.display row { s with db := db }) := by
  obtain ⟨a,ha,hakey,htimes⟩ := hrow.alert
  refine .inl ⟨{ s with db := db,telemetry := s.telemetry.put a },?_,
    .put hs hdb (hakey.trans hkey) htimes,by simpa using hf⟩
  simp [OperationsTelemetry.display,ha]

theorem upsert_posts (disk : Disk) {s : RuntimeServices} (hs : s.Sound) {key : String}
    {severity : AlertSeverity} {detail : String} {observedAt : Int} {source : String}
    (hkey : nonblank key = true) (hdetail : detail ≠ "") (hsource : nonblank source = true) :
    s.Posts disk [⟨key,.active,some severity.value,some detail,observedAt,source⟩]
      (OperationsTelemetry.upsert disk key severity detail observedAt source s) := by
  unfold OperationsTelemetry.upsert
  rw [Ops.get_bind]
  generalize hf : (⟨key,.active,some severity.value,some detail,observedAt,source⟩ : AlertFact) = f
  have hfkey : key = f.key := by rw [← hf]
  by_cases hj : s.telemetry.journaled = true
  · have hrefuses : s.Refuses disk f ↔ s.db.Refuses disk f := by simp [Refuses,hj]
    rw [if_pos hj]
    obtain ⟨hrefused,e,he⟩ | ⟨hok,row,db,hrecord,hposted,hrow,hrowkey⟩ :=
      hs.db.recordActive disk hkey hsource (by cases severity <;> simp [AlertSeverity.value]) hf.symm
    · refine .inr ⟨e,s,?_,hs,.refl s,f,by simp,hrefuses.mpr hrefused⟩
      rw [Ops.bind_apply,Ops.journal_error he]
    · rw [Ops.bind_apply,Ops.journal_ok hrecord]
      dsimp only
      split
      · exact display_posts hs hposted (mt hrefuses.mp hok) hrow (hrowkey.trans hfkey)
      · refine .inl ⟨_,rfl,hfkey ▸ .pop hs hposted,?_⟩
        simpa using mt hrefuses.mp hok
  · have hrefuses : ¬ s.Refuses disk f := fun h => hj h.1
    have hsame : s.db.Posted f s.db := .duplicate hs.db f
    rw [if_neg hj]
    cases hr : s.telemetry.refreshed key severity detail observedAt with
    | none => exact .inl ⟨s,rfl,.single hsame hs.telemetry rfl fun _ _ => rfl,by simpa using hrefuses⟩
    | some a =>
      have ha : a.build = .ok a ∧ a.key = key ∧ a.firstSeenAt ≤ a.lastSeenAt := by
        have hne := OperationsDb.ne_empty_of_nonblank hkey
        unfold OperationsTelemetry.refreshed at hr
        cases hfind : s.telemetry.find key with
        | none =>
          rw [hfind] at hr
          cases hr
          simp [ActiveAlert.build,hne,hdetail]
        | some current =>
          have htimes := hs.telemetry.times current (Keyed.find_mem hfind)
          simp only [hfind] at hr
          split_ifs at hr with hlate
          cases hr
          have hfirst : ¬ observedAt < current.firstSeenAt := by omega
          refine ⟨by simp [ActiveAlert.build,hne,hdetail,hfirst],rfl,?_⟩
          dsimp only
          omega
      refine .inl ⟨_,by simp [ha.1],.put hs hsame (ha.2.1.trans hfkey) ha.2.2,?_⟩
      simpa using hrefuses

theorem resolve_posts (disk : Disk) {s : RuntimeServices} (hs : s.Sound) {key : String}
    {observedAt : Int} {source : String} (hkey : nonblank key = true)
    (hsource : nonblank source = true) :
    s.Posts disk [⟨key,.resolved,none,none,observedAt,source⟩]
      (OperationsTelemetry.resolve disk key observedAt source s) := by
  unfold OperationsTelemetry.resolve
  rw [Ops.get_bind]
  generalize hf : (⟨key,.resolved,none,none,observedAt,source⟩ : AlertFact) = f
  have hfkey : key = f.key := by rw [← hf]
  by_cases hj : s.telemetry.journaled = true
  · have hrefuses : s.Refuses disk f ↔ s.db.Refuses disk f := by simp [Refuses,hj]
    rw [if_pos hj]
    obtain ⟨hrefused,e,he⟩ | ⟨hok,row?,db,hrecord,hposted,hrow⟩ :=
      hs.db.recordResolved disk hkey hsource hf.symm
    · refine .inr ⟨e,s,?_,hs,.refl s,f,by simp,hrefuses.mpr hrefused⟩
      rw [Ops.bind_apply,Ops.journal_error he]
    · rw [Ops.bind_apply,Ops.journal_ok hrecord]
      dsimp only
      cases hactive : row?.filter (fun row => row.status = .active) with
      | some row =>
        have hr := hrow row (Option.filter_eq_some_iff.mp hactive).1
        exact display_posts hs hposted (mt hrefuses.mp hok) hr.1 (hr.2.trans hfkey)
      | none =>
        refine .inl ⟨_,rfl,hfkey ▸ .pop hs hposted,?_⟩
        simpa using mt hrefuses.mp hok
  · rw [if_neg hj]
    have hrefuses : ¬ s.Refuses disk f := fun h => hj h.1
    exact .inl ⟨_,rfl,hfkey ▸ .pop hs (.duplicate hs.db f),by simpa using hrefuses⟩

/-- The marks of a synchronization do not show in what is posted. -/
theorem Posts.marked {disk : Disk} {s : RuntimeServices} {fs : List AlertFact}
    {r : EStateM.Result OperationsError RuntimeServices Unit} {t : OperationsTelemetry}
    (hj : t.journaled = s.telemetry.journaled) (ha : t.alerts = s.telemetry.alerts)
    (h : Posts disk { s with telemetry := t } fs r) : s.Posts disk fs r := by
  have hsame : ∀ {s' : RuntimeServices}, SameRuntime { s with telemetry := t } s' →
      s.SameRuntime s' := fun h => ⟨h.modes,h.health,h.maxAge,h.transitions,h.journaled.trans hj⟩
  have hrefuses : ∀ f, Refuses disk { s with telemetry := t } f ↔ s.Refuses disk f := by
    intro f
    simp only [Refuses,hj]
  obtain ⟨s',hok,hp,hfs⟩ | ⟨e,s',herr,hsound,hsm,f,hf,hrefused⟩ := h
  · refine .inl ⟨s',hok,⟨hp.sound,hsame hp.same,hp.news,hp.kept,?_⟩,
      fun f hf => mt (hrefuses f).mpr (hfs f hf)⟩
    intro p hkeys
    rw [hp.others p hkeys]
    simp only [ha]
  · exact .inr ⟨e,s',herr,hsound,hsame hsm,f,hf,(hrefuses f).mp hrefused⟩

theorem Sound.marked {s : RuntimeServices} (h : s.Sound) {t : OperationsTelemetry}
    (ha : t.alerts = s.telemetry.alerts) : Sound { s with telemetry := t } where
  db := h.db
  telemetry := ⟨by simpa only [ha] using h.telemetry.keys,by simpa only [ha] using h.telemetry.times⟩

end RuntimeServices

/-! The facts a synchronization posts. -/

namespace AlertFact

def raised (key detail source : String) (observedAt : Int) : AlertFact :=
  ⟨key,.active,some AlertSeverity.error.value,some detail,observedAt,source⟩

def cleared (key source : String) (observedAt : Int) : AlertFact :=
  ⟨key,.resolved,none,none,observedAt,source⟩

def ofCount (key : String) (count : Int) (detail : String) (observedAt : Int) : AlertFact :=
  if count ≠ 0 then raised key detail "execution" observedAt else cleared key "execution" observedAt

@[simp] theorem ofCount_key (key : String) (count : Int) (detail : String) (observedAt : Int) :
    (ofCount key count detail observedAt).key = key := by
  unfold ofCount
  split <;> rfl

end AlertFact

namespace OperationsTelemetry

def dueHealth (t : OperationsTelemetry) (snapshot : HealthSnapshot) (observedAt : Int) :
    List AlertFact :=
  if late t.lastHealthSync observedAt then []
  else
    snapshot.alerts.map (fun a => .raised (healthKey a) a.reason "health" observedAt) ++
      (t.dropped "health:" (snapshot.alerts.map healthKey)).map
        (fun key => .cleared key "health" observedAt)

def dueMode (t : OperationsTelemetry) (mode : RuntimeMode) (observedAt : Int) : List AlertFact :=
  if late t.lastModeSync observedAt then []
  else if mode = .halted then [.raised "runtime:HALTED" "runtime is HALTED" "mode" observedAt]
  else [.cleared "runtime:HALTED" "mode" observedAt]

def dueExecution (t : OperationsTelemetry) (unknownOrderCount manualReviewCount observedAt : Int) :
    List AlertFact :=
  if late t.lastExecutionSync observedAt then []
  else
    [.ofCount "execution:UNKNOWN" unknownOrderCount
        (toString unknownOrderCount ++ " unresolved UNKNOWN order(s)") observedAt,
      .ofCount "execution:MANUAL_REVIEW" manualReviewCount
        (toString manualReviewCount ++ " order(s) require manual review") observedAt]

theorem healthKey_head (a : HealthAlert) :
    "health:".toList.isPrefixOf (healthKey a).toList = true := by
  simp [healthKey]

theorem healthKey_injective {a b : HealthAlert} (h : healthKey a = healthKey b) :
    a.component = b.component := by
  have htext := congrArg String.toList h
  simp only [healthKey,String.toList_append,List.append_cancel_left_eq] at htext
  exact HealthComponent.value_injective (String.toList_injective htext)

theorem nonblank_append {a b : String} (h : nonblank b = true) : nonblank (a ++ b) = true := by
  simp only [nonblank,String.toList_append,List.any_append,Bool.or_eq_true] at h ⊢
  exact .inr h

theorem nonblank_of_health {key : String} (h : "health:".toList.isPrefixOf key.toList = true) :
    nonblank key = true := by
  obtain ⟨rest,hrest⟩ := List.isPrefixOf_iff_prefix.mp h
  simp only [nonblank,← hrest,List.any_append,Bool.or_eq_true]
  exact .inl (by decide)

theorem dueHealth_head {t : OperationsTelemetry} {snapshot : HealthSnapshot} {observedAt : Int}
    {f : AlertFact} (hf : f ∈ t.dueHealth snapshot observedAt) :
    "health:".toList.isPrefixOf f.key.toList = true := by
  unfold dueHealth at hf
  split at hf
  · simp at hf
  · simp only [List.mem_append,List.mem_map] at hf
    obtain ⟨a,-,rfl⟩ | ⟨key,hkey,rfl⟩ := hf
    · exact healthKey_head a
    · have := (List.mem_filter.mp hkey).2
      simp only [Bool.and_eq_true] at this
      exact this.1

open RuntimeServices

theorem syncHealth_posts (disk : Disk) {s : RuntimeServices} (hs : s.Sound)
    {snapshot : HealthSnapshot} (observedAt : Int)
    (hcomponents : (snapshot.alerts.map HealthAlert.component).Nodup)
    (hreasons : ∀ a ∈ snapshot.alerts, a.reason ≠ "") :
    s.Posts disk (s.telemetry.dueHealth snapshot observedAt)
      (syncHealth disk snapshot observedAt s) := by
  unfold syncHealth dueHealth
  rw [Ops.get_bind]
  by_cases hlate : late s.telemetry.lastHealthSync observedAt = true
  · rw [if_pos hlate,if_pos hlate]
    exact .nil hs
  · rw [if_neg hlate,if_neg hlate,Ops.telemetry_bind]
    refine Posts.marked (t := { s.telemetry with
      lastHealthSync := some observedAt
      readyForMutation := snapshot.runtime.readyForMutation }) rfl rfl ?_
    generalize hm : ({ s with telemetry := { s.telemetry with
      lastHealthSync := some observedAt
      readyForMutation := snapshot.runtime.readyForMutation } } : RuntimeServices) = s₁
    have hs₁ : s₁.Sound := hm ▸ hs.marked rfl
    have halerts : s₁.telemetry.alerts = s.telemetry.alerts := by rw [← hm]
    have hkeep : (snapshot.alerts.map healthKey).Nodup := by
      rw [List.nodup_map_iff_inj_on (List.Nodup.of_map _ hcomponents)]
      intro a ha b hb hab
      exact List.inj_on_of_nodup_map hcomponents ha hb (healthKey_injective hab)
    refine Posts.bind ?_ ?_ ?_
    · refine Posts.forM (fun a ha s' hs' => ?_) hkeep hs₁
      exact upsert_posts disk hs' (nonblank_of_health (healthKey_head a)) (hreasons a ha)
        (by decide)
    · intro s' _ hposted
      have hdropped : s'.telemetry.dropped "health:" (snapshot.alerts.map healthKey) =
          s.telemetry.dropped "health:" (snapshot.alerts.map healthKey) := by
        unfold dropped
        rw [hposted.others,halerts]
        intro f hf
        obtain ⟨a,ha,rfl⟩ := List.mem_map.mp hf
        simp [AlertFact.raised,List.mem_map_of_mem ha]
      rw [← hdropped]
      have hnodup : (s'.telemetry.dropped "health:" (snapshot.alerts.map healthKey)).Nodup :=
        hposted.sound.telemetry.keys.filter _
      refine Posts.forM (fun key hkey s'' hs'' => ?_) (by simpa [AlertFact.cleared] using hnodup)
        hposted.sound
      have hpre := (List.mem_filter.mp hkey).2
      simp only [Bool.and_eq_true] at hpre
      exact resolve_posts disk hs'' (nonblank_of_health hpre.1) (by decide)
    · intro f hf g hg hfg
      obtain ⟨a,ha,rfl⟩ := List.mem_map.mp hf
      obtain ⟨key,hkey,rfl⟩ := List.mem_map.mp hg
      have hout := (List.mem_filter.mp hkey).2
      simp only [Bool.and_eq_true,Bool.not_eq_true',List.contains_eq_mem,decide_eq_false_iff_not]
        at hout
      have heq : healthKey a = key := hfg
      exact hout.2 (heq ▸ List.mem_map_of_mem ha)

theorem syncMode_posts (disk : Disk) {s : RuntimeServices} (hs : s.Sound) (mode : RuntimeMode)
    (observedAt : Int) :
    s.Posts disk (s.telemetry.dueMode mode observedAt) (syncMode disk mode observedAt s) := by
  unfold syncMode dueMode
  rw [Ops.get_bind]
  by_cases hlate : late s.telemetry.lastModeSync observedAt = true
  · rw [if_pos hlate,if_pos hlate]
    exact .nil hs
  · rw [if_neg hlate,if_neg hlate,Ops.telemetry_bind]
    have hs₁ := hs.marked (t := { s.telemetry with
      lastModeSync := some observedAt,mode := mode }) rfl
    refine Posts.marked (t := { s.telemetry with
      lastModeSync := some observedAt,mode := mode }) rfl rfl ?_
    split
    · apply upsert_posts disk hs₁ <;> decide
    · apply resolve_posts disk hs₁ <;> decide

theorem syncCount_posts (disk : Disk) {s : RuntimeServices} (hs : s.Sound) {key : String}
    {count : Int} {detail : String} (observedAt : Int) (hkey : nonblank key = true)
    (hdetail : detail ≠ "") :
    s.Posts disk [.ofCount key count detail observedAt]
      (syncCount disk key count detail observedAt s) := by
  unfold syncCount AlertFact.ofCount
  split
  · exact upsert_posts disk hs hkey hdetail (by decide)
  · exact resolve_posts disk hs hkey (by decide)

theorem append_ne_empty {a b : String} (h : b ≠ "") : a ++ b ≠ "" := by
  intro hab
  have htext := congrArg String.toList hab
  simp only [String.toList_append,String.toList_empty,List.append_eq_nil_iff] at htext
  exact h (String.toList_injective htext.2)

theorem syncExecutionAmbiguity_posts (disk : Disk) {s : RuntimeServices} (hs : s.Sound)
    {unknown manual : Int} (observedAt : Int) (hunknown : 0 ≤ unknown) (hmanual : 0 ≤ manual) :
    s.Posts disk (s.telemetry.dueExecution unknown manual observedAt)
      (syncExecutionAmbiguity disk unknown manual observedAt s) := by
  have hu : ¬ unknown < 0 := by omega
  have hm : ¬ manual < 0 := by omega
  unfold syncExecutionAmbiguity dueExecution validateCount
  rw [if_neg hu,if_neg hm,Ops.pure_bind_apply,Ops.pure_bind_apply,Ops.get_bind]
  by_cases hlate : late s.telemetry.lastExecutionSync observedAt = true
  · rw [if_pos hlate,if_pos hlate]
    exact .nil hs
  · rw [if_neg hlate,if_neg hlate,Ops.telemetry_bind]
    refine Posts.marked (t := { s.telemetry with
      lastExecutionSync := some observedAt
      unknownOrderCount := unknown
      manualReviewCount := manual }) rfl rfl ?_
    have hs₁ := hs.marked (t := { s.telemetry with
      lastExecutionSync := some observedAt
      unknownOrderCount := unknown
      manualReviewCount := manual }) rfl
    refine @Posts.bind _ _ [_] [_] _ _ ?_ ?_ ?_
    · exact syncCount_posts disk hs₁ observedAt (by decide) (append_ne_empty (by decide))
    · intro s' _ hposted
      exact syncCount_posts disk hposted.sound observedAt (by decide) (append_ne_empty (by decide))
    · intro f hf g hg
      simp only [List.mem_singleton] at hf hg
      subst hf hg
      rw [AlertFact.ofCount_key,AlertFact.ofCount_key]
      decide

/-- A count below zero raises before anything is written. -/
theorem syncExecutionAmbiguity_negative (disk : Disk) (s : RuntimeServices) {unknown manual : Int}
    (observedAt : Int) (h : ¬ (0 ≤ unknown ∧ 0 ≤ manual)) :
    ∃ e, syncExecutionAmbiguity disk unknown manual observedAt s = .error e s := by
  unfold syncExecutionAmbiguity validateCount
  by_cases hu : unknown < 0
  · exact ⟨_,by rw [if_pos hu,Ops.bind_apply,Ops.throw_apply]⟩
  · have hm : manual < 0 := by omega
    exact ⟨_,by rw [if_neg hu,if_pos hm,Ops.pure_bind_apply,Ops.bind_apply,Ops.throw_apply]⟩

end OperationsTelemetry

end BigQmt
