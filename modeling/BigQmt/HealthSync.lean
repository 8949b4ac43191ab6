import BigQmt.Folds
import BigQmt.Operations
import BigQmt.Resync
set_option autoImplicit false

/-!
`observe_qmt_ingress` of `service/health_sync.py` behind the ingress buffer: the QMT
health the registry shows, and the continuity of the stream.
-/

namespace BigQmt

/-- `_event_time`, in microseconds; `none` where `datetime.fromtimestamp` raises. -/
def eventTime (r : IngressResult) : Option Int :=
  -- the year 9999 ends 253402300800 s after the epoch
  if r.event.timestampMs < 253402300800000 then some (r.event.timestampMs * 1000) else none

namespace HealthRegistry

/-- The health an ingress result stands for. -/
def ingressHealthy (r : IngressResult) : Bool :=
  r.disposition = .accepted && !r.needsResync

/-- `RuntimeHealthSynchronizer.observe_qmt_ingress`; `none` where it raises. -/
def observeQmtIngress (h : HealthRegistry) (r : IngressResult) : Option Bool × HealthRegistry :=
  if r.disposition = .duplicate then (some false,h)
  else
    let detail :=
      if ingressHealthy r then ""
      else if r.disposition = .gap then "INGRESS_GAP"
      else "NEEDS_RESYNC"
    match eventTime r with
    | none => (none,h)
    | some observedAt =>
      let (told,h') := h.observe ⟨.qmt,ingressHealthy r,observedAt,detail⟩
      (some told,h')

/-- What `snapshot` may take for a healthy component, at some time. -/
def Trusts (h : HealthRegistry) (c : HealthComponent) : Prop :=
  ∃ o, h.observations c = some o ∧ o.healthy = true

theorem qmtHealthy_iff {h : HealthRegistry} {now maxAge : Int} {s : HealthSnapshot}
    (hs : h.snapshot now maxAge = .ok s) :
    s.runtime.qmtHealthy = true ↔ h.fault now (maxAge * 1000000) .qmt = none := by
  unfold snapshot at hs
  split_ifs at hs
  cases hs
  simp

theorem Trusts.of_fault {h : HealthRegistry} {now maxAge : Int} {c : HealthComponent}
    (hnone : h.fault now maxAge c = none) : h.Trusts c := by
  unfold fault at hnone
  cases ho : h.observations c with
  | none => simp [ho] at hnone
  | some o =>
    simp only [ho] at hnone
    split_ifs at hnone with hfuture hstale hhealthy
    exact ⟨o,ho,by simpa using hhealthy⟩

/-- A healthy observation is taken at its own time. -/
theorem Trusts.snapshot {h : HealthRegistry} (ht : h.Trusts .qmt) :
    ∃ now s, h.snapshot now 1 = .ok s ∧ s.runtime.qmtHealthy = true := by
  obtain ⟨o,ho,hhealthy⟩ := ht
  have hs : ∃ s, h.snapshot o.observedAt 1 = .ok s := ⟨_,rfl⟩
  obtain ⟨s,hs⟩ := hs
  refine ⟨o.observedAt,s,hs,(qmtHealthy_iff hs).mpr ?_⟩
  simp [fault,ho,hhealthy]

/-- After an unhealthy observation only a later healthy one stands. -/
theorem trusts_observe {h : HealthRegistry} {c : HealthComponent} {observedAt : Int}
    {detail : String} :
    (h.observe ⟨c,false,observedAt,detail⟩).2.Trusts c ↔
      ∃ o, h.observations c = some o ∧ o.healthy = true ∧ observedAt < o.observedAt := by
  unfold observe
  cases ho : h.observations c with
  | none => simp [Trusts,put]
  | some o =>
    dsimp only
    split_ifs with hlate hsame heq
    · simp [Trusts,ho,hlate]
    · have hunhealthy : o.healthy = false := by rw [← heq]
      simp [Trusts,ho,hunhealthy]
    · simp [Trusts,put,hsame]
    · simp [Trusts,put,hlate]

end HealthRegistry

/-- The ingress buffer and the registry its results are observed in. -/
structure HealthFeed where
  ingress : IngressBuffer
  health : HealthRegistry

namespace HealthFeed

def fresh (account terminal : Option String) : HealthFeed := ⟨.fresh account terminal,.empty⟩

def observeAnswer (h : HealthRegistry) : Except IngressIdentityError IngressResult → HealthRegistry
  | .ok r => (h.observeQmtIngress r).2
  | .error _ => h

def take (s : HealthFeed) (e : ValidEvent) : HealthFeed :=
  ⟨(s.ingress.ingest e.1).2,observeAnswer s.health (s.ingress.ingest e.1).1⟩

/-- No snapshot, whenever it is taken, shows a healthy stream that needs a resync. -/
def Continuous (s : HealthFeed) : Prop :=
  ∀ now maxAgeSeconds snapshot, s.health.snapshot now maxAgeSeconds = .ok snapshot →
    snapshot.runtime.qmtHealthy = true → s.ingress.needsResync = false

theorem continuous_iff {s : HealthFeed} :
    s.Continuous ↔ (s.health.Trusts .qmt → s.ingress.needsResync = false) := by
  constructor
  · intro h ht
    obtain ⟨now,snapshot,hs,hhealthy⟩ := ht.snapshot
    exact h now 1 snapshot hs hhealthy
  · intro h now maxAge snapshot hs hhealthy
    exact h (.of_fault ((HealthRegistry.qmtHealthy_iff hs).mp hhealthy))

/-- The buffer takes the event, and loses the stream with it. -/
def Breaks (b : IngressBuffer) (e : QmtEvent) : Prop :=
  admits b.expectedAccountFingerprint b.expectedTerminalInstanceId e = true ∧
    (b.sessionId ≠ some e.sessionId ∨ b.lastSequence ≠ 0 ∧ b.lastSequence + 1 < e.sequence) ∧
    e.cleanSnapshot = false

/-- The event that loses the stream is not dated before the healthy observation. -/
def Timely (s : HealthFeed) (e : ValidEvent) : Prop :=
  Breaks s.ingress e.1 → ∀ o, s.health.observations .qmt = some o → o.healthy = true →
    e.1.timestampMs < 253402300800000 ∧ o.observedAt ≤ e.1.timestampMs * 1000

theorem ingest_admits {b : IngressBuffer} {e : QmtEvent} {r : IngressResult} {b' : IngressBuffer}
    (h : b.ingest e = (.ok r,b')) :
    admits b.expectedAccountFingerprint b.expectedTerminalInstanceId e = true := by
  by_contra hnot
  obtain ⟨err,herr⟩ := IngressBuffer.ingest_refused (b := b) (e := e) (by simpa using hnot)
  rw [h] at herr
  cases herr

theorem not_breaks_of_behind {b : IngressBuffer} {e : QmtEvent} (h : b.Behind e) :
    ¬Breaks b e := by
  rintro ⟨-,hsession | ⟨-,hgap⟩,-⟩
  · exact hsession h.1
  · have hold := h.2
    omega

/-- An event that breaks the stream leaves the buffer in need of a resync; any other does
so only when it was before. -/
theorem ingest_breaks {b b' : IngressBuffer} {e : QmtEvent} {r : IngressResult} (he : e.Valid)
    (h : b.ingest e = (.ok r,b')) :
    (Breaks b e → b'.needsResync = true) ∧
      (b'.needsResync = true → b.needsResync = true ∨ Breaks b e) := by
  have hadmits := ingest_admits h
  have hans := b.ingest_answers he
  rw [h] at hans
  cases hans with
  | duplicate hbehind =>
    exact ⟨fun hbreaks => absurd hbreaks (not_breaks_of_behind hbehind),.inl⟩
  | advanced fresh kind event told session cursor events resync =>
    rw [← Bool.not_eq_false,resync,Breaks]
    constructor
    · rintro ⟨-,hsession,hclean⟩ (hclean' | ⟨-,hsame,hnext⟩)
      · simp [hclean] at hclean'
      · obtain hsession | hgap := hsession
        · exact hsession hsame
        · omega
    · intro hneeds
      cases hb : b.needsResync with
      | true => exact .inl rfl
      | false =>
        have hclean : e.cleanSnapshot = false := by
          by_contra hclean
          exact hneeds (.inl (by simpa using hclean))
        refine .inr ⟨hadmits,?_,hclean⟩
        by_cases hs : b.sessionId = some e.sessionId
        · have hnot : ¬(b.lastSequence = 0 ∨ e.sequence = b.lastSequence + 1) :=
            fun hnext => hneeds (.inr ⟨hb,hs,hnext⟩)
          have hahead : ¬e.sequence ≤ b.lastSequence := fun hle => fresh ⟨hs,hle⟩
          exact .inr (by omega)
        · exact .inl hs

theorem ingest_duplicate {b b' : IngressBuffer} {e : QmtEvent} {r : IngressResult} (he : e.Valid)
    (h : b.ingest e = (.ok r,b')) (hkind : r.disposition = .duplicate) :
    b'.needsResync = b.needsResync ∧ ¬Breaks b e := by
  have hans := b.ingest_answers he
  rw [h] at hans
  cases hans with
  | duplicate hbehind =>
    exact ⟨rfl,not_breaks_of_behind hbehind⟩
  | advanced fresh kind => exact absurd hkind kind

theorem ingest_told {b b' : IngressBuffer} {e : QmtEvent} {r : IngressResult} (he : e.Valid)
    (h : b.ingest e = (.ok r,b')) : r.event = e ∧ r.needsResync = b'.needsResync := by
  have hans := b.ingest_answers he
  rw [h] at hans
  cases hans with
  | duplicate => exact ⟨rfl,rfl⟩
  | advanced _ _ event told => exact ⟨event,told⟩

/-- What is believed after a result that asks for a resync. -/
theorem trusts_observeQmtIngress {h : HealthRegistry} {r : IngressResult}
    (hkind : r.disposition ≠ .duplicate) (hneeds : r.needsResync = true) :
    (h.observeQmtIngress r).2.Trusts .qmt ↔
      ∃ o, h.observations .qmt = some o ∧ o.healthy = true ∧
        ¬(r.event.timestampMs < 253402300800000 ∧
          o.observedAt ≤ r.event.timestampMs * 1000) := by
  have hunhealthy : HealthRegistry.ingressHealthy r = false := by
    simp [HealthRegistry.ingressHealthy,hneeds]
  unfold HealthRegistry.observeQmtIngress eventTime
  by_cases htime : r.event.timestampMs < 253402300800000
  · simp [hkind,htime,hunhealthy,HealthRegistry.trusts_observe]
  · simp [hkind,htime,HealthRegistry.Trusts]

/-- One event, from a state whose health can be believed. -/
theorem take_continuous_iff {s : HealthFeed} (hs : s.Continuous) (e : ValidEvent) :
    (s.take e).Continuous ↔ s.Timely e := by
  rw [continuous_iff] at hs ⊢
  cases hi : s.ingress.ingest e.1 with
  | mk answer b =>
    have htake : s.take e = ⟨b,observeAnswer s.health answer⟩ := by rw [take,hi]
    rw [htake]
    cases answer with
    | error err =>
      have hsame : b = s.ingress := by
        have hans := s.ingress.ingest_answers e.2
        rw [hi] at hans
        cases hans
        rfl
      have hnot : ¬Breaks s.ingress e.1 := by
        rintro ⟨hadmits,-⟩
        rw [IngressBuffer.ingest,IngressBuffer.pin_admits hadmits] at hi
        cases hi
      rw [hsame]
      exact iff_of_true hs fun hbreaks => absurd hbreaks hnot
    | ok r =>
      by_cases hkind : r.disposition = .duplicate
      · obtain ⟨hsame,hnot⟩ := ingest_duplicate e.2 hi hkind
        have hhealth : observeAnswer s.health (.ok r) = s.health := by
          simp [observeAnswer,HealthRegistry.observeQmtIngress,hkind]
        rw [hhealth,hsame]
        exact iff_of_true hs fun hbreaks => absurd hbreaks hnot
      · obtain ⟨hevent,htold⟩ := ingest_told e.2 hi
        obtain ⟨hbroken,hneeds⟩ := ingest_breaks e.2 hi
        cases hb : b.needsResync with
        | false =>
          refine iff_of_true (fun _ => rfl) fun hbreaks => ?_
          simp [hbroken hbreaks] at hb
        | true =>
          have htrusts := trusts_observeQmtIngress (h := s.health) hkind (htold.trans hb)
          rw [hevent] at htrusts
          rw [observeAnswer,htrusts]
          constructor
          · intro hnone hbreaks o ho hhealthy
            by_contra hlate
            exact absurd (hnone ⟨o,ho,hhealthy,hlate⟩) (by simp)
          · rintro htimely ⟨o,ho,hhealthy,hlate⟩
            have hsynced := hs ⟨o,ho,hhealthy⟩
            have hbreaks := (hneeds hb).resolve_left (by simp [hsynced])
            exact absurd (htimely hbreaks o ho hhealthy) hlate

/-- The health a snapshot shows never outlives the continuity of the stream exactly when
every event that breaks the stream is dated, and not before a healthy observation. -/
theorem health_continuous_iff (account terminal : Option String) (es : List ValidEvent) :
    (∀ before after, es = before ++ after →
        (before.foldl take (.fresh account terminal)).Continuous) ↔
      Folds.Every Timely take (.fresh account terminal) es := by
  have hstart : (fresh account terminal).Continuous := by
    rw [continuous_iff]
    rintro ⟨o,ho,-⟩
    cases ho
  have hstep : ∀ s e, Continuous s → (Continuous (take s e) ↔ Timely s e) :=
    fun _ e hs => take_continuous_iff hs e
  exact Folds.always_iff hstep hstart es

theorem firstSnapshot_valid : (sampleSnapshot "session-a" 3).Valid :=
  sampleSnapshot_valid (by decide) (by decide)

/-- A clean snapshot, and then a gap that is dated a millisecond before it. -/
def backdatedGap : List ValidEvent :=
  [⟨sampleSnapshot "session-a" 3,firstSnapshot_valid⟩,
    ⟨{ samplePosition "session-a" 5 with timestampMs := 1699999999999 },by
      have h := @samplePosition_valid "session-a" 5 (by decide) (by decide)
      exact ⟨h.sessionId,h.sequence,by decide,h.source,h.accountFingerprint,h.terminalInstanceId,
        h.payload⟩⟩]

theorem backdated_gap_stays_healthy :
    ¬∀ (es : List ValidEvent), (es.foldl take (.fresh none none)).Continuous := by
  intro h
  have hcontinuous := continuous_iff.mp (h backdatedGap)
  have htrusts : ((backdatedGap.foldl take (.fresh none none)).health.observations .qmt).map
      HealthObservation.healthy = some true := by decide +kernel
  have hneeds : (backdatedGap.foldl take (.fresh none none)).ingress.needsResync = true := by
    decide +kernel
  obtain ⟨o,ho,hhealthy⟩ := Option.map_eq_some_iff.mp htrusts
  rw [hcontinuous ⟨o,ho,hhealthy⟩] at hneeds
  cases hneeds

end HealthFeed

end BigQmt
