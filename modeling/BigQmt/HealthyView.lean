import BigQmt.ReadModel
set_option autoImplicit false

/-!
The ingress buffer and the read model behind it, and what a healthy view shows.
-/

namespace BigQmt

/-- The buffer, and the model that every event but a duplicate is applied to. -/
structure Feed where
  ingress : IngressBuffer
  model : ReadModel
  deriving DecidableEq

/-- A snapshot whose queries failed in part. -/
def QmtEvent.degraded (e : QmtEvent) : Bool := e.eventType = .snapshot && !e.cleanSnapshot

namespace ReadModel

/-- The model that has applied these events and no others. -/
def replay (events : List QmtEvent) : ReadModel :=
  events.foldl (fun m e => m.apply ⟨.accepted,e,false⟩) fresh

theorem replay_concat (events : List QmtEvent) (e : QmtEvent) :
    replay (events ++ [e]) = (replay events).apply ⟨.accepted,e,false⟩ := by
  simp [replay,List.foldl_append]

end ReadModel

namespace Feed

def fresh (account terminal : Option String) : Feed := ⟨.fresh account terminal,.fresh⟩

def applyAnswer (m : ReadModel) : Except IngressIdentityError IngressResult → ReadModel
  | .ok r => if r.disposition = .duplicate then m else m.apply r
  | .error _ => m

def take (s : Feed) (e : ValidEvent) : Feed :=
  ⟨(s.ingress.ingest e.1).2,applyAnswer s.model (s.ingress.ingest e.1).1⟩

def takeAll (s : Feed) (es : List ValidEvent) : Feed := es.foldl take s

theorem takeAll_concat (s : Feed) (es : List ValidEvent) (e : ValidEvent) :
    s.takeAll (es ++ [e]) = (s.takeAll es).take e := by
  simp [takeAll,List.foldl_append]

/-- A healthy view shows the facts of the latest clean snapshot of the session,
with every later event applied except the degraded snapshots. -/
def CleanView (s : Feed) : Prop :=
  s.model.healthy = true → ∃ snapshot since,
    s.ingress.Synchronized s.ingress.events snapshot since ∧
    s.model.rows = (ReadModel.replay (snapshot :: since.filter (fun e => !e.degraded))).rows

/-- The event is the next one of a stream that needs no resync. -/
structure InStep (b : IngressBuffer) (e : QmtEvent) : Prop where
  synced : b.needsResync = false
  identity : admits b.expectedAccountFingerprint b.expectedTerminalInstanceId e = true
  session : b.sessionId = some e.sessionId
  next : e.sequence = b.lastSequence + 1

/-- A degraded snapshot in step shows what the view shows already. -/
def Harmless (s : Feed) (e : QmtEvent) : Prop :=
  InStep s.ingress e → e.degraded = true →
    s.model.rows = some (SnapshotView.ofSnapshot e true).rows

/-- What holds of the buffer and the model in every stream. -/
structure Tracks (s : Feed) : Prop where
  sound : s.ingress.Sound s.ingress.events
  health : s.model.healthy = !s.ingress.needsResync

theorem Tracks.fresh (account terminal : Option String) : (Feed.fresh account terminal).Tracks where
  sound := IngressBuffer.Sound.fresh account terminal
  health := rfl

theorem rows_isSome (m : ReadModel) : m.rows.isSome = m.view.isSome := by
  simp [ReadModel.rows]

theorem Tracks.shown {s : Feed} (h : s.Tracks) (hr : s.ingress.needsResync = false) :
    s.model.view.isSome = true := by
  have hhealth := h.health
  rw [hr] at hhealth
  cases hv : s.model.view with
  | none => simp [ReadModel.healthy,hv] at hhealth
  | some v => rfl

theorem degraded_snapshot {e : QmtEvent} (h : e.degraded = true) :
    e.eventType = .snapshot ∧ e.cleanSnapshot = false := by
  simpa [QmtEvent.degraded] using h

theorem cleanSnapshot_type {e : QmtEvent} (h : e.cleanSnapshot = true) :
    e.eventType = .snapshot := by
  simp only [QmtEvent.cleanSnapshot,Bool.and_eq_true,decide_eq_true_eq] at h
  exact h.1

/-- The view stays shown. -/
theorem apply_shown {m : ReadModel} {r : IngressResult}
    (h : m.view.isSome = true ∨ r.event.eventType = .snapshot) :
    (m.apply r).view.isSome = true := by
  rw [← rows_isSome]
  by_cases ht : r.event.eventType = .snapshot
  · simp [m.apply_snapshot ht]
  · have hm := h.resolve_right ht
    rw [← rows_isSome] at hm
    simp [m.apply_rows ht,hm]

theorem Tracks.take {s : Feed} (h : s.Tracks) (e : ValidEvent) : (s.take e).Tracks := by
  have hsound := h.sound.ingest e.2
  have hans := s.ingress.ingest_answers e.2
  unfold Feed.take
  revert hans hsound
  generalize (s.ingress.ingest e.1).1 = answer,(s.ingress.ingest e.1).2 = b'
  intro hsound hans
  have hlog : b'.Sound b'.events := by
    have := hsound.log
    rwa [← this] at hsound
  refine ⟨hlog,?_⟩
  cases hans with
  | refused => exact h.health
  | duplicate => exact h.health
  | @advanced r _ fresh kind event told session cursor log resync =>
    simp only [applyAnswer,kind,if_false]
    rw [ReadModel.apply_healthy,told]
    cases hr : b'.needsResync with
    | true => simp
    | false =>
      have hshown : s.model.view.isSome = true ∨ r.event.eventType = .snapshot := by
        rw [event]
        obtain hclean | hold := resync.mp hr
        · exact .inr (cleanSnapshot_type hclean)
        · exact .inl (h.shown hold.1)
      simp [apply_shown hshown]

end Feed

/-- The clean snapshot is the last one accepted, so there is one way to split there. -/
theorem IngressBuffer.Synchronized.unique {b : IngressBuffer} {events since since' : List QmtEvent}
    {snapshot snapshot' : QmtEvent} (h : b.Synchronized events snapshot since)
    (h' : b.Synchronized events snapshot' since') : snapshot = snapshot' ∧ since = since' := by
  have htail : ∀ {snapshot : QmtEvent} {since : List QmtEvent},
      b.Synchronized events snapshot since →
        events.reverse.takeWhile (fun e => !e.cleanSnapshot) = since.reverse := by
    intro snapshot since h
    obtain ⟨before,rfl⟩ := h.split
    rw [List.reverse_append,List.reverse_cons,List.append_assoc,
      List.takeWhile_append_of_pos (by simpa using h.latest)]
    simp [h.clean]
  have hsince : since = since' := List.reverse_injective ((htail h).symm.trans (htail h'))
  subst hsince
  obtain ⟨before,hb⟩ := h.split
  obtain ⟨before',hb'⟩ := h'.split
  rw [hb] at hb'
  have hlast := congrArg List.reverse hb'
  simp only [List.reverse_append,List.reverse_cons,List.append_assoc,
    List.append_cancel_left_eq] at hlast
  exact ⟨(List.cons.inj hlast).1,rfl⟩

namespace Feed

theorem Harmless.vacuous {s : Feed} {e : QmtEvent} (h : ¬InStep s.ingress e) : s.Harmless e :=
  fun hstep => absurd hstep h

/-- One event: the view stays clean exactly when the event is harmless. -/
theorem CleanView.take_iff {s : Feed} (ht : s.Tracks) (hc : s.CleanView) (e : ValidEvent) :
    (s.take e).CleanView ↔ s.Harmless e.1 := by
  have htake := ht.take e
  by_cases hadmits : admits s.ingress.expectedAccountFingerprint
      s.ingress.expectedTerminalInstanceId e.1 = true
  case neg =>
    obtain ⟨err,herr⟩ := IngressBuffer.ingest_refused (by simpa using hadmits)
    have hsame : s.take e = s := by simp [Feed.take,herr,applyAnswer]
    rw [hsame]
    exact ⟨fun _ => .vacuous fun h => hadmits h.identity,fun _ => hc⟩
  have hans := s.ingress.ingest_answers e.2
  unfold Feed.take at htake ⊢
  revert hans htake
  generalize (s.ingress.ingest e.1).1 = answer,(s.ingress.ingest e.1).2 = b'
  intro htake hans
  cases hans with
  | refused h => simp [IngressBuffer.pin_admits hadmits] at h
  | duplicate hbehind =>
    have hharmless : s.Harmless e.1 := .vacuous fun h => by
      have := hbehind.2
      have := h.next
      omega
    refine ⟨fun _ => hharmless,fun _ hh => ?_⟩
    obtain ⟨snapshot,since,hsync,hrows⟩ := hc hh
    exact ⟨snapshot,since,⟨hsync.split,hsync.clean,hsync.latest,hsync.session,hsync.contiguous,
      hsync.cursor⟩,hrows⟩
  | @advanced r _ fresh kind event told session cursor log resync =>
    simp only [applyAnswer,kind,if_false] at htake ⊢
    by_cases hclean : e.1.cleanSnapshot = true
    · -- a clean snapshot starts the view anew
      refine ⟨fun _ => ?_,fun _ _ => ?_⟩
      · intro _ hd
        simp [(degraded_snapshot hd).2] at hclean
      · refine ⟨e.1,[],?_,?_⟩
        · rw [log]
          exact .start hclean session cursor
        · have htype : r.event.eventType = .snapshot := by
            rw [event]
            exact cleanSnapshot_type hclean
          rw [ReadModel.apply_snapshot _ htype,event]
          have hone : ReadModel.replay [e.1] = ReadModel.fresh.apply ⟨.accepted,e.1,false⟩ := rfl
          rw [List.filter_nil,hone,ReadModel.apply_snapshot _ (cleanSnapshot_type hclean)]
    · by_cases hstep : InStep s.ingress e.1
      · obtain ⟨snapshot,since,hsync,hrows⟩ := hc (by simp [ht.health,hstep.synced])
        have hsync' := hsync.next (by simpa using hclean) hstep.session session hstep.next cursor
        rw [← log] at hsync'
        have hup : (s.model.apply r).healthy = true := by
          simp [htake.health,resync.mpr (.inr ⟨hstep.synced,hstep.session,.inr hstep.next⟩)]
        by_cases hd : e.1.degraded = true
        · -- the degraded snapshot replaces the view
          have htype : r.event.eventType = .snapshot := by
            rw [event]
            exact (degraded_snapshot hd).1
          have hkept : (since ++ [e.1]).filter (fun e => !e.degraded) =
              since.filter (fun e => !e.degraded) := by simp [hd]
          constructor
          · intro h _ _
            obtain ⟨snapshot',since',hsync₂,hrows₂⟩ := h hup
            obtain ⟨rfl,rfl⟩ := hsync'.unique hsync₂
            rw [ReadModel.apply_snapshot _ htype,event,hkept,← hrows] at hrows₂
            exact hrows₂.symm
          · intro h _
            refine ⟨snapshot,since ++ [e.1],hsync',?_⟩
            rw [ReadModel.apply_snapshot _ htype,event,hkept,← hrows,h hstep hd]
        · have htype : e.1.eventType ≠ .snapshot := fun h => hd (by
            simpa [QmtEvent.degraded,h] using hclean)
          have hkept : (since ++ [e.1]).filter (fun e => !e.degraded) =
              since.filter (fun e => !e.degraded) ++ [e.1] := by simp [hd]
          refine ⟨fun _ _ h => absurd h hd,fun _ _ => ⟨snapshot,since ++ [e.1],hsync',?_⟩⟩
          rw [hkept,← List.cons_append,ReadModel.replay_concat,
            ReadModel.apply_rows _ (by rwa [event]),ReadModel.apply_rows _ htype,hrows,event]
      · refine ⟨fun _ => .vacuous hstep,fun _ hh => ?_⟩
        have hdown : b'.needsResync = false := by simpa [htake.health] using hh
        obtain ⟨hold,hsame,hnext⟩ := (resync.mp hdown).resolve_left hclean
        obtain hzero | hnext := hnext
        · simp [ht.sound.cursor hzero] at hsame
        · exact absurd ⟨hold,hadmits,hsame,hnext⟩ hstep

theorem Tracks.takeAll {s : Feed} (h : s.Tracks) (es : List ValidEvent) :
    (s.takeAll es).Tracks := by
  induction es generalizing s with
  | nil => exact h
  | cons e es ih => exact ih (h.take e)

end Feed

/-- The view is clean after every event of a stream exactly when every degraded
snapshot that arrives in step shows what the view shows already. -/
theorem healthy_view_clean_iff (account terminal : Option String) (es : List ValidEvent) :
    (∀ xs ys, es = xs ++ ys → ((Feed.fresh account terminal).takeAll xs).CleanView) ↔
      ∀ xs e ys, es = xs ++ e :: ys → ((Feed.fresh account terminal).takeAll xs).Harmless e.1 := by
  have htracks := fun xs => (Feed.Tracks.fresh account terminal).takeAll xs
  constructor
  · intro h xs e ys heq
    have hnext := h (xs ++ [e]) ys (by simp [heq])
    rw [Feed.takeAll_concat] at hnext
    exact (Feed.CleanView.take_iff (htracks xs) (h xs (e :: ys) heq) e).mp hnext
  · intro h xs
    induction xs using List.reverseRecOn with
    | nil =>
      intro ys _ hh
      simp [Feed.takeAll,Feed.fresh,ReadModel.fresh,ReadModel.healthy] at hh
    | append_singleton xs e ih =>
      intro ys heq
      rw [List.append_assoc,List.singleton_append] at heq
      rw [Feed.takeAll_concat]
      exact (Feed.CleanView.take_iff (htracks xs) (ih (e :: ys) heq) e).mpr (h xs e ys heq)

def samplePositionRow : Json := .object (.cons "symbol" (.text "600000.SH") .nil)

def listedPosition : QmtEvent :=
  sampleEvent "session-a" 1 .snapshot (samplePositions (.array (.cons samplePositionRow .nil)) noRows)

def failedPositionQuery : QmtEvent :=
  sampleEvent "session-a" 2 .snapshot
    (samplePositions noRows (.array (.cons (.object .nil) .nil)))

/-- A clean snapshot that lists a position, and the next one, whose position query
failed. -/
def degradedStream : List ValidEvent :=
  [⟨listedPosition,sampleEvent_valid (by decide) (by decide) rfl⟩,
    ⟨failedPositionQuery,sampleEvent_valid (by decide) (by decide) rfl⟩]

theorem healthy_view_clean_fails : ¬((Feed.fresh none none).takeAll degradedStream).CleanView := by
  intro h
  obtain ⟨snapshot,since,hsync,hrows⟩ := h (by decide)
  have hknown : ((Feed.fresh none none).takeAll degradedStream).ingress.Synchronized
      ((Feed.fresh none none).takeAll degradedStream).ingress.events listedPosition
      [failedPositionQuery] :=
    ⟨⟨[],by decide⟩,by decide,by decide,by decide,by decide,by decide⟩
  obtain ⟨rfl,rfl⟩ := hknown.unique hsync
  revert hrows
  decide

end BigQmt
