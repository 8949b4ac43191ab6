import BigQmt.EventFrames
import BigQmt.EventSpool
import BigQmt.Folds
set_option autoImplicit false

/-!
What becomes of an event file after `on_event` raised on it.
-/

namespace BigQmt

/-- What happens at the spool: a file arrives, `poll_once` starts, its next file. -/
inductive SpoolMove where
  | arrive (f : EventFile)
  | poll (maxFiles : Nat)
  | next (c : FileChoice)

namespace Host

def step (h : Host) : SpoolMove → Host
  | .arrive f => h.arrive f
  | .poll maxFiles => h.poll maxFiles
  | .next c => h.next c

def run (h : Host) (ms : List SpoolMove) : Host := ms.foldl step h

/-- `on_event` raised on the file since it came, and the file has not been moved. -/
def failing (stem : String) : List Attempt → Bool
  | [] => false
  | a :: older =>
    if a.stem = stem then a.raised.isSome || (a.movedTo.isNone && failing stem older)
    else failing stem older

/-- `handle` ran on an event that was no duplicate and returned. -/
def Attempt.ingested (a : Attempt) : Bool :=
  (match a.answer with
    | some (.ok r) => r.disposition ≠ .duplicate
    | _ => false) &&
  match a.handled with
    | some (.ok _) => true
    | _ => false

/-- No event is lost: a file on which `on_event` raised reaches `processed` only by
an attempt that ingested it. -/
def NoLoss : List Attempt → Prop
  | [] => True
  | a :: older =>
    (failing a.stem older = true → a.movedTo = some .processed → Attempt.ingested a = true) ∧
      NoLoss older

instance decidableNoLoss : (attempts : List Attempt) → Decidable (NoLoss attempts)
  | [] => inferInstanceAs (Decidable True)
  | a :: older =>
    have := decidableNoLoss older
    inferInstanceAs (Decidable ((failing a.stem older = true → a.movedTo = some .processed →
      Attempt.ingested a = true) ∧ NoLoss older))

/-- The files on which `on_event` raised are in the inbox. -/
def Retained (h : Host) : Prop :=
  ∀ stem, failing stem h.attempts = true → h.spool.holds stem = true

/-- What one presentation does: the file stays and the poll ends, or it is moved. -/
structure Presentation (h : Host) (c : FileChoice) (f : EventFile) (rest : List String) (h' : Host)
    (a : Attempt) : Prop where
  attempts : h'.attempts = a :: h.attempts
  stem : a.stem = f.stem
  settled : (a.movedTo = none ∧ h'.spool = h.spool ∧ h'.pending = []) ∨
    ∃ target, a.movedTo = some target ∧ h'.spool = h.spool.moveUnique f target ∧ h'.pending = rest
  read : ((∃ err, readDecoded c f = .error err) ∧ a.event = none ∧ a.answer = none ∧
      h'.ingress = h.ingress) ∨
    ∃ e, readDecoded c f = .ok e ∧ a.event = some e ∧
      a.answer = some (h.ingress.ingest e).1 ∧ h'.ingress = (h.ingress.ingest e).2
  raised : a.raised ≠ none → (∃ r, a.answer = some (.ok r)) ∧ a.movedTo = none
  processed : a.movedTo = some .processed → (∃ r, a.answer = some (.ok r)) ∧
    (∃ result, a.handled = some (.ok result)) ∧ a.raised = none ∧
    c.maintain = none ∧ c.report = none ∧ c.moveFault = none
  duplicate : (∃ r, a.answer = some (.ok r) ∧ r.disposition = .duplicate) → c.maintain = none →
    c.report = none → c.moveFault = none → a.movedTo = some .processed

theorem settle_presentation {h : Host} {c : FileChoice} {f : EventFile} {rest : List String}
    {a : Attempt} {target : EventDir} {g : Host} (hattempts : g.attempts = h.attempts)
    (hspool : g.spool = h.spool) (hstem : a.stem = f.stem) (hmoved : a.movedTo = none)
    (hread : ((∃ err, readDecoded c f = .error err) ∧ a.event = none ∧ a.answer = none ∧
        g.ingress = h.ingress) ∨
      ∃ e, readDecoded c f = .ok e ∧ a.event = some e ∧
        a.answer = some (h.ingress.ingest e).1 ∧ g.ingress = (h.ingress.ingest e).2)
    (hraised : a.raised = none) (htarget : (∃ r, a.answer = some (.ok r)) → target = .processed)
    (hprocessed : target = .processed → (∃ r, a.answer = some (.ok r)) ∧
      (∃ result, a.handled = some (.ok result)) ∧ c.maintain = none ∧ c.report = none) :
    ∃ a', Presentation h c f rest (g.settle c f a target rest) a' := by
  cases hf : c.moveFault with
  | some err =>
    refine ⟨a,?_⟩
    simp only [Host.settle,hf]
    exact ⟨by rw [← hattempts],hstem,.inl ⟨hmoved,hspool,rfl⟩,hread,fun h => absurd hraised h,
      fun h => by simp [hmoved] at h,fun _ _ _ h => by simp [hf] at h⟩
  | none =>
    refine ⟨{ a with movedTo := some target },?_⟩
    simp only [Host.settle,hf]
    refine ⟨by rw [← hattempts],hstem,.inr ⟨target,rfl,by rw [hspool],rfl⟩,hread,
      fun h => absurd hraised h,?_,fun ⟨r,hr,_⟩ _ _ _ => by rw [htarget ⟨r,hr⟩]⟩
    intro ht
    obtain ⟨hanswer,hhandled,hmaintain,hreport⟩ := hprocessed (Option.some.inj ht)
    exact ⟨hanswer,hhandled,hraised,hmaintain,hreport,hf⟩

/-- `on_event` returns only where `handle` ran and returned. -/
theorem onEvent_returned {s : HostIngestion} {c : FileChoice} {r : IngressResult}
    (h : (onEvent s c r).1 = none) :
    (∃ result, (onEvent s c r).2.1 = some (.ok result)) ∧ c.maintain = none ∧ c.report = none := by
  unfold onEvent at h ⊢
  cases hm : c.maintain with
  | some e => simp [hm] at h
  | none =>
    cases hh : s.handle c.sinks r with
    | mk outcome s' =>
      cases outcome with
      | error e => simp [hm,hh] at h
      | ok result => exact ⟨⟨result,rfl⟩,rfl,by simpa [hm,hh] using h⟩

/-- On a duplicate `handle` only returns. -/
theorem onEvent_duplicate (s : HostIngestion) {c : FileChoice} {r : IngressResult}
    (hd : r.disposition = .duplicate) (hm : c.maintain = none) (hr : c.report = none) :
    (onEvent s c r).1 = none := by
  simp [onEvent,hm,hr,HostIngestion.handle,hd]

theorem present_presentation (h : Host) (c : FileChoice) (f : EventFile) (rest : List String) :
    ∃ a, Presentation h c f rest (h.present c f rest) a := by
  cases hread : readDecoded c f with
  | error err =>
    cases hcaught : unreadable err with
    | true =>
      have heq : h.present c f rest =
          h.settle c f ⟨f.stem,none,none,none,none,none⟩ .quarantine rest := by
        simp [present,hread,hcaught]
      rw [heq]
      exact settle_presentation rfl rfl rfl rfl (.inl ⟨⟨err,hread⟩,rfl,rfl,rfl⟩) rfl (by simp)
        (by simp)
    | false =>
      have heq : h.present c f rest = { h with
          pending := []
          attempts := ⟨f.stem,none,none,none,none,none⟩ :: h.attempts } := by
        simp [present,hread,hcaught]
      rw [heq]
      exact ⟨_,rfl,rfl,.inl ⟨rfl,rfl,rfl⟩,.inl ⟨⟨err,hread⟩,rfl,rfl,rfl⟩,by simp,by simp,by simp⟩
  | ok e =>
    have hanswered : ∀ {a : Attempt} {g : Host}, a.event = some e →
        a.answer = some (h.ingress.ingest e).1 → g.ingress = (h.ingress.ingest e).2 →
        ((∃ err, readDecoded c f = .error err) ∧ a.event = none ∧ a.answer = none ∧
        g.ingress = h.ingress) ∨
          ∃ e, readDecoded c f = .ok e ∧ a.event = some e ∧
            a.answer = some (h.ingress.ingest e).1 ∧ g.ingress = (h.ingress.ingest e).2 :=
      fun he ha hg => .inr ⟨e,hread,he,ha,hg⟩
    cases hingest : h.ingress.ingest e with
    | mk answer ingress =>
      cases answer with
      | error err =>
        have heq : h.present c f rest = ({ h with ingress := ingress } : Host).settle c f
            ⟨f.stem,some e,some (.error err),none,none,none⟩ .conflicts rest := by
          simp [present,hread,hingest]
        rw [heq]
        exact settle_presentation rfl rfl rfl rfl (hanswered rfl (by simp [hingest])
          (by simp [hingest])) rfl (by simp) (by simp)
      | ok r =>
        have hevent := @onEvent_returned h.ingestion c r
        cases hout : onEvent h.ingestion c r with
        | mk raised outcome =>
          obtain ⟨handled,ingestion⟩ := outcome
          rw [hout] at hevent
          cases raised with
          | some err =>
            have heq : h.present c f rest = { h with
                ingress := ingress
                ingestion := ingestion
                pending := []
                attempts := ⟨f.stem,some e,some (.ok r),handled,some err,none⟩ :: h.attempts } := by
              simp [present,hread,hingest,hout]
            have hdup : (∃ r', some (Except.ok (ε := IngressIdentityError) r) = some (.ok r') ∧
                r'.disposition = .duplicate) → c.maintain = none → c.report = none →
                c.moveFault = none → (none : Option EventDir) = some .processed := by
              rintro ⟨r',hr',hd⟩ hmaintain hreport -
              cases hr'
              have := onEvent_duplicate h.ingestion hd hmaintain hreport
              simp [hout] at this
            rw [heq]
            exact ⟨_,rfl,rfl,.inl ⟨rfl,rfl,rfl⟩,hanswered rfl (by simp [hingest])
              (by simp [hingest]),fun _ => ⟨⟨r,rfl⟩,rfl⟩,by simp,hdup⟩
          | none =>
            obtain ⟨hhandled,hmaintain,hreport⟩ := hevent rfl
            have heq : h.present c f rest =
                ({ h with ingress := ingress,ingestion := ingestion } : Host).settle c f
                  ⟨f.stem,some e,some (.ok r),handled,none,none⟩ .processed rest := by
              simp [present,hread,hingest,hout]
            rw [heq]
            exact settle_presentation rfl rfl rfl rfl (hanswered rfl (by simp [hingest])
              (by simp [hingest])) rfl (fun _ => rfl) fun _ => ⟨⟨r,rfl⟩,hhandled,hmaintain,hreport⟩

/-- The file the next move would present. -/
def upNext (h : Host) : Option EventFile := h.pending.head?.bind h.spool.file?

/-- The next file: none is left, or it is presented. -/
theorem next_cases (h : Host) (c : FileChoice) :
    (h.upNext = none ∧ h.next c = { h with pending := [] }) ∨
      ∃ stem rest f a, h.pending = stem :: rest ∧ h.spool.file? stem = some f ∧
        Presentation h c f rest (h.next c) a := by
  cases hp : h.pending with
  | nil =>
    obtain ⟨ingress,ingestion,spool,pending,attempts⟩ := h
    cases hp
    exact .inl ⟨rfl,rfl⟩
  | cons stem rest =>
    cases hf : h.spool.file? stem with
    | none => exact .inl ⟨by simp [upNext,hp,hf],by simp [next,hp,hf]⟩
    | some f =>
      have hnext : h.next c = h.present c f rest := by simp [next,hp,hf]
      obtain ⟨a,ha⟩ := h.present_presentation c f rest
      rw [hnext]
      exact .inr ⟨stem,rest,f,a,rfl,hf,ha⟩

/-- What a move does: nothing to the attempts, or one presentation. -/
theorem step_cases (h : Host) (m : SpoolMove) :
    ((h.step m).attempts = h.attempts ∧ (∀ c, m = .next c → h.upNext = none) ∧
      ∀ stem, h.spool.holds stem = true → (h.step m).spool.holds stem = true) ∨
    ∃ c f a, m = .next c ∧ h.upNext = some f ∧
      Presentation h c f h.pending.tail (h.step m) a := by
  cases m with
  | arrive f =>
    refine .inl ?_
    by_cases hh : h.spool.holds f.stem = true
    · exact ⟨by simp [step,arrive,hh],by simp,fun stem hs => by simpa [step,arrive,hh] using hs⟩
    · have harrive : h.step (.arrive f) =
          { h with spool := { h.spool with inbox := h.spool.inbox ++ [f] } } := if_neg hh
      rw [harrive]
      refine ⟨rfl,by simp,fun stem hs => ?_⟩
      simp only [EventSpool.holds,List.any_append,Bool.or_eq_true]
      exact .inl hs
  | poll maxFiles =>
    refine .inl ?_
    by_cases hp : h.pending = [] <;> simp [step,poll,hp]
  | next c =>
    obtain ⟨hnone,heq⟩ | ⟨stem,rest,f,a,hp,hf,ha⟩ := h.next_cases c
    · refine .inl ⟨?_,fun _ _ => hnone,fun stem hs => ?_⟩
      · rw [step,heq]
      · rw [step,heq]
        exact hs
    · rw [step]
      exact .inr ⟨c,f,a,rfl,by simp [upNext,hp,hf],by rwa [hp]⟩

theorem upNext_held {h : Host} {f : EventFile} (hf : h.upNext = some f) :
    h.spool.holds f.stem = true := by
  unfold upNext at hf
  cases hp : h.pending.head? with
  | none => simp [hp] at hf
  | some stem =>
    rw [hp,Option.bind_some] at hf
    exact List.any_eq_true.mpr ⟨f,List.mem_of_find?_eq_some hf,by simp⟩

theorem holds_moveUnique {s : EventSpool} {f : EventFile} {target : EventDir} {stem : String}
    (h : s.holds stem = true) (hne : f.stem ≠ stem) :
    (s.moveUnique f target).holds stem = true := by
  obtain ⟨g,hg,hs⟩ := List.any_eq_true.mp h
  have hstem : g.stem = stem := by simpa using hs
  refine List.any_eq_true.mpr ⟨g,?_,hs⟩
  rw [EventSpool.moveUnique_inbox,List.mem_filter]
  exact ⟨hg,by simpa [hstem] using Ne.symm hne⟩

theorem Retained.step {h : Host} (hr : h.Retained) (m : SpoolMove) : (h.step m).Retained := by
  obtain ⟨ha,-,hs⟩ | ⟨c,f,a,-,hf,hp⟩ := h.step_cases m
  · intro stem hfail
    rw [ha] at hfail
    exact hs stem (hr stem hfail)
  · intro stem hfail
    rw [hp.attempts,failing,hp.stem] at hfail
    by_cases hstem : f.stem = stem
    · -- the file itself: it has not been moved
      subst hstem
      have hkept : a.movedTo = none := by
        cases hraised : a.raised with
        | some err => exact (hp.raised (by simp [hraised])).2
        | none =>
          simp only [if_true,hraised,Option.isSome_none,Bool.false_or,Bool.and_eq_true] at hfail
          simpa using hfail.1
      obtain ⟨-,hspool,-⟩ | ⟨target,ht,-⟩ := hp.settled
      · rw [hspool]
        exact upNext_held hf
      · simp [hkept] at ht
    · rw [if_neg hstem] at hfail
      have hheld := hr stem hfail
      obtain ⟨-,hspool,-⟩ | ⟨target,-,hspool,-⟩ := hp.settled
      · rwa [hspool]
      · rw [hspool]
        exact holds_moveUnique hheld hstem

theorem Retained.run {h : Host} (hr : h.Retained) (ms : List SpoolMove) : (h.run ms).Retained := by
  induction ms generalizing h with
  | nil => exact hr
  | cons m ms ih => exact ih (hr.step m)

/-- The move presents a file on which `on_event` raised before, the cursor is at or
past its event, and nothing makes the presentation fail again. -/
def Stale (h : Host) (m : SpoolMove) : Prop :=
  ∃ c f e, m = .next c ∧ h.upNext = some f ∧ failing f.stem h.attempts = true ∧
    readDecoded c f = .ok e ∧ h.ingress.Behind e ∧
    admits h.ingress.expectedAccountFingerprint h.ingress.expectedTerminalInstanceId e = true ∧
    c.maintain = none ∧ c.report = none ∧ c.moveFault = none

theorem readDecoded_valid {c : FileChoice} {f : EventFile} {e : QmtEvent}
    (h : readDecoded c f = .ok e) : e.Valid := by
  unfold readDecoded at h
  cases hc : c.unreadable with
  | true => simp [hc] at h
  | false => exact QmtEvent.valid_of_decode (by simpa [hc] using h)

theorem ingest_behind {b : IngressBuffer} {e : QmtEvent} (he : e.Valid)
    (hadmits : admits b.expectedAccountFingerprint b.expectedTerminalInstanceId e = true) :
    b.Behind e ↔ ∃ r, (b.ingest e).1 = .ok r ∧ r.disposition = .duplicate := by
  have hans := b.ingest_answers he
  revert hans
  generalize (b.ingest e).1 = answer,(b.ingest e).2 = b'
  intro hans
  cases hans with
  | refused h => simp [IngressBuffer.pin_admits hadmits] at h
  | duplicate h => exact ⟨fun _ => ⟨_,rfl,rfl⟩,fun _ => h⟩
  | advanced fresh kind =>
    refine ⟨fun h => absurd h fresh,?_⟩
    rintro ⟨r',hr',hdup⟩
    cases hr'
    exact absurd hdup kind

/-- A move loses an event exactly when it is stale. -/
theorem noLoss_step (h : Host) (m : SpoolMove) :
    NoLoss (h.step m).attempts ↔ NoLoss h.attempts ∧ ¬Stale h m := by
  obtain ⟨ha,hnone,-⟩ | ⟨c,f,a,rfl,hf,hp⟩ := h.step_cases m
  · rw [ha]
    refine ⟨fun hn => ⟨hn,?_⟩,And.left⟩
    rintro ⟨c,f,e,rfl,hf,-⟩
    simp [hnone c rfl] at hf
  · rw [hp.attempts,NoLoss,and_comm,hp.stem]
    refine and_congr_right fun _ => ⟨?_,?_⟩
    · rintro hkeep ⟨c',f',e,hc,hf',hfail,hread,hbehind,hadmits,hmaintain,hreport,hmove⟩
      cases hc
      cases hf.symm.trans hf'
      obtain ⟨r,hr,hd⟩ := (ingest_behind (readDecoded_valid hread) hadmits).mp hbehind
      obtain ⟨⟨err,herr⟩,-⟩ | ⟨e',hread',-,hanswer,-⟩ := hp.read
      · cases hread.symm.trans herr
      · cases hread.symm.trans hread'
        rw [hr] at hanswer
        have hmoved := hp.duplicate ⟨r,hanswer,hd⟩ hmaintain hreport hmove
        have hnew := hkeep hfail hmoved
        simp [Attempt.ingested,hanswer,hd] at hnew
    · intro hstale hfail hmoved
      obtain ⟨⟨r,hanswer⟩,hhandled,-,hmaintain,hreport,hmove⟩ := hp.processed hmoved
      obtain ⟨result,hhandled⟩ := hhandled
      suffices hfresh : r.disposition ≠ .duplicate by
        simp [Attempt.ingested,hanswer,hhandled,hfresh]
      refine fun hd => hstale ?_
      obtain ⟨-,-,hnone,-⟩ | ⟨e,hread,-,hanswer',-⟩ := hp.read
      · simp [hnone] at hanswer
      · have hvalid := readDecoded_valid hread
        have hok : (h.ingress.ingest e).1 = .ok r := by
          rw [hanswer'] at hanswer
          exact Option.some.inj hanswer
        have hadmits : admits h.ingress.expectedAccountFingerprint
            h.ingress.expectedTerminalInstanceId e = true := by
          by_contra hno
          obtain ⟨err,herr⟩ := IngressBuffer.ingest_refused (by simpa using hno)
          simp [herr] at hok
        exact ⟨c,f,e,rfl,hf,hfail,hread,(ingest_behind hvalid hadmits).mpr ⟨r,hok,hd⟩,hadmits,
          hmaintain,hreport,hmove⟩

/-- The Host before its first poll. -/
def start (ingress : IngressBuffer) (ingestion : HostIngestion) (spool : EventSpool) : Host :=
  ⟨ingress,ingestion,spool,[],[]⟩

end Host

/-- In every run of the Host, a file on which `on_event` raised stays in the inbox,
and it reaches `processed` only by an attempt that ingested it, exactly when no
file is presented again with the cursor at or past its event and goes through. -/
theorem failed_events_kept_iff (ingress : IngressBuffer) (ingestion : HostIngestion)
    (spool : EventSpool) (ms : List SpoolMove) :
    ((Host.start ingress ingestion spool).run ms).Retained ∧
      (Host.NoLoss ((Host.start ingress ingestion spool).run ms).attempts ↔
        ∀ pre m post, ms = pre ++ m :: post →
          ¬((Host.start ingress ingestion spool).run pre).Stale m) := by
  have hstart : (Host.start ingress ingestion spool).Retained := by
    intro stem h
    simp [Host.start,Host.failing] at h
  have hgood := @Folds.good_iff _ _ _ (fun h : Host => Host.NoLoss h.attempts)
    (fun h m => ¬h.Stale m) Host.noLoss_step (Host.start ingress ingestion spool) ms
  exact ⟨hstart.run ms,hgood.trans (and_iff_right trivial)⟩

/-- The result of a submit command in shadow mode. -/
def resultEvent : QmtEvent :=
  sampleEvent "session-a" 1 .commandResult <|
    .cons "broker_token" (.text "BQ00000000000000000000") <|
    .cons "client_order_id" (.text "order-1") <| .cons "command_id" (.text "command-1") <|
    .cons "command_type" (.text "SUBMIT_LIMIT") <| .cons "execution_mode" (.text "SHADOW") <|
    .cons "live_side_effect" (.bool false) <| .cons "result_status" (.text "SHADOW_ACCEPTED") .nil

def lockedSink : SinkAnswers :=
  { commandResult := fun _ => some (.operationalError "database is locked") }

/-- The sink fails on the first poll and works on the second. -/
def retriedRun : List SpoolMove :=
  [.arrive ⟨"1700000000000_session-a_00000000000000000001",resultEvent.frame⟩,
    .poll 256,.next { sinks := lockedSink },.poll 256,.next {}]

def omsIngestion : HostIngestion :=
  .fresh ⟨true,true,true,true,false,1024⟩ (.fresh sampleFingerprint)

theorem failed_events_kept_fails :
    ¬Host.NoLoss ((Host.start (.fresh none none) omsIngestion ⟨[],[],[],[]⟩).run
      retriedRun).attempts := by
  decide +kernel

end BigQmt
