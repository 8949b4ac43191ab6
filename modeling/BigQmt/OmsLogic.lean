import BigQmt.OmsPrograms
set_option autoImplicit false

/-!
Rules for `OfflineOms` processes. Two of its methods ask for a status they read
earlier; `mayAsk` is what they have to know about it until they ask.
-/

namespace BigQmt

open Resumption Proc

/-- The orders that were listed, as they may have moved on since. -/
def Seen (rows : List BrokerOrder) (w : World) : Prop :=
  w.db.Wf ∧ ∀ row ∈ rows, ∃ r', w.db.order? row.key = some r' ∧ Advances row r'

theorem Seen.evolve {rows : List BrokerOrder} {P : BrokerOrder → TransitionRequest → Prop}
    {w w' : World} (h : Seen rows w) (hev : Evolves P w.db w'.db) : Seen rows w' := by
  refine ⟨hev.wf h.1,fun row hrow => ?_⟩
  obtain ⟨r₁,hr₁,hadv₁⟩ := h.2 row hrow
  obtain ⟨r₂,hr₂,hadv₂⟩ := hev.advances h.1 hr₁
  exact ⟨r₂,hr₂,hadv₁.trans hadv₂⟩

theorem Seen.forget {rows : List BrokerOrder} {w : World} (h : Seen rows w) : Seen [] w :=
  ⟨h.1,fun _ hr => by simp at hr⟩

/-- The status that `ingest` reports is the one it leaves behind. -/
theorem ingestEvidence_status {g : Guard} {e : BrokerEvidenceV1} {c : Choice} {db : Db}
    {applied : EvidenceIngestResult}
    (h : ((Txn.ingestEvidence g e).run c db).1 = .ok (.ok applied)) :
    ∃ r', ((Txn.ingestEvidence g e).run c db).2.order? e.key = some r' ∧
      r'.status = applied.status := by
  obtain ⟨err,he⟩ | ⟨res,db',hb,he⟩ := (Txn.ingestEvidence g e).run_cases c db
  · rw [he] at h
    cases h
  · rw [he] at h ⊢
    obtain rfl : res = .ok applied := by simpa using h
    generalize hres : (Except.ok applied : Except String EvidenceIngestResult) = res at hb
    cases ingest_cases (guarded_ok.mp hb).2 with
    | reused => cases hres
    | known row r hf hr ha =>
      cases hres
      exact ⟨r,hr,rfl⟩
    | knownConflict => cases hres
    | suppressed r hn hr =>
      cases hres
      exact ⟨r,hr,rfl⟩
    | applied o db₁ hn hm =>
      cases hres
      obtain ⟨r,i,filled,hr,hi,hplan,rfl⟩ := transitionInTx_ok hm
      exact ⟨_,order?_updateOrder (fun _ => rfl) hr,applyTransition_status hplan⟩
    | conflict => cases hres

/-- What process `i` has to meet for its methods to keep the rules. -/
structure StatusLogic (R : Rules Eff Choice World) (i : Nat)
    (mayAsk : OrderKey → OrderStatus → World → Prop) : Prop where
  exec_eq : ∀ {β : Type} (o : Eff β) c w, R.exec o c w = exec o c w
  need : ∀ {β : Type} (o : Eff β) w, R.need o w
  wf : ∀ w, R.inv w → w.db.Wf
  rely : ∀ w w', R.rely i w w' → Evolves (fun _ _ => True) w.db w'.db
  routine : ∀ {β : Type} (o : Eff β) c w, (o.Routine ∨ o.driverCall.isSome = true) →
    R.inv w → R.cond o c w → R.inv (exec o c w).2 ∧ R.guar i w (exec o c w).2
  stable : ∀ k st, R.Stable i (mayAsk k st)
  status : ∀ w k r, R.inv w → w.db.order? k = some r → mayAsk k r.status w
  terminal : ∀ w k r r', R.inv w → w.db.order? k = some r' → Advances r r' →
    r.status.brokerTerminal = true → mayAsk k r.status w
  asked : ∀ g k req c w, mayAsk k req.target w → req.filledQuantity = none →
    req.brokerOrderId = none → R.inv w → R.cond (.txn (.transitionOrder g k req)) c w →
    R.inv (exec (.txn (.transitionOrder g k req)) c w).2 ∧
      R.guar i w (exec (.txn (.transitionOrder g k req)) c w).2

namespace StatusLogic

variable {R : Rules Eff Choice World} {i : Nat} {mayAsk : OrderKey → OrderStatus → World → Prop}
variable (L : StatusLogic R i mayAsk) {rows : List BrokerOrder}
include L

theorem seen_stable : R.Stable i (Seen rows) := fun w w' hr _ hs => hs.evolve (L.rely w w' hr)

theorem keeps_effect {β : Type} (o : Eff β) (h : o.Routine ∨ o.driverCall.isSome = true) :
    R.Keeps i (Seen rows) o := by
  intro w hi hs
  refine ⟨L.need o w,fun c hc => ?_⟩
  rw [L.exec_eq]
  obtain ⟨h₁,h₂⟩ := L.routine o c w h hi hc
  exact ⟨h₁,h₂,hs.evolve (exec_evolves o c w)⟩

theorem keeps {β : Type} (o : Eff β) (h : o.Routine) : R.Keeps i (Seen rows) o :=
  L.keeps_effect o (.inl h)

/-- A transition to a status that may be asked for. -/
theorem transitionOrder_ok {k : OrderKey} {req : TransitionRequest} {s : OmsState} {w : World}
    (hs : Seen rows w) (hm : mayAsk k req.target w) (hf : req.filledQuantity = none)
    (hb : req.brokerOrderId = none) :
    R.Ok i (transitionOrder k req) s (fun _ _ w => Seen rows w) w := by
  intro u hu hi
  refine ⟨L.need _ u,fun c hc => ?_⟩
  rw [L.exec_eq]
  obtain ⟨h₁,h₂⟩ := L.asked _ k req c u (L.stable k _ w u hu hi hm) hf hb hi hc
  refine ⟨h₁,h₂,fun v hv _ => ?_⟩
  exact L.seen_stable _ _ hv ‹_› (((L.seen_stable _ _ hu hi hs)).evolve (exec_evolves _ c u))

theorem ingestBrokerEvidence_ok (e : BrokerEvidenceV1) {s : OmsState} {w : World}
    (hs : Seen rows w) : R.Ok i (ingestBrokerEvidence e) s (fun r _ w => Seen rows w ∧
      ∀ applied, r = .ok applied → mayAsk e.key applied.status w) w := by
  intro u hu hi
  refine ⟨L.need _ u,fun c hc => ?_⟩
  rw [L.exec_eq]
  obtain ⟨h₁,h₂⟩ := L.routine (.txn (.ingestEvidence s.guard e)) c u (.inl trivial) hi hc
  have hs' : Seen rows (exec (.txn (.ingestEvidence s.guard e)) c u).2 :=
    (L.seen_stable _ _ hu hi hs).evolve (exec_evolves _ c u)
  refine ⟨h₁,h₂,?_⟩
  change R.Wp i _ (Prog.bind (.pure (((Txn.ingestEvidence s.guard e).run c u.db).1,s)) _) _
  cases hr : ((Txn.ingestEvidence s.guard e).run c u.db).1 with
  | error err => exact fun v hv hi => ⟨L.seen_stable _ _ hv hi hs',fun _ h => by cases h⟩
  | ok res =>
    cases res with
    | error reason => exact fun v hv hi => ⟨L.seen_stable _ _ hv hi hs',fun _ h => by cases h⟩
    | ok applied =>
      refine fun v hv hi' => ⟨L.seen_stable _ _ hv hi' hs',fun a ha => ?_⟩
      cases ha
      obtain ⟨r',hr',hst⟩ := ingestEvidence_status hr
      exact hst ▸ L.stable _ _ _ _ hv hi' (L.status _ e.key r' h₁ hr')

theorem ingestActiveQueryEvidence_ok (k : OrderKey) (o : BrokerOrderObservation)
    (reason : String) {s : OmsState} {w : World} (hi : R.inv w) (hs : Seen rows w) :
    R.Ok i (ingestActiveQueryEvidence k o reason) s (fun r _ w => Seen rows w ∧
      ∀ applied, r = .ok applied → mayAsk k applied.status w) w := by
  have herror : ∀ (e : PyError) (w : World), Seen rows w → Seen rows w ∧
      ∀ applied, (Except.error e : Except PyError EvidenceIngestResult) = .ok applied →
        mayAsk k applied.status w := fun e w hs => ⟨hs,fun _ h => by cases h⟩
  have hthrow : ∀ (e : PyError) (s : OmsState) (w : World), Seen rows w →
      R.Ok i (throw e : Oms EvidenceIngestResult) s (fun r _ w => Seen rows w ∧
        ∀ applied, r = .ok applied → mayAsk k applied.status w) w :=
    fun e s w hs u hu hi => herror e u (L.seen_stable _ _ hu hi hs)
  unfold ingestActiveQueryEvidence
  split
  · exact hthrow _ s w hs
  · rename_i evidenceType _
    refine Rules.Ok.bind_keeps L.seen_stable (all_ask (L.keeps _ trivial)) hi hs
      (fun e _ w _ hs => herror e w hs) fun now s w hi hs => ?_
    refine Rules.Ok.bind_keeps L.seen_stable all_self hi hs
      (fun e _ w _ hs => herror e w hs) fun s' s w hi hs => ?_
    cases hb : BrokerEvidenceV1.build
        (queryEvidence s'.sessionId reason k o evidenceType (now / 1000)) with
    | error message => exact hthrow _ s w hs
    | ok e =>
      have hkey : e.key = k := by
        rw [BrokerEvidenceV1.build_fields hb]
        rfl
      exact hkey ▸ L.ingestBrokerEvidence_ok e hs

theorem callReturned_ok (k : OrderKey) (events : CallEvents) {s : OmsState} {w : World}
    (hi : R.inv w) (hs : Seen rows w) :
    R.Ok i (callReturned k events) s (fun r _ w => Seen rows w ∧
      ∀ o applied, r = .ok (some (o,applied)) → mayAsk k applied.status w) w := by
  have herror : ∀ (e : PyError) (w : World), Seen rows w → Seen rows w ∧ ∀ o applied,
      (Except.error e : Except PyError (Option (BrokerOrderObservation × EvidenceIngestResult))) =
        .ok (some (o,applied)) → mayAsk k applied.status w :=
    fun e w hs => ⟨hs,fun _ _ h => by cases h⟩
  have hleader : assertLeader.All (R.Keeps i (Seen rows)) := assertLeader_holds (.of_routine L.keeps)
  have hmove : ∀ req : TransitionRequest, req.Neutral →
      (transitionOrder k req).All (R.Keeps i (Seen rows)) := fun req => transitionOrder_holds (.of_routine L.keeps)
  refine Rules.Ok.bind_keeps L.seen_stable hleader hi hs
    (fun e _ w _ hs => herror e w hs) fun _ s w hi hs => ?_
  refine Rules.Ok.bind_keeps L.seen_stable (hmove _ ⟨rfl,rfl,by simp⟩) hi hs
    (fun e _ w _ hs => herror e w hs) fun _ s w hi hs => ?_
  refine Rules.Ok.bind_keeps L.seen_stable (hmove _ ⟨rfl,rfl,by simp⟩) hi hs
    (fun e _ w _ hs => herror e w hs) fun _ s w hi hs => ?_
  refine Rules.Ok.bind_keeps L.seen_stable hleader hi hs
    (fun e _ w _ hs => herror e w hs) fun _ s w hi hs => ?_
  refine Rules.Ok.bind_keeps L.seen_stable (all_call (L.keeps _ trivial)) hi hs
    (fun e _ w _ hs => herror e w hs) fun evidence s w hi hs => ?_
  refine Rules.Ok.bind_keeps L.seen_stable hleader hi hs
    (fun e _ w _ hs => herror e w hs) fun _ s w hi hs => ?_
  cases evidence with
  | none =>
    exact fun u hu hi => ⟨L.seen_stable _ _ hu hi hs,fun _ _ h => by cases h⟩
  | some o =>
    refine Rules.Ok.bind hi (Rules.Ok.mono (L.ingestActiveQueryEvidence_ok k o _ hi hs) ?_)
    rintro (e | applied) s w hi ⟨hs,hm⟩
    · exact fun u hu hi => herror e u (L.seen_stable _ _ hu hi hs)
    · refine fun u hu hi => ⟨L.seen_stable _ _ hu hi hs,fun o' a h => ?_⟩
      cases h
      exact L.stable _ _ _ _ hu hi (hm _ rfl)

theorem cancelOrder_ok (k : OrderKey) {s : OmsState} {w : World} (hi : R.inv w)
    (hs : Seen rows w) : R.Ok i (cancelOrder k) s (fun _ _ w => Seen rows w) w := by
  have hpure : ∀ (r : SubmitResult) (s : OmsState) (w : World), Seen rows w →
      R.Ok i (pure r : Oms SubmitResult) s (fun _ _ w => Seen rows w) w :=
    fun r s w hs => Rules.Ok.of_post L.seen_stable rfl hs
  refine Rules.Ok.bind_all L.seen_stable (assertLeader_holds (.of_routine L.keeps)) hi hs fun _ s w hi hs => ?_
  refine Rules.Ok.bind_all L.seen_stable all_self hi hs fun s' s w hi hs => ?_
  split
  · exact Rules.Ok.of_post L.seen_stable rfl hs
  · refine Rules.Ok.bind_all L.seen_stable ((OmsClosed.of_routine L.keeps).durable (fun _ => rfl) fun _ => trivial) hi hs
      fun _ s w hi hs => ?_
    refine Rules.Ok.bind_all L.seen_stable (assertLeader_holds (.of_routine L.keeps)) hi hs fun _ s w hi hs => ?_
    refine Rules.Ok.bind_all L.seen_stable (all_ask (L.keeps_effect _ (.inr rfl))) hi hs
      fun returned s w hi hs => ?_
    cases returned with
    | error e =>
      exact Rules.Ok.of_all L.seen_stable (callRaised_holds (.of_routine L.keeps) _ _ _) hs
    | ok u =>
      refine Rules.Ok.bind hi (Rules.Ok.mono (L.callReturned_ok k cancelEvents hi hs) ?_)
      rintro (e | answer) s w hi ⟨hs,hm⟩
      · exact fun u hu hi => L.seen_stable _ _ hu hi hs
      · rcases answer with _ | ⟨o,applied⟩
        · exact hpure _ s w hs
        · exact Rules.Ok.seq L.seen_stable hi
            (L.transitionOrder_ok hs (hm o applied rfl) rfl rfl) fun _ s w _ hs => hpure _ s w hs

/-- A read, and what follows it knowing what was read. -/
theorem select_bind_ok {α β : Type} {q : Db → Except PyError α} {f : α → Oms β} {s : OmsState}
    {w : World} (hi : R.inv w) (hs : Seen rows w)
    (hf : ∀ u v a, R.inv u → q u.db = .ok a → R.rely i u v → R.inv v → Seen rows v →
      R.Ok i (f a) s (fun _ _ w => Seen rows w) v) :
    R.Ok i (call (.select q) >>= f) s (fun _ _ w => Seen rows w) w := by
  refine Rules.Ok.bind hi fun u hu hiu => ⟨L.need _ u,fun c hc => ?_⟩
  have hsu := L.seen_stable _ _ hu hiu hs
  rw [L.exec_eq]
  have hroutine : (Eff.select q).Routine := trivial
  obtain ⟨h₁,h₂⟩ := L.routine _ c u (.inl hroutine) hiu hc
  refine ⟨h₁,h₂,fun v hv hiv => ?_⟩
  have hsv := L.seen_stable _ _ hv hiv hsu
  simp only [exec]
  cases hq : q u.db with
  | error e => exact fun x hx hix => L.seen_stable _ _ hx hix hsv
  | ok a => exact hf u v a hiu hq hv hiv hsv

/-- `getStatus` and then a transition to what it returned. -/
theorem confirmStatus_ok (k : OrderKey) (req : OrderStatus → TransitionRequest) {s : OmsState}
    {w : World} (hi : R.inv w) (hs : Seen rows w) (ht : ∀ st, (req st).target = st)
    (hf : ∀ st, (req st).filledQuantity = none) (hb : ∀ st, (req st).brokerOrderId = none) :
    R.Ok i (getStatus k >>= fun st => transitionOrder k (req st) >>= fun _ => pure ()) s
      (fun _ _ w => Seen rows w) w := by
  refine L.select_bind_ok hi hs fun u v st hiu hq hv hiv hsv => ?_
  cases hr : u.db.order? k with
  | none => simp [hr] at hq
  | some r =>
    simp only [hr,Except.ok.injEq] at hq
    have hm : mayAsk k (req st).target v := by
      rw [ht,← hq]
      exact L.stable _ _ _ _ hv hiv (L.status u k r hiu hr)
    exact Rules.Ok.seq L.seen_stable hiv (L.transitionOrder_ok hsv hm (hf _) (hb _))
      fun _ s w _ hs => Rules.Ok.of_post L.seen_stable rfl hs

theorem recoverQuery_ok (row : BrokerOrder) {s : OmsState} {w : World} (hi : R.inv w)
    (hs : Seen rows w) : R.Ok i (recoverQuery row) s (fun _ _ w => Seen rows w) w := by
  refine Rules.Ok.bind_all L.seen_stable (assertLeader_holds (.of_routine L.keeps)) hi hs fun _ s w hi hs => ?_
  refine Rules.Ok.bind_all L.seen_stable (all_call (L.keeps _ trivial)) hi hs
    fun evidence s w hi hs => ?_
  refine Rules.Ok.bind_all L.seen_stable (assertLeader_holds (.of_routine L.keeps)) hi hs fun _ s w hi hs => ?_
  cases evidence with
  | none =>
    refine Rules.Ok.bind_all L.seen_stable (transitionOrder_holds (.of_routine L.keeps) ⟨rfl,rfl,by simp⟩) hi hs
      fun _ s w hi hs => ?_
    exact Rules.Ok.of_post L.seen_stable rfl hs
  | some o =>
    refine Rules.Ok.bind_all L.seen_stable (ingestActiveQueryEvidence_holds (.of_routine L.keeps) _ _ _) hi hs
      fun _ s w hi hs => ?_
    split
    · exact L.confirmStatus_ok row.key
        (fun st => { target := st, eventType := "RECONCILE_CANCEL_AMBIGUITY_RESOLVED",
                     cancelOutcomeResolved := some true }) hi hs
        (fun _ => rfl) (fun _ => rfl) (fun _ => rfl)
    · exact Rules.Ok.of_post L.seen_stable rfl hs

/-- After `recoverSubmitting` the status is a neutral one, or the one that was listed. -/
theorem recoverSubmitting_ok (row : BrokerOrder) {s : OmsState} {w : World} (hi : R.inv w)
    (hs : Seen rows w) : R.Ok i (recoverSubmitting row) s (fun r _ w => Seen rows w ∧
      ∀ st, r = .ok st → st.brokerTerminal = true → st = row.status) w := by
  have herror : ∀ (e : PyError) (w : World), Seen rows w → Seen rows w ∧
      ∀ st, (Except.error e : Except PyError OrderStatus) = .ok st →
        st.brokerTerminal = true → st = row.status := fun e w hs => ⟨hs,fun _ h => by cases h⟩
  have hmove : ∀ (req : TransitionRequest) (st : OrderStatus), req.Neutral →
      (st.brokerTerminal = true → st = row.status) →
      R.Ok i (transitionOrder row.key req >>= fun _ => pure st) s (fun r _ w => Seen rows w ∧
        ∀ st, r = .ok st → st.brokerTerminal = true → st = row.status) w := by
    intro req st hreq hst
    refine Rules.Ok.bind_keeps L.seen_stable (transitionOrder_holds (.of_routine L.keeps) hreq) hi hs
      (fun e _ w _ hs => herror e w hs) fun _ s w hi hs => ?_
    refine fun u hu hiu => ⟨L.seen_stable _ _ hu hiu hs,fun st' h => ?_⟩
    cases h
    exact hst
  unfold recoverSubmitting
  split
  · split
    · exact fun u hu hiu => herror _ u (L.seen_stable _ _ hu hiu hs)
    · exact hmove _ _ ⟨rfl,rfl,by decide⟩ (by simp [OrderStatus.brokerTerminal])
  · split
    · exact hmove _ _ ⟨rfl,rfl,by decide⟩ (by simp [OrderStatus.brokerTerminal])
    · refine fun u hu hiu => ⟨L.seen_stable _ _ hu hiu hs,fun st' h _ => ?_⟩
      cases h
      rfl

theorem recoverRow_ok {row : BrokerOrder} (hrow : row ∈ rows) {s : OmsState} {w : World}
    (hi : R.inv w) (hs : Seen rows w) :
    R.Ok i (recoverRow row) s (fun _ _ w => Seen rows w) w := by
  refine Rules.Ok.bind_all L.seen_stable (omsHeartbeat_all L.keeps) hi hs fun _ s w hi hs => ?_
  split
  · exact Rules.Ok.of_all L.seen_stable (recoverPreSubmit_holds (.of_routine L.keeps) row) hs
  · refine Rules.Ok.bind hi (Rules.Ok.mono (L.recoverSubmitting_ok row hi hs) ?_)
    rintro (e | st) s w hi ⟨hs,hterm⟩
    · exact fun u hu hiu => L.seen_stable _ _ hu hiu hs
    · change R.Ok i (if cancelUnresolved row && st.brokerTerminal then _ else _) s _ w
      split
      · rename_i hcond
        simp only [Bool.and_eq_true] at hcond
        have hst : st = row.status := hterm st rfl hcond.2
        obtain ⟨r',hr',hadv⟩ := hs.2 row hrow
        have hm : mayAsk row.key st w := by
          rw [hst] at hcond ⊢
          exact L.terminal w row.key row r' hi hr' hadv hcond.2
        exact Rules.Ok.seq L.seen_stable hi (L.transitionOrder_ok hs hm rfl rfl)
          fun _ s w _ hs => Rules.Ok.of_post L.seen_stable rfl hs
      · refine Rules.Ok.bind_all L.seen_stable (recoverCancelPending_holds (.of_routine L.keeps) row st) hi hs
          fun st s w hi hs => ?_
        refine Rules.Ok.bind_all L.seen_stable (recoverUnknown_holds (.of_routine L.keeps) row st) hi hs
          fun _ s w hi hs => ?_
        exact L.recoverQuery_ok row hi hs

theorem recover_ok {s : OmsState} {w : World} (hi : R.inv w) :
    R.Ok i recover s (fun _ _ w => Seen [] w) w := by
  have hs : Seen [] w := ⟨L.wf w hi,fun _ h => by simp at h⟩
  refine Rules.Ok.bind_all L.seen_stable (assertLeader_holds (.of_routine L.keeps)) hi hs fun _ s w hi hs => ?_
  refine L.select_bind_ok hi hs fun u v rows hiu hq hv hiv _ => ?_
  obtain rfl : recoveryCandidates u.db = rows := by simpa using hq
  have hwf := L.wf u hiu
  have hlisted : Seen (recoveryCandidates u.db) v := by
    refine L.seen_stable _ _ hv hiv ⟨hwf,fun row hrow => ?_⟩
    exact ⟨row,hwf.listed (List.mem_of_mem_filter hrow),.refl row⟩
  refine Rules.Ok.mono (Q := fun _ _ w => Seen (recoveryCandidates u.db) w) ?_
    fun _ _ _ _ hs => Seen.forget hs
  refine Rules.Ok.seq L.seen_stable hiv (Rules.Ok.each L.seen_stable
    (fun row hrow s w hi hs => L.recoverRow_ok hrow hi hs) hiv hlisted) fun _ s w hi hs => ?_
  refine Rules.Ok.bind_all L.seen_stable (omsHeartbeat_all L.keeps) hi hs fun _ s w hi hs => ?_
  refine Rules.Ok.bind_all L.seen_stable all_self hi hs fun s' s w hi hs => ?_
  refine Rules.Ok.bind_all L.seen_stable ((OmsClosed.of_routine L.keeps).durable (fun _ => rfl) fun _ => trivial) hi hs
    fun _ s w hi hs => ?_
  refine Rules.Ok.bind_all L.seen_stable (assertLeader_holds (.of_routine L.keeps)) hi hs fun _ s w hi hs => ?_
  exact Rules.Ok.of_all L.seen_stable (all_update _) hs

/-- Every call on an OMS object keeps the rules. -/
theorem perform_ok (op : OmsOp) {s : OmsState} {w : World} (hi : R.inv w) :
    R.Ok i op.perform s (fun _ _ w => Seen [] w) w := by
  have hs : Seen [] w := ⟨L.wf w hi,fun _ h => by simp at h⟩
  have hall : ∀ {α : Type} (x : Oms α), x.All (R.Keeps i (Seen [])) →
      R.Ok i (discard x) s (fun _ _ w => Seen [] w) w := fun x hx =>
    Rules.Ok.of_all L.seen_stable (all_bind hx fun _ => all_pure _) hs
  refine Rules.Ok.tryCatch_all L.seen_stable hi ?_
    fun _ _ _ _ hs => Rules.Ok.of_all L.seen_stable (all_pure _) hs
  cases op with
  | recover => exact L.recover_ok hi
  | submitIntent intent decision =>
    exact hall _ (submitIntent_holds (.of_routine L.keeps)
      (fun _ => all_ask (L.keeps_effect _ (.inr rfl))) intent decision)
  | cancelOrder k =>
    exact Rules.Ok.seq L.seen_stable hi (L.cancelOrder_ok k hi hs)
      fun _ _ _ _ hs => Rules.Ok.of_all L.seen_stable (all_pure _) hs
  | ingestBrokerEvidence e => exact hall _ (ingestBrokerEvidence_holds (.of_routine L.keeps) e)
  | ingestCommandResult identity =>
    exact hall _ (ingestCommandResult_holds (.of_routine L.keeps) identity)
  | registerDurableSubmit row allow =>
    exact hall (durable fun g => .registerDurableSubmit g row allow)
      ((OmsClosed.of_routine L.keeps).durable (fun _ => rfl) fun _ => trivial)
  | heartbeat => exact Rules.Ok.of_all L.seen_stable (omsHeartbeat_all L.keeps) hs
  | close => exact Rules.Ok.of_all L.seen_stable (omsClose_all L.keeps) hs

theorem omsProcess_ok (secs : Nat) (ops : List OmsOp) {w : World} (hi : R.inv w) :
    R.Wp i (fun _ _ => True) (omsProcess secs ops) w := by
  have hs : Seen [] w := ⟨L.wf w hi,fun _ h => by simp at h⟩
  refine Rules.Wp.bind hi (Rules.Wp.mono
    (Rules.Wp.of_all L.seen_stable (constructOms_all L.keeps secs ()) hs) fun r w hi hs => ?_)
  obtain ⟨r,u⟩ := r
  cases r with
  | error e => exact fun _ _ _ => trivial
  | ok s =>
    have heach : R.Ok i (each OmsOp.perform ops) s (fun _ _ w => Seen [] w) w :=
      Rules.Ok.each L.seen_stable (fun op _ s w hi _ => L.perform_ok op hi) hi hs
    exact Rules.Wp.bind hi (Rules.Wp.mono heach fun _ _ _ _ _ _ _ => trivial)

end StatusLogic
end BigQmt
