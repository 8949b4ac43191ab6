import BigQmt.Arrival
import BigQmt.Runs
import BigQmt.System
set_option autoImplicit false

/-!
What a call of `recover` that returns has done: every candidate was brought to a
settled status, apart from the ones whose answer the session had recorded before.
-/

namespace BigQmt

open Resumption Proc Keyed Transact

/-- The driver answers the query for an order as the function says, when it does not raise. -/
def answering (answers : OrderKey → Option BrokerOrderObservation) :
    {β : Type} → Eff β → Choice → World → Prop
  | _,.queryByClientOrderId k,c,_ => c.observation = answers k
  | _,_,_,_ => True

/-- One process with its driver, alone on the database. -/
def offline (answers : OrderKey → Option BrokerOrderObservation) : Solo Eff Choice World :=
  ⟨exec,answering answers⟩

/-- A row that `list_recovery_candidates` selects. -/
def recoveryCandidate (row : BrokerOrder) : Bool :=
  row.status ∈ [.created,.riskAccepted,.submitting,.cancelPending,.unknown,.reconciling] ||
    cancelUnresolved row

theorem recoveryCandidates_eq (db : Db) :
    recoveryCandidates db = db.brokerOrders.filter recoveryCandidate := rfl

section
variable {answers : OrderKey → Option BrokerOrderObservation} {s s' : OmsState} {w w' : World}
variable {k : OrderKey}

/-- What a transaction that returned has committed. -/
theorem durable_calls {α : Type} {t : Guard → Txn α} {a : α}
    (h : (offline answers).Calls (durable t) s w (.ok a) s' w') :
    s' = s ∧ ∃ now db', (t s.guard).body now w.db = .ok (a,db') ∧ w' = { w with db := db' } := by
  obtain ⟨c,-,hr,rfl,rfl⟩ := (offline answers).calls_call.mp
    ((offline answers).calls_self_bind.mp h)
  refine ⟨rfl,c.now,?_⟩
  obtain ⟨e,he⟩ | ⟨a',db',hb,he⟩ := (t s'.guard).run_cases c w.db
  · simp [offline,exec,he] at hr
  · simp only [offline,exec,he,Except.ok.injEq] at hr ⊢
    subst hr
    exact ⟨db',hb,rfl⟩

theorem assertLeader_calls {u : Unit}
    (h : (offline answers).Calls assertLeader s w (.ok u) s' w') : s' = s ∧ w' = w := by
  have h := (offline answers).calls_self_bind.mp h
  cases hc : s.closed with
  | true => simp [hc] at h
  | false =>
    simp only [hc,Bool.false_eq_true,if_false,Solo.calls_bind_ok,Solo.calls_ask,Solo.calls_call] at h
    obtain ⟨_,_,_,⟨c,-,-,rfl,rfl⟩,c',-,-,rfl,rfl⟩ := h
    exact ⟨rfl,rfl⟩

theorem omsHeartbeat_calls {u : Unit}
    (h : (offline answers).Calls omsHeartbeat s w (.ok u) s' w') :
    s'.sessionId = s.sessionId ∧ ∃ row, w'.db = { w.db with omsLeader := row } := by
  have h := (offline answers).calls_self_bind.mp h
  cases hc : s.closed with
  | true => simp [hc] at h
  | false =>
    simp only [hc,Bool.false_eq_true,if_false,Solo.calls_bind_ok,Solo.calls_ask,Solo.calls_call,
      Solo.calls_update] at h
    obtain ⟨now,s₁,w₁,⟨c,-,-,hs₁,hw₁⟩,lease,s₂,w₂,⟨c',-,hr,hs₂,hw₂⟩,-,hs₃,hw₃⟩ := h
    have hdb : w₁.db = w.db := by rw [hw₁]; rfl
    refine ⟨by rw [hs₃,hs₂,hs₁],?_⟩
    obtain ⟨e,he⟩ | ⟨lease',db',hb,he⟩ :=
      (Txn.heartbeat s.lease s.leaseSeconds now).run_cases c' w₁.db
    · simp [offline,exec,he] at hr
    · obtain ⟨row,rfl⟩ := heartbeat_ok hb
      exact ⟨row,by rw [hw₃,hw₂,← hdb]; simp [offline,exec,he]⟩

end

/-- The evidence of this session's start-up query for an order. -/
def recoverySource : String := "execution-driver-active-query"

def recoveryEventId (sessionId : String) (k : OrderKey) : String :=
  sessionId ++ ":" ++ "startup-recovery" ++ ":" ++ k.clientOrderId

/-- The journal has a fact from this session's start-up query for the order. -/
def answeredBefore (sessionId : String) (k : OrderKey) (db : Db) : Bool :=
  db.evidenceKeys.any (fun r => r.fingerprint.source == recoverySource &&
    r.fingerprint.accountFingerprint == k.accountFingerprint &&
    r.fingerprint.sourceEventId == recoveryEventId sessionId k)

/-- A write that concerns one order: the other orders, and what the session recorded of
them, stay. -/
structure Concerns (sessionId : String) (k : OrderKey) (db db' : Db) : Prop where
  rows : db'.brokerOrders.map BrokerOrder.key = db.brokerOrders.map BrokerOrder.key
  others : ∀ k', k' ≠ k → db'.order? k' = db.order? k'
  answered : ∀ k', k' ≠ k → answeredBefore sessionId k' db' = answeredBefore sessionId k' db

instance (sessionId : String) (k : OrderKey) : IsPreorder Db (Concerns sessionId k) where
  refl _ := ⟨rfl,fun _ _ => rfl,fun _ _ => rfl⟩
  trans _ _ _ h₁ h₂ := ⟨h₂.rows.trans h₁.rows,fun k' hk => (h₂.others k' hk).trans (h₁.others k' hk),
    fun k' hk => (h₂.answered k' hk).trans (h₁.answered k' hk)⟩

/-- One of the statuses that `list_recovery_candidates` looks for. -/
def OrderStatus.recovering (st : OrderStatus) : Bool :=
  st ∈ [.created,.riskAccepted,.submitting,.cancelPending,.unknown,.reconciling]

section
variable {sid : String} {k : OrderKey} {db db' : Db} {e : BrokerEvidenceV1} {r : BrokerOrder}

theorem recoveryEventId_inj {k k' : OrderKey} (ha : k.accountFingerprint = k'.accountFingerprint)
    (h : recoveryEventId sid k = recoveryEventId sid k') : k = k' := by
  have hid : k.clientOrderId = k'.clientOrderId := by
    simpa [recoveryEventId,String.ext_iff] using h
  cases k
  cases k'
  simp_all

/-- The update of an order, with the event that records it. -/
theorem Concerns.update {f : BrokerOrder → BrokerOrder} {events : List OrderEvent}
    (hf : ∀ r, (f r).key = r.key) :
    Concerns sid k db { db.updateOrder k f with orderEvents := events } := by
  refine ⟨modify_keys hf,fun k' hk => ?_,fun _ _ => rfl⟩
  exact (find_modify hf).trans (if_neg hk)

/-- The start-up query of a session for the order. -/
structure StartupFact (sid : String) (k : OrderKey) (e : BrokerEvidenceV1) : Prop where
  source : e.source = recoverySource
  eventId : e.sourceEventId = recoveryEventId sid k
  key : e.key = k

theorem StartupFact.identity (h : StartupFact sid k e) :
    (identityRow e db).isSome = answeredBefore sid k db := by
  rw [identityRow,answeredBefore,List.isSome_find?,h.source,h.eventId,h.key]

theorem StartupFact.fresh (h : StartupFact sid k e) :
    identityRow e db = none ↔ answeredBefore sid k db = false := by
  have hsame : (identityRow e db).isSome = answeredBefore sid k db := h.identity
  rw [← hsame,Option.isSome_eq_false_iff,Option.isNone_iff_eq_none]

/-- The key row of a start-up fact tells nothing of the other orders. -/
theorem StartupFact.recordKey (h : StartupFact sid k e) {row : EvidenceKey}
    (hrow : row.fingerprint = evidenceFingerprint e) {k' : OrderKey} (hk : k' ≠ k) :
    answeredBefore sid k' (db.recordKey row) = answeredBefore sid k' db := by
  have hother : (row.fingerprint.source == recoverySource &&
      row.fingerprint.accountFingerprint == k'.accountFingerprint &&
      row.fingerprint.sourceEventId == recoveryEventId sid k') = false := by
    by_contra hsame
    simp only [Bool.not_eq_false,Bool.and_eq_true,beq_iff_eq,hrow,evidenceFingerprint,h.key,
      h.eventId] at hsame
    exact hk (recoveryEventId_inj hsame.1.2.symm hsame.2.symm)
  simp [answeredBefore,Db.recordKey,List.any_append,hother]

/-- The transitions of the command path set the status and the cancel flag. -/
theorem transitionInTx_command {req : TransitionRequest} {o : TransitionOutcome}
    (hr : db.order? k = some r) (hfill : req.filledQuantity = none) (hid : req.brokerOrderId = none)
    (h : transitionInTx k req.command db = .ok (o,db')) :
    transition r.status req.target = some o ∧ Concerns sid k db db' ∧
      db'.evidenceKeys = db.evidenceKeys ∧
      db'.order? k = some { r with
        status := o.current
        cancelOutcomeResolved := req.cancelOutcomeResolved.getD r.cancelOutcomeResolved } := by
  obtain ⟨r',i,filled,hr',-,hplan,rfl⟩ := transitionInTx_ok h
  obtain rfl : r = r' := Option.some.inj (hr.symm.trans hr')
  have hstatus : (applyTransition req.command o filled r).status = o.current :=
    applyTransition_status hplan
  obtain ⟨-,-,target,heff,hnext⟩ := planTransition_ok hplan
  obtain ⟨-,rfl,rfl⟩ | ⟨f,hf,-⟩ := effectiveFill_ok heff
  · obtain ⟨hb,-⟩ | ⟨-,ht⟩ := nextStatus_ok hnext
    · cases hb
    · refine ⟨ht,.update fun _ => rfl,rfl,?_⟩
      have hord : (db.updateOrder k (applyTransition req.command o r.filledQuantity)).order? k =
          some (applyTransition req.command o r.filledQuantity r) :=
        order?_updateOrder (fun _ => rfl) hr
      refine hord.trans (congrArg some ?_)
      simp only [applyTransition,BrokerOrder.context,TransitionRequest.command,hid,
        Option.or_none] at hstatus ⊢
      rw [hstatus]
  · rw [TransitionRequest.command,hfill] at hf
    cases hf

/-- What accepted evidence does to its order, by what the journal knew of its source. -/
inductive Accepted (e : BrokerEvidenceV1) (r : BrokerOrder) (db : Db) : Db → Prop
  | known (recorded : identityRow e db ≠ none) : Accepted e r db (db.record e .duplicate)
  | suppressed (fresh : identityRow e db = none) (quiet : Quiet r.status e.requestedStatus) :
      Accepted e r db ((db.recordKey ⟨evidenceFingerprint e,true,some .duplicateIgnored,none⟩).record
        e .semanticDuplicate)
  | applied (o : TransitionOutcome) (filled q : Int) (target : OrderStatus)
      (events : List OrderEvent) (fresh : identityRow e db = none)
      (merged : Merged q r e o filled target)
      (status : (applyTransition (mergeRequest e) o filled r).status = o.current) :
      Accepted e r db ((Db.recordKey ⟨evidenceFingerprint e,true,some o.disposition,none⟩
        { db.updateOrder e.key (applyTransition (mergeRequest e) o filled) with
          orderEvents := events }).record e .new)

theorem ingestNew_accepted {a : EvidenceIngestResult} (hr : db.order? e.key = some r)
    (hfresh : identityRow e db = none) (h : ingestNew e db = .ok (.ok a,db')) :
    Accepted e r db db' := by
  simp only [ingestNew,Tx.bind_eq_ok,Tx.attempt_eq_ok] at h
  obtain ⟨merged,_,⟨o,rfl,hm⟩ | ⟨err,rfl,hm,rfl⟩,h⟩ := h
  · simp only [Tx.bind_eq_ok,insertEvidenceKey_eq_ok,insertObservation_eq_ok,Tx.pure_eq_ok] at h
    obtain ⟨_,_,⟨-,rfl⟩,_,_,⟨-,rfl⟩,-,rfl⟩ := h
    obtain ⟨r',i,filled,hr',-,hplan,rfl⟩ := transitionInTx_ok hm
    obtain rfl : r = r' := Option.some.inj (hr.symm.trans hr')
    obtain ⟨target,hmerged⟩ := planTransition_merged hplan
    exact .applied o filled i.quantity target _ hfresh hmerged (applyTransition_status hplan)
  · simp only [Tx.bind_eq_ok,Tx.ofExcept_eq_ok,ingestConflict,Tx.pure_eq_ok] at h
    obtain ⟨_,_,-,_,_,-,_,_,-,_,_,-,hres,-⟩ := h
    cases hres

theorem ingest_accepted {a : EvidenceIngestResult} (hr : db.order? e.key = some r)
    (h : ingestInTx e db = .ok (.ok a,db')) : Accepted e r db db' := by
  by_cases hfresh : identityRow e db = none
  · obtain ⟨b,hdup⟩ := semanticDuplicateExists_total hr
    rw [ingestInTx_fresh hfresh hdup] at h
    cases b with
    | false => exact ingestNew_accepted hr hfresh (by simpa using h)
    | true =>
      obtain ⟨r',hr',hquiet,-⟩ := semanticDuplicateExists_true hdup
      obtain rfl : r = r' := Option.some.inj (hr.symm.trans hr')
      simp only [if_true,ingestSemanticDuplicate,Tx.bind_eq_ok,insertEvidenceKey_eq_ok,
        insertObservation_eq_ok,Tx.pure_eq_ok] at h
      obtain ⟨_,_,⟨-,rfl⟩,_,_,⟨-,rfl⟩,s,_,hs,-,rfl⟩ := h
      obtain ⟨_,-,-,rfl⟩ := currentStatus_ok hs
      exact .suppressed hfresh hquiet
  · have hcase := ingest_cases h
    generalize hres : (Except.ok a : Except String EvidenceIngestResult) = res at hcase
    cases hcase with
    | known => exact .known hfresh
    | suppressed _ hnone => exact absurd hnone hfresh
    | applied _ _ hnone => exact absurd hnone hfresh
    | reused => cases hres
    | knownConflict => cases hres
    | conflict => cases hres

/-- A merged fact ends the recovery of an order that waits for it. -/
theorem Merged.settled {q filled : Int} {o : TransitionOutcome} {target : OrderStatus}
    (h : Merged q r e o filled target)
    (hst : r.status = .reconciling ∨ r.status.recovering = false) :
    o.current.recovering = false := by
  have htarget : target.recovering = false := by
    have hcases := h.target_cases
    cases target <;> first | rfl | simp at hcases
  rw [h.current]
  unfold brokerNext
  split
  · simp [*,OrderStatus.recovering]
  · split
    · cases hs : r.status <;> simp_all [OrderStatus.recovering,OrderStatus.brokerTerminal]
    · split
      · cases hs : r.status <;> simp_all [OrderStatus.recovering]
      · exact htarget

/-- Accepted evidence of the start-up query leaves the order waiting exactly where the
session had recorded a fact from that query before. -/
theorem Accepted.recovering (h : Accepted e r db db') (hq : StartupFact sid k e)
    (hr : db.order? k = some r) (hst : r.status = .reconciling ∨ r.status.recovering = false) :
    Concerns sid k db db' ∧ ∃ r', db'.order? k = some r' ∧
      cancelUnresolved r' = cancelUnresolved r ∧
      r'.status.recovering = (r.status.recovering && answeredBefore sid k db) := by
  cases h with
  | known hrecorded =>
    have hbefore : answeredBefore sid k db = true := by
      rw [← hq.identity,Option.isSome_iff_ne_none]
      exact hrecorded
    exact ⟨⟨rfl,fun _ _ => rfl,fun _ _ => rfl⟩,r,hr,rfl,by simp [hbefore]⟩
  | suppressed hfresh hquiet =>
    have hnew := hq.fresh.mp hfresh
    refine ⟨⟨rfl,fun _ _ => rfl,fun k' hk => hq.recordKey rfl hk⟩,r,hr,rfl,?_⟩
    obtain hst | hst := hst
    · have hcases := requestedStatus_cases e
      rw [Quiet,hst] at hquiet
      obtain hquiet | hquiet | hquiet := hquiet
      · simp [← hquiet] at hcases
      · cases hquiet
      · simp [OrderStatus.stale] at hquiet
    · simp [hst]
  | applied o filled q target events hfresh hmerged hstatus =>
    have hnew := hq.fresh.mp hfresh
    have hord : (db.updateOrder k (applyTransition (mergeRequest e) o filled)).order? k =
        some (applyTransition (mergeRequest e) o filled r) := order?_updateOrder (fun _ => rfl) hr
    have hconcerns : Concerns sid k db
        { db.updateOrder k (applyTransition (mergeRequest e) o filled) with
          orderEvents := events } := .update fun _ => rfl
    rw [hq.key]
    refine ⟨⟨hconcerns.rows,hconcerns.others,fun k' hk => ?_⟩,_,hord,rfl,?_⟩
    · exact (hq.recordKey rfl hk).trans (hconcerns.answered k' hk)
    · rw [hstatus,hmerged.settled hst,hnew,Bool.and_false]

end

/-- While one row is handled, from the state `start` on: the row has become `r`. -/
structure Handling (sid : String) (start : Db) (k : OrderKey) (r : BrokerOrder) (s : OmsState)
    (w : World) : Prop where
  session : s.sessionId = sid
  concerns : Concerns sid k start w.db
  kept : answeredBefore sid k w.db = answeredBefore sid k start
  row : w.db.order? k = some r

/-- The row was handled: it is a candidate still, or is one no more. -/
structure Handled (sid : String) (start : Db) (k : OrderKey) (waits : Bool) (s : OmsState)
    (w : World) : Prop where
  session : s.sessionId = sid
  concerns : Concerns sid k start w.db
  row : ∃ r, w.db.order? k = some r ∧ recoveryCandidate r = waits

/-- The row in the status that the loop body has brought it to. -/
def BrokerOrder.become (row : BrokerOrder) (st : OrderStatus) : BrokerOrder :=
  { row with status := st }

/-- The statuses that the loop body takes to `RECONCILING` before it asks the driver. -/
def reconciles (row : BrokerOrder) : Bool :=
  row.status ∈ [.submitting,.cancelPending,.unknown,.reconciling] ||
    (cancelUnresolved row && row.status ∈ [.acknowledged,.partiallyFilled])

section
variable {answers : OrderKey → Option BrokerOrderObservation} {s s' : OmsState} {w w' : World}
variable {sid : String} {start : Db} {k : OrderKey} {r row : BrokerOrder}

theorem Handling.heartbeat {u : Unit} (hs : Handling sid start k r s w)
    (h : (offline answers).Calls omsHeartbeat s w (.ok u) s' w') : Handling sid start k r s' w' := by
  obtain ⟨hsid,leader,hdb⟩ := omsHeartbeat_calls h
  have hlast : Concerns sid k w.db w'.db := by
    rw [hdb]
    exact ⟨rfl,fun _ _ => rfl,fun _ _ => rfl⟩
  have hkept : answeredBefore sid k w'.db = answeredBefore sid k w.db := by
    rw [hdb]
    rfl
  have hrow : w'.db.order? k = w.db.order? k := by
    rw [hdb]
    rfl
  exact ⟨hsid.trans hs.session,Trans.trans hs.concerns hlast,hkept.trans hs.kept,
    hrow.trans hs.row⟩

theorem Handling.transition {req : TransitionRequest} {o : TransitionOutcome}
    (hs : Handling sid start k r s w) (hfill : req.filledQuantity = none)
    (hid : req.brokerOrderId = none)
    (h : (offline answers).Calls (transitionOrder k req) s w (.ok o) s' w') :
    BigQmt.transition r.status req.target = some o ∧ Handling sid start k { r with
      status := o.current
      cancelOutcomeResolved := req.cancelOutcomeResolved.getD r.cancelOutcomeResolved } s' w' := by
  obtain ⟨rfl,now,db',hbody,rfl⟩ := durable_calls h
  obtain ⟨-,hin⟩ := guarded_ok.mp hbody
  obtain ⟨ht,hlast,hkeys,hrow⟩ :
      _ ∧ Concerns sid k w.db db' ∧ _ ∧ _ := transitionInTx_command hs.row hfill hid hin
  have hkept : answeredBefore sid k db' = answeredBefore sid k w.db := by
    rw [answeredBefore,hkeys]
    rfl
  exact ⟨ht,hs.session,Trans.trans hs.concerns hlast,hkept.trans hs.kept,hrow⟩

/-- A transition along an edge of the table, which changes nothing but the status. -/
theorem Handling.step {st st' : OrderStatus} {eventType : String} {o : TransitionOutcome}
    (hs : Handling sid start k (row.become st) s w) (hedge : st' ∈ st.allowed)
    (hlive : st.terminal = false) (hne : st ≠ st')
    (h : (offline answers).Calls (transitionOrder k { target := st', eventType := eventType })
      s w (.ok o) s' w') : Handling sid start k (row.become st') s' w' := by
  obtain ⟨ht,hnext⟩ := hs.transition rfl rfl h
  have hcur : o.current = st' := by
    simp only [BigQmt.transition,BrokerOrder.become,hne,hlive,hedge,if_true,if_false,
      Bool.false_eq_true,Option.some.injEq] at ht
    rw [← ht]
  rw [hcur] at hnext
  exact hnext

theorem recoverSubmitting_calls {st : OrderStatus} (hs : Handling sid start k row s w)
    (hk : row.key = k)
    (h : (offline answers).Calls (recoverSubmitting row) s w (.ok st) s' w') :
    Handling sid start k (row.become st) s' w' ∧
      st = if row.status = .submitting then .unknown
        else if cancelUnresolved row && row.status ∈ [.acknowledged,.partiallyFilled]
          then .cancelPending else row.status := by
  subst hk
  unfold recoverSubmitting at h
  by_cases hsub : row.status = .submitting
  · rw [if_pos hsub] at h ⊢
    have hs : Handling sid start row.key (row.become .submitting) s w := by
      rw [← hsub]
      exact hs
    cases hf : row.submitCallStarted with
    | false => simp [hf] at h
    | true =>
      simp only [hf,Bool.not_true,Bool.false_eq_true,if_false,Solo.calls_bind_ok,Solo.calls_pure] at h
      obtain ⟨o,s₁,w₁,hcall,hst,rfl,rfl⟩ := h
      obtain rfl := Except.ok.inj hst
      exact ⟨hs.step (by decide) rfl (by decide) hcall,rfl⟩
  · rw [if_neg hsub] at h ⊢
    by_cases hlive : (cancelUnresolved row && row.status ∈ [.acknowledged,.partiallyFilled]) = true
    · rw [if_pos hlive] at h ⊢
      simp only [Solo.calls_bind_ok,Solo.calls_pure] at h
      obtain ⟨o,s₁,w₁,hcall,hst,rfl,rfl⟩ := h
      obtain rfl := Except.ok.inj hst
      have hs : Handling sid start row.key (row.become row.status) s w := hs
      refine ⟨hs.step ?_ ?_ ?_ hcall,rfl⟩
      all_goals cases hst : row.status <;> simp_all [OrderStatus.allowed,OrderStatus.terminal]
    · rw [if_neg hlive] at h ⊢
      obtain ⟨hst,rfl,rfl⟩ := (offline answers).calls_pure.mp h
      obtain rfl := Except.ok.inj hst
      exact ⟨hs,rfl⟩

theorem recoverCancelPending_calls {st st' : OrderStatus}
    (hs : Handling sid start k (row.become st) s w) (hk : row.key = k)
    (h : (offline answers).Calls (recoverCancelPending row st) s w (.ok st') s' w') :
    Handling sid start k (row.become st') s' w' ∧
      st' = if st = .cancelPending then .unknown else st := by
  subst hk
  unfold recoverCancelPending at h
  by_cases hst : st = .cancelPending
  · subst hst
    rw [if_pos rfl] at h ⊢
    cases hf : row.cancelCallStarted with
    | false => simp [hf] at h
    | true =>
      simp only [hf,Bool.not_true,Bool.false_eq_true,if_false,Solo.calls_bind_ok,Solo.calls_pure] at h
      obtain ⟨o,s₁,w₁,hcall,hst,rfl,rfl⟩ := h
      obtain rfl := Except.ok.inj hst
      exact ⟨hs.step (by decide) rfl (by decide) hcall,rfl⟩
  · rw [if_neg hst] at h ⊢
    obtain ⟨hst',rfl,rfl⟩ := (offline answers).calls_pure.mp h
    obtain rfl := Except.ok.inj hst'
    exact ⟨hs,rfl⟩

theorem recoverUnknown_calls {st : OrderStatus} {u : Unit}
    (hs : Handling sid start k (row.become st) s w) (hk : row.key = k)
    (h : (offline answers).Calls (recoverUnknown row st) s w (.ok u) s' w') :
    Handling sid start k (row.become (if st = .unknown then .reconciling else st)) s' w' := by
  subst hk
  unfold recoverUnknown at h
  by_cases hst : st = .unknown
  · subst hst
    rw [if_pos rfl] at h ⊢
    simp only [Solo.calls_bind_ok,Solo.calls_pure] at h
    obtain ⟨o,s₁,w₁,hcall,-,rfl,rfl⟩ := h
    exact hs.step (by decide) rfl (by decide) hcall
  · rw [if_neg hst] at h ⊢
    obtain ⟨-,rfl,rfl⟩ := (offline answers).calls_pure.mp h
    exact hs

/-- The answer of the driver, recorded: the order waits on only where the session had
recorded its answer before. -/
theorem ingestActiveQueryEvidence_calls {o : BrokerOrderObservation} {a : EvidenceIngestResult}
    (hs : Handling sid start k r s w)
    (hst : r.status = .reconciling ∨ r.status.recovering = false)
    (h : (offline answers).Calls (ingestActiveQueryEvidence k o "startup-recovery") s w (.ok a)
      s' w') :
    s' = s ∧ Concerns sid k start w'.db ∧ ∃ r', w'.db.order? k = some r' ∧
      cancelUnresolved r' = cancelUnresolved r ∧
      r'.status.recovering = (r.status.recovering && answeredBefore sid k start) := by
  unfold ingestActiveQueryEvidence at h
  cases ht : evidenceTypeOf o.status with
  | none => simp [ht] at h
  | some evidenceType =>
    simp only [ht,Solo.calls_bind_ok,Solo.calls_ask] at h
    obtain ⟨now,s₁,w₁,⟨c,-,hnow,hs₁,hw₁⟩,s₂,s₃,w₃,hself,h⟩ := h
    obtain ⟨hs₂,rfl,rfl⟩ := (offline answers).calls_self.mp hself
    obtain rfl := Except.ok.inj hs₂
    cases hb : BrokerEvidenceV1.build
        (queryEvidence s₂.sessionId "startup-recovery" k o evidenceType (now / 1000)) with
    | error m => simp [hb] at h
    | ok e =>
      have hw : w₃.db = w.db := by
        rw [hw₁]
        rfl
      have hfields := BrokerEvidenceV1.build_fields hb
      have hq : StartupFact sid k e := by
        rw [← hs.session,← hs₁]
        exact ⟨by rw [hfields]; rfl,by rw [hfields]; rfl,by rw [hfields]; rfl⟩
      simp only [hb,ingestBrokerEvidence,Solo.calls_bind_ok] at h
      obtain ⟨result,s₄,w₄,hcall,h⟩ := h
      obtain ⟨rfl,now',db',hbody,rfl⟩ := durable_calls hcall
      obtain ⟨-,hin⟩ := guarded_ok.mp hbody
      cases result with
      | error reason => simp at h
      | ok a' =>
        obtain ⟨-,rfl,rfl⟩ := (offline answers).calls_pure.mp h
        have hrow : w₃.db.order? e.key = some r := by
          rw [hw,hq.key]
          exact hs.row
        have hconcerns : Concerns sid k start w₃.db := by
          rw [hw]
          exact hs.concerns
        have hkept : answeredBefore sid k w₃.db = answeredBefore sid k start := by
          rw [hw]
          exact hs.kept
        obtain ⟨hlast,r',hr',hcancel,hrec⟩ :=
          (ingest_accepted hrow hin).recovering hq (hq.key ▸ hrow) hst
        exact ⟨hs₁,Trans.trans hconcerns hlast,r',hr',hcancel,by rw [hrec,hkept]⟩

/-- A step to the status that the order has, or to the review, which settles the cancel. -/
theorem Handling.resolve {req : TransitionRequest} {o : TransitionOutcome}
    (hs : Handling sid start k r s w) (hfill : req.filledQuantity = none)
    (hid : req.brokerOrderId = none)
    (hflag : req.cancelOutcomeResolved = if cancelUnresolved r then some true else none)
    (hst : req.target = r.status ∨
      req.target = .manualReview ∧ (r.status = .reconciling ∨ r.status.recovering = false))
    (h : (offline answers).Calls (transitionOrder k req) s w (.ok o) s' w') :
    Handled sid start k (r.status.recovering && req.target == r.status) s' w' := by
  obtain ⟨ht,hnext⟩ := hs.transition hfill hid h
  refine ⟨hnext.session,hnext.concerns,_,hnext.row,?_⟩
  have hsettled : (r.cancelCallStarted &&
      !req.cancelOutcomeResolved.getD r.cancelOutcomeResolved) = false := by
    rw [hflag]
    cases hu : cancelUnresolved r with
    | true => simp
    | false => simpa [cancelUnresolved] using hu
  change (o.current.recovering || (_ && !_)) = _
  rw [hsettled,Bool.or_false]
  obtain hst | ⟨hst,hrec⟩ := hst
  · rw [hst,transition_self,Option.some.injEq] at ht
    simp [← ht,hst]
  · rw [hst] at ht ⊢
    obtain hrec | hrec := hrec
    · rw [hrec] at ht ⊢
      obtain rfl := Option.some.inj ht
      rfl
    · obtain ⟨-,-,⟨-,hcur,-⟩ | ⟨-,hcur,-⟩⟩ := transition_cases ht
      · rw [hcur,hrec,Bool.false_and]
      · rw [hcur,hrec,Bool.false_and]
        rfl

theorem getStatus_calls {st : OrderStatus}
    (h : (offline answers).Calls (getStatus k) s w (.ok st) s' w') :
    s' = s ∧ w' = w ∧ ∃ r, w.db.order? k = some r ∧ st = r.status := by
  obtain ⟨c,-,hst,rfl,rfl⟩ := (offline answers).calls_call.mp h
  refine ⟨rfl,rfl,?_⟩
  simp only [offline,exec] at hst ⊢
  cases hr : w'.db.order? k with
  | none => simp [hr] at hst
  | some r =>
    simp only [hr,Except.ok.injEq] at hst
    exact ⟨r,rfl,hst⟩

theorem recoverQuery_calls {st : OrderStatus} {u : Unit}
    (hs : Handling sid start k (row.become st) s w) (hk : row.key = k)
    (hst : st = .reconciling ∨ st.recovering = false)
    (h : (offline answers).Calls (recoverQuery row) s w (.ok u) s' w') :
    Handled sid start k (st.recovering && (answers k).isSome && answeredBefore sid k start)
      s' w' := by
  subst hk
  simp only [recoverQuery,Solo.calls_bind_ok,Solo.calls_call] at h
  obtain ⟨_,_,_,hlead,answer,s₂,w₂,⟨c,hc,hanswer,hs₂,hw₂⟩,_,_,_,hlead',h⟩ := h
  obtain ⟨hs₁,hw₁⟩ := assertLeader_calls hlead
  obtain ⟨hs₃,hw₃⟩ := assertLeader_calls hlead'
  have hgiven : answer = answers row.key := by
    have hc : c.observation = answers row.key := hc
    simp only [offline,exec,BigQmt.answer] at hanswer
    cases hf : c.fault with
    | none => simpa [hf,hc] using hanswer
    | some e => simp [hf] at hanswer
  rw [hs₃,hs₂,hs₁,hw₃,hw₂,hw₁] at h
  change (offline answers).Calls _ s w _ s' w' at h
  rw [← hgiven]
  cases answer with
  | none =>
    simp only [Solo.calls_bind_ok,Solo.calls_pure] at h
    obtain ⟨o,s₄,w₄,hcall,-,rfl,rfl⟩ := h
    have hno : (st.recovering && OrderStatus.manualReview == st) = false := by
      obtain rfl | hst := hst
      · rfl
      · rw [hst,Bool.false_and]
    have hres := hs.resolve rfl rfl rfl (.inr ⟨rfl,hst⟩) hcall
    rw [BrokerOrder.become,hno] at hres
    simpa using hres
  | some o =>
    simp only [Solo.calls_bind_ok] at h
    obtain ⟨a,s₄,w₄,hcall,h⟩ := h
    obtain ⟨rfl,hconcerns,r',hr',hcancel,hrec⟩ := ingestActiveQueryEvidence_calls hs hst hcall
    cases hu : cancelUnresolved row with
    | false =>
      rw [hu] at h
      obtain ⟨-,rfl,rfl⟩ := (offline answers).calls_pure.mp h
      refine ⟨hs.session,hconcerns,r',hr',?_⟩
      change (r'.status.recovering || cancelUnresolved r') = _
      rw [hrec,hcancel]
      change (_ || cancelUnresolved row) = _
      simp [hu,BrokerOrder.become]
    | true =>
      simp only [hu,if_true,Solo.calls_bind_ok,Solo.calls_pure] at h
      obtain ⟨st',s₅,w₅,hget,o',s₆,w₆,hmark,-,rfl,rfl⟩ := h
      obtain ⟨rfl,rfl,r'',hr'',rfl⟩ := getStatus_calls hget
      obtain rfl : r' = r'' := Option.some.inj (hr'.symm.trans hr'')
      have hagain : Handling sid w₅.db row.key r' s₅ w₅ := ⟨hs.session,refl _,rfl,hr'⟩
      have hu' : cancelUnresolved r' = true := hcancel.trans hu
      have hres := hagain.resolve rfl rfl (by rw [hu']; rfl) (.inl rfl) hmark
      refine ⟨hres.session,Trans.trans hconcerns hres.concerns,?_⟩
      obtain ⟨r₂,hr₂,hcand⟩ := hres.row
      refine ⟨r₂,hr₂,hcand.trans ?_⟩
      simp [hrec,BrokerOrder.become]

theorem recoverPreSubmit_calls {u : Unit} (hs : Handling sid start k row s w) (hk : row.key = k)
    (hpre : row.status ∈ [OrderStatus.created,.riskAccepted])
    (h : (offline answers).Calls (recoverPreSubmit row) s w (.ok u) s' w') :
    Handled sid start k false s' w' := by
  subst hk
  unfold recoverPreSubmit at h
  by_cases hstarted : (row.submitCallStarted || row.cancelCallStarted ||
      row.brokerOrderId.isSome) = true
  · simp [hstarted] at h
  · simp only [if_neg hstarted,Solo.calls_bind_ok,Solo.calls_pure] at h
    obtain ⟨o,s₁,w₁,hcall,-,rfl,rfl⟩ := h
    obtain ⟨ht,hnext⟩ := hs.transition rfl rfl hcall
    refine ⟨hnext.session,hnext.concerns,_,hnext.row,?_⟩
    have hcur : o.current = .aborted := by
      simp only [List.mem_cons,List.not_mem_nil,or_false] at hpre
      rcases hpre with hpre | hpre
      all_goals
        rw [hpre] at ht
        exact (congrArg TransitionOutcome.current (Option.some.inj ht)).symm
    simp only [Bool.or_eq_true,not_or,Bool.not_eq_true] at hstarted
    simp [recoveryCandidate,cancelUnresolved,hcur,hstarted.1.2]

/-- The statuses of the row on its way to the query come to `RECONCILING`, or stay. -/
theorem query_status {st st' : OrderStatus}
    (hst : st = if row.status = .submitting then .unknown
      else if cancelUnresolved row && row.status ∈ [.acknowledged,.partiallyFilled]
        then .cancelPending else row.status)
    (hst' : st' = if st = .cancelPending then .unknown else st) :
    (if st' = .unknown then .reconciling else st') =
      if reconciles row then .reconciling else row.status := by
  subst hst' hst
  cases hu : cancelUnresolved row <;> cases hs : row.status <;> simp [reconciles,hu,hs]

theorem reconciles_recovering (hpre : row.status ∉ [OrderStatus.created,.riskAccepted])
    (hrec : reconciles row = false) : row.status.recovering = false := by
  cases hs : row.status <;> simp_all [reconciles,OrderStatus.recovering]

/-- The order waits for an answer that the session had recorded before. -/
def Stuck (answers : OrderKey → Option BrokerOrderObservation) (sid : String) (db : Db)
    (row : BrokerOrder) : Bool :=
  reconciles row && (answers row.key).isSome && answeredBefore sid row.key db

/-- One iteration that returns leaves a candidate exactly where the row is stuck. -/
theorem recoverRow_calls {u : Unit} (hs : s.sessionId = sid) (hr : w.db.order? row.key = some row)
    (h : (offline answers).Calls (recoverRow row) s w (.ok u) s' w') :
    Handled sid w.db row.key (Stuck answers sid w.db row) s' w' := by
  have hat : Handling sid w.db row.key row s w := ⟨hs,refl _,rfl,hr⟩
  simp only [recoverRow,Solo.calls_bind_ok] at h
  obtain ⟨_,s₁,w₁,hbeat,h⟩ := h
  have hat := hat.heartbeat hbeat
  by_cases hpre : row.status ∈ [.created,.riskAccepted]
  · rw [if_pos hpre] at h
    have hrec : reconciles row = false := by
      cases hs : row.status <;> simp_all [reconciles]
    rw [Stuck,hrec]
    exact recoverPreSubmit_calls hat rfl hpre h
  · simp only [if_neg hpre,Solo.calls_bind_ok] at h
    obtain ⟨st,s₂,w₂,hsub,h⟩ := h
    obtain ⟨hat,hst⟩ := recoverSubmitting_calls hat rfl hsub
    by_cases hover : (cancelUnresolved row && st.brokerTerminal) = true
    · simp only [hover,if_true,Solo.calls_bind_ok,Solo.calls_pure] at h
      obtain ⟨o,s₃,w₃,hcall,-,rfl,rfl⟩ := h
      obtain ⟨hu,hterm⟩ := Bool.and_eq_true_iff.mp hover
      have hres := hat.resolve rfl rfl (by
        change some true = if cancelUnresolved row then some true else none
        rw [hu]
        rfl) (.inl rfl) hcall
      have hrec : reconciles row = false ∧ st.recovering = false := by
        cases hs : row.status <;>
          simp_all [reconciles,OrderStatus.recovering,OrderStatus.brokerTerminal]
      rw [Stuck,hrec.1]
      rw [BrokerOrder.become,hrec.2] at hres
      exact hres
    · simp only [hover,if_false,Solo.calls_bind_ok,Bool.false_eq_true] at h
      obtain ⟨st',s₃,w₃,hpend,_,s₄,w₄,hunknown,hquery⟩ := h
      obtain ⟨hat,hst'⟩ := recoverCancelPending_calls hat rfl hpend
      have hat := recoverUnknown_calls hat rfl hunknown
      rw [query_status hst hst'] at hat
      cases hrec : reconciles row with
      | true =>
        rw [hrec,if_pos rfl] at hat
        have hdone := recoverQuery_calls hat rfl (.inl rfl) hquery
        rw [Stuck,hrec]
        exact hdone
      | false =>
        have hquiet := reconciles_recovering hpre hrec
        rw [hrec,if_neg (by simp)] at hat
        have hdone := recoverQuery_calls hat rfl (.inr hquiet) hquery
        rw [hquiet] at hdone
        rw [Stuck,hrec]
        exact hdone

/-- The loop of `recover`, begun on `start`, with the rows that are still to come. -/
structure Recovering (answers : OrderKey → Option BrokerOrderObservation) (sid : String)
    (start : Db) (rows : List BrokerOrder) (s : OmsState) (w : World) : Prop where
  session : s.sessionId = sid
  keys : w.db.brokerOrders.map BrokerOrder.key = start.brokerOrders.map BrokerOrder.key
  distinct : (rows.map BrokerOrder.key).Nodup
  listed : ∀ row ∈ rows, row ∈ recoveryCandidates start ∧ w.db.order? row.key = some row ∧
    answeredBefore sid row.key w.db = answeredBefore sid row.key start
  waiting : ∀ k, (∃ r, w.db.order? k = some r ∧ recoveryCandidate r = true) ↔
    ∃ row ∈ recoveryCandidates start, row.key = k ∧
      (row ∈ rows ∨ Stuck answers sid start row = true)

theorem mem_recoveryCandidates {db : Db} {row : BrokerOrder} :
    row ∈ recoveryCandidates db ↔ row ∈ db.brokerOrders ∧ recoveryCandidate row = true := by
  rw [recoveryCandidates_eq,List.mem_filter]

theorem Recovering.begin (hs : s.sessionId = sid)
    (hkeys : (w.db.brokerOrders.map BrokerOrder.key).Nodup) :
    Recovering answers sid w.db (recoveryCandidates w.db) s w := by
  refine ⟨hs,rfl,(List.filter_sublist.map _).nodup hkeys,fun row hrow => ?_,fun k => ?_⟩
  · exact ⟨hrow,find_of_mem hkeys (mem_recoveryCandidates.mp hrow).1,rfl⟩
  · constructor
    · rintro ⟨r,hr,hcand⟩
      have hmem := mem_recoveryCandidates.mpr ⟨find_mem hr,hcand⟩
      exact ⟨r,hmem,order?_key hr,.inl hmem⟩
    · rintro ⟨row,hrow,rfl,-⟩
      obtain ⟨hmem,hcand⟩ := mem_recoveryCandidates.mp hrow
      exact ⟨row,find_of_mem hkeys hmem,hcand⟩

theorem Recovering.step {rows : List BrokerOrder} {u : Unit}
    (hkeys : (start.brokerOrders.map BrokerOrder.key).Nodup)
    (hloop : Recovering answers sid start (row :: rows) s w)
    (h : (offline answers).Calls (recoverRow row) s w (.ok u) s' w') :
    Recovering answers sid start rows s' w' := by
  obtain ⟨hcand,hr,hbefore⟩ := hloop.listed row List.mem_cons_self
  have hdone := recoverRow_calls hloop.session hr h
  obtain ⟨hnew,hdistinct⟩ := List.nodup_cons.mp hloop.distinct
  have hother : ∀ r ∈ rows, r.key ≠ row.key := fun r hr heq =>
    hnew (heq ▸ List.mem_map_of_mem hr)
  refine ⟨hdone.session,hdone.concerns.rows.trans hloop.keys,hdistinct,fun r hr => ?_,fun k => ?_⟩
  · obtain ⟨hcand',hr',hbefore'⟩ := hloop.listed r (List.mem_cons_of_mem row hr)
    exact ⟨hcand',(hdone.concerns.others _ (hother r hr)).trans hr',
      (hdone.concerns.answered _ (hother r hr)).trans hbefore'⟩
  · by_cases hk : k = row.key
    · subst hk
      obtain ⟨r,hr',hwaits⟩ := hdone.row
      have hsame : Stuck answers sid w.db row = Stuck answers sid start row := by
        rw [Stuck,Stuck,hbefore]
      rw [hsame] at hwaits
      constructor
      · rintro ⟨r',hr'',hcand'⟩
        obtain rfl : r = r' := Option.some.inj (hr'.symm.trans hr'')
        exact ⟨row,hcand,rfl,.inr (hwaits ▸ hcand')⟩
      · rintro ⟨row',hrow',heq,hlater | hstuck⟩
        · exact absurd heq (hother row' hlater)
        · have hfound := find_of_mem hkeys (mem_recoveryCandidates.mp hrow').1
          have hfound' := find_of_mem hkeys (mem_recoveryCandidates.mp hcand).1
          rw [heq,hfound'] at hfound
          obtain rfl := Option.some.inj hfound
          exact ⟨r,hr',hwaits.trans hstuck⟩
    · rw [hdone.concerns.others k hk,hloop.waiting k]
      constructor
      · rintro ⟨row',hrow',rfl,hmem | hstuck⟩
        · obtain rfl | hmem := List.mem_cons.mp hmem
          · exact absurd rfl hk
          · exact ⟨row',hrow',rfl,.inl hmem⟩
        · exact ⟨row',hrow',rfl,.inr hstuck⟩
      · rintro ⟨row',hrow',rfl,hmem | hstuck⟩
        · exact ⟨row',hrow',rfl,.inl (List.mem_cons_of_mem row hmem)⟩
        · exact ⟨row',hrow',rfl,.inr hstuck⟩

theorem Recovering.finished {db' : Db}
    (hkeys : (start.brokerOrders.map BrokerOrder.key).Nodup)
    (hloop : Recovering answers sid start [] s w) (hdb : db'.brokerOrders = w.db.brokerOrders) :
    recoveryCandidates db' = [] ↔
      ∀ row ∈ recoveryCandidates start, Stuck answers sid start row = false := by
  have hkeys' : (w.db.brokerOrders.map BrokerOrder.key).Nodup := hloop.keys ▸ hkeys
  constructor
  · intro hnone row hrow
    by_contra hstuck
    obtain ⟨r,hr,hcand⟩ := (hloop.waiting row.key).mpr ⟨row,hrow,rfl,.inr (by simpa using hstuck)⟩
    have hmem : r ∈ recoveryCandidates db' :=
      mem_recoveryCandidates.mpr ⟨hdb ▸ find_mem hr,hcand⟩
    simp [hnone] at hmem
  · intro hall
    refine List.eq_nil_iff_forall_not_mem.mpr fun r hr => ?_
    obtain ⟨hmem,hcand⟩ := mem_recoveryCandidates.mp hr
    rw [hdb] at hmem
    obtain ⟨row,hrow,-,hlater | hstuck⟩ :=
      (hloop.waiting r.key).mp ⟨r,find_of_mem hkeys' hmem,hcand⟩
    · cases hlater
    · simp [hall row hrow] at hstuck

/-- A call of `recover` that returns leaves no candidate exactly where no order waits for
an answer that this session had recorded before. -/
theorem recover_calls {u : Unit} (hkeys : (w.db.brokerOrders.map BrokerOrder.key).Nodup)
    (h : (offline answers).Calls recover s w (.ok u) s' w') :
    recoveryCandidates w'.db = [] ↔
      ∀ row ∈ recoveryCandidates w.db, Stuck answers s.sessionId w.db row = false := by
  simp only [recover,Solo.calls_bind_ok,Solo.calls_call] at h
  obtain ⟨_,s₁,w₁,hlead,rows,s₂,w₂,⟨c,-,hrows,hs₂,hw₂⟩,_,s₃,w₃,hloop,h⟩ := h
  obtain ⟨rfl,rfl⟩ := assertLeader_calls hlead
  obtain rfl : recoveryCandidates w₁.db = rows := by simpa [offline,exec] using hrows.symm
  have hw₂ : w₂ = w₁ := hw₂
  subst hs₂ hw₂
  have hdone := (offline answers).calls_each_ok (Recovering answers s₂.sessionId w₂.db)
    (fun row rows s w s' w' hinv hcall => hinv.step hkeys hcall) (.begin rfl hkeys) hloop
  have horders : w'.db.brokerOrders = w₃.db.brokerOrders := by
    simp only [Solo.calls_update] at h
    obtain ⟨_,s₄,w₄,hbeat,_,s₅,w₅,hself,_,s₆,w₆,hmark,_,s₇,w₇,hlead',-,-,rfl⟩ := h
    obtain ⟨-,leader,hdb⟩ := omsHeartbeat_calls hbeat
    obtain ⟨-,-,rfl⟩ := (offline answers).calls_self.mp hself
    obtain ⟨-,now,db',hbody,rfl⟩ := durable_calls hmark
    obtain ⟨-,rfl⟩ := assertLeader_calls hlead'
    obtain ⟨-,hin⟩ := guarded_ok.mp hbody
    rw [Tx.writes_eq_ok.mp hin]
    have hsame : w₅.db.brokerOrders = w₃.db.brokerOrders := by rw [hdb]
    exact hsame
  exact hdone.finished hkeys horders

end

/-- No order is left in a status, or with a cancel call, that `recover` looks for. -/
def Recovered (db : Db) : Prop :=
  ∀ row ∈ db.brokerOrders,
    row.status ∉ [.created,.riskAccepted,.submitting,.cancelPending,.unknown,.reconciling] ∧
      ¬ (row.cancelCallStarted = true ∧ row.cancelOutcomeResolved = false)

instance (db : Db) : Decidable (Recovered db) := inferInstanceAs (Decidable (∀ row ∈ db.brokerOrders, _))

theorem recovered_iff {db : Db} : Recovered db ↔ recoveryCandidates db = [] := by
  simp only [Recovered,recoveryCandidates_eq,List.filter_eq_nil_iff,recoveryCandidate,
    cancelUnresolved,Bool.or_eq_true,decide_eq_true_eq,Bool.and_eq_true,Bool.not_eq_true',not_or]

/-- In every reachable state, for every answers of the driver: a call of `recover` that
returns has brought every order home exactly when no order that had to be reconciled was
waiting for an answer to a query that this session had recorded before. -/
theorem recover_complete_iff {ms : List (Move Choice Start)} {s : Sys Eff World}
    (hs : (system fun _ _ => true).run (Machine.boots World.initial) ms = some s)
    {answers : OrderKey → Option BrokerOrderObservation} {oms oms' : OmsState} {w' : World}
    (h : (offline answers).Calls recover oms s.world (.ok ()) oms' w') :
    Recovered w'.db ↔
      ∀ row ∈ s.world.db.brokerOrders, Stuck answers oms.sessionId s.world.db row = false := by
  have hwf : s.world.db.Wf := reach_wf (fun _ _ _ => rfl) (Machine.Reach.of_run _ hs) Db.Wf.empty
  rw [recovered_iff,recover_calls hwf.unique h]
  constructor
  · intro hall row hrow
    by_contra hstuck
    simp only [Bool.not_eq_false] at hstuck
    have hrec : reconciles row = true := by
      simp only [Stuck,Bool.and_eq_true] at hstuck
      exact hstuck.1.1
    have hcand : recoveryCandidate row = true := by
      cases hu : cancelUnresolved row <;> cases hst : row.status <;>
        simp_all [reconciles,recoveryCandidate]
    simp [hall row (mem_recoveryCandidates.mpr ⟨hrow,hcand⟩)] at hstuck
  · intro hall row hrow
    exact hall row (mem_recoveryCandidates.mp hrow).1

/-- The driver reports the order as accepted whenever it is asked. -/
def sampleAnswer : BrokerOrderObservation := ⟨"b-1",.acknowledged,0⟩

def sampleAsked : Choice := { now := 1000000, uuid := "first", observation := some sampleAnswer }

def sampleLost : Choice := { sampleAsked with fault := some (.osError "connection reset") }

/-- The submission is lost on its way to the driver. -/
def lostSubmitRun : List (Move Choice Start) :=
  .start 0 (.oms 30 [.recover,.submitIntent sampleIntent none,.recover,
    .cancelOrder sampleIntent.key]) ::
    List.replicate 21 (.step 0 sampleAsked) ++ .step 0 sampleLost ::
    List.replicate 3 (.step 0 sampleAsked)

/-- The session recovers the order, and then loses its cancellation as well. -/
def lostCancelRun : List (Move Choice Start) :=
  lostSubmitRun ++ List.replicate 23 (.step 0 sampleAsked) ++ .step 0 sampleLost ::
    List.replicate 3 (.step 0 sampleAsked)

def sampleSession : OmsState := ⟨"first",30,⟨"first","first",1,31000000⟩,true,false⟩

theorem recover_plays {n : Nat} {w w' : World} {s' : OmsState}
    (h : (offline fun _ => some sampleAnswer).play
      (fun _ c _ => c.observation == some sampleAnswer) (recover sampleSession)
      (List.replicate n sampleAsked) w = some ((.ok (),s'),w')) :
    (offline fun _ => some sampleAnswer).Calls recover sampleSession w (.ok ()) s' w' := by
  refine (offline fun _ => some sampleAnswer).runs_of_play (fun o c w hc => ?_) h
  cases o <;> first | trivial | exact beq_iff_eq.mp hc

/-- The second recovery of the session returns and leaves the order in `RECONCILING`. -/
theorem recover_leaves_reconciling : ∃ s oms' w',
    (system fun _ _ => true).run (Machine.boots World.initial) lostCancelRun = some s ∧
      (offline fun _ => some sampleAnswer).Calls recover sampleSession s.world (.ok ()) oms' w' ∧
      ¬ Recovered w'.db := by
  have hrun : ((system fun _ _ => true).run (Machine.boots World.initial) lostCancelRun).map
      (fun s => ((offline fun _ => some sampleAnswer).play
        (fun _ c _ => c.observation == some sampleAnswer) (recover sampleSession)
        (List.replicate 20 sampleAsked) s.world).map
          (fun r => (r.1,decide (Recovered r.2.db)))) =
      some (some ((.ok (),sampleSession),false)) := by
    decide +kernel
  obtain ⟨s,hs,hplay⟩ := Option.map_eq_some_iff.mp hrun
  obtain ⟨⟨r,w'⟩,hplay,hr⟩ := Option.map_eq_some_iff.mp hplay
  obtain ⟨rfl,hleft⟩ := Prod.mk.inj hr
  exact ⟨s,sampleSession,w',hs,recover_plays hplay,of_decide_eq_false hleft⟩

/-- The first recovery of the session brings the lost submission home. -/
theorem recover_complete_first : ∃ s oms' w',
    (system fun _ _ => true).run (Machine.boots World.initial) lostSubmitRun = some s ∧
      (offline fun _ => some sampleAnswer).Calls recover sampleSession s.world (.ok ()) oms' w' ∧
      Recovered w'.db := by
  have hrun : ((system fun _ _ => true).run (Machine.boots World.initial) lostSubmitRun).map
      (fun s => (s.world.db.brokerOrders.map
        (fun row => Stuck (fun _ => some sampleAnswer) "first" s.world.db row),
        ((offline fun _ => some sampleAnswer).play
          (fun _ c _ => c.observation == some sampleAnswer) (recover sampleSession)
          (List.replicate 18 sampleAsked) s.world).map (fun r => r.1))) =
      some ([false],some (.ok (),sampleSession)) := by
    decide +kernel
  obtain ⟨s,hs,hplay⟩ := Option.map_eq_some_iff.mp hrun
  obtain ⟨hstuck,hplay⟩ := Prod.mk.inj hplay
  obtain ⟨⟨r,w'⟩,hplay,rfl⟩ := Option.map_eq_some_iff.mp hplay
  have hcall := recover_plays hplay
  refine ⟨s,sampleSession,w',hs,hcall,(recover_complete_iff hs hcall).mpr fun row hrow => ?_⟩
  have hmem := List.mem_map_of_mem (f := fun row =>
    Stuck (fun _ => some sampleAnswer) "first" s.world.db row) hrow
  rw [hstuck] at hmem
  exact List.mem_singleton.mp hmem

end BigQmt
