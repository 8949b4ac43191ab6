import BigQmt.Attestation
import BigQmt.SourceIdentity
set_option autoImplicit false

/-!
Semantic suppression against the merge that it stands for:
`_semantic_duplicate_exists` decides with the machine of the command path, and
`merge_broker_fact_in_tx` aggregates a normalised status.
-/

namespace BigQmt

open Transact Keyed Resumption

/-- Status, fill and broker id of a row. -/
def BrokerOrder.facts (r : BrokerOrder) : OrderStatus × Int × Option String :=
  (r.status,r.filledQuantity,r.brokerOrderId)

/-- What the merge of fresh evidence makes of a row, with its conflict handling; a
conflict that its own writer refuses changes nothing. -/
def mergeFacts (e : BrokerEvidenceV1) (q : Int) (r : BrokerOrder) :
    OrderStatus × Int × Option String :=
  match planTransition e.key.clientOrderId (r.context q) (mergeRequest e) with
  | .ok (o,filled) => (o.current,filled,r.brokerOrderId.or e.brokerOrderId)
  | .error err =>
    match mergeConflict e err with
    | .error _ => r.facts
    | .ok (_,reported) =>
      match conflictFill (r.context q) reported with
      | .error _ => r.facts
      | .ok filled => (.manualReview,filled,r.brokerOrderId)

section
variable {e : BrokerEvidenceV1} {db : Db} {r : BrokerOrder} {i : IntentColumns}

theorem transitionInTx_eq {k : OrderKey} (req : TransitionRequest) (hr : db.order? k = some r)
    (hi : db.intent? k = some i) :
    transitionInTx k req db =
      match planTransition k.clientOrderId (r.context i.quantity) req with
      | .error err => .error err
      | .ok (o,filled) => .ok (o,{ db.updateOrder k (applyTransition req o filled) with
          orderEvents := db.orderEvents ++
            [⟨k,.named req.eventType,some r.status,o.current,o.disposition⟩] }) := by
  have hctx : db.context? k = some (r.context i.quantity) := by
    simp [Db.context?,hr,hi,BrokerOrder.context]
  cases hplan : planTransition k.clientOrderId (r.context i.quantity) req with
  | error err => simp [transitionInTx,getOrderContextInTx,fetch,hctx,bind,Tx.ofExcept,hplan,Except.map]
  | ok p =>
    have hevent : insertEvent ⟨k,.named req.eventType,some r.status,p.1.current,p.1.disposition⟩
        (db.updateOrder k (applyTransition req p.1 p.2)) =
        .ok ((),{ db.updateOrder k (applyTransition req p.1 p.2) with
          orderEvents := db.orderEvents ++
            [⟨k,.named req.eventType,some r.status,p.1.current,p.1.disposition⟩] }) := by
      refine insertEvent_eq_ok.mpr ⟨?_,rfl⟩
      have hi' : (db.updateOrder k (applyTransition req p.1 p.2)).intent? k = some i := hi
      simp [hi']
    have hst : (r.context i.quantity).status = r.status := rfl
    simp only [transitionInTx,getOrderContextInTx,fetch,hctx,bind,Tx.ofExcept,hplan,Except.map,
      Tx.writes,hst,hevent]
    rfl

/-- What a transaction leaves behind, committed or rolled back. -/
def leaves {α : Type} (x : DbTx α) (db : Db) : Db :=
  match x db with
  | .ok (_,db') => db'
  | .error _ => db

/-- A merge that succeeds is recorded. -/
theorem ingestNew_applied {o : TransitionOutcome} {filled : Int} (hr : db.order? e.key = some r)
    (hi : db.intent? e.key = some i) (hfresh : identityRow e db = none)
    (hplan : planTransition e.key.clientOrderId (r.context i.quantity) (mergeRequest e) =
      .ok (o,filled)) :
    ∃ db₁, transitionInTx e.key (mergeRequest e) db = .ok (o,db₁) ∧
      ingestNew e db = .ok (.ok ⟨evidenceFingerprint e,false,o.current,o.disposition⟩,
        (db₁.recordKey ⟨evidenceFingerprint e,true,some o.disposition,none⟩).record e .new) := by
  have hmerge := transitionInTx_eq (mergeRequest e) hr hi
  simp only [hplan] at hmerge
  refine ⟨_,hmerge,?_⟩
  generalize hdb : ({ db.updateOrder e.key (applyTransition (mergeRequest e) o filled) with
    orderEvents := db.orderEvents ++ [⟨e.key,.named (mergeRequest e).eventType,some r.status,
      o.current,o.disposition⟩] } : Db) = db₁ at hmerge
  have hkeys : identityRow e db₁ = none := by
    rw [← hdb]
    exact hfresh
  have hi₁ : db₁.intent? e.key = some i := by
    rw [← hdb]
    exact hi
  have hsource : insertEvidenceKey ⟨evidenceFingerprint e,true,some o.disposition,none⟩ db₁ =
      .ok ((),db₁.recordKey ⟨evidenceFingerprint e,true,some o.disposition,none⟩) :=
    insertEvidenceKey_eq_ok.mpr ⟨sourceTaken_false hkeys,rfl⟩
  have hobs : insertObservation ⟨e,.new⟩
      (db₁.recordKey ⟨evidenceFingerprint e,true,some o.disposition,none⟩) = .ok ((),
        (db₁.recordKey ⟨evidenceFingerprint e,true,some o.disposition,none⟩).record e .new) := by
    refine insertObservation_eq_ok.mpr ⟨?_,rfl⟩
    have hi₂ : (db₁.recordKey ⟨evidenceFingerprint e,true,some o.disposition,none⟩).intent? e.key =
        some i := hi₁
    simp [hi₂]
  simp only [ingestNew,bind,Tx.attempt,hmerge,hsource,hobs]
  rfl

theorem ingestNew_facts (hr : db.order? e.key = some r) (hi : db.intent? e.key = some i)
    (hfresh : identityRow e db = none) :
    (leaves (ingestNew e) db).facts e.key = some (mergeFacts e i.quantity r) := by
  have hkept : db.facts e.key = some r.facts := by simp [Db.facts,hr,BrokerOrder.facts]
  cases hplan : planTransition e.key.clientOrderId (r.context i.quantity) (mergeRequest e) with
  | ok p =>
    obtain ⟨o,filled⟩ := p
    obtain ⟨db₁,hmerge,hnew⟩ := ingestNew_applied hr hi hfresh hplan
    obtain ⟨r',i',filled',hr',hi',hplan',rfl⟩ := transitionInTx_ok hmerge
    obtain rfl : r = r' := Option.some.inj (hr.symm.trans hr')
    obtain rfl : i = i' := Option.some.inj (hi.symm.trans hi')
    rw [hplan] at hplan'
    obtain rfl : filled = filled' := (Prod.mk.inj (Except.ok.inj hplan')).2
    have horder := order?_updateOrder (f := applyTransition (mergeRequest e) o filled)
      (fun _ => rfl) hr
    have hstatus := applyTransition_status hplan
    simp only [leaves,hnew,mergeFacts,hplan]
    simp only [Db.facts,Db.order?,Db.record,Db.recordKey] at horder ⊢
    rw [horder,Option.map_some,hstatus]
    rfl
  | error err =>
    have hmerge := transitionInTx_eq (mergeRequest e) hr hi
    simp only [hplan] at hmerge
    cases hcaught : mergeConflict e err with
    | error err' =>
      simp [leaves,ingestNew,bind,Tx.attempt,hmerge,Tx.ofExcept,hcaught,Except.map,mergeFacts,hplan,
        hkept]
    | ok conflict =>
      obtain ⟨reason,reported⟩ := conflict
      obtain ⟨events,hconflict⟩ := ingestConflict_eq hr hi hfresh reason reported
      cases hf : conflictFill (r.context i.quantity) reported with
      | error err' =>
        rw [hf] at hconflict
        simp [leaves,ingestNew,bind,Tx.attempt,hmerge,Tx.ofExcept,hcaught,Except.map,hconflict,
          mergeFacts,hplan,hf,hkept]
      | ok filled =>
        rw [hf] at hconflict
        have horder := order?_updateOrder (f := markConflict filled) (fun _ => rfl) hr
        simp only [leaves,ingestNew,bind,Tx.attempt,hmerge,Tx.ofExcept,hcaught,Except.map,hconflict,
          mergeFacts,hplan,hf]
        simp only [Db.facts,Db.order?,Db.record,Db.recordKey,Db.updateOrder] at horder ⊢
        rw [horder]
        rfl

end
section
variable {e : BrokerEvidenceV1} {q : Int} {r : BrokerOrder} {target : OrderStatus}

theorem normalizeBrokerStatus_error {st : OrderStatus} {f : Int} {err : PyError}
    (h : normalizeBrokerStatus st f q = .error err) : ∃ check, err = .invalidFilledQuantity check := by
  unfold normalizeBrokerStatus at h
  obtain rfl | h := refuse_eq_error h
  · exact ⟨_,rfl⟩
  obtain rfl | h := refuse_eq_error h
  · exact ⟨_,rfl⟩
  obtain rfl | h := refuse_eq_error h
  · exact ⟨_,rfl⟩
  split at h
  · split at h
    · cases h
    · split at h
      · cases h
      · obtain rfl | h := refuse_eq_error h
        · exact ⟨_,rfl⟩
        · cases h
  · cases h

theorem Attested.ids (hatt : Attested q e.semanticDigest r) :
    idMismatch r.brokerOrderId e.brokerOrderId = false ∧
      r.brokerOrderId.or e.brokerOrderId = r.brokerOrderId := by
  cases hb : e.brokerOrderId with
  | none => cases r.brokerOrderId <;> exact ⟨rfl,rfl⟩
  | some b => simp [hatt.brokerId b hb,idMismatch]

/-- A fact that the row bears out already is decided by the normalisation of its fill. -/
theorem planTransition_attested {c : String} (hbound : FillBounded q r)
    (hatt : Attested q e.semanticDigest r)
    (hclash : terminalClash r.status e.requestedStatus = false) :
    planTransition c (r.context q) (mergeRequest e) =
      match normalizeBrokerStatus e.requestedStatus r.filledQuantity q with
      | .error err => .error err
      | .ok target =>
        refuse (terminalClash r.status target) (.brokerLifecycleConflict (.terminal r.status target))
          (.ok (aggregateBrokerStatus r.status target,r.filledQuantity)) := by
  obtain ⟨hid,-⟩ := hatt.ids
  have hfill : e.filledQuantity ≤ r.filledQuantity := hatt.fill
  have hnonneg := e.filledQuantity_nonneg
  have hle := hbound.le
  have hmax : max r.filledQuantity e.filledQuantity = r.filledQuantity := max_eq_left hfill
  have hlow : ¬ e.filledQuantity < 0 := by omega
  have hhigh : ¬ q < e.filledQuantity := by omega
  cases hnorm : normalizeBrokerStatus e.requestedStatus r.filledQuantity q with
  | error err =>
    simp [planTransition,refuse,BrokerOrder.context,mergeRequest,hid,hclash,effectiveFill,hlow,hhigh,
      hmax,hnorm,bind,Except.bind,Except.map]
  | ok target =>
    cases hterm : terminalClash r.status target with
    | true =>
      simp [planTransition,refuse,BrokerOrder.context,mergeRequest,hid,hclash,effectiveFill,hlow,
        hhigh,hmax,hnorm,nextStatus,hterm,bind,Except.bind,Except.map]
    | false =>
      simp [planTransition,refuse,BrokerOrder.context,mergeRequest,hid,hclash,effectiveFill,hlow,
        hhigh,hmax,hnorm,nextStatus,hterm,bind,Except.bind,Except.map,pure,Except.pure]

theorem mergeFacts_attested (hbound : FillBounded q r) (hatt : Attested q e.semanticDigest r)
    (hnorm : normalizeBrokerStatus e.requestedStatus r.filledQuantity q = .ok target)
    (hclash : terminalClash r.status e.requestedStatus = false)
    (hclash' : terminalClash r.status target = false) :
    mergeFacts e q r = (brokerNext r.status target,r.filledQuantity,r.brokerOrderId) := by
  obtain ⟨-,hor⟩ := hatt.ids
  have hplan := planTransition_attested (c := e.key.clientOrderId) hbound hatt hclash
  simp only [hnorm,hclash',refuse,Bool.false_eq_true,if_false] at hplan
  simp only [mergeFacts,hplan,hor]
  rfl

theorem mergeFacts_review (hbound : FillBounded q r) (hatt : Attested q e.semanticDigest r)
    (hst : r.status = .manualReview) : mergeFacts e q r = r.facts := by
  have hclash : ∀ st, terminalClash r.status st = false := by
    intro st
    rw [hst]
    rfl
  cases hnorm : normalizeBrokerStatus e.requestedStatus r.filledQuantity q with
  | ok target =>
    rw [mergeFacts_attested hbound hatt hnorm (hclash _) (hclash _)]
    simp [brokerNext,hst,BrokerOrder.facts]
  | error err =>
    obtain ⟨check,rfl⟩ := normalizeBrokerStatus_error hnorm
    have hplan := planTransition_attested (c := e.key.clientOrderId) hbound hatt (hclash _)
    simp only [hnorm] at hplan
    simp only [mergeFacts,hplan,mergeConflict,conflictFill]
    rw [BrokerOrder.facts,hst]
    rfl

/-- The statuses in which `transition` leaves the order alone. -/
def Quiet (st requested : OrderStatus) : Prop :=
  st = requested ∨ st.terminal = true ∨ requested ∈ st.stale

/-- The one kind of fact that moves an order it is suppressed for. -/
def Overtaken (e : BrokerEvidenceV1) (r : BrokerOrder) : Prop :=
  e.requestedStatus = .acknowledged ∧ 0 < r.filledQuantity ∧
    r.status ∈ [OrderStatus.acknowledged,.cancelPending]

theorem OrderStatus.terminal_of_broker {st : OrderStatus} (h : st.brokerTerminal = true) :
    st.terminal = true := by
  cases st <;> first | rfl | cases h

theorem brokerNext_of_terminal {st : OrderStatus} (hlive : st.lifecycle = true)
    (hterm : st.terminal = true) (target : OrderStatus) : brokerNext st target = st := by
  cases st <;> simp_all [OrderStatus.lifecycle,OrderStatus.terminal,brokerNext,
    OrderStatus.brokerTerminal]

theorem terminalClash_of_live {st target : OrderStatus} (h : target.brokerTerminal = false) :
    terminalClash st target = false := by
  simp [terminalClash,h]

theorem mergeFacts_terminal (hbound : FillBounded q r) (hatt : Attested q e.semanticDigest r)
    (hreq : e.requestedStatus.brokerTerminal = true) : mergeFacts e q r = r.facts := by
  rcases hatt.terminal hreq with hst | ⟨hst,hnorm⟩
  · exact mergeFacts_review hbound hatt hst
  · have hclash : terminalClash r.status e.requestedStatus = false := by
      have hst' : r.status = e.requestedStatus := hst
      simp [terminalClash,hst']
    have hterm : r.status.terminal = true := by
      have hst' : r.status = e.requestedStatus := hst
      exact OrderStatus.terminal_of_broker (hst' ▸ hreq)
    rw [mergeFacts_attested hbound hatt hnorm hclash hclash,
      brokerNext_of_terminal hatt.live hterm]
    rfl

/-- The fill of a partial fill is positive. -/
theorem partialFill_pos (hreq : e.requestedStatus = .partiallyFilled) : 0 < e.filledQuantity := by
  have hcheck := e.typeCheck_ok
  rw [e.requestedStatus_eq] at hreq
  unfold EvidenceFields.typeCheck at hcheck
  cases ht : e.evidenceType <;> simp_all [BrokerEvidenceType.status]

/-- Below the quantity, the fill of the row decides what the fact is normalised to. -/
theorem normalize_live {st : OrderStatus} {f : Int}
    (hst : st ∈ [OrderStatus.acknowledged,.partiallyFilled]) (hq : f ≠ q)
    (hpos : st = .partiallyFilled → 0 < f) :
    normalizeBrokerStatus st f q = .ok (if 0 < f then .partiallyFilled else .acknowledged) := by
  simp only [List.mem_cons,List.not_mem_nil,or_false] at hst
  rcases hst with rfl | rfl
  · by_cases hf : 0 < f
    · simp [normalizeBrokerStatus,refuse,hq,hf]
    · simp [normalizeBrokerStatus,refuse,hq,hf]
  · simp [normalizeBrokerStatus,refuse,hq,hpos rfl]

/-- Where the aggregation leaves an order alone that the command path leaves alone. -/
theorem brokerNext_quiet (hlive : r.status.lifecycle = true)
    (hreq : e.requestedStatus ∈ [OrderStatus.acknowledged,.partiallyFilled])
    (hpos : e.requestedStatus = .partiallyFilled → 0 < r.filledQuantity)
    (hquiet : Quiet r.status e.requestedStatus) :
    brokerNext r.status (if 0 < r.filledQuantity then .partiallyFilled else .acknowledged) =
      r.status ↔ ¬ Overtaken e r := by
  simp only [List.mem_cons,List.not_mem_nil,or_false] at hreq
  rcases hquiet with hsame | hterm | hstale
  · rcases hreq with hs | hs
    · by_cases hf : 0 < r.filledQuantity
      · simp [Overtaken,hsame,hs,hf,brokerNext,OrderStatus.brokerTerminal]
      · simp [Overtaken,hsame,hs,hf,brokerNext]
    · simp [Overtaken,hsame,hs,hpos hs,brokerNext]
  · have hnot : ¬ Overtaken e r := by
      rintro ⟨-,-,hst⟩
      simp only [List.mem_cons,List.not_mem_nil,or_false] at hst
      rcases hst with hst | hst <;> simp [hst,OrderStatus.terminal] at hterm
    simp [hnot,brokerNext_of_terminal hlive hterm]
  · rcases hreq with hs | hs
    · rw [hs] at hstale
      have hst : r.status = .partiallyFilled ∨ r.status = .cancelPending := by
        cases hs : r.status <;> simp_all [OrderStatus.stale]
      by_cases hf : 0 < r.filledQuantity
      · rcases hst with hst | hst <;>
          simp [Overtaken,hs,hst,hf,brokerNext,OrderStatus.brokerTerminal]
      · rcases hst with hst | hst <;>
          simp [Overtaken,hs,hst,hf,brokerNext,OrderStatus.brokerTerminal]
    · rw [hs] at hstale
      cases hst : r.status <;> simp [hst,OrderStatus.stale] at hstale

theorem mergeFacts_live (hbound : FillBounded q r) (hatt : Attested q e.semanticDigest r)
    (hreq : e.requestedStatus ∈ [OrderStatus.acknowledged,.partiallyFilled])
    (hquiet : Quiet r.status e.requestedStatus) :
    mergeFacts e q r = r.facts ↔ ¬ Overtaken e r := by
  have hlive : e.requestedStatus.brokerTerminal = false := by
    simp only [List.mem_cons,List.not_mem_nil,or_false] at hreq
    rcases hreq with hs | hs <;> simp [hs,OrderStatus.brokerTerminal]
  by_cases hfull : r.filledQuantity = q
  · have hnot : ¬ Overtaken e r := by
      rintro ⟨-,-,hst⟩
      rcases hbound.full hfull with hs | hs <;> simp [hs] at hst
    refine ⟨fun _ => hnot,fun _ => ?_⟩
    rcases hbound.full hfull with hst | hst
    · have hnorm : normalizeBrokerStatus e.requestedStatus r.filledQuantity q = .ok .filled := by
        simp only [List.mem_cons,List.not_mem_nil,or_false] at hreq
        rcases hreq with hs | hs <;> simp [normalizeBrokerStatus,refuse,hs,hfull]
      have hsame : terminalClash r.status .filled = false := by simp [terminalClash,hst]
      rw [mergeFacts_attested hbound hatt hnorm (terminalClash_of_live hlive) hsame,
        brokerNext_of_terminal hatt.live (by simp [hst,OrderStatus.terminal])]
      rfl
    · exact mergeFacts_review hbound hatt hst
  · have hpos : e.requestedStatus = .partiallyFilled → 0 < r.filledQuantity :=
      fun hs => (partialFill_pos hs).trans_le hatt.fill
    have hnorm := normalize_live hreq hfull hpos
    have htarget : (if 0 < r.filledQuantity then OrderStatus.partiallyFilled
        else .acknowledged).brokerTerminal = false := by
      split <;> rfl
    rw [mergeFacts_attested hbound hatt hnorm (terminalClash_of_live hlive)
      (terminalClash_of_live htarget)]
    have hfacts : ((brokerNext r.status (if 0 < r.filledQuantity then .partiallyFilled
        else .acknowledged),r.filledQuantity,r.brokerOrderId) : OrderStatus × Int × Option String) =
        r.facts ↔ brokerNext r.status (if 0 < r.filledQuantity then .partiallyFilled
        else .acknowledged) = r.status := by simp [BrokerOrder.facts]
    rw [hfacts]
    exact brokerNext_quiet hatt.live hreq hpos hquiet

end
section
variable {e : BrokerEvidenceV1} {db db' : Db}

theorem semanticDuplicateExists_true (h : semanticDuplicateExists e db = .ok (true,db')) :
    ∃ r, db.order? e.key = some r ∧ Quiet r.status e.requestedStatus ∧
      db.observations.any (Observation.suppresses e) = true := by
  have hseen := (semanticDuplicateExists_ok h).2 rfl
  simp only [semanticDuplicateExists,Tx.bind_eq_ok] at h
  obtain ⟨s,_,hs,h⟩ := h
  obtain ⟨r,hr,rfl,rfl⟩ := currentStatus_ok hs
  refine ⟨r,hr,?_,hseen⟩
  cases ht : transition r.status e.requestedStatus with
  | none =>
    rw [ht] at h
    obtain ⟨hfalse,-⟩ := Tx.pure_eq_ok.mp h
    cases hfalse
  | some lifecycle =>
    simp only [ht] at h
    obtain ⟨-,-,⟨-,-,hquiet⟩ | ⟨hchanged,-⟩⟩ := transition_cases ht
    · exact hquiet
    · rw [if_pos hchanged] at h
      obtain ⟨hfalse,-⟩ := Tx.pure_eq_ok.mp h
      cases hfalse

theorem ingestSemanticDuplicate_facts (k : OrderKey) :
    (leaves (ingestSemanticDuplicate e) db).facts k = db.facts k := by
  unfold leaves
  cases hdup : ingestSemanticDuplicate e db with
  | error err => rfl
  | ok p =>
    obtain ⟨res,db'⟩ := p
    simp only [ingestSemanticDuplicate,Tx.bind_eq_ok,insertEvidenceKey_eq_ok,
      insertObservation_eq_ok,Tx.pure_eq_ok] at hdup
    obtain ⟨_,_,⟨-,rfl⟩,_,_,⟨-,rfl⟩,s,_,hs,-,rfl⟩ := hdup
    obtain ⟨_,_,_,rfl⟩ := currentStatus_ok hs
    rfl

end

/-- In every reachable state, the suppression of fresh evidence leaves the order as its
merge would, exactly when the fact is not an acceptance that a fill has overtaken while
the order is acknowledged or about to be cancelled. -/
theorem suppression_sound_iff {ms : List (Move Choice Start)} {t : Sys Eff World}
    (h : (system fun _ _ => true).run (Machine.boots World.initial) ms = some t)
    {e : BrokerEvidenceV1} {r : BrokerOrder} {db' : Db}
    (hfresh : identityRow e t.world.db = none)
    (hdup : semanticDuplicateExists e t.world.db = .ok (true,db'))
    (hr : t.world.db.order? e.key = some r) :
    (leaves (ingestNew e) t.world.db).facts e.key =
        (leaves (ingestSemanticDuplicate e) t.world.db).facts e.key ↔
      ¬ (e.requestedStatus = .acknowledged ∧ 0 < r.filledQuantity ∧
        r.status ∈ [.acknowledged,.cancelPending]) := by
  obtain ⟨hw,hdb⟩ := reach_attests h
  obtain ⟨r',hr',hquiet,hseen⟩ := semanticDuplicateExists_true hdup
  obtain rfl : r = r' := Option.some.inj (hr.symm.trans hr')
  obtain ⟨r',i,hr',hi,hatt⟩ := hdb.suppressed hseen
  obtain rfl : r = r' := Option.some.inj (hr.symm.trans hr')
  have hbound : FillBounded i.quantity r := hdb.bounded e.key r i hr hi
  have hfacts : t.world.db.facts e.key = some r.facts := by simp [Db.facts,hr,BrokerOrder.facts]
  rw [ingestSemanticDuplicate_facts,hfacts,ingestNew_facts hr hi hfresh,Option.some.injEq]
  change mergeFacts e i.quantity r = r.facts ↔ ¬ Overtaken e r
  by_cases hterm : e.requestedStatus.brokerTerminal = true
  · have hnot : ¬ Overtaken e r := by
      rintro ⟨hs,-⟩
      simp [hs,OrderStatus.brokerTerminal] at hterm
    exact ⟨fun _ => hnot,fun _ => mergeFacts_terminal hbound hatt hterm⟩
  · have hlive : e.requestedStatus ∈ [OrderStatus.acknowledged,.partiallyFilled] := by
      have hcases := requestedStatus_cases e
      cases hs : e.requestedStatus <;> simp_all [OrderStatus.brokerTerminal]
    exact mergeFacts_live hbound hatt hlive hquiet

def sampleAccepted : BrokerEvidenceV1 := ⟨sampleFields "s:5" .orderAccepted 0,by decide⟩

/-- The same acceptance from another event of the source. -/
def sampleAcceptedAgain : BrokerEvidenceV1 := ⟨sampleFields "s:6" .orderAccepted 0,by decide⟩

/-- The order is accepted, partly filled, and after `steps` steps being cancelled. -/
def partlyFilledRun (steps : Nat) : List (Move Choice Start) :=
  .start 0 (.oms 30 [.recover,.submitIntent sampleIntent none,.ingestBrokerEvidence sampleAccepted,
    .ingestBrokerEvidence samplePartialFill,.cancelOrder sampleIntent.key]) ::
    List.replicate steps (.step 0 {})

theorem exists_of_fst {α : Type} {x : Except PyError (α × Db)} {a : α}
    (h : x.toOption.map Prod.fst = some a) : ∃ db', x = .ok (a,db') := by
  cases x with
  | error err => cases h
  | ok p => exact ⟨p.2,by rw [← Option.some.inj h]⟩

theorem suppression_sound_partly_filled : ∃ t,
    (system fun _ _ => true).run (Machine.boots World.initial) (partlyFilledRun 33) = some t ∧
      (leaves (ingestNew sampleAcceptedAgain) t.world.db).facts sampleIntent.key =
        (leaves (ingestSemanticDuplicate sampleAcceptedAgain) t.world.db).facts sampleIntent.key := by
  have hrun : ((system fun _ _ => true).run (Machine.boots World.initial)
      (partlyFilledRun 33)).map (fun t => (identityRow sampleAcceptedAgain t.world.db,
        (semanticDuplicateExists sampleAcceptedAgain t.world.db).toOption.map Prod.fst,
        t.world.db.order? sampleIntent.key)) =
      some (none,some true,some ⟨sampleIntent.key,.partiallyFilled,some "b-1",40,true,false,false⟩) := by
    decide +kernel
  obtain ⟨t,ht,hdb⟩ := Option.map_eq_some_iff.mp hrun
  simp only [Prod.mk.injEq] at hdb
  obtain ⟨hfresh,hdup,hr⟩ := hdb
  obtain ⟨db',hdup⟩ := exists_of_fst hdup
  exact ⟨t,ht,(suppression_sound_iff ht hfresh hdup hr).mpr (by simp)⟩

/-- An acceptance that is suppressed while the partly filled order is being cancelled
would have ended the cancellation. -/
theorem suppressed_acceptance_ends_cancellation : ∃ t,
    (system fun _ _ => true).run (Machine.boots World.initial) (partlyFilledRun 36) = some t ∧
      identityRow sampleAcceptedAgain t.world.db = none ∧
      (∃ db', semanticDuplicateExists sampleAcceptedAgain t.world.db = .ok (true,db')) ∧
      (leaves (ingestSemanticDuplicate sampleAcceptedAgain) t.world.db).facts sampleIntent.key =
        some (.cancelPending,40,some "b-1") ∧
      (leaves (ingestNew sampleAcceptedAgain) t.world.db).facts sampleIntent.key =
        some (.partiallyFilled,40,some "b-1") := by
  have hrun : ((system fun _ _ => true).run (Machine.boots World.initial)
      (partlyFilledRun 36)).map (fun t => ((identityRow sampleAcceptedAgain t.world.db).isNone,
        (semanticDuplicateExists sampleAcceptedAgain t.world.db).toOption.map Prod.fst,
        decide ((leaves (ingestSemanticDuplicate sampleAcceptedAgain) t.world.db).facts
          sampleIntent.key = some (.cancelPending,40,some "b-1")),
        decide ((leaves (ingestNew sampleAcceptedAgain) t.world.db).facts
          sampleIntent.key = some (.partiallyFilled,40,some "b-1")))) =
      some (true,some true,true,true) := by
    decide +kernel
  obtain ⟨t,ht,hdb⟩ := Option.map_eq_some_iff.mp hrun
  simp only [Prod.mk.injEq,decide_eq_true_eq] at hdb
  obtain ⟨hfresh,hdup,hsuppressed,hmerged⟩ := hdb
  exact ⟨t,ht,Option.isNone_iff_eq_none.mp hfresh,exists_of_fst hdup,hsuppressed,hmerged⟩

end BigQmt
