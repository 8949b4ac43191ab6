import BigQmt.Frames
import BigQmt.System
set_option autoImplicit false

/-!
Accepted terminal facts and the orders they are about, and what becomes of
evidence that contradicts them.
-/

namespace BigQmt

open Transact Keyed Resumption

/-- A property of databases that survives order writes beside the journal, and ingests. -/
structure JournalInvariant (J : Db → Prop) : Prop where
  empty : J Db.empty
  evolve : ∀ {P : BrokerOrder → TransitionRequest → Prop} {db db' : Db}, J db → db.Wf →
    Evolves P db db' → SameJournal db db' → J db'
  ingest : ∀ {e : BrokerEvidenceV1} {db db' : Db} {res : Except String EvidenceIngestResult},
    db.Wf → J db → ingestInTx e db = .ok (res,db') → J db'

namespace JournalInvariant

variable {J : Db → Prop} (hJ : JournalInvariant J)
include hJ

theorem run {s t : Sys Eff World} {ms : List (Move Choice Start)}
    (h : (system fun _ _ => true).run s ms = some t) (hw : s.world.db.Wf) (hs : J s.world.db) :
    t.world.db.Wf ∧ J t.world.db := by
  refine run_keeps (fun hb hw hs => ?_) h hw hs
  obtain hj | ⟨e,res,hin⟩ := Txn.journal_cases hb
  · exact hJ.evolve hs hw (Txn.evolves hb) hj
  · exact hJ.ingest hw hs hin

theorem reach {t : Sys Eff World} {ms : List (Move Choice Start)}
    (h : (system fun _ _ => true).run (Machine.boots World.initial) ms = some t) :
    t.world.db.Wf ∧ J t.world.db := hJ.run h Db.Wf.empty hJ.empty

end JournalInvariant

/-- The order is in this terminal status, or was sent to review after it. -/
def Absorbed (st : OrderStatus) (k : OrderKey) (db : Db) : Prop :=
  ∃ r, db.order? k = some r ∧ (r.status = st ∨ r.status = .manualReview)

theorem Absorbed.evolve {P : BrokerOrder → TransitionRequest → Prop} {st : OrderStatus}
    {k : OrderKey} {db db' : Db} (h : Absorbed st k db) (hst : st.brokerTerminal = true)
    (hw : db.Wf) (hev : Evolves P db db') : Absorbed st k db' := by
  obtain ⟨r,hr,hs⟩ := h
  obtain ⟨r',hr',hadv⟩ := hev.advances hw hr
  refine ⟨r',hr',?_⟩
  rcases hs with rfl | hs
  · exact hadv.terminal hst
  · exact .inr (hadv.review hs)

/-- Every terminal fact that the journal accepted is still the status of its order. -/
structure FactsHold (db : Db) : Prop where
  keys : ∀ row ∈ db.evidenceKeys, row.accepted = true →
    row.fingerprint.semanticDigest.requestedStatus.brokerTerminal = true →
    Absorbed row.fingerprint.semanticDigest.requestedStatus row.fingerprint.semanticDigest.key db
  observations : ∀ o ∈ db.observations,
    o.classification ∈ [.new,.duplicate,.semanticDuplicate] →
    o.evidence.requestedStatus.brokerTerminal = true →
    Absorbed o.evidence.requestedStatus o.evidence.key db

theorem FactsHold.empty : FactsHold Db.empty := by
  constructor
  · intro row hrow
    simp [Db.empty] at hrow
  · intro o ho
    simp [Db.empty] at ho

section
variable {P : BrokerOrder → TransitionRequest → Prop} {db db' : Db}

theorem FactsHold.evolve (h : FactsHold db) (hw : db.Wf) (hev : Evolves P db db')
    (hj : SameJournal db db') : FactsHold db' := by
  obtain ⟨hkeys,hobs⟩ := Prod.mk.inj hj
  constructor
  · intro row hrow ha ht
    exact (h.keys row (hkeys ▸ hrow) ha ht).evolve ht hw hev
  · intro o ho hc ht
    exact (h.observations o (hobs ▸ ho) hc ht).evolve ht hw hev

/-- One more observation, of a fact that holds of its order or was not accepted. -/
theorem FactsHold.record (h : FactsHold db) {e : BrokerEvidenceV1} {c : Classification}
    (he : c ∈ [.new,.duplicate,.semanticDuplicate] → e.requestedStatus.brokerTerminal = true →
      Absorbed e.requestedStatus e.key db) : FactsHold (db.record e c) := by
  refine ⟨h.keys,fun o ho hc ht => ?_⟩
  rcases List.mem_append.mp ho with ho | ho
  · exact h.observations o ho hc ht
  · obtain rfl : o = ⟨e,c⟩ := by simpa using ho
    exact he hc ht

theorem FactsHold.recordKey (h : FactsHold db) {row : EvidenceKey}
    (hrow : row.accepted = true →
      row.fingerprint.semanticDigest.requestedStatus.brokerTerminal = true →
      Absorbed row.fingerprint.semanticDigest.requestedStatus
        row.fingerprint.semanticDigest.key db) : FactsHold (db.recordKey row) := by
  refine ⟨fun r hr ha ht => ?_,h.observations⟩
  rcases List.mem_append.mp hr with hr | hr
  · exact h.keys r hr ha ht
  · obtain rfl : r = row := by simpa using hr
    exact hrow ha ht

theorem normalizeBrokerStatus_terminal {target st : OrderStatus} {f q : Int}
    (ht : target.brokerTerminal = true) (h : normalizeBrokerStatus target f q = .ok st) :
    st = target := by
  simp only [normalizeBrokerStatus,refuse_eq_ok] at h
  obtain ⟨-,-,-,h⟩ := h
  have hlive : target ∉ [OrderStatus.acknowledged,.partiallyFilled] := by
    clear h
    cases target <;> simp_all [OrderStatus.brokerTerminal]
  rw [if_neg hlive] at h
  exact (Except.ok.inj h).symm

/-- A merged terminal fact becomes the status of the order, unless it is under review. -/
theorem planTransition_terminal {c : String} {ctx : OrderContext} {e : BrokerEvidenceV1}
    {o : TransitionOutcome} {filled : Int} (ht : e.requestedStatus.brokerTerminal = true)
    (h : planTransition c ctx (mergeRequest e) = .ok (o,filled)) :
    o.current = e.requestedStatus ∨ o.current = .manualReview := by
  obtain ⟨-,-,target,heff,hnext⟩ := planTransition_ok h
  obtain ⟨hnone,-,-⟩ | ⟨f,-,-,-,-,hnorm⟩ := effectiveFill_ok heff
  · simp [mergeRequest] at hnone
  · obtain rfl : target = e.requestedStatus := normalizeBrokerStatus_terminal ht hnorm
    obtain ⟨-,rfl,hclash,-⟩ | ⟨hfact,-⟩ := nextStatus_ok hnext
    · simp only [aggregateBrokerStatus,brokerNext]
      split
      · exact .inr ‹_›
      · split
        · rename_i hcur
          left
          simpa [terminalClash,hcur,ht] using hclash
        · split
          · rename_i hack
            simp only [Bool.and_eq_true,decide_eq_true_eq] at hack
            simp [hack.1,OrderStatus.brokerTerminal] at ht
          · exact .inl rfl
    · simp [mergeRequest] at hfact

theorem ingest_factsHold {e : BrokerEvidenceV1} {res : Except String EvidenceIngestResult}
    (hw : db.Wf) (h : FactsHold db) (hin : ingestInTx e db = .ok (res,db')) : FactsHold db' := by
  cases ingest_cases hin with
  | reused row rows events _ _ hev =>
    have hnew : FactsHold (db.record e .conflict) := h.record fun hc => by simp at hc
    have hev' : Evolves (fun _ _ => True) (db.record e .conflict)
        { db.record e .conflict with brokerOrders := rows, orderEvents := events } :=
      (hev _).after rfl rfl
    exact hnew.evolve ⟨hw.intent,hw.quantity,hw.unique⟩ hev' rfl
  | known row r hf hr ha =>
    refine h.record fun _ ht => ?_
    have hfp : row.fingerprint = evidenceFingerprint e := find_key hf
    have hkey := h.keys row (find_mem hf) ha
    rw [hfp] at hkey
    exact hkey ht
  | knownConflict row hf ha => exact h.record fun hc => by simp at hc
  | suppressed r hn hr hseen =>
    have hfact : e.requestedStatus.brokerTerminal = true → Absorbed e.requestedStatus e.key db := by
      intro ht
      obtain ⟨o,ho,hsup⟩ := List.any_eq_true.mp hseen
      simp only [Observation.suppresses,Bool.and_eq_true,decide_eq_true_eq] at hsup
      obtain ⟨⟨⟨⟨⟨⟨⟨hkey,-⟩,hst⟩,-⟩,-⟩,-⟩,-⟩,hc⟩ := hsup
      have hold := h.observations o ho hc
      rw [hst,hkey] at hold
      exact hold ht
    exact (h.recordKey fun _ ht => hfact ht).record fun _ ht => hfact ht
  | applied o db₁ hn hm =>
    have hev : Evolves (fun _ _ => True) db db₁ := transitionInTx_evolves (fun _ _ => trivial) hm
    have hj : SameJournal db db₁ := journalFrame.transitionInTx_moves _ _ db o db₁ hm
    have hold := h.evolve hw hev hj
    have hfact : e.requestedStatus.brokerTerminal = true →
        Absorbed e.requestedStatus e.key db₁ := by
      intro ht
      obtain ⟨r,i,filled,hr,-,hplan,rfl⟩ := transitionInTx_ok hm
      refine ⟨_,order?_updateOrder (fun _ => rfl) hr,?_⟩
      rw [applyTransition_status hplan]
      exact planTransition_terminal ht hplan
    exact (hold.recordKey fun _ ht => hfact ht).record fun _ ht => hfact ht
  | conflict err reason filled _ _ _ _ hm =>
    have hnew : FactsHold ((db.recordKey ⟨evidenceFingerprint e,false,none,some reason⟩).record e
        .conflict) := (h.recordKey fun ha => by cases ha).record fun hc => by simp at hc
    have hev : Evolves (fun _ _ => True) _ db' := markConflictInTx_evolves hm
    exact hnew.evolve ⟨hw.intent,hw.quantity,hw.unique⟩ hev
      (journalFrame.markConflictInTx_moves _ _ _ _ _ hm)

end

theorem factsHold_invariant : JournalInvariant FactsHold :=
  ⟨FactsHold.empty,fun h hw hev hj => h.evolve hw hev hj,fun hw h hin => ingest_factsHold hw h hin⟩

/-- `EvidenceJournal.ingest`: the transaction, and the conflict raised after its commit. -/
def EvidenceJournal.ingest (g : Guard) (e : BrokerEvidenceV1) (c : Choice) (db : Db) :
    Except PyError EvidenceIngestResult × Db :=
  match (Txn.ingestEvidence g e).run c db with
  | (.ok (.ok applied),db') => (.ok applied,db')
  | (.ok (.error reason),db') => (.error (.brokerEvidenceConflict reason),db')
  | (.error err,db') => (.error err,db')

/-- An ingest past its guard: the outcome of the transaction decides. -/
theorem EvidenceJournal.ingest_eq {g : Guard} {e : BrokerEvidenceV1} {c : Choice} {db : Db}
    (hfault : c.fault = none) (hguard : g.check c.now db = .ok ()) :
    EvidenceJournal.ingest g e c db =
      match ingestInTx e db with
      | .ok (res,db') => (res.mapError .brokerEvidenceConflict,db')
      | .error err => (.error err,db) := by
  have hbody : (Txn.ingestEvidence g e).body c.now db = ingestInTx e db := by
    simp [Txn.body,guarded,guardWrite,hguard,bind,Except.map]
  simp only [EvidenceJournal.ingest,Txn.run,hfault,hbody]
  rcases ingestInTx e db with err | ⟨reason | applied,db'⟩
  · rfl
  · rfl
  · rfl

theorem Guard.check_inner {g : Guard} {now : Nat} {db : Db} {err : PyError}
    (h : g.check now db = .error err) : err.inner := by
  intro reason
  unfold Guard.check assertHeld at h
  obtain rfl | h := refuse_eq_error h
  · simp
  cases hl : db.omsLeader with
  | none =>
    simp only [hl,Except.error.injEq] at h
    simp [← h]
  | some row =>
    rw [hl] at h
    obtain rfl | h := refuse_eq_error h
    · simp
    obtain rfl | h := refuse_eq_error h
    · simp
    · cases h

/-- An ingest leaves nothing behind, or its transaction committed. -/
theorem EvidenceJournal.ingest_cases (g : Guard) (e : BrokerEvidenceV1) (c : Choice) (db : Db) :
    (∃ err, EvidenceJournal.ingest g e c db = (.error err,db) ∧ err.inner) ∨
      ∃ res db', ingestInTx e db = .ok (res,db') ∧
        EvidenceJournal.ingest g e c db = (res.mapError .brokerEvidenceConflict,db') := by
  cases hf : c.fault with
  | some err =>
    refine .inl ⟨.operationalError "database is locked",?_,fun _ => by simp⟩
    simp [EvidenceJournal.ingest,Txn.run,hf]
  | none =>
    cases hg : g.check c.now db with
    | error err =>
      refine .inl ⟨err,?_,Guard.check_inner hg⟩
      simp [EvidenceJournal.ingest,Txn.run,hf,Txn.body,guarded,guardWrite,hg,bind,Except.map]
    | ok u =>
      rw [EvidenceJournal.ingest_eq hf hg]
      cases hin : ingestInTx e db with
      | error err => exact .inl ⟨err,rfl,ingestInTx_raises e db err hin⟩
      | ok r => exact .inr ⟨r.1,r.2,rfl,rfl⟩

/-- The method of an OMS object is this ingest under the guard of the object. -/
theorem ingestBrokerEvidence_ingest (e : BrokerEvidenceV1) (s : OmsState) :
    ∃ k, ingestBrokerEvidence e s = .op (.txn (.ingestEvidence s.guard e)) k ∧ ∀ c w,
      k (exec (.txn (.ingestEvidence s.guard e)) c w).1 =
        .pure ((EvidenceJournal.ingest s.guard e c w.db).1,s) ∧
      (exec (.txn (.ingestEvidence s.guard e)) c w).2.db =
        (EvidenceJournal.ingest s.guard e c w.db).2 := by
  refine ⟨_,rfl,fun c w => ?_⟩
  simp only [exec,EvidenceJournal.ingest]
  rcases (Txn.ingestEvidence s.guard e).run c w.db with ⟨err | (reason | applied),db'⟩
  · exact ⟨rfl,rfl⟩
  · exact ⟨rfl,rfl⟩
  · exact ⟨rfl,rfl⟩

/-- The conflict is raised, and the database keeps the review, the refused key and
the observation of the conflict. -/
def FailsClosed (e : BrokerEvidenceV1) (r : Except PyError EvidenceIngestResult × Db) : Prop :=
  (∃ reason, r.1 = .error (.brokerEvidenceConflict reason)) ∧
    (∃ row, r.2.order? e.key = some row ∧ row.status = .manualReview) ∧
    (∃ key ∈ r.2.evidenceKeys, key.fingerprint = evidenceFingerprint e ∧ key.accepted = false) ∧
    ⟨e,.conflict⟩ ∈ r.2.observations

section contradiction
variable {e : BrokerEvidenceV1} {db : Db} {r : BrokerOrder} {i : IntentColumns}

theorem semanticDuplicateExists_terminal (hfacts : FactsHold db) (hr : db.order? e.key = some r)
    (hst : r.status.brokerTerminal = true) (hreq : e.requestedStatus.brokerTerminal = true)
    (hne : e.requestedStatus ≠ r.status) : semanticDuplicateExists e db = .ok (false,db) := by
  have hnone : db.observations.any (Observation.suppresses e) = false := by
    rw [List.any_eq_false]
    intro o ho hsup
    simp only [Observation.suppresses,Bool.and_eq_true,decide_eq_true_eq] at hsup
    obtain ⟨⟨⟨⟨⟨⟨⟨hkey,-⟩,hsame⟩,-⟩,-⟩,-⟩,-⟩,hc⟩ := hsup
    have hold := hfacts.observations o ho hc
    rw [hsame,hkey] at hold
    obtain ⟨r',hr',hs⟩ := hold hreq
    obtain rfl : r = r' := Option.some.inj (hr.symm.trans hr')
    rcases hs with hs | hs
    · exact hne hs.symm
    · simp [hs,OrderStatus.brokerTerminal] at hst
  have hstale : transition r.status e.requestedStatus =
      some ⟨r.status,r.status,e.requestedStatus,false,.staleIgnored⟩ := by
    have hterm : r.status.terminal = true := by
      cases hs : r.status <;> simp_all [OrderStatus.brokerTerminal,OrderStatus.terminal]
    simp [transition,Ne.symm hne,hterm]
  simp [semanticDuplicateExists,currentStatus,hr,hstale,bind,Tx.reads,hnone]

/-- What a contradicting terminal fact raises when it is merged. -/
theorem transitionInTx_clash (hr : db.order? e.key = some r) (hi : db.intent? e.key = some i)
    (hst : r.status.brokerTerminal = true) (hreq : e.requestedStatus.brokerTerminal = true)
    (hne : e.requestedStatus ≠ r.status) :
    transitionInTx e.key (mergeRequest e) db = .error
      (if idMismatch r.brokerOrderId e.brokerOrderId then
        .brokerOrderIdMismatch e.key.clientOrderId (r.brokerOrderId.getD "")
          (e.brokerOrderId.getD "")
      else .brokerLifecycleConflict (.terminal r.status e.requestedStatus)) := by
  have hctx : db.context? e.key = some (r.context i.quantity) := by
    simp [Db.context?,hr,hi,BrokerOrder.context]
  have hclash : terminalClash r.status e.requestedStatus = true := by
    simp [terminalClash,hst,hreq,Ne.symm hne]
  have hplan : planTransition e.key.clientOrderId (r.context i.quantity) (mergeRequest e) = .error
      (if idMismatch r.brokerOrderId e.brokerOrderId then
        .brokerOrderIdMismatch e.key.clientOrderId (r.brokerOrderId.getD "")
          (e.brokerOrderId.getD "")
      else .brokerLifecycleConflict (.terminal r.status e.requestedStatus)) := by
    cases hid : idMismatch r.brokerOrderId e.brokerOrderId with
    | true => simp [planTransition,refuse,BrokerOrder.context,mergeRequest,hid]
    | false => simp [planTransition,refuse,BrokerOrder.context,mergeRequest,hid,hclash]
  simp [transitionInTx,getOrderContextInTx,fetch,hctx,bind,Tx.ofExcept,hplan,Except.map]

theorem sourceTaken_false (h : identityRow e db = none) :
    sourceTaken (evidenceFingerprint e) db = false := by
  unfold sourceTaken
  rw [List.any_eq_false]
  intro row hrow
  exact List.find?_eq_none.mp h row hrow

theorem evidenceKey?_none (h : identityRow e db = none) :
    db.evidenceKey? (evidenceFingerprint e) = none := by
  refine find_eq_none_iff.mpr fun row hrow hfp => ?_
  have hno := List.find?_eq_none.mp h row hrow
  simp [hfp,evidenceFingerprint] at hno

/-- The conflict path commits, or its own range check rolls it back. -/
theorem ingestConflict_eq (hr : db.order? e.key = some r) (hi : db.intent? e.key = some i)
    (hfresh : identityRow e db = none) (reason : String) (filled : Option Int) :
    ∃ events, ingestConflict e reason filled db =
      match conflictFill (r.context i.quantity) filled with
      | .error err => .error err
      | .ok f => .ok (.error reason,
          { ((db.recordKey ⟨evidenceFingerprint e,false,none,some reason⟩).record e
              .conflict).updateOrder e.key (markConflict f) with orderEvents := events }) := by
  have hsource : insertEvidenceKey ⟨evidenceFingerprint e,false,none,some reason⟩ db =
      .ok ((),db.recordKey ⟨evidenceFingerprint e,false,none,some reason⟩) :=
    insertEvidenceKey_eq_ok.mpr ⟨sourceTaken_false hfresh,rfl⟩
  have hobs : insertObservation ⟨e,.conflict⟩
      (db.recordKey ⟨evidenceFingerprint e,false,none,some reason⟩) = .ok ((),
        (db.recordKey ⟨evidenceFingerprint e,false,none,some reason⟩).record e .conflict) := by
    refine insertObservation_eq_ok.mpr ⟨?_,rfl⟩
    have hi' : (db.recordKey ⟨evidenceFingerprint e,false,none,some reason⟩).intent? e.key =
        some i := hi
    simp [hi']
  generalize hdb : (db.recordKey ⟨evidenceFingerprint e,false,none,some reason⟩).record e
    .conflict = db₁ at hobs
  have hr₁ : db₁.order? e.key = some r := by
    rw [← hdb]
    exact hr
  have hi₁ : db₁.intent? e.key = some i := by
    rw [← hdb]
    exact hi
  have hctx : db₁.context? e.key = some (r.context i.quantity) := by
    simp [Db.context?,hr₁,hi₁,BrokerOrder.context]
  refine ⟨db₁.orderEvents ++ [⟨e.key,.named "BROKER_EVIDENCE_CONFLICT_MANUAL_REVIEW",
    some r.status,.manualReview,.applied⟩],?_⟩
  cases hf : conflictFill (r.context i.quantity) filled with
  | error err =>
    simp only [ingestConflict,bind,hsource,hobs,markBrokerConflictManualReviewInTx,
      getOrderContextInTx,fetch,hctx,Tx.ofExcept,hf,Except.map]
  | ok f =>
    have hevent : insertEvent ⟨e.key,.named "BROKER_EVIDENCE_CONFLICT_MANUAL_REVIEW",
        some r.status,.manualReview,.applied⟩ (db₁.updateOrder e.key (markConflict f)) =
        .ok ((),{ db₁.updateOrder e.key (markConflict f) with
          orderEvents := db₁.orderEvents ++ [⟨e.key,.named "BROKER_EVIDENCE_CONFLICT_MANUAL_REVIEW",
            some r.status,.manualReview,.applied⟩] }) := by
      refine insertEvent_eq_ok.mpr ⟨?_,rfl⟩
      have hi₂ : (db₁.updateOrder e.key (markConflict f)).intent? e.key = some i := hi₁
      simp [hi₂]
    simp only [ingestConflict,bind,hsource,hobs,markBrokerConflictManualReviewInTx,
      getOrderContextInTx,fetch,hctx,Tx.ofExcept,hf,Except.map,Tx.writes]
    rw [show (r.context i.quantity).status = r.status from rfl,hevent]
    rfl

/-- Contradicting evidence reaches the conflict path. -/
theorem ingestInTx_clash (hfacts : FactsHold db) (hr : db.order? e.key = some r)
    (hi : db.intent? e.key = some i) (hfresh : identityRow e db = none)
    (hst : r.status.brokerTerminal = true) (hreq : e.requestedStatus.brokerTerminal = true)
    (hne : e.requestedStatus ≠ r.status) :
    ∃ reason, ingestInTx e db = ingestConflict e reason
      (if idMismatch r.brokerOrderId e.brokerOrderId then none else some e.filledQuantity) db := by
  have hdup := semanticDuplicateExists_terminal hfacts hr hst hreq hne
  have hmerge := transitionInTx_clash hr hi hst hreq hne
  have hnew : ingestInTx e db = ingestNew e db := by
    rw [ingestInTx,Tx.reads_bind,hfresh]
    simp only [Option.filter_none,Tx.reads_bind,evidenceKey?_none hfresh]
    simp only [bind,hdup,Bool.false_eq_true,if_false]
  rw [hnew]
  cases hid : idMismatch r.brokerOrderId e.brokerOrderId with
  | true =>
    rw [hid,if_pos rfl] at hmerge
    refine ⟨"broker_order_id_mismatch",?_⟩
    simp only [ingestNew,bind,Tx.attempt,hmerge,mergeConflict,Tx.ofExcept,Except.map,if_true]
  | false =>
    rw [hid,if_neg (by simp)] at hmerge
    refine ⟨"terminal_broker_fact_conflict: " ++
      (LifecycleConflict.terminal r.status e.requestedStatus).message,?_⟩
    simp only [ingestNew,bind,Tx.attempt,hmerge,mergeConflict,Tx.ofExcept,Except.map,
      Bool.false_eq_true,if_false]

theorem conflictFill_ne_conflict (ctx : OrderContext) (filled : Option Int) (reason : String) :
    conflictFill ctx filled ≠ .error (.brokerEvidenceConflict reason) := by
  cases filled with
  | none => simp [conflictFill]
  | some f =>
    simp only [conflictFill,refuse]
    split
    · simp
    · simp

/-- The range check of the conflict writer lets the fact through. -/
theorem conflictFill_ok_iff {b : Bool} :
    (∃ f, conflictFill (r.context i.quantity) (if b then none else some e.filledQuantity) = .ok f) ↔
      e.filledQuantity ≤ i.quantity ∨ b = true := by
  have hnonneg := e.filledQuantity_nonneg
  cases b with
  | true => simp [conflictFill]
  | false =>
    have hlt : ¬ e.filledQuantity < 0 := by omega
    simp only [Bool.false_eq_true,if_false,or_false,conflictFill]
    constructor
    · rintro ⟨f,hf⟩
      simp only [refuse_eq_ok,Bool.or_eq_false_iff,decide_eq_false_iff_not] at hf
      exact not_lt.mp hf.1.2
    · intro hle
      refine ⟨_,refuse_eq_ok.mpr ⟨?_,rfl⟩⟩
      simp only [Bool.or_eq_false_iff,decide_eq_false_iff_not]
      exact ⟨hlt,not_lt.mpr hle⟩

end contradiction

theorem brokerTerminal_of_mem {st : OrderStatus}
    (h : st ∈ [OrderStatus.filled,.cancelled,.rejected]) : st.brokerTerminal = true := by
  cases st <;> simp_all [OrderStatus.brokerTerminal]

/-- A cancellation of the filled order that reports more than its quantity. -/
def sampleOverfilledCancel : BrokerEvidenceV1 :=
  ⟨sampleFields "s:2" .orderCancelled 250,by decide⟩

end BigQmt
