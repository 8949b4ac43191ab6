import BigQmt.OrderWrites
set_option autoImplicit false

/-!
The ways in which `EvidenceJournal.ingest` commits.
-/

namespace BigQmt

open Transact Keyed

def Db.record (e : BrokerEvidenceV1) (c : Classification) (db : Db) : Db :=
  { db with observations := db.observations ++ [⟨e,c⟩] }

def Db.recordKey (row : EvidenceKey) (db : Db) : Db :=
  { db with evidenceKeys := db.evidenceKeys ++ [row] }

inductive IngestCase (e : BrokerEvidenceV1) (db : Db) :
    Except String EvidenceIngestResult → Db → Prop
  | reused (row : EvidenceKey) (rows : List BrokerOrder) (events : List OrderEvent)
      (found : identityRow e db = some row)
      (differs : row.fingerprint.semanticDigest ≠ e.semanticDigest)
      (writes : ∀ P, Evolves P db
        { db.record e .conflict with brokerOrders := rows, orderEvents := events }) :
      IngestCase e db (.error "source_event_id_reused_with_different_evidence")
        { db.record e .conflict with brokerOrders := rows, orderEvents := events }
  | known (row : EvidenceKey) (r : BrokerOrder)
      (found : db.evidenceKey? (evidenceFingerprint e) = some row)
      (order : db.order? e.key = some r) (accepted : row.accepted = true) :
      IngestCase e db (.ok ⟨evidenceFingerprint e,true,r.status,
          row.resultDisposition.getD .duplicateIgnored⟩) (db.record e .duplicate)
  | knownConflict (row : EvidenceKey)
      (found : db.evidenceKey? (evidenceFingerprint e) = some row)
      (refused : row.accepted = false) :
      IngestCase e db (.error (row.conflictReason.getD "previous_evidence_conflict"))
        (db.record e .conflictDuplicate)
  | suppressed (r : BrokerOrder) (fresh : identityRow e db = none)
      (order : db.order? e.key = some r)
      (seen : db.observations.any (Observation.suppresses e) = true) :
      IngestCase e db (.ok ⟨evidenceFingerprint e,true,r.status,.duplicateIgnored⟩)
        ((db.recordKey ⟨evidenceFingerprint e,true,some .duplicateIgnored,none⟩).record e
          .semanticDuplicate)
  | applied (o : TransitionOutcome) (db₁ : Db) (fresh : identityRow e db = none)
      (merged : transitionInTx e.key (mergeRequest e) db = .ok (o,db₁)) :
      IngestCase e db (.ok ⟨evidenceFingerprint e,false,o.current,o.disposition⟩)
        ((db₁.recordKey ⟨evidenceFingerprint e,true,some o.disposition,none⟩).record e .new)
  | conflict (err : PyError) (reason : String) (filled : Option Int) (db' : Db)
      (fresh : identityRow e db = none)
      (raised : transitionInTx e.key (mergeRequest e) db = .error err)
      (caught : mergeConflict e err = .ok (reason,filled))
      (marked : markBrokerConflictManualReviewInTx e.key filled
        ((db.recordKey ⟨evidenceFingerprint e,false,none,some reason⟩).record e .conflict) =
          .ok ((),db')) :
      IngestCase e db (.error reason) db'

section
variable {e : BrokerEvidenceV1} {db db' : Db} {res : Except String EvidenceIngestResult}

theorem ingestReusedIdentity_case {row : EvidenceKey} (hf : identityRow e db = some row)
    (hd : row.fingerprint.semanticDigest ≠ e.semanticDigest)
    (h : ingestReusedIdentity e row db = .ok (res,db')) : IngestCase e db res db' := by
  simp only [ingestReusedIdentity,Tx.bind_eq_ok,insertObservation_eq_ok] at h
  obtain ⟨_,_,⟨-,rfl⟩,original,_,ho,h⟩ := h
  obtain ⟨-,rfl⟩ := Tx.reads_eq_ok.mp ho
  cases original with
  | none =>
    simp only [Tx.bind_eq_ok,Tx.pure_eq_ok] at h
    obtain ⟨_,_,hm,rfl,rfl⟩ := h
    have hw : ∀ P, Evolves P db _ := fun P => (markConflictInTx_evolves hm).after rfl rfl
    obtain ⟨r,i,filled,-,-,-,rfl⟩ := markConflictInTx_ok hm
    exact .reused row _ _ hf hd hw
  | some k =>
    by_cases hk : e.key ≠ k
    · simp only [hk,if_true,ne_eq,not_false_eq_true,Tx.bind_eq_ok,Tx.pure_eq_ok] at h
      obtain ⟨_,_,hm,_,_,hm',rfl,rfl⟩ := h
      have hw : ∀ P, Evolves P db _ := fun P =>
        ((markConflictInTx_evolves hm).trans (markConflictInTx_evolves hm')).after rfl rfl
      obtain ⟨r,i,filled,-,-,-,rfl⟩ := markConflictInTx_ok hm
      obtain ⟨r',i',filled',-,-,-,rfl⟩ := markConflictInTx_ok hm'
      exact .reused row _ _ hf hd hw
    · simp only [hk,if_false,Tx.bind_eq_ok,Tx.pure_eq_ok] at h
      obtain ⟨_,_,hm,rfl,rfl⟩ := h
      have hw : ∀ P, Evolves P db _ := fun P => (markConflictInTx_evolves hm).after rfl rfl
      obtain ⟨r,i,filled,-,-,-,rfl⟩ := markConflictInTx_ok hm
      exact .reused row _ _ hf hd hw

theorem ingestKnown_case {row : EvidenceKey}
    (hf : db.evidenceKey? (evidenceFingerprint e) = some row)
    (h : ingestKnown e row db = .ok (res,db')) : IngestCase e db res db' := by
  simp only [ingestKnown,Tx.bind_eq_ok,insertObservation_eq_ok] at h
  obtain ⟨_,_,⟨-,rfl⟩,s,_,hs,h⟩ := h
  obtain ⟨r,hr,rfl,rfl⟩ := currentStatus_ok hs
  cases ha : row.accepted with
  | true =>
    simp only [ha,if_true,Tx.pure_eq_ok] at h
    obtain ⟨rfl,rfl⟩ := h
    exact .known row r hf hr ha
  | false =>
    simp only [ha,Bool.false_eq_true,if_false,Tx.pure_eq_ok] at h
    obtain ⟨rfl,rfl⟩ := h
    exact .knownConflict row hf ha

theorem ingestNew_case (hn : identityRow e db = none) (h : ingestNew e db = .ok (res,db')) : IngestCase e db res db' := by
  simp only [ingestNew,Tx.bind_eq_ok,Tx.attempt_eq_ok] at h
  obtain ⟨merged,_,⟨o,rfl,hm⟩ | ⟨err,rfl,hm,rfl⟩,h⟩ := h
  · simp only [Tx.bind_eq_ok,insertEvidenceKey_eq_ok,insertObservation_eq_ok,
      Tx.pure_eq_ok] at h
    obtain ⟨_,_,⟨-,rfl⟩,_,_,⟨-,rfl⟩,rfl,rfl⟩ := h
    exact .applied o _ hn hm
  · simp only [Tx.bind_eq_ok,Tx.ofExcept_eq_ok,ingestConflict,insertEvidenceKey_eq_ok,
      insertObservation_eq_ok,Tx.pure_eq_ok] at h
    obtain ⟨⟨reason,filled⟩,_,⟨hc,rfl⟩,_,_,⟨-,rfl⟩,_,_,⟨-,rfl⟩,_,_,hm',rfl,rfl⟩ := h
    exact .conflict err reason filled _ hn hm hc hm'

theorem semanticDuplicateExists_ok {b : Bool}
    (h : semanticDuplicateExists e db = .ok (b,db')) :
    db' = db ∧ (b = true → db.observations.any (Observation.suppresses e) = true) := by
  simp only [semanticDuplicateExists,Tx.bind_eq_ok] at h
  obtain ⟨s,_,hs,h⟩ := h
  obtain ⟨r,-,rfl,rfl⟩ := currentStatus_ok hs
  cases ht : transition r.status e.requestedStatus with
  | none =>
    rw [ht] at h
    obtain ⟨rfl,rfl⟩ := Tx.pure_eq_ok.mp h
    exact ⟨rfl,by simp⟩
  | some lifecycle =>
    simp only [ht] at h
    split at h
    · obtain ⟨rfl,rfl⟩ := Tx.pure_eq_ok.mp h
      exact ⟨rfl,by simp⟩
    · obtain ⟨rfl,rfl⟩ := Tx.reads_eq_ok.mp h
      exact ⟨rfl,fun hb => hb⟩

/-- A source identity that was used for the same fact is a known fingerprint. -/
theorem identityRow_none (hi : (identityRow e db).filter
    (fun row => row.fingerprint.semanticDigest ≠ e.semanticDigest) = none)
    (hk : db.evidenceKey? (evidenceFingerprint e) = none) : identityRow e db = none := by
  cases hr : identityRow e db with
  | none => rfl
  | some row =>
    have hsame : row.fingerprint.semanticDigest = e.semanticDigest := by
      simpa [hr,Option.filter] using hi
    have hfound := List.find?_some hr
    simp only [Bool.and_eq_true,beq_iff_eq] at hfound
    have hfp : row.fingerprint = evidenceFingerprint e := by
      cases hf : row.fingerprint
      simp_all [evidenceFingerprint]
    exact absurd hfp (find_eq_none_iff.mp hk row (List.mem_of_find?_eq_some hr))

theorem ingest_cases (h : ingestInTx e db = .ok (res,db')) : IngestCase e db res db' := by
  rw [ingestInTx,Tx.reads_bind] at h
  cases hi : (identityRow e db).filter
      (fun row => row.fingerprint.semanticDigest ≠ e.semanticDigest) with
  | some row =>
    rw [hi] at h
    obtain ⟨hf,hd⟩ := Option.filter_eq_some_iff.mp hi
    exact ingestReusedIdentity_case hf (by simpa using hd) h
  | none =>
    rw [hi] at h
    cases hk : db.evidenceKey? (evidenceFingerprint e) with
    | some row =>
      simp only [Tx.reads_bind,hk] at h
      exact ingestKnown_case hk h
    | none =>
      simp only [Tx.reads_bind,hk,Tx.bind_eq_ok] at h
      obtain ⟨b,_,hb,h⟩ := h
      obtain ⟨rfl,hseen⟩ := semanticDuplicateExists_ok hb
      have hn := identityRow_none hi hk
      cases b with
      | false => exact ingestNew_case hn (by simpa using h)
      | true =>
        simp only [if_true,ingestSemanticDuplicate,Tx.bind_eq_ok,insertEvidenceKey_eq_ok,
          insertObservation_eq_ok,Tx.pure_eq_ok] at h
        obtain ⟨_,_,⟨-,rfl⟩,_,_,⟨-,rfl⟩,s,_,hs,rfl,rfl⟩ := h
        obtain ⟨r,hr,rfl,rfl⟩ := currentStatus_ok hs
        exact .suppressed r hn hr (hseen rfl)

theorem ingestInTx_evolves {P : BrokerOrder → TransitionRequest → Prop}
    (hp : ∀ row, identityRow e db = none → db.order? e.key = some row →
      (∃ r, transitionInTx e.key (mergeRequest e) db = .ok r) → P row (mergeRequest e))
    (h : ingestInTx e db = .ok (res,db')) : Evolves P db db' := by
  cases ingest_cases h with
  | reused row rows events _ _ hw => exact hw P
  | known => exact .of_eq rfl rfl
  | knownConflict => exact .of_eq rfl rfl
  | suppressed => exact .of_eq rfl rfl
  | applied o db₁ hn hm =>
    exact (transitionInTx_evolves (fun r hr => hp r hn hr ⟨_,hm⟩) hm).before rfl rfl
  | conflict err reason filled _ _ _ _ hm => exact (markConflictInTx_evolves hm).after rfl rfl

end

/-- An exception other than the one that `ingest` raises after its commit. -/
def PyError.inner (err : PyError) : Prop := ∀ reason, err ≠ .brokerEvidenceConflict reason

section raised

theorem effectiveFill_inner {ctx : OrderContext} {req : TransitionRequest} {err : PyError}
    (h : effectiveFill ctx req = .error err) : err.inner := by
  unfold effectiveFill at h
  cases hf : req.filledQuantity with
  | none => simp [hf] at h
  | some f =>
    rw [hf] at h
    obtain rfl | h := refuse_eq_error h
    · intro reason
      simp
    · cases hn : normalizeBrokerStatus req.target (max ctx.filledQuantity f) ctx.quantity with
      | ok st => simp [hn,Except.map] at h
      | error err' =>
        obtain rfl : err' = err := by simpa [hn,Except.map] using h
        have hcheck : ∃ check, err' = .invalidFilledQuantity check := by
          unfold normalizeBrokerStatus at hn
          obtain hn | hn := refuse_eq_error hn
          · exact ⟨_,hn⟩
          obtain hn | hn := refuse_eq_error hn
          · exact ⟨_,hn⟩
          obtain hn | hn := refuse_eq_error hn
          · exact ⟨_,hn⟩
          split at hn
          · split at hn
            · cases hn
            · split at hn
              · cases hn
              · obtain hn | hn := refuse_eq_error hn
                · exact ⟨_,hn⟩
                · cases hn
          · cases hn
        obtain ⟨check,rfl⟩ := hcheck
        intro reason
        simp

theorem nextStatus_inner {ctx : OrderContext} {req : TransitionRequest} {filled : Int}
    {target : OrderStatus} {err : PyError} (h : nextStatus ctx req filled target = .error err) :
    err.inner := by
  intro reason
  unfold nextStatus at h
  split at h
  · obtain rfl | h := refuse_eq_error h
    · simp
    obtain rfl | h := refuse_eq_error h
    · simp
    · cases h
  · cases ht : transition ctx.status target with
    | none =>
      simp only [ht,Except.error.injEq] at h
      simp [← h]
    | some o => simp [ht] at h

theorem planTransition_inner {c : String} {ctx : OrderContext} {req : TransitionRequest}
    {err : PyError} (h : planTransition c ctx req = .error err) : err.inner := by
  unfold planTransition at h
  obtain rfl | h := refuse_eq_error h
  · intro reason
    simp
  obtain rfl | h := refuse_eq_error h
  · intro reason
    simp
  cases he : effectiveFill ctx req with
  | error err' =>
    obtain rfl : err' = err := by simpa [he,bind,Except.bind] using h
    exact effectiveFill_inner he
  | ok p =>
    cases hn : nextStatus ctx req p.1 p.2 with
    | error err' =>
      obtain rfl : err' = err := by simpa [he,hn,bind,Except.bind] using h
      exact nextStatus_inner hn
    | ok o => simp [he,hn,bind,Except.bind,pure,Except.pure] at h

theorem conflictFill_inner {ctx : OrderContext} {filled : Option Int} {err : PyError}
    (h : conflictFill ctx filled = .error err) : err.inner := by
  unfold conflictFill at h
  cases filled with
  | none => simp at h
  | some f =>
    obtain rfl | h := refuse_eq_error h
    · intro reason
      simp
    · cases h

theorem mergeConflict_inner {e : BrokerEvidenceV1} {err err' : PyError} (herr : err.inner)
    (h : mergeConflict e err = .error err') : err'.inner := by
  cases err <;> simp only [mergeConflict,Except.error.injEq,reduceCtorEq] at h <;>
    exact h ▸ herr

theorem fetch_raises {α : Type} (k : OrderKey) (select : Db → Option α) :
    Tx.Raises PyError.inner (fetch k select) := by
  intro db err h reason
  unfold fetch at h
  cases hs : select db with
  | none =>
    simp only [hs,Except.error.injEq] at h
    simp [← h]
  | some a => simp [hs] at h

theorem currentStatus_raises (k : OrderKey) : Tx.Raises PyError.inner (currentStatus k) := by
  intro db err h reason
  unfold currentStatus at h
  cases hs : db.order? k with
  | none =>
    simp only [hs,Except.error.injEq] at h
    simp [← h]
  | some a => simp [hs] at h

theorem requireIntent_raises (k : OrderKey) (table : String) :
    Tx.Raises PyError.inner (requireIntent k table) :=
  Tx.raises_bind (Tx.raises_reads _) fun _ _ _ _ => Tx.raises_raiseIf fun _ => by simp

theorem insertEvent_raises (row : OrderEvent) : Tx.Raises PyError.inner (insertEvent row) :=
  Tx.raises_bind (requireIntent_raises _ _) fun _ _ _ _ => Tx.raises_writes _

theorem insertObservation_raises (row : Observation) :
    Tx.Raises PyError.inner (insertObservation row) :=
  Tx.raises_bind (requireIntent_raises _ _) fun _ _ _ _ => Tx.raises_writes _

theorem insertEvidenceKey_raises (row : EvidenceKey) :
    Tx.Raises PyError.inner (insertEvidenceKey row) :=
  Tx.raises_bind (Tx.raises_reads _) fun _ _ _ _ =>
    Tx.raises_bind (Tx.raises_raiseIf fun _ => by simp) fun _ _ _ _ => Tx.raises_writes _

theorem transitionInTx_raises (k : OrderKey) (req : TransitionRequest) :
    Tx.Raises PyError.inner (transitionInTx k req) :=
  Tx.raises_bind (fetch_raises _ _) fun _ _ _ _ =>
    Tx.raises_bind (Tx.raises_ofExcept fun _ h => planTransition_inner h) fun _ _ _ _ =>
      Tx.raises_bind (Tx.raises_writes _) fun _ _ _ _ =>
        Tx.raises_bind (insertEvent_raises _) fun _ _ _ _ => Tx.raises_pure _

theorem markConflictInTx_raises (k : OrderKey) (filled : Option Int) :
    Tx.Raises PyError.inner (markBrokerConflictManualReviewInTx k filled) :=
  Tx.raises_bind (fetch_raises _ _) fun _ _ _ _ =>
    Tx.raises_bind (Tx.raises_ofExcept fun _ h => conflictFill_inner h) fun _ _ _ _ =>
      Tx.raises_bind (Tx.raises_writes _) fun _ _ _ _ => insertEvent_raises _

theorem semanticDuplicateExists_raises (e : BrokerEvidenceV1) :
    Tx.Raises PyError.inner (semanticDuplicateExists e) := by
  refine Tx.raises_bind (currentStatus_raises _) fun _ s _ _ => ?_
  cases transition s e.requestedStatus with
  | none => exact Tx.raises_pure _
  | some lifecycle =>
    dsimp only
    split
    · exact Tx.raises_pure _
    · exact Tx.raises_reads _

theorem ingestReusedIdentity_raises (e : BrokerEvidenceV1) (row : EvidenceKey) :
    Tx.Raises PyError.inner (ingestReusedIdentity e row) := by
  refine Tx.raises_bind (insertObservation_raises _) fun _ _ _ _ => ?_
  refine Tx.raises_bind (Tx.raises_reads _) fun _ original _ _ => ?_
  cases original with
  | none =>
    exact Tx.raises_bind (markConflictInTx_raises _ _) fun _ _ _ _ => Tx.raises_pure _
  | some k =>
    refine Tx.raises_bind (markConflictInTx_raises _ _) fun _ _ _ _ => ?_
    dsimp only
    split
    · exact Tx.raises_bind (markConflictInTx_raises _ _) fun _ _ _ _ => Tx.raises_pure _
    · exact Tx.raises_pure _

theorem ingestKnown_raises (e : BrokerEvidenceV1) (row : EvidenceKey) :
    Tx.Raises PyError.inner (ingestKnown e row) := by
  refine Tx.raises_bind (insertObservation_raises _) fun _ _ _ _ => ?_
  refine Tx.raises_bind (currentStatus_raises _) fun _ _ _ _ => ?_
  split
  · exact Tx.raises_pure _
  · exact Tx.raises_pure _

theorem ingestNew_raises (e : BrokerEvidenceV1) : Tx.Raises PyError.inner (ingestNew e) := by
  refine Tx.raises_bind Tx.raises_attempt fun db merged _ hm => ?_
  obtain ⟨o,rfl,-⟩ | ⟨err,rfl,hraise,-⟩ := Tx.attempt_eq_ok.mp hm
  · exact Tx.raises_bind (insertEvidenceKey_raises _) fun _ _ _ _ =>
      Tx.raises_bind (insertObservation_raises _) fun _ _ _ _ => Tx.raises_pure _
  · have hinner := transitionInTx_raises _ _ db err hraise
    refine Tx.raises_bind (Tx.raises_ofExcept fun _ h => mergeConflict_inner hinner h)
      fun _ _ _ _ => ?_
    exact Tx.raises_bind (insertEvidenceKey_raises _) fun _ _ _ _ =>
      Tx.raises_bind (insertObservation_raises _) fun _ _ _ _ =>
        Tx.raises_bind (markConflictInTx_raises _ _) fun _ _ _ _ => Tx.raises_pure _

/-- A conflict is only ever raised after the commit. -/
theorem ingestInTx_raises (e : BrokerEvidenceV1) : Tx.Raises PyError.inner (ingestInTx e) := by
  refine Tx.raises_bind (Tx.raises_reads _) fun _ identity _ _ => ?_
  cases identity.filter (fun row => row.fingerprint.semanticDigest ≠ e.semanticDigest) with
  | some row => exact ingestReusedIdentity_raises e row
  | none =>
    refine Tx.raises_bind (Tx.raises_reads _) fun _ known _ _ => ?_
    cases known with
    | some row => exact ingestKnown_raises e row
    | none =>
      refine Tx.raises_bind (semanticDuplicateExists_raises e) fun _ suppressed _ _ => ?_
      split
      · exact Tx.raises_bind (insertEvidenceKey_raises _) fun _ _ _ _ =>
          Tx.raises_bind (insertObservation_raises _) fun _ _ _ _ =>
            Tx.raises_bind (currentStatus_raises _) fun _ _ _ _ => Tx.raises_pure _
      · exact ingestNew_raises e

end raised
end BigQmt
