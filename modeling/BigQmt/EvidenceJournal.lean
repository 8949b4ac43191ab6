import BigQmt.Repository
set_option autoImplicit false

/-!
`oms/evidence.py`: `EvidenceJournal.ingest`. A conflict is committed first and
raised afterwards, so the transaction returns it.
-/

namespace BigQmt

open Transact Keyed

structure EvidenceIngestResult where
  fingerprint : EvidenceFingerprint
  duplicate : Bool
  status : OrderStatus
  disposition : TransitionDisposition
  deriving DecidableEq, Repr

/-- The row of `broker_evidence_keys` with the source identity of the evidence. -/
def identityRow (e : BrokerEvidenceV1) (db : Db) : Option EvidenceKey :=
  db.evidenceKeys.find? (fun r => r.fingerprint.source == e.source &&
    r.fingerprint.accountFingerprint == e.key.accountFingerprint &&
    r.fingerprint.sourceEventId == e.sourceEventId)

/-- The order of the first observation with a fingerprint. -/
def originalOrder (fp : EvidenceFingerprint) (db : Db) : Option OrderKey :=
  (db.observations.find? (fun o => evidenceFingerprint o.evidence = fp)).map
    (fun o => o.evidence.key)

def Observation.suppresses (e : BrokerEvidenceV1) (o : Observation) : Bool :=
  o.evidence.key = e.key && o.evidence.evidenceType = e.evidenceType &&
    o.evidence.requestedStatus = e.requestedStatus &&
    o.evidence.filledQuantity = e.filledQuantity &&
    o.evidence.brokerOrderId.getD "" = e.brokerOrderId.getD "" &&
    o.evidence.tradeId.getD "" = e.tradeId.getD "" &&
    o.evidence.brokerToken.getD "" = e.brokerToken.getD "" &&
    o.classification ∈ [.new,.duplicate,.semanticDuplicate]

/-- `_current_status`. -/
def currentStatus (k : OrderKey) : DbTx OrderStatus := fun db =>
  match db.order? k with
  | none => .error (.keyError k.clientOrderId)
  | some row => .ok (row.status,db)

/-- `_semantic_duplicate_exists`. -/
def semanticDuplicateExists (e : BrokerEvidenceV1) : DbTx Bool := do
  let current ← currentStatus e.key
  match transition current e.requestedStatus with
  | none => return false
  | some lifecycle =>
    if lifecycle.changed then
      return false
    else
      Tx.reads (fun db : Db => db.observations.any (Observation.suppresses e))

/-- `_filled_conflict_reason`, which tells the checks apart by their messages. -/
def filledConflictReason : FilledCheck → String
  | .outside _ _ => "filled_quantity_exceeds_order_quantity"
  | .filledBelowQuantity => "filled_status_quantity_mismatch"
  | .rejectedWithFill => "rejected_with_positive_fill"
  | .partialWithoutFill => "partial_fill_requires_positive_quantity"
  | .cancelledAtQuantity => "invalid_filled_quantity"

/-- The conflict, and the fill handed to the conflict writer, for each exception
that `ingest` catches; any other exception leaves the transaction. -/
def mergeConflict (e : BrokerEvidenceV1) : PyError → Except PyError (String × Option Int)
  | .brokerOrderIdMismatch _ _ _ => .ok ("broker_order_id_mismatch",none)
  | .brokerLifecycleConflict c =>
      .ok ("terminal_broker_fact_conflict: " ++ c.message,some e.filledQuantity)
  | .invalidFilledQuantity check => .ok (filledConflictReason check,none)
  | .invalidTransition _ _ => .ok ("illegal_state_evidence",none)
  | err => .error err

def BrokerEvidenceType.value : BrokerEvidenceType → String
  | .orderAccepted => "ORDER_ACCEPTED"
  | .partialFill => "PARTIAL_FILL"
  | .fullFill => "FULL_FILL"
  | .orderCancelled => "ORDER_CANCELLED"
  | .orderRejected => "ORDER_REJECTED"

/-- The request of `merge_broker_fact_in_tx`. -/
def mergeRequest (e : BrokerEvidenceV1) : TransitionRequest where
  target := e.requestedStatus
  eventType := "BROKER_EVIDENCE_" ++ e.evidenceType.value
  brokerOrderId := e.brokerOrderId
  filledQuantity := some e.filledQuantity
  brokerFact := true

/-- The source identity was used before for different evidence. -/
def ingestReusedIdentity (e : BrokerEvidenceV1) (identity : EvidenceKey) :
    DbTx (Except String EvidenceIngestResult) := do
  insertObservation ⟨e,.conflict⟩
  let original ← Tx.reads (originalOrder identity.fingerprint)
  match original with
  | none => markBrokerConflictManualReviewInTx e.key none
  | some k =>
    markBrokerConflictManualReviewInTx k none
    if e.key ≠ k then
      markBrokerConflictManualReviewInTx e.key none
  return .error "source_event_id_reused_with_different_evidence"

/-- The same evidence was recorded before. -/
def ingestKnown (e : BrokerEvidenceV1) (row : EvidenceKey) :
    DbTx (Except String EvidenceIngestResult) := do
  insertObservation ⟨e,if row.accepted then .duplicate else .conflictDuplicate⟩
  let current ← currentStatus e.key
  if row.accepted then
    return .ok ⟨evidenceFingerprint e,true,current,row.resultDisposition.getD .duplicateIgnored⟩
  else
    return .error (row.conflictReason.getD "previous_evidence_conflict")

def ingestSemanticDuplicate (e : BrokerEvidenceV1) :
    DbTx (Except String EvidenceIngestResult) := do
  insertEvidenceKey ⟨evidenceFingerprint e,true,some .duplicateIgnored,none⟩
  insertObservation ⟨e,.semanticDuplicate⟩
  let current ← currentStatus e.key
  return .ok ⟨evidenceFingerprint e,true,current,.duplicateIgnored⟩

def ingestConflict (e : BrokerEvidenceV1) (reason : String) (filled : Option Int) :
    DbTx (Except String EvidenceIngestResult) := do
  insertEvidenceKey ⟨evidenceFingerprint e,false,none,some reason⟩
  insertObservation ⟨e,.conflict⟩
  markBrokerConflictManualReviewInTx e.key filled
  return .error reason

def ingestNew (e : BrokerEvidenceV1) : DbTx (Except String EvidenceIngestResult) := do
  let merged ← Tx.attempt (transitionInTx e.key (mergeRequest e))
  match merged with
  | .ok outcome =>
    insertEvidenceKey ⟨evidenceFingerprint e,true,some outcome.disposition,none⟩
    insertObservation ⟨e,.new⟩
    return .ok ⟨evidenceFingerprint e,false,outcome.current,outcome.disposition⟩
  | .error err =>
    let conflict ← Tx.ofExcept (mergeConflict e err)
    ingestConflict e conflict.1 conflict.2

def ingestInTx (e : BrokerEvidenceV1) : DbTx (Except String EvidenceIngestResult) := do
  let identity ← Tx.reads (identityRow e)
  match identity.filter (fun row => row.fingerprint.semanticDigest ≠ e.semanticDigest) with
  | some row => ingestReusedIdentity e row
  | none =>
    let known ← Tx.reads (fun db : Db => db.evidenceKey? (evidenceFingerprint e))
    match known with
    | some row => ingestKnown e row
    | none =>
      let suppressed ← semanticDuplicateExists e
      if suppressed then
        ingestSemanticDuplicate e
      else
        ingestNew e

end BigQmt
