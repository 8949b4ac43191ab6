import BigQmt.Suppression
set_option autoImplicit false

/-!
One fresh fact after another: what each ingest does to the order, as a function of
its row, and the order of two facts that contradict each other.
-/

namespace BigQmt

open Transact Keyed Resumption

section
variable {e : BrokerEvidenceV1} {db db' : Db} {r : BrokerOrder} {i : IntentColumns} {q : Int}

/-- Every refusal of a fact is one of the conflicts that `ingest` catches. -/
theorem planTransition_refused {c : String} {ctx : OrderContext} {err : PyError}
    (h : planTransition c ctx (mergeRequest e) = .error err) :
    ∃ reason reported, mergeConflict e err = .ok (reason,reported) ∧
      (reported = none ∨ reported = some e.filledQuantity) := by
  unfold planTransition at h
  obtain rfl | h := refuse_eq_error h
  · exact ⟨_,_,rfl,.inl rfl⟩
  obtain rfl | h := refuse_eq_error h
  · exact ⟨_,_,rfl,.inr rfl⟩
  cases heff : effectiveFill ctx (mergeRequest e) with
  | error err' =>
    rw [heff] at h
    obtain rfl : err' = err := Except.error.inj h
    simp only [effectiveFill,mergeRequest] at heff
    obtain rfl | heff := refuse_eq_error heff
    · exact ⟨_,_,rfl,.inl rfl⟩
    · cases hnorm : normalizeBrokerStatus e.requestedStatus
          (max ctx.filledQuantity e.filledQuantity) ctx.quantity with
      | ok target => simp [hnorm,Except.map] at heff
      | error err'' =>
        obtain ⟨check,rfl⟩ := normalizeBrokerStatus_error hnorm
        simp only [hnorm,Except.map,Except.error.injEq] at heff
        subst heff
        exact ⟨_,_,rfl,.inl rfl⟩
  | ok p =>
    obtain ⟨filled,target⟩ := p
    rw [heff] at h
    cases hnext : nextStatus ctx (mergeRequest e) filled target with
    | ok o => simp [hnext,bind,Except.bind,pure,Except.pure] at h
    | error err' =>
      obtain rfl : err' = err := by simpa [hnext,bind,Except.bind] using h
      simp only [nextStatus,mergeRequest,if_true] at hnext
      obtain rfl | hnext := refuse_eq_error hnext
      · exact ⟨_,_,rfl,.inr rfl⟩
      obtain rfl | hnext := refuse_eq_error hnext
      · exact ⟨_,_,rfl,.inr rfl⟩
      · cases hnext

theorem semanticDuplicateExists_total (hr : db.order? e.key = some r) :
    ∃ b, semanticDuplicateExists e db = .ok (b,db) := by
  simp only [semanticDuplicateExists,currentStatus,bind,hr]
  cases transition r.status e.requestedStatus with
  | none => exact ⟨false,rfl⟩
  | some lifecycle =>
    dsimp only
    split
    · exact ⟨false,rfl⟩
    · exact ⟨_,rfl⟩

theorem ingestInTx_fresh {b : Bool} (hfresh : identityRow e db = none)
    (hdup : semanticDuplicateExists e db = .ok (b,db)) :
    ingestInTx e db = if b then ingestSemanticDuplicate e db else ingestNew e db := by
  rw [ingestInTx,Tx.reads_bind,hfresh]
  simp only [Option.filter_none,Tx.reads_bind,evidenceKey?_none hfresh]
  simp only [bind,hdup]
  cases b <;> rfl

theorem ingestSemanticDuplicate_eq (hr : db.order? e.key = some r)
    (hi : db.intent? e.key = some i) (hfresh : identityRow e db = none) :
    ingestSemanticDuplicate e db = .ok (.ok ⟨evidenceFingerprint e,true,r.status,.duplicateIgnored⟩,
      (db.recordKey ⟨evidenceFingerprint e,true,some .duplicateIgnored,none⟩).record e
        .semanticDuplicate) := by
  have hsource : insertEvidenceKey ⟨evidenceFingerprint e,true,some .duplicateIgnored,none⟩ db =
      .ok ((),db.recordKey ⟨evidenceFingerprint e,true,some .duplicateIgnored,none⟩) :=
    insertEvidenceKey_eq_ok.mpr ⟨sourceTaken_false hfresh,rfl⟩
  generalize hdb : db.recordKey ⟨evidenceFingerprint e,true,some .duplicateIgnored,none⟩ = db₁
    at hsource
  have hi₁ : db₁.intent? e.key = some i := by
    rw [← hdb]
    exact hi
  have hr₁ : (db₁.record e .semanticDuplicate).order? e.key = some r := by
    rw [← hdb]
    exact hr
  have hobs : insertObservation ⟨e,.semanticDuplicate⟩ db₁ =
      .ok ((),db₁.record e .semanticDuplicate) :=
    insertObservation_eq_ok.mpr ⟨by simp [hi₁],rfl⟩
  simp only [ingestSemanticDuplicate,bind,hsource,hobs,currentStatus,hr₁]
  rfl

/-- The ways in which a fact passes that contradicts no recorded source identity. -/
inductive Passing (e : BrokerEvidenceV1) (q : Int) (r : BrokerOrder) (db : Db) :
    Except String EvidenceIngestResult → Db → Prop
  | known (a : EvidenceIngestResult) (db' : Db) (recorded : identityRow e db ≠ none)
      (attested : db.attests e.semanticDigest) (order : db'.order? e.key = some r) :
      Passing e q r db (.ok a) db'
  | suppressed (a : EvidenceIngestResult) (db' : Db) (quiet : Quiet r.status e.requestedStatus)
      (seen : db.observations.any (Observation.suppresses e) = true)
      (order : db'.order? e.key = some r) : Passing e q r db (.ok a) db'
  | applied (a : EvidenceIngestResult) (db' : Db) (o : TransitionOutcome) (filled : Int)
      (plan : planTransition e.key.clientOrderId (r.context q) (mergeRequest e) = .ok (o,filled))
      (order : db'.order? e.key = some (applyTransition (mergeRequest e) o filled r)) :
      Passing e q r db (.ok a) db'
  | refused (reason : String) (db' : Db) (err : PyError)
      (plan : planTransition e.key.clientOrderId (r.context q) (mergeRequest e) = .error err)
      (review : db'.underReview e.key) : Passing e q r db (.error reason) db'

theorem ingest_fresh (hr : db.order? e.key = some r) (hi : db.intent? e.key = some i)
    (hfresh : identityRow e db = none) (hle : e.filledQuantity ≤ i.quantity) :
    ∃ res db', ingestInTx e db = .ok (res,db') ∧ Passing e i.quantity r db res db' := by
  obtain ⟨b,hdup⟩ := semanticDuplicateExists_total hr
  have hin := ingestInTx_fresh hfresh hdup
  cases b with
  | true =>
    rw [if_pos rfl,ingestSemanticDuplicate_eq hr hi hfresh] at hin
    obtain ⟨r',hr',hquiet,hseen⟩ := semanticDuplicateExists_true hdup
    obtain rfl : r = r' := Option.some.inj (hr.symm.trans hr')
    exact ⟨_,_,hin,.suppressed _ _ hquiet hseen hr⟩
  | false =>
    rw [if_neg (by simp)] at hin
    cases hplan : planTransition e.key.clientOrderId (r.context i.quantity) (mergeRequest e) with
    | ok p =>
      obtain ⟨o,filled⟩ := p
      obtain ⟨db₁,hmerge,hnew⟩ := ingestNew_applied hr hi hfresh hplan
      have horder : db₁.order? e.key = some (applyTransition (mergeRequest e) o filled r) := by
        have heq := transitionInTx_eq (mergeRequest e) hr hi
        rw [hplan,hmerge] at heq
        obtain ⟨-,rfl⟩ := Prod.mk.inj (Except.ok.inj heq)
        exact order?_updateOrder (fun _ => rfl) hr
      exact ⟨_,_,hin.trans hnew,.applied _ _ o filled hplan horder⟩
    | error err =>
      obtain ⟨reason,reported,hcaught,hreported⟩ := planTransition_refused hplan
      have hmerge := transitionInTx_eq (mergeRequest e) hr hi
      simp only [hplan] at hmerge
      obtain ⟨events,hconflict⟩ := ingestConflict_eq hr hi hfresh reason reported
      have hfill : ∃ f, conflictFill (r.context i.quantity) reported = .ok f := by
        rcases hreported with rfl | rfl
        · exact ⟨_,rfl⟩
        · exact (conflictFill_ok_iff (b := false)).mpr (.inl hle)
      obtain ⟨f,hf⟩ := hfill
      rw [hf] at hconflict
      have hnew : ingestNew e db = ingestConflict e reason reported db := by
        simp only [ingestNew,bind,Tx.attempt,hmerge,Tx.ofExcept,hcaught,Except.map]
      refine ⟨_,_,(hin.trans hnew).trans hconflict,.refused reason _ err hplan ?_⟩
      exact ⟨markConflict f r,order?_updateOrder (fun _ => rfl) hr,rfl⟩

end

section
variable {e : BrokerEvidenceV1} {r : BrokerOrder} {q : Int} {c : String}

/-- When a fact merges, with the status and the fill that it asks for. -/
theorem planTransition_ok_iff : (∃ p, planTransition c (r.context q) (mergeRequest e) = .ok p) ↔
    idMismatch r.brokerOrderId e.brokerOrderId = false ∧
      terminalClash r.status e.requestedStatus = false ∧ e.filledQuantity ≤ q ∧
      ∃ target, normalizeBrokerStatus e.requestedStatus (max r.filledQuantity e.filledQuantity) q =
          .ok target ∧ terminalClash r.status target = false ∧
        ¬ (r.status ∈ [OrderStatus.cancelled,.rejected] ∧
          r.filledQuantity < max r.filledQuantity e.filledQuantity) := by
  constructor
  · rintro ⟨⟨o,filled⟩,h⟩
    obtain ⟨target,hm⟩ := planTransition_merged h
    obtain ⟨-,hclash,-⟩ := planTransition_ok h
    have hfill := hm.fill
    subst hfill
    exact ⟨hm.ids,by simpa [mergeRequest,BrokerOrder.context] using hclash,hm.range,target,hm.normal,
      hm.clash,hm.gain⟩
  · rintro ⟨hid,hclash,hle,target,hnorm,hclash',hgain⟩
    have hlow : ¬ e.filledQuantity < 0 := not_lt.mpr e.filledQuantity_nonneg
    have hhigh : ¬ q < e.filledQuantity := not_lt.mpr hle
    refine ⟨(aggregateBrokerStatus r.status target,max r.filledQuantity e.filledQuantity),?_⟩
    have heff : effectiveFill (r.context q) (mergeRequest e) =
        .ok (max r.filledQuantity e.filledQuantity,target) := by
      simp [effectiveFill,mergeRequest,BrokerOrder.context,refuse,hlow,hhigh,hnorm,Except.map]
    have hnext : nextStatus (r.context q) (mergeRequest e)
        (max r.filledQuantity e.filledQuantity) target = .ok (aggregateBrokerStatus r.status target) := by
      refine refuse_eq_ok.mpr ⟨hclash',refuse_eq_ok.mpr ⟨?_,rfl⟩⟩
      simp only [Bool.and_eq_false_iff,decide_eq_false_iff_not]
      exact not_and_or.mp hgain
    simp only [planTransition,heff,hnext,bind,Except.bind,pure,Except.pure]
    simp [refuse,BrokerOrder.context,mergeRequest,hid,hclash]

/-- A fact that an order without a fill takes, with the status it then has. -/
inductive Alone (q : Int) (e : BrokerEvidenceV1) : OrderStatus → Prop
  | accepted (kind : e.requestedStatus = .acknowledged) (fill : e.filledQuantity = 0) :
      Alone q e .acknowledged
  | partly (kind : e.requestedStatus = .partiallyFilled) (pos : 0 < e.filledQuantity)
      (below : e.filledQuantity < q) : Alone q e .partiallyFilled
  | filled (kind : e.requestedStatus ∈ [OrderStatus.partiallyFilled,.filled])
      (fill : e.filledQuantity = q) : Alone q e .filled
  | cancelled (kind : e.requestedStatus = .cancelled) (below : e.filledQuantity < q) :
      Alone q e .cancelled
  | rejected (kind : e.requestedStatus = .rejected) (fill : e.filledQuantity = 0) :
      Alone q e .rejected

theorem accepted_fill (hreq : e.requestedStatus = .acknowledged) : e.filledQuantity = 0 := by
  have hcheck := e.typeCheck_ok
  rw [e.requestedStatus_eq] at hreq
  unfold EvidenceFields.typeCheck at hcheck
  cases ht : e.evidenceType <;> simp_all [BrokerEvidenceType.status]

theorem alone_of_merged {o : TransitionOutcome} {filled : Int} {target : OrderStatus} (hq : 0 < q)
    (hst : r.status ∈ [OrderStatus.unknown,.reconciling]) (hfill : r.filledQuantity = 0)
    (h : Merged q r e o filled target) :
    Alone q e target ∧ o.current = target ∧ filled = e.filledQuantity := by
  have hnonneg := e.filledQuantity_nonneg
  have hmax : filled = e.filledQuantity := by
    rw [h.fill,hfill]
    exact max_eq_right hnonneg
  have hcur : o.current = target := by
    rw [h.current]
    simp only [List.mem_cons,List.not_mem_nil,or_false] at hst
    rcases hst with hs | hs <;> simp [brokerNext,hs,OrderStatus.brokerTerminal]
  refine ⟨?_,hcur,hmax⟩
  have hnorm := h.normal
  have hle := h.range
  rw [hmax] at hnorm
  have hreq := requestedStatus_cases e
  simp only [List.mem_cons,List.not_mem_nil,or_false] at hreq
  obtain ⟨hfilled,hrej,hcan,⟨rfl,hlive⟩ | ⟨hlive,⟨hfull,rfl⟩ | ⟨hne,hpos,rfl⟩⟩⟩ :=
    normalizeBrokerStatus_cases hnorm
  · rcases hreq with hs | hs | hs | hs | hs
    · rw [hs]
      exact .accepted hs (accepted_fill hs)
    · rw [hs]
      have hne := hlive (by simp [hs])
      exact .partly hs (partialFill_pos hs) (by omega)
    · rw [hs]
      exact .filled (by simp [hs]) (hfilled hs)
    · rw [hs]
      have hne := hcan hs
      exact .cancelled hs (by omega)
    · rw [hs]
      exact .rejected hs (hrej hs)
  · simp only [List.mem_cons,List.not_mem_nil,or_false] at hlive
    rcases hlive with hs | hs
    · have hzero := accepted_fill hs
      omega
    · exact .filled (by simp [hs]) hfull
  · simp only [List.mem_cons,List.not_mem_nil,or_false] at hlive
    rcases hlive with hs | hs
    · have hzero := accepted_fill hs
      omega
    · exact .partly hs hpos (by omega)

/-- Whether a fact with this status and fill agrees with the one that came before. -/
def Agrees (st : OrderStatus) (f : Int) (st' : OrderStatus) (f' : Int) : Prop :=
  (st = st' ∧ (st = .cancelled → f' ≤ f)) ∨ st = .acknowledged ∨ st' = .acknowledged ∨
    (st = .partiallyFilled ∧ st' ∈ [OrderStatus.filled,.cancelled]) ∨
    (st = .filled ∧ st' = .partiallyFilled) ∨
    (st = .cancelled ∧ st' = .partiallyFilled ∧ f' ≤ f)

end

section
variable {st c : OrderStatus} {m q : Int} {G : Prop}

theorem live_ok_iff (hst : st ∈ [OrderStatus.acknowledged,.partiallyFilled])
    (hpos : st = .partiallyFilled → 0 < m) :
    (∃ t, normalizeBrokerStatus st m q = .ok t ∧ terminalClash c t = false ∧ G) ↔
      (m = q → terminalClash c .filled = false) ∧ G := by
  by_cases hm : m = q
  · have hnorm : normalizeBrokerStatus st m q = .ok .filled := by
      simp only [List.mem_cons,List.not_mem_nil,or_false] at hst
      rcases hst with rfl | rfl <;> simp [normalizeBrokerStatus,refuse,hm]
    simp only [hnorm]
    simp [hm]
  · have hlive : terminalClash c (if 0 < m then .partiallyFilled else .acknowledged) = false := by
      apply terminalClash_of_live
      split <;> rfl
    simp [normalize_live hst hm hpos,hm,hlive]

theorem filled_ok_iff : (∃ t, normalizeBrokerStatus .filled m q = .ok t ∧
    terminalClash c t = false ∧ G) ↔ m = q ∧ terminalClash c .filled = false ∧ G := by
  by_cases hm : m = q <;> simp [normalizeBrokerStatus,refuse,hm]

theorem cancelled_ok_iff : (∃ t, normalizeBrokerStatus .cancelled m q = .ok t ∧
    terminalClash c t = false ∧ G) ↔ m ≠ q ∧ terminalClash c .cancelled = false ∧ G := by
  by_cases hm : m = q <;> simp [normalizeBrokerStatus,refuse,hm]

theorem rejected_ok_iff : (∃ t, normalizeBrokerStatus .rejected m q = .ok t ∧
    terminalClash c t = false ∧ G) ↔ m = 0 ∧ terminalClash c .rejected = false ∧ G := by
  by_cases hm : m = 0 <;> simp [normalizeBrokerStatus,refuse,hm]
end


/-- The lifecycle checks of the merge, for a fact that comes second. -/
theorem agrees_iff {e e₁ : BrokerEvidenceV1} {q : Int} {st st' : OrderStatus} (hq : 0 < q)
    (h₁ : Alone q e₁ st) (h₂ : Alone q e st') :
    (terminalClash st e.requestedStatus = false ∧ e.filledQuantity ≤ q ∧
      ∃ target, normalizeBrokerStatus e.requestedStatus (max e₁.filledQuantity e.filledQuantity) q =
          .ok target ∧ terminalClash st target = false ∧
        ¬ (st ∈ [OrderStatus.cancelled,.rejected] ∧
          e₁.filledQuantity < max e₁.filledQuantity e.filledQuantity)) ↔
        Agrees st e₁.filledQuantity st' e.filledQuantity := by
  have hn₁ := e₁.filledQuantity_nonneg
  cases h₂ with
  | accepted hk hf =>
    rw [hk,live_ok_iff (by simp) (by simp),hf,max_eq_left hn₁]
    cases h₁ <;> simp [terminalClash,OrderStatus.brokerTerminal,Agrees] <;> omega
  | partly hk hpos hlt =>
    rw [hk,live_ok_iff (by simp) (by omega)]
    cases h₁ <;> simp [terminalClash,OrderStatus.brokerTerminal,Agrees] <;> omega
  | filled hk hf =>
    simp only [List.mem_cons,List.not_mem_nil,or_false] at hk
    rcases hk with hk | hk
    · rw [hk,live_ok_iff (by simp) (by omega)]
      cases h₁ <;> simp [terminalClash,OrderStatus.brokerTerminal,Agrees] <;> omega
    · rw [hk,filled_ok_iff]
      cases h₁ <;> simp [terminalClash,OrderStatus.brokerTerminal,Agrees] <;> omega
  | cancelled hk hlt =>
    rw [hk,cancelled_ok_iff]
    cases h₁ <;> simp [terminalClash,OrderStatus.brokerTerminal,Agrees] <;> omega
  | rejected hk hf =>
    rw [hk,rejected_ok_iff]
    cases h₁ <;> simp [terminalClash,OrderStatus.brokerTerminal,Agrees] <;> omega

/-- The second fact merges exactly when the broker ids fit and it agrees with the first. -/
theorem second_ok_iff {e e₁ : BrokerEvidenceV1} {r : BrokerOrder} {q : Int} {c : String}
    {st st' : OrderStatus} (hq : 0 < q) (h₁ : Alone q e₁ st) (h₂ : Alone q e st')
    (hst : r.status = st) (hfill : r.filledQuantity = e₁.filledQuantity) :
    (∃ p, planTransition c (r.context q) (mergeRequest e) = .ok p) ↔
      idMismatch r.brokerOrderId e.brokerOrderId = false ∧
        Agrees st e₁.filledQuantity st' e.filledQuantity := by
  rw [planTransition_ok_iff,hst,hfill,agrees_iff hq h₁ h₂]

/-- A cancellation, and a larger fill below the quantity of the same broker order. -/
def LateFill (q : Int) (e₁ e₂ : BrokerEvidenceV1) : Prop :=
  e₁.requestedStatus = .cancelled ∧ e₂.requestedStatus ∈ [.partiallyFilled,.cancelled] ∧
    e₁.filledQuantity < e₂.filledQuantity ∧ e₂.filledQuantity < q ∧
    e₁.brokerOrderId = e₂.brokerOrderId

section
variable {e e₁ e₂ : BrokerEvidenceV1} {q : Int} {st₁ st₂ : OrderStatus} {stored : Option String}

theorem brokerOrderId_isSome (hreq : e.requestedStatus ≠ .rejected) :
    ∃ b, e.brokerOrderId = some b := by
  have hcheck := e.typeCheck_ok
  rw [e.requestedStatus_eq] at hreq
  unfold EvidenceFields.typeCheck at hcheck
  rw [← Option.isSome_iff_exists]
  cases ht : e.evidenceType <;> simp_all [BrokerEvidenceType.status,Option.isSome_iff_ne_none]

theorem idMismatch_comm (h₁ : idMismatch stored e₁.brokerOrderId = false)
    (h₂ : idMismatch stored e₂.brokerOrderId = false) :
    idMismatch (stored.or e₂.brokerOrderId) e₁.brokerOrderId =
      idMismatch (stored.or e₁.brokerOrderId) e₂.brokerOrderId := by
  cases hs : stored with
  | some s =>
    rw [hs] at h₁ h₂
    simp [h₁,h₂]
  | none =>
    cases hb₁ : e₁.brokerOrderId <;> cases hb₂ : e₂.brokerOrderId <;> simp [idMismatch,bne_comm]

/-- The order of two facts matters exactly for a fill after the cancellation. -/
theorem agrees_comm_iff (h₁ : Alone q e₁ st₁) (h₂ : Alone q e₂ st₂)
    (hids : e₁.requestedStatus ≠ .rejected → e₂.requestedStatus ≠ .rejected →
      e₁.brokerOrderId = e₂.brokerOrderId) :
    (Agrees st₁ e₁.filledQuantity st₂ e₂.filledQuantity ↔
      Agrees st₂ e₂.filledQuantity st₁ e₁.filledQuantity) ↔
      ¬ (LateFill q e₁ e₂ ∨ LateFill q e₂ e₁) := by
  cases h₁ <;> cases h₂ <;> simp_all [Agrees,LateFill] <;> omega

end

/-- A database with the order, and a journal that its rows bear out. -/
structure Ready (k : OrderKey) (i : IntentColumns) (db : Db) : Prop where
  wf : db.Wf
  journal : Attests db
  intent : db.intent? k = some i

/-- The transaction gets the write slot, and its lease is held. -/
structure Guard.Admits (g : Guard) (db : Db) (c : Choice) : Prop where
  unlocked : c.fault = none
  leader : g.check c.now db = .ok ()

/-- The source identity was not used for another fact, and not for a refused one. -/
def Admitted (e : BrokerEvidenceV1) (db : Db) : Prop :=
  (identityRow e db).filter (fun row => row.fingerprint.semanticDigest ≠ e.semanticDigest) = none ∧
    ∀ row, db.evidenceKey? (evidenceFingerprint e) = some row → row.accepted = true

section
variable {g : Guard} {c : Choice} {k : OrderKey} {i : IntentColumns} {db db' : Db}
variable {e e' : BrokerEvidenceV1} {r : BrokerOrder} {res : Except String EvidenceIngestResult}

theorem Ready.after (h : Ready k i db) (hin : ingestInTx e db = .ok (res,db')) :
    Ready k i db' := by
  have hev : Evolves (fun _ _ => True) db db' := ingestInTx_evolves (fun _ _ _ _ => trivial) hin
  exact ⟨hev.wf h.wf,h.journal.ingest h.wf hin,hev.intents k i h.intent⟩

theorem Guard.Admits.after (h : g.Admits db c) (hin : ingestInTx e db = .ok (res,db')) :
    g.Admits db' c := by
  refine ⟨h.unlocked,?_⟩
  have hleader : db'.omsLeader = db.omsLeader := ingest_leader hin
  have hcheck := h.leader
  simp only [Guard.check,assertHeld] at hcheck ⊢
  rw [hleader]
  exact hcheck

theorem Guard.Admits.ingest_eq (h : g.Admits db c) (hin : ingestInTx e db = .ok (res,db')) :
    EvidenceJournal.ingest g e c db = (res.mapError .brokerEvidenceConflict,db') := by
  rw [EvidenceJournal.ingest_eq h.unlocked h.leader,hin]

theorem ingestReusedIdentity_error {row : EvidenceKey} {a : EvidenceIngestResult} :
    ingestReusedIdentity e row db ≠ .ok (.ok a,db') := by
  intro h
  simp only [ingestReusedIdentity,Tx.bind_eq_ok] at h
  obtain ⟨_,_,-,original,_,-,h⟩ := h
  cases original with
  | none =>
    simp only [Tx.bind_eq_ok,Tx.pure_eq_ok] at h
    obtain ⟨_,_,-,hres,-⟩ := h
    cases hres
  | some k' =>
    by_cases hk : e.key ≠ k'
    · simp only [hk,if_true,ne_eq,not_false_eq_true,Tx.bind_eq_ok,Tx.pure_eq_ok] at h
      obtain ⟨_,_,-,_,_,-,hres,-⟩ := h
      cases hres
    · simp only [hk,if_false,Tx.bind_eq_ok,Tx.pure_eq_ok] at h
      obtain ⟨_,_,-,hres,-⟩ := h
      cases hres

/-- Evidence that is accepted has such a source identity. -/
theorem Admitted.of_accepted {a : EvidenceIngestResult}
    (h : ingestInTx e db = .ok (.ok a,db')) : Admitted e db := by
  rw [ingestInTx,Tx.reads_bind] at h
  cases hi : (identityRow e db).filter
      (fun row => row.fingerprint.semanticDigest ≠ e.semanticDigest) with
  | some row =>
    rw [hi] at h
    exact absurd h ingestReusedIdentity_error
  | none =>
    refine ⟨hi,fun row hrow => ?_⟩
    rw [hi] at h
    simp only [Tx.reads_bind,hrow,ingestKnown,Tx.bind_eq_ok] at h
    obtain ⟨_,_,-,_,_,-,h⟩ := h
    by_contra hno
    simp only [hno,if_false,Tx.pure_eq_ok] at h
    cases h.1

/-- An ingest records at most its own source identity. -/
theorem ingest_keys (hin : ingestInTx e db = .ok (res,db')) :
    db'.evidenceKeys = db.evidenceKeys ∨ ∃ row : EvidenceKey,
      row.fingerprint = evidenceFingerprint e ∧ db'.evidenceKeys = db.evidenceKeys ++ [row] := by
  cases ingest_cases hin with
  | reused row rows events _ _ _ => exact .inl rfl
  | known => exact .inl rfl
  | knownConflict => exact .inl rfl
  | suppressed => exact .inr ⟨_,rfl,rfl⟩
  | applied o db₁ hn hm =>
    have hj : SameJournal db db₁ := journalFrame.transitionInTx_moves _ _ db o db₁ hm
    have hkeys : db₁.evidenceKeys = db.evidenceKeys := (Prod.mk.inj hj).1
    refine .inr ⟨⟨evidenceFingerprint e,true,some o.disposition,none⟩,rfl,?_⟩
    change db₁.evidenceKeys ++ _ = _
    rw [hkeys]
  | conflict err reason filled _ _ _ _ hm =>
    have hj := journalFrame.markConflictInTx_moves _ _ _ _ _ hm
    exact .inr ⟨⟨evidenceFingerprint e,false,none,some reason⟩,rfl,(Prod.mk.inj hj).1⟩

theorem identityRow_kept (hin : ingestInTx e db = .ok (res,db'))
    (hne : (evidenceFingerprint e').identity ≠ (evidenceFingerprint e).identity) :
    identityRow e' db' = identityRow e' db := by
  obtain hkeys | ⟨row,hrow,hkeys⟩ := ingest_keys hin
  · rw [identityRow,identityRow,hkeys]
  · have hno : (row.fingerprint.source == e'.source &&
        row.fingerprint.accountFingerprint == e'.key.accountFingerprint &&
        row.fingerprint.sourceEventId == e'.sourceEventId) = false := by
      rw [Bool.eq_false_iff,hrow]
      intro hyes
      simp only [Bool.and_eq_true,beq_iff_eq] at hyes
      refine hne ?_
      simp only [EvidenceFingerprint.identity,evidenceFingerprint] at hyes ⊢
      simp [hyes]
    simp only [identityRow,hkeys,List.find?_append,List.find?_cons,List.find?_nil,hno]
    simp

theorem evidenceKey?_kept (hin : ingestInTx e db = .ok (res,db'))
    (hne : (evidenceFingerprint e').identity ≠ (evidenceFingerprint e).identity) :
    db'.evidenceKey? (evidenceFingerprint e') = db.evidenceKey? (evidenceFingerprint e') := by
  obtain hkeys | ⟨row,hrow,hkeys⟩ := ingest_keys hin
  · rw [Db.evidenceKey?,Db.evidenceKey?,hkeys]
  · have hno : row.fingerprint ≠ evidenceFingerprint e' := by
      rw [hrow]
      intro heq
      exact hne (by rw [heq])
    simp [Db.evidenceKey?,find,hkeys,List.find?_append,hno]

/-- A fact stays admitted when another source identity is written. -/
theorem Admitted.after (hadm : Admitted e' db) (hin : ingestInTx e db = .ok (res,db'))
    (hne : (evidenceFingerprint e').identity ≠ (evidenceFingerprint e).identity) :
    Admitted e' db' :=
  ⟨identityRow_kept hin hne ▸ hadm.1,evidenceKey?_kept hin hne ▸ hadm.2⟩

theorem identity_ne (hne : e'.sourceEventId ≠ e.sourceEventId) :
    (evidenceFingerprint e').identity ≠ (evidenceFingerprint e).identity := by
  intro heq
  simp only [EvidenceFingerprint.identity,evidenceFingerprint,Prod.mk.injEq] at heq
  exact hne heq.2.2

theorem ingest_admitted (hi : db.intent? e.key = some i) (hdb : Attests db)
    (hr : db.order? e.key = some r) (hadm : Admitted e db)
    (hle : e.filledQuantity ≤ i.quantity) :
    ∃ res db', ingestInTx e db = .ok (res,db') ∧ Passing e i.quantity r db res db' := by
  cases hkey : db.evidenceKey? (evidenceFingerprint e) with
  | none =>
    exact ingest_fresh hr hi (identityRow_none hadm.1 hkey) hle
  | some row =>
    have ha := hadm.2 row hkey
    have hknown : ∃ a, ingestInTx e db = .ok (.ok a,db.record e .duplicate) := by
      have hobs : insertObservation ⟨e,.duplicate⟩ db = .ok ((),db.record e .duplicate) :=
        insertObservation_eq_ok.mpr ⟨by simp [hi],rfl⟩
      have hr' : (db.record e .duplicate).order? e.key = some r := hr
      rw [ingestInTx,Tx.reads_bind,hadm.1]
      simp only [Tx.reads_bind,hkey]
      simp only [ingestKnown,bind,ha,if_true,hobs,currentStatus,hr']
      exact ⟨_,rfl⟩
    obtain ⟨a,hin⟩ := hknown
    have hfact : db.attests e.semanticDigest := by
      have hkept := hdb.keys row (find_mem hkey) ha
      have hfp : row.fingerprint = evidenceFingerprint e := find_key hkey
      rw [hfp] at hkept
      exact hkept
    have hrecorded : identityRow e db ≠ none := fun hnone => by
      rw [evidenceKey?_none hnone] at hkey
      cases hkey
    exact ⟨.ok a,_,hin,.known a _ hrecorded hfact hr⟩

end

section
variable {e : BrokerEvidenceV1} {q : Int} {r : BrokerOrder} {c : String}

/-- A fact that the row bears out is never refused. -/
theorem Attested.merges (hatt : Attested q e.semanticDigest r) (hbound : FillBounded q r)
    (hst : r.status ≠ .manualReview) :
    ∃ p, planTransition c (r.context q) (mergeRequest e) = .ok p := by
  have hfill : e.filledQuantity ≤ r.filledQuantity := hatt.fill
  have hmax : max r.filledQuantity e.filledQuantity = r.filledQuantity := max_eq_left hfill
  have hle : e.filledQuantity ≤ q := hfill.trans hbound.le
  rw [planTransition_ok_iff,hmax]
  by_cases hterm : e.requestedStatus.brokerTerminal = true
  · rcases hatt.terminal hterm with hs | ⟨hs,hnorm⟩
    · exact absurd hs hst
    · have hclash : terminalClash r.status e.requestedStatus = false := by
        have hs' : r.status = e.requestedStatus := hs
        simp [terminalClash,hs']
      exact ⟨hatt.ids.1,hclash,hle,_,hnorm,hclash,by simp⟩
  · have hlive : e.requestedStatus ∈ [OrderStatus.acknowledged,.partiallyFilled] := by
      have hcases := requestedStatus_cases e
      cases hs : e.requestedStatus <;> simp_all [OrderStatus.brokerTerminal]
    refine ⟨hatt.ids.1,terminalClash_of_live (by simpa using hterm),hle,?_⟩
    rw [live_ok_iff hlive fun hs => (partialFill_pos hs).trans_le hfill]
    refine ⟨fun hfull => ?_,by simp⟩
    rcases hbound.full hfull with hs | hs
    · simp [terminalClash,hs]
    · exact absurd hs hst

theorem Merged.not_review {o : TransitionOutcome} {filled : Int} {target : OrderStatus}
    (h : Merged q r e o filled target) (hst : r.status ≠ .manualReview) :
    o.current ≠ .manualReview := by
  have htarget := h.target_cases
  rw [h.current]
  unfold brokerNext
  split
  · exact hst
  · split
    · exact hst
    · split
      · exact hst
      · intro ht
        simp [ht] at htarget

end

section
variable {g : Guard} {c : Choice} {i : IntentColumns} {db db' : Db} {e : BrokerEvidenceV1}
variable {r : BrokerOrder} {res : Except String EvidenceIngestResult}

/-- An order ends under review exactly when the merge of the fact is refused. -/
theorem Passing.review_iff (h : Passing e i.quantity r db res db') (hdb : Attests db)
    (hr : db.order? e.key = some r) (hi : db.intent? e.key = some i)
    (hst : r.status ≠ .manualReview) :
    db'.underReview e.key ↔
      ¬ ∃ p, planTransition e.key.clientOrderId (r.context i.quantity) (mergeRequest e) = .ok p := by
  have hbound := hdb.bounded e.key r i hr hi
  have hsame : ∀ {row : BrokerOrder}, db'.order? e.key = some row → row.status ≠ .manualReview →
      ¬ db'.underReview e.key := by
    rintro row hrow hne ⟨row',hrow',hs⟩
    obtain rfl : row = row' := Option.some.inj (hrow.symm.trans hrow')
    exact hne hs
  have hkept : ∀ {f : SemanticFact}, f = e.semanticDigest → db.attests f →
      ∃ p, planTransition e.key.clientOrderId (r.context i.quantity) (mergeRequest e) = .ok p := by
    rintro f rfl ⟨r',i',hr',hi',hatt⟩
    obtain rfl : r = r' := Option.some.inj (hr.symm.trans hr')
    obtain rfl : i = i' := Option.some.inj (hi.symm.trans hi')
    exact hatt.merges hbound hst
  cases h with
  | known a _ hrec hfact hord => simp [hsame hord hst,hkept rfl hfact]
  | suppressed a _ hquiet hseen hord => simp [hsame hord hst,hkept rfl (hdb.suppressed hseen)]
  | applied a _ o filled hplan hord =>
    obtain ⟨target,hm⟩ := planTransition_merged hplan
    have hne : (applyTransition (mergeRequest e) o filled r).status ≠ .manualReview := by
      rw [applyTransition_status hplan]
      exact hm.not_review hst
    simp [hsame hord hne,hplan]
  | refused reason _ err hplan hreview => simp [hreview,hplan]

/-- The row after a fact that a fresh order took: its status, fill and broker id are the
fact's, or the fact is an acceptance that was recorded before. -/
def Takes (e : BrokerEvidenceV1) (st : OrderStatus) (r r' : BrokerOrder) : Prop :=
  (r'.status = st ∧ r'.filledQuantity = e.filledQuantity ∧
      r'.brokerOrderId = r.brokerOrderId.or e.brokerOrderId) ∨
    (r' = r ∧ st = .acknowledged ∧ r.brokerOrderId.or e.brokerOrderId = r.brokerOrderId)

/-- What an order without a fill bears out is an acceptance. -/
theorem Attested.accepted {q : Int} (hatt : Attested q e.semanticDigest r)
    (hst : r.status ∈ [OrderStatus.unknown,.reconciling]) (hfill : r.filledQuantity = 0) :
    Alone q e .acknowledged := by
  have hle : e.filledQuantity ≤ r.filledQuantity := hatt.fill
  have hlive : e.requestedStatus.brokerTerminal = false := by
    rw [Bool.eq_false_iff]
    intro hterm
    have hterm' := hterm
    rcases hatt.terminal hterm with hs | ⟨hs,-⟩
    · simp [hs] at hst
    · have hs' : r.status = e.requestedStatus := hs
      rw [← hs'] at hterm'
      simp only [List.mem_cons,List.not_mem_nil,or_false] at hst
      rcases hst with hst | hst <;> simp [hst,OrderStatus.brokerTerminal] at hterm'
  have hcases := requestedStatus_cases e
  have hreq : e.requestedStatus = .acknowledged := by
    by_contra hne
    have hpart : e.requestedStatus = .partiallyFilled := by
      cases hs : e.requestedStatus <;> simp_all [OrderStatus.brokerTerminal]
    have hpos := partialFill_pos hpart
    omega
  exact .accepted hreq (accepted_fill hreq)

theorem accepted_alone {a : EvidenceIngestResult} (h : Ready e.key i db)
    (hr : db.order? e.key = some r) (hst : r.status ∈ [OrderStatus.unknown,.reconciling])
    (hfill : r.filledQuantity = 0) (hin : ingestInTx e db = .ok (.ok a,db')) :
    ∃ st r', Alone i.quantity e st ∧ idMismatch r.brokerOrderId e.brokerOrderId = false ∧
      (∃ p, planTransition e.key.clientOrderId (r.context i.quantity) (mergeRequest e) = .ok p) ∧
      db'.order? e.key = some r' ∧ Takes e st r r' := by
  have hbound := h.journal.bounded e.key r i hr h.intent
  have hopen : r.status ≠ .manualReview := by
    intro hs
    simp [hs] at hst
  have hkept : db.attests e.semanticDigest → db'.order? e.key = some r →
      ∃ st r', Alone i.quantity e st ∧ idMismatch r.brokerOrderId e.brokerOrderId = false ∧
      (∃ p, planTransition e.key.clientOrderId (r.context i.quantity) (mergeRequest e) = .ok p) ∧
      db'.order? e.key = some r' ∧ Takes e st r r' := by
    rintro ⟨r',i',hr',hi',hatt⟩ hord
    obtain rfl : r = r' := Option.some.inj (hr.symm.trans hr')
    obtain rfl : i = i' := Option.some.inj (h.intent.symm.trans hi')
    exact ⟨_,r,hatt.accepted hst hfill,hatt.ids.1,hatt.merges hbound hopen,hord,
      .inr ⟨rfl,rfl,hatt.ids.2⟩⟩
  cases ingest_cases hin with
  | known row r' hf hr' ha =>
    have hfact := h.journal.keys row (find_mem hf) ha
    rw [find_key hf] at hfact
    exact hkept hfact hr
  | suppressed r' hn hr' hseen => exact hkept (h.journal.suppressed hseen) hr
  | applied o db₁ hn hm =>
    obtain ⟨r',i',filled,hr',hi',hplan,rfl⟩ := transitionInTx_ok hm
    obtain rfl : r = r' := Option.some.inj (hr.symm.trans hr')
    obtain rfl : i = i' := Option.some.inj (h.intent.symm.trans hi')
    obtain ⟨target,hmerged⟩ := planTransition_merged hplan
    obtain ⟨halone,hcur,hf⟩ := alone_of_merged (h.wf.quantity _ _ h.intent) hst hfill hmerged
    refine ⟨target,applyTransition (mergeRequest e) o filled r,halone,hmerged.ids,⟨_,hplan⟩,
      order?_updateOrder (fun _ => rfl) hr,.inl ⟨?_,hf,rfl⟩⟩
    rw [applyTransition_status hplan]
    exact hcur

end

section
variable {g : Guard} {c : Choice} {i : IntentColumns} {db db₁ db₂ : Db} {e₁ e₂ : BrokerEvidenceV1}
variable {r : BrokerOrder} {a₁ a₂ : EvidenceIngestResult}

/-- The second of two facts, each of which the order takes alone, sends the order to
review exactly when it does not fit the first. -/
theorem second_review_iff {st₁ st₂ : OrderStatus} {r₁ : BrokerOrder} (h : Ready e₂.key i db₁) (hc : g.Admits db₁ c)
    (hr : db₁.order? e₂.key = some r₁) (hadm : Admitted e₂ db₁)
    (hst : r.status ∈ [OrderStatus.unknown,.reconciling])
    (h₁ : Alone i.quantity e₁ st₁) (h₂ : Alone i.quantity e₂ st₂)
    (hid : idMismatch r.brokerOrderId e₂.brokerOrderId = false)
    (hplan : ∃ p, planTransition e₂.key.clientOrderId (r.context i.quantity) (mergeRequest e₂) =
      .ok p) (htakes : Takes e₁ st₁ r r₁) :
    (EvidenceJournal.ingest g e₂ c db₁).2.underReview e₂.key ↔
      ¬ (idMismatch (r.brokerOrderId.or e₁.brokerOrderId) e₂.brokerOrderId = false ∧
        Agrees st₁ e₁.filledQuantity st₂ e₂.filledQuantity) := by
  have hle : e₂.filledQuantity ≤ i.quantity := by
    obtain ⟨p,hp⟩ := hplan
    exact (planTransition_merged hp).choose_spec.range
  obtain ⟨res,db',hin,hpass⟩ := ingest_admitted h.intent h.journal hr hadm hle
  rw [hc.ingest_eq hin]
  rcases htakes with ⟨hs,hf,hb⟩ | ⟨rfl,rfl,hb⟩
  · have hopen : r₁.status ≠ .manualReview := by
      rw [hs]
      intro heq
      rw [heq] at h₁
      cases h₁
    rw [hpass.review_iff h.journal hr h.intent hopen,
      second_ok_iff (h.wf.quantity _ _ h.intent) h₁ h₂ hs hf,hb]
  · have hopen : r₁.status ≠ .manualReview := by
      intro heq
      simp [heq] at hst
    rw [hpass.review_iff h.journal hr h.intent hopen,hb]
    simp [hid,hplan,Agrees]

theorem Guard.Admits.ingest_ok (h : g.Admits db c)
    (hacc : (EvidenceJournal.ingest g e₁ c db).1 = .ok a₁) :
    ingestInTx e₁ db = .ok (.ok a₁,(EvidenceJournal.ingest g e₁ c db).2) := by
  rw [EvidenceJournal.ingest_eq h.unlocked h.leader] at hacc ⊢
  cases hin : ingestInTx e₁ db with
  | error err =>
    rw [hin] at hacc
    cases hacc
  | ok p =>
    obtain ⟨reason | applied,db'⟩ := p
    · rw [hin] at hacc
      cases hacc
    · rw [hin] at hacc
      obtain rfl := Except.ok.inj hacc
      rfl

/-- The broker ids of two facts that are no rejections agree with the row, or with each
other. -/
theorem ids_agree {stored : Option String} (h₁ : idMismatch stored e₁.brokerOrderId = false)
    (h₂ : idMismatch stored e₂.brokerOrderId = false) (hreq₁ : e₁.requestedStatus ≠ .rejected)
    (hreq₂ : e₂.requestedStatus ≠ .rejected) :
    idMismatch (stored.or e₁.brokerOrderId) e₂.brokerOrderId = false ↔
      e₁.brokerOrderId = e₂.brokerOrderId := by
  obtain ⟨b₁,hb₁⟩ := brokerOrderId_isSome hreq₁
  obtain ⟨b₂,hb₂⟩ := brokerOrderId_isSome hreq₂
  cases stored with
  | none => simp [hb₁,hb₂,idMismatch]
  | some s => simp_all [idMismatch]

theorem LateFill.live {q : Int} (h : LateFill q e₁ e₂) :
    e₁.requestedStatus ≠ .rejected ∧ e₂.requestedStatus ≠ .rejected := by
  obtain ⟨hs,hs',-⟩ := h
  refine ⟨by simp [hs],fun heq => ?_⟩
  simp [heq] at hs'

end

/-- Two facts about an order without a fill, each of which is accepted alone: whether
they end in review does not depend on their order, unless one is a cancellation and the
other a larger fill of the same broker order that is not complete. -/
theorem contradiction_order_iff {ms : List (Move Choice Start)} {t : Sys Eff World}
    (h : (system fun _ _ => true).run (Machine.boots World.initial) ms = some t)
    {g : Guard} {c c' : Choice} {e₁ e₂ : BrokerEvidenceV1} {r : BrokerOrder} {i : IntentColumns}
    {a₁ a₂ : EvidenceIngestResult} (hc : g.Admits t.world.db c) (hc' : g.Admits t.world.db c')
    (hkey : e₂.key = e₁.key) (hr : t.world.db.order? e₁.key = some r)
    (hi : t.world.db.intent? e₁.key = some i) (hst : r.status ∈ [.unknown,.reconciling])
    (hfill : r.filledQuantity = 0) (hsource : e₁.sourceEventId ≠ e₂.sourceEventId)
    (hacc₁ : (EvidenceJournal.ingest g e₁ c t.world.db).1 = .ok a₁)
    (hacc₂ : (EvidenceJournal.ingest g e₂ c t.world.db).1 = .ok a₂) :
    ((EvidenceJournal.ingest g e₂ c' (EvidenceJournal.ingest g e₁ c t.world.db).2).2.underReview
          e₁.key ↔
        (EvidenceJournal.ingest g e₁ c' (EvidenceJournal.ingest g e₂ c t.world.db).2).2.underReview
          e₁.key) ↔
      ¬ (LateFill i.quantity e₁ e₂ ∨ LateFill i.quantity e₂ e₁) := by
  obtain ⟨hw,hdb⟩ := reach_attests h
  have hready₁ : Ready e₁.key i t.world.db := ⟨hw,hdb,hi⟩
  have hready₂ : Ready e₂.key i t.world.db := hkey ▸ hready₁
  have hr₂ : t.world.db.order? e₂.key = some r := hkey ▸ hr
  have hin₁ := hc.ingest_ok hacc₁
  have hin₂ := hc.ingest_ok hacc₂
  obtain ⟨st₁,r₁,halone₁,hid₁,hplan₁,hord₁,htakes₁⟩ := accepted_alone hready₁ hr hst hfill hin₁
  obtain ⟨st₂,r₂,halone₂,hid₂,hplan₂,hord₂,htakes₂⟩ := accepted_alone hready₂ hr₂ hst hfill hin₂
  have hadm₂ := (Admitted.of_accepted hin₂).after hin₁ (identity_ne (Ne.symm hsource))
  have hadm₁ := (Admitted.of_accepted hin₁).after hin₂ (identity_ne hsource)
  have hsecond := second_review_iff (hready₂.after hin₁) (hc'.after hin₁) (hkey ▸ hord₁) hadm₂ hst
    halone₁ halone₂ hid₂ hplan₂ htakes₁
  have hfirst := second_review_iff (hready₁.after hin₂) (hc'.after hin₂) (hkey ▸ hord₂) hadm₁ hst
    halone₂ halone₁ hid₁ hplan₁ htakes₂
  rw [hkey] at hsecond
  rw [hsecond,hfirst,idMismatch_comm hid₁ hid₂]
  by_cases hids : idMismatch (r.brokerOrderId.or e₁.brokerOrderId) e₂.brokerOrderId = false
  · simp only [hids,true_and,not_iff_not]
    exact agrees_comm_iff halone₁ halone₂ fun hreq₁ hreq₂ =>
      (ids_agree hid₁ hid₂ hreq₁ hreq₂).mp hids
  · have hlate : ¬ (LateFill i.quantity e₁ e₂ ∨ LateFill i.quantity e₂ e₁) := by
      rintro (hlate | hlate)
      · exact hids ((ids_agree hid₁ hid₂ hlate.live.1 hlate.live.2).mpr hlate.2.2.2.2)
      · exact hids ((ids_agree hid₁ hid₂ hlate.live.2 hlate.live.1).mpr hlate.2.2.2.2.symm)
    exact iff_of_true (iff_of_true (fun hp => hids hp.1) fun hp => hids hp.1) hlate

theorem exists_ok_of_isOk {α : Type} {x : Except PyError α} (h : x.isOk = true) :
    ∃ a, x = .ok a := by
  cases x with
  | error err => cases h
  | ok a => exact ⟨a,rfl⟩

theorem contradiction_order_filled_cancelled : ∃ t,
    (system fun _ _ => true).run (Machine.boots World.initial) (partlyFilledRun 28) = some t ∧
      ((EvidenceJournal.ingest sampleGuard sampleCancel {}
            (EvidenceJournal.ingest sampleGuard sampleFill {} t.world.db).2).2.underReview
            sampleIntent.key ↔
        (EvidenceJournal.ingest sampleGuard sampleFill {}
            (EvidenceJournal.ingest sampleGuard sampleCancel {} t.world.db).2).2.underReview
            sampleIntent.key) := by
  have hrun : ((system fun _ _ => true).run (Machine.boots World.initial)
      (partlyFilledRun 28)).map (fun t => ((sampleGuard.check ({} : Choice).now t.world.db).isOk,
        t.world.db.order? sampleIntent.key,
        decide (t.world.db.intent? sampleIntent.key = some sampleIntent.toIntentColumns),
        (EvidenceJournal.ingest sampleGuard sampleFill {} t.world.db).1.isOk,
        (EvidenceJournal.ingest sampleGuard sampleCancel {} t.world.db).1.isOk)) =
      some (true,some ⟨sampleIntent.key,.reconciling,none,0,true,false,false⟩,true,true,true) := by
    decide +kernel
  obtain ⟨t,ht,hdb⟩ := Option.map_eq_some_iff.mp hrun
  simp only [Prod.mk.injEq,decide_eq_true_eq] at hdb
  obtain ⟨hguard,hr,hi,hfill,hcancel⟩ := hdb
  obtain ⟨⟨⟩,hguard⟩ := exists_ok_of_isOk hguard
  obtain ⟨a₁,hacc₁⟩ := exists_ok_of_isOk hfill
  obtain ⟨a₂,hacc₂⟩ := exists_ok_of_isOk hcancel
  have hkey : sampleCancel.key = sampleFill.key := rfl
  refine ⟨t,ht,(contradiction_order_iff ht ⟨rfl,hguard⟩ ⟨rfl,hguard⟩ hkey hr hi (by simp) rfl
    (by decide) hacc₁ hacc₂).mpr ?_⟩
  simp [LateFill,sampleFill,sampleCancel,sampleFields,sampleIntent]

/-- The cancellation is accepted and the partial fill is accepted; the fill after the
cancellation is a conflict, and the cancellation after the fill is not. -/
theorem fill_after_cancellation_conflicts : ∃ t,
    (system fun _ _ => true).run (Machine.boots World.initial) (partlyFilledRun 28) = some t ∧
      t.world.db.facts sampleIntent.key = some (.reconciling,0,none) ∧
      samplePartialFill.sourceEventId ≠ sampleCancel.sourceEventId ∧
      (EvidenceJournal.ingest sampleGuard sampleCancel {} t.world.db).1.isOk = true ∧
      (EvidenceJournal.ingest sampleGuard samplePartialFill {} t.world.db).1.isOk = true ∧
      (EvidenceJournal.ingest sampleGuard samplePartialFill {}
        (EvidenceJournal.ingest sampleGuard sampleCancel {} t.world.db).2).2.facts
          sampleIntent.key = some (.manualReview,40,some "b-1") ∧
      (EvidenceJournal.ingest sampleGuard sampleCancel {}
        (EvidenceJournal.ingest sampleGuard samplePartialFill {} t.world.db).2).2.facts
          sampleIntent.key = some (.cancelled,40,some "b-1") := by
  have hrun : ((system fun _ _ => true).run (Machine.boots World.initial)
      (partlyFilledRun 28)).map (fun t => (
        decide (t.world.db.facts sampleIntent.key = some (.reconciling,0,none)),
        (EvidenceJournal.ingest sampleGuard sampleCancel {} t.world.db).1.isOk,
        (EvidenceJournal.ingest sampleGuard samplePartialFill {} t.world.db).1.isOk,
        decide ((EvidenceJournal.ingest sampleGuard samplePartialFill {}
          (EvidenceJournal.ingest sampleGuard sampleCancel {} t.world.db).2).2.facts
            sampleIntent.key = some (.manualReview,40,some "b-1")),
        decide ((EvidenceJournal.ingest sampleGuard sampleCancel {}
          (EvidenceJournal.ingest sampleGuard samplePartialFill {} t.world.db).2).2.facts
            sampleIntent.key = some (.cancelled,40,some "b-1")))) =
      some (true,true,true,true,true) := by
    decide +kernel
  obtain ⟨t,ht,hdb⟩ := Option.map_eq_some_iff.mp hrun
  simp only [Prod.mk.injEq,decide_eq_true_eq] at hdb
  obtain ⟨hfacts,hcancel,hfill,hlate,hearly⟩ := hdb
  exact ⟨t,ht,hfacts,by decide,hcancel,hfill,hlate,hearly⟩

end BigQmt
