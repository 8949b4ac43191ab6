import BigQmt.TerminalFacts
set_option autoImplicit false

/-!
The source identity of evidence, `(source,account_fingerprint,source_event_id)`:
what the journal keeps of it, what a repeat does, and what a reuse does.
-/

namespace BigQmt

open Transact Keyed Resumption

def EvidenceFingerprint.identity (fp : EvidenceFingerprint) : String × String × String :=
  (fp.source,fp.accountFingerprint,fp.sourceEventId)

theorem identityRow_mem {e : BrokerEvidenceV1} {db : Db} {row : EvidenceKey}
    (h : identityRow e db = some row) :
    row ∈ db.evidenceKeys ∧ row.fingerprint.identity = (evidenceFingerprint e).identity := by
  have hfound := List.find?_some h
  simp only [Bool.and_eq_true,beq_iff_eq] at hfound
  refine ⟨List.mem_of_find?_eq_some h,?_⟩
  simp [EvidenceFingerprint.identity,evidenceFingerprint,hfound]

theorem identityRow_eq_none {e : BrokerEvidenceV1} {db : Db} (h : identityRow e db = none) :
    ∀ row ∈ db.evidenceKeys, row.fingerprint.identity ≠ (evidenceFingerprint e).identity := by
  intro row hrow heq
  have hno := List.find?_eq_none.mp h row hrow
  simp only [EvidenceFingerprint.identity,evidenceFingerprint,Prod.mk.injEq] at heq
  simp [heq] at hno

/-- Every evidence key was written together with an observation of its fact, for an
order that exists, and no two of them share a source identity. -/
structure Journaled (db : Db) : Prop where
  observed : ∀ row ∈ db.evidenceKeys,
    ∃ o ∈ db.observations, evidenceFingerprint o.evidence = row.fingerprint
  ordered : ∀ row ∈ db.evidenceKeys,
    ∃ r, db.order? row.fingerprint.semanticDigest.key = some r
  unique : (db.evidenceKeys.map (fun row => row.fingerprint.identity)).Nodup

theorem Journaled.empty : Journaled Db.empty := by
  constructor
  · intro row hrow
    simp [Db.empty] at hrow
  · intro row hrow
    simp [Db.empty] at hrow
  · simp [Db.empty]

section
variable {P : BrokerOrder → TransitionRequest → Prop} {db db' : Db} {e : BrokerEvidenceV1}

theorem Journaled.evolve (h : Journaled db) (hw : db.Wf) (hev : Evolves P db db')
    (hj : SameJournal db db') : Journaled db' := by
  obtain ⟨hkeys,hobs⟩ := Prod.mk.inj hj
  constructor
  · rw [hkeys,hobs]
    exact h.observed
  · intro row hrow
    rw [hkeys] at hrow
    obtain ⟨r,hr⟩ := h.ordered row hrow
    obtain ⟨r',hr',-⟩ := hev.advances hw hr
    exact ⟨r',hr'⟩
  · rw [hkeys]
    exact h.unique

theorem Journaled.record (h : Journaled db) (c : Classification) : Journaled (db.record e c) := by
  refine ⟨fun row hrow => ?_,h.ordered,h.unique⟩
  obtain ⟨o,ho,hfp⟩ := h.observed row hrow
  exact ⟨o,List.mem_append.mpr (.inl ho),hfp⟩

/-- A fresh identity is recorded with its observation. -/
theorem Journaled.recordKey (h : Journaled db) {row : EvidenceKey} {c : Classification}
    {r : BrokerOrder} (hfp : row.fingerprint = evidenceFingerprint e)
    (hfresh : identityRow e db = none) (hr : db.order? e.key = some r) :
    Journaled ((db.recordKey row).record e c) := by
  constructor
  · intro row' hrow'
    rcases List.mem_append.mp hrow' with hrow' | hrow'
    · obtain ⟨o,ho,hfp'⟩ := h.observed row' hrow'
      exact ⟨o,List.mem_append.mpr (.inl ho),hfp'⟩
    · obtain rfl : row' = row := by simpa using hrow'
      exact ⟨⟨e,c⟩,List.mem_append.mpr (.inr (by simp)),hfp.symm⟩
  · intro row' hrow'
    rcases List.mem_append.mp hrow' with hrow' | hrow'
    · exact h.ordered row' hrow'
    · obtain rfl : row' = row := by simpa using hrow'
      rw [hfp]
      exact ⟨r,hr⟩
  · change ((db.evidenceKeys ++ [row]).map _).Nodup
    simp only [List.map_append,List.map_cons,List.map_nil]
    refine List.nodup_append.mpr ⟨h.unique,by simp,?_⟩
    intro a ha b hb
    obtain ⟨row',hrow',rfl⟩ := List.mem_map.mp ha
    rw [List.mem_singleton.mp hb,hfp]
    exact identityRow_eq_none hfresh row' hrow'

theorem ingest_journaled {res : Except String EvidenceIngestResult} (hw : db.Wf)
    (h : Journaled db) (hin : ingestInTx e db = .ok (res,db')) : Journaled db' := by
  cases ingest_cases hin with
  | reused row rows events _ _ hev =>
    have hev' : Evolves (fun _ _ => True) (db.record e .conflict)
        { db.record e .conflict with brokerOrders := rows, orderEvents := events } :=
      (hev _).after rfl rfl
    exact (h.record .conflict).evolve ⟨hw.intent,hw.quantity,hw.unique⟩ hev' rfl
  | known => exact h.record .duplicate
  | knownConflict => exact h.record .conflictDuplicate
  | suppressed r hn hr => exact h.recordKey rfl hn hr
  | applied o db₁ hn hm =>
    have hev : Evolves (fun _ _ => True) db db₁ := transitionInTx_evolves (fun _ _ => trivial) hm
    have hj : SameJournal db db₁ := journalFrame.transitionInTx_moves _ _ db o db₁ hm
    have hn₁ : identityRow e db₁ = none := by
      obtain ⟨hkeys,-⟩ := Prod.mk.inj hj
      simpa only [identityRow,hkeys] using hn
    obtain ⟨r,i,filled,hr,-,-,rfl⟩ := transitionInTx_ok hm
    exact (h.evolve hw hev hj).recordKey rfl hn₁ (order?_updateOrder (fun _ => rfl) hr)
  | conflict err reason filled _ hn _ _ hm =>
    have hev : Evolves (fun _ _ => True) _ db' := markConflictInTx_evolves hm
    have hj := journalFrame.markConflictInTx_moves _ _ _ _ _ hm
    obtain ⟨r,i,f,hr,-⟩ := markConflictInTx_ok hm
    exact (h.recordKey rfl hn hr).evolve ⟨hw.intent,hw.quantity,hw.unique⟩ hev hj

end

theorem journaled_invariant : JournalInvariant Journaled :=
  ⟨Journaled.empty,fun h hw hev hj => h.evolve hw hev hj,fun hw h hin => ingest_journaled hw h hin⟩

/-- Status, fill and broker id of an order. -/
def Db.facts (db : Db) (k : OrderKey) : Option (OrderStatus × Int × Option String) :=
  (db.order? k).map (fun r => (r.status,r.filledQuantity,r.brokerOrderId))

def Db.underReview (db : Db) (k : OrderKey) : Prop :=
  ∃ r, db.order? k = some r ∧ r.status = .manualReview

theorem Db.underReview.evolve {P : BrokerOrder → TransitionRequest → Prop} {db db' : Db}
    {k : OrderKey} (h : db.underReview k) (hw : db.Wf) (hev : Evolves P db db') :
    db'.underReview k := by
  obtain ⟨r,hr,hs⟩ := h
  obtain ⟨r',hr',hadv⟩ := hev.advances hw hr
  exact ⟨r',hr',hadv.review hs⟩

section reuse
variable {e : BrokerEvidenceV1} {db db' : Db} {k : OrderKey} {row : EvidenceKey}

theorem markConflictInTx_none {u : Unit}
    (h : markBrokerConflictManualReviewInTx k none db = .ok (u,db')) :
    ∃ r, db.order? k = some r ∧ ∀ k', db'.order? k' =
      if k' = k then some { r with status := .manualReview } else db.order? k' := by
  obtain ⟨r,i,filled,hr,-,hf,rfl⟩ := markConflictInTx_ok h
  obtain rfl : r.filledQuantity = filled := by simpa [conflictFill,BrokerOrder.context] using hf
  refine ⟨r,hr,fun k' => ?_⟩
  rw [order?_update (f := markConflict _) fun _ => rfl,hr]
  rfl

theorem markConflictInTx_none_review {u : Unit}
    (h : markBrokerConflictManualReviewInTx k none db = .ok (u,db')) : db'.underReview k := by
  obtain ⟨r,-,hord⟩ := markConflictInTx_none h
  exact ⟨_,by rw [hord,if_pos rfl],rfl⟩

/-- An order that is under review already looks the same afterwards. -/
theorem markConflictInTx_none_facts {u : Unit}
    (h : markBrokerConflictManualReviewInTx k none db = .ok (u,db')) (hk : db.underReview k)
    (k' : OrderKey) : db'.facts k' = db.facts k' := by
  obtain ⟨r,hr,hord⟩ := markConflictInTx_none h
  obtain ⟨r',hr',hs⟩ := hk
  obtain rfl : r = r' := Option.some.inj (hr.symm.trans hr')
  simp only [Db.facts,hord]
  split
  · rename_i hkk
    rw [hkk,hr,← hs]
  · rfl

theorem markConflictInTx_none_ok {r : BrokerOrder} {i : IntentColumns}
    (hr : db.order? k = some r) (hi : db.intent? k = some i) :
    ∃ db', markBrokerConflictManualReviewInTx k none db = .ok ((),db') := by
  have hctx : db.context? k = some (r.context i.quantity) := by
    simp [Db.context?,hr,hi,BrokerOrder.context]
  refine ⟨{ db.updateOrder k (markConflict r.filledQuantity) with
    orderEvents := db.orderEvents ++ [⟨k,.named "BROKER_EVIDENCE_CONFLICT_MANUAL_REVIEW",
      some r.status,.manualReview,.applied⟩] },?_⟩
  simp only [markBrokerConflictManualReviewInTx,getOrderContextInTx,Tx.bind_eq_ok,fetch_eq_ok,
    Tx.ofExcept_eq_ok,Tx.writes_bind,insertEvent_eq_ok]
  refine ⟨_,_,⟨hctx,rfl⟩,r.filledQuantity,_,⟨rfl,rfl⟩,?_,rfl⟩
  change (db.intent? k).isSome = true
  rw [hi]
  rfl

/-- The order that a reuse finds through the first observation of the key. -/
theorem Journaled.originalOrder (h : Journaled db) (hrow : row ∈ db.evidenceKeys)
    (e : BrokerEvidenceV1) (c : Classification) :
    originalOrder row.fingerprint (db.record e c) = some row.fingerprint.semanticDigest.key := by
  obtain ⟨o,ho,hfp⟩ := h.observed row hrow
  have hmem : o ∈ (db.record e c).observations := List.mem_append.mpr (.inl ho)
  cases hfind : (db.record e c).observations.find?
      (fun o => evidenceFingerprint o.evidence = row.fingerprint) with
  | none =>
    have hno := List.find?_eq_none.mp hfind o hmem
    simp [hfp] at hno
  | some o' =>
    have hfp' : evidenceFingerprint o'.evidence = row.fingerprint := by
      simpa using List.find?_some hfind
    have hkey : o'.evidence.key = row.fingerprint.semanticDigest.key := by
      rw [← hfp']
      rfl
    rw [BigQmt.originalOrder,hfind,Option.map_some,hkey]

theorem ingestInTx_reused (hrow : identityRow e db = some row)
    (hd : row.fingerprint.semanticDigest ≠ e.semanticDigest) :
    ingestInTx e db = ingestReusedIdentity e row db := by
  rw [ingestInTx,Tx.reads_bind,hrow]
  simp [Option.filter,hd]

/-- Both orders are marked: the one of the key, and the one the evidence names. -/
theorem ingestReusedIdentity_ok {res : Except String EvidenceIngestResult} (h : Journaled db)
    (hrow : row ∈ db.evidenceKeys) (hin : ingestReusedIdentity e row db = .ok (res,db')) :
    ∃ db₁, markBrokerConflictManualReviewInTx row.fingerprint.semanticDigest.key none
        (db.record e .conflict) = .ok ((),db₁) ∧
      ((e.key = row.fingerprint.semanticDigest.key ∧ db' = db₁) ∨
        markBrokerConflictManualReviewInTx e.key none db₁ = .ok ((),db')) := by
  simp only [ingestReusedIdentity,Tx.bind_eq_ok,insertObservation_eq_ok] at hin
  obtain ⟨_,_,⟨-,rfl⟩,original,_,ho,hin⟩ := hin
  obtain ⟨rfl,rfl⟩ := Tx.reads_eq_ok.mp ho
  change _ = Except.ok (res,db') at hin
  have horig := h.originalOrder hrow e .conflict
  rw [Db.record] at horig
  simp only [horig] at hin
  by_cases hk : e.key = row.fingerprint.semanticDigest.key
  · simp only [hk,ne_eq,not_true_eq_false,if_false,Tx.bind_eq_ok,Tx.pure_eq_ok] at hin
    obtain ⟨_,_,hm,rfl,rfl⟩ := hin
    exact ⟨_,hm,.inl ⟨hk,rfl⟩⟩
  · simp only [ne_eq,hk,not_false_eq_true,if_true,Tx.bind_eq_ok,Tx.pure_eq_ok] at hin
    obtain ⟨_,_,hm,_,_,hm',rfl,rfl⟩ := hin
    exact ⟨_,hm,.inr hm'⟩

theorem ingestReusedIdentity_review {res : Except String EvidenceIngestResult} (hw : db.Wf)
    (h : Journaled db) (hrow : row ∈ db.evidenceKeys)
    (hin : ingestReusedIdentity e row db = .ok (res,db')) :
    db'.underReview e.key ∧ db'.underReview row.fingerprint.semanticDigest.key := by
  obtain ⟨db₁,hm,hm'⟩ := ingestReusedIdentity_ok h hrow hin
  have hfirst := markConflictInTx_none_review hm
  rcases hm' with ⟨hk,rfl⟩ | hm'
  · rw [hk]
    exact ⟨hfirst,hfirst⟩
  · have hev₁ : Evolves (fun _ _ => True) (db.record e .conflict) db₁ := markConflictInTx_evolves hm
    have hw₁ : db₁.Wf := hev₁.wf ⟨hw.intent,hw.quantity,hw.unique⟩
    have hev₂ : Evolves (fun _ _ => True) db₁ db' := markConflictInTx_evolves hm'
    exact ⟨markConflictInTx_none_review hm',hfirst.evolve hw₁ hev₂⟩

/-- The reuse commits for evidence that names a known order. -/
theorem ingestReusedIdentity_commits {r : BrokerOrder} (hw : db.Wf) (h : Journaled db)
    (hrow : row ∈ db.evidenceKeys) (hr : db.order? e.key = some r) :
    ∃ db', ingestReusedIdentity e row db =
      .ok (.error "source_event_id_reused_with_different_evidence",db') := by
  obtain ⟨i,hi⟩ := hw.intent _ _ hr
  obtain ⟨ro,hro⟩ := h.ordered row hrow
  obtain ⟨io,hio⟩ := hw.intent _ _ hro
  have horig := h.originalOrder hrow e .conflict
  have hro' : (db.record e .conflict).order? row.fingerprint.semanticDigest.key = some ro := hro
  obtain ⟨db₁,hm⟩ := markConflictInTx_none_ok hro' hio
  have hobs : insertObservation ⟨e,.conflict⟩ db = .ok ((),db.record e .conflict) :=
    insertObservation_eq_ok.mpr ⟨by simp [hi],rfl⟩
  by_cases hk : e.key = row.fingerprint.semanticDigest.key
  · refine ⟨db₁,?_⟩
    simp [ingestReusedIdentity,bind,hobs,Tx.reads,horig,hm,hk,pure]
  · have hev₁ : Evolves (fun _ _ => True) (db.record e .conflict) db₁ := markConflictInTx_evolves hm
    obtain ⟨r₁,hr₁,-⟩ := hev₁.advances ⟨hw.intent,hw.quantity,hw.unique⟩ hr
    obtain ⟨db₂,hm'⟩ := markConflictInTx_none_ok hr₁ (hev₁.intents _ _ hi)
    refine ⟨db₂,?_⟩
    simp [ingestReusedIdentity,bind,hobs,Tx.reads,horig,hm,hk,hm',pure]

/-- The order that a committed reuse names is known. -/
theorem ingestReusedIdentity_order {res : Except String EvidenceIngestResult} (h : Journaled db)
    (hrow : row ∈ db.evidenceKeys) (hin : ingestReusedIdentity e row db = .ok (res,db')) :
    (db.order? e.key).isSome = true := by
  obtain ⟨db₁,hm,hm'⟩ := ingestReusedIdentity_ok h hrow hin
  obtain ⟨ro,hro,hord⟩ := markConflictInTx_none hm
  have hro' : db.order? row.fingerprint.semanticDigest.key = some ro := hro
  rcases hm' with ⟨hk,-⟩ | hm'
  · rw [hk,hro']
    rfl
  · obtain ⟨r,hr,-⟩ := markConflictInTx_none hm'
    rw [hord] at hr
    by_cases hk : e.key = row.fingerprint.semanticDigest.key
    · rw [hk,hro']
      rfl
    · rw [if_neg hk] at hr
      have hr' : db.order? e.key = some r := hr
      rw [hr']
      rfl

end reuse

/-- Evidence that was ingested before: its key is there, or both orders of the reuse
are under review. -/
def Settled (e : BrokerEvidenceV1) (db : Db) : Prop :=
  ∃ row, identityRow e db = some row ∧
    (row.fingerprint.semanticDigest = e.semanticDigest ∨
      db.underReview e.key ∧ db.underReview row.fingerprint.semanticDigest.key)

section replay
variable {e : BrokerEvidenceV1} {db db' : Db}

theorem Settled.of_key {row : EvidenceKey} (h : Journaled db) (hrow : row ∈ db.evidenceKeys)
    (hfp : row.fingerprint = evidenceFingerprint e) : Settled e db := by
  cases hid : identityRow e db with
  | none =>
    have hne := identityRow_eq_none hid row hrow
    rw [hfp] at hne
    exact absurd rfl hne
  | some row' =>
    obtain ⟨hmem,hsame⟩ := identityRow_mem hid
    rw [← hfp] at hsame
    obtain rfl : row' = row := List.inj_on_of_nodup_map h.unique hmem hrow hsame
    refine ⟨row',hid,.inl ?_⟩
    rw [hfp]
    rfl

theorem ingest_settled {res : Except String EvidenceIngestResult} (hw : db.Wf)
    (h : Journaled db) (hin : ingestInTx e db = .ok (res,db')) : Settled e db' := by
  have hafter := ingest_journaled hw h hin
  cases ingest_cases hin with
  | reused row rows events hrow hd hev =>
    rw [ingestInTx_reused hrow hd] at hin
    exact ⟨row,hrow,.inr (ingestReusedIdentity_review hw h (identityRow_mem hrow).1 hin)⟩
  | known row r hf => exact .of_key hafter (find_mem hf) (find_key hf)
  | knownConflict row hf => exact .of_key hafter (find_mem hf) (find_key hf)
  | suppressed =>
    exact .of_key hafter (List.mem_append.mpr (.inr (List.mem_singleton.mpr rfl))) rfl
  | applied =>
    exact .of_key hafter (List.mem_append.mpr (.inr (List.mem_singleton.mpr rfl))) rfl
  | conflict err reason filled _ _ _ _ hm =>
    have hj := journalFrame.markConflictInTx_moves _ _ _ _ _ hm
    obtain ⟨hkeys,-⟩ := Prod.mk.inj hj
    have hmem : ⟨evidenceFingerprint e,false,none,some reason⟩ ∈ db'.evidenceKeys := by
      rw [hkeys]
      exact List.mem_append.mpr (.inr (by simp))
    exact .of_key hafter hmem rfl

theorem Settled.later {P : BrokerOrder → TransitionRequest → Prop} (h : Settled e db)
    (hw : db.Wf) (hev : Evolves P db db') (happ : Appends db db') : Settled e db' := by
  obtain ⟨row,hrow,hcase⟩ := h
  obtain ⟨rest,hkeys⟩ := happ.keys
  refine ⟨row,?_,?_⟩
  · rw [identityRow,← hkeys,List.find?_append]
    rw [identityRow] at hrow
    rw [hrow]
    rfl
  · rcases hcase with hd | ⟨hk,hk'⟩
    · exact .inl hd
    · exact .inr ⟨hk.evolve hw hev,hk'.evolve hw hev⟩

/-- Settled evidence changes no order. -/
theorem Settled.ingest_facts {res : Except String EvidenceIngestResult} (h : Settled e db)
    (hw : db.Wf) (hj : Journaled db) (hin : ingestInTx e db = .ok (res,db')) (k : OrderKey) :
    db'.facts k = db.facts k := by
  obtain ⟨row,hrow,hcase⟩ := h
  have hknown : identityRow e db ≠ none := by simp [hrow]
  cases ingest_cases hin with
  | reused row' rows events hrow' hd hev =>
    obtain rfl : row = row' := Option.some.inj (hrow.symm.trans hrow')
    rcases hcase with hsame | ⟨hk,horig⟩
    · exact absurd hsame hd
    · rw [ingestInTx_reused hrow hd] at hin
      obtain ⟨db₁,hm,hm'⟩ := ingestReusedIdentity_ok hj (identityRow_mem hrow).1 hin
      have hfirst : db₁.facts k = db.facts k := markConflictInTx_none_facts hm horig k
      rcases hm' with ⟨-,heq⟩ | hm'
      · rw [heq]
        exact hfirst
      · have hev₁ : Evolves (fun _ _ => True) (db.record e .conflict) db₁ :=
          markConflictInTx_evolves hm
        have hk₁ : db₁.underReview e.key := hk.evolve hw (hev₁.after rfl rfl)
        exact (markConflictInTx_none_facts hm' hk₁ k).trans hfirst
  | known => rfl
  | knownConflict => rfl
  | suppressed r hn => exact absurd hn hknown
  | applied o db₁ hn => exact absurd hn hknown
  | conflict err reason filled _ hn => exact absurd hn hknown

end replay

/-- Evidence that was applied, suppressed or refused as a conflict, passed again after
any further run of any processes, leaves every order as it is. -/
theorem evidence_replay_idempotent {before after : List (Move Choice Start)}
    {s u t : Sys Eff World} {g g' : Guard} {e : BrokerEvidenceV1} {c c' : Choice}
    (hs : (system fun _ _ => true).run (Machine.boots World.initial) before = some s)
    (hpassed : (∃ r, (EvidenceJournal.ingest g e c s.world.db).1 = .ok r) ∨
      ∃ reason, (EvidenceJournal.ingest g e c s.world.db).1 =
        .error (.brokerEvidenceConflict reason))
    (hu : u.world.db = (EvidenceJournal.ingest g e c s.world.db).2)
    (ht : (system fun _ _ => true).run u after = some t) (k : OrderKey) :
    (EvidenceJournal.ingest g' e c' t.world.db).2.facts k = t.world.db.facts k := by
  obtain ⟨hw,hj⟩ := journaled_invariant.reach hs
  obtain ⟨err,heq,hinner⟩ | ⟨res,db₁,hin,heq⟩ := EvidenceJournal.ingest_cases g e c s.world.db
  · rw [heq] at hpassed
    rcases hpassed with ⟨r,hr⟩ | ⟨reason,hr⟩
    · cases hr
    · exact absurd (Except.error.inj hr) (hinner reason)
  · rw [heq] at hu
    have hw₁ : u.world.db.Wf := by
      rw [hu]
      exact (ingestInTx_evolves (P := fun _ _ => True) (fun _ _ _ _ => trivial) hin).wf hw
    have hj₁ : Journaled u.world.db := by
      rw [hu]
      exact ingest_journaled hw hj hin
    have hset : Settled e u.world.db := by
      rw [hu]
      exact ingest_settled hw hj hin
    have hreach := Machine.Reach.of_run (system fun _ _ => true) ht
    have hset' := hset.later hw₁ (reach_evolves (fun _ _ _ => rfl) hreach) (run_moves Txn.appends ht)
    obtain ⟨hw₂,hj₂⟩ := journaled_invariant.run ht hw₁ hj₁
    obtain ⟨err,heq',-⟩ | ⟨res',db₂,hin',heq'⟩ := EvidenceJournal.ingest_cases g' e c' t.world.db
    · rw [heq']
    · rw [heq']
      exact hset'.ingest_facts hw₂ hj₂ hin' k

/-- The cancellation that the filled order refuses, twice. -/
theorem evidence_replay_conflict : ∃ s,
    (system fun _ _ => true).run (Machine.boots World.initial) filledRun = some s ∧
      (EvidenceJournal.ingest sampleGuard sampleCancel {} s.world.db).1 =
        .error (.brokerEvidenceConflict
          "terminal_broker_fact_conflict: terminal broker fact conflict: FILLED -> CANCELLED") ∧
      (EvidenceJournal.ingest sampleGuard sampleCancel {}
          (EvidenceJournal.ingest sampleGuard sampleCancel {} s.world.db).2).2.facts
        sampleIntent.key =
      (EvidenceJournal.ingest sampleGuard sampleCancel {} s.world.db).2.facts sampleIntent.key := by
  have hrun : ((system fun _ _ => true).run (Machine.boots World.initial) filledRun).map
      (fun s => (EvidenceJournal.ingest sampleGuard sampleCancel {} s.world.db).1) =
      some (.error (.brokerEvidenceConflict
        "terminal_broker_fact_conflict: terminal broker fact conflict: FILLED -> CANCELLED")) := by
    decide +kernel
  obtain ⟨s,hs,hraise⟩ := Option.map_eq_some_iff.mp hrun
  let u : Sys Eff World := { s with world := { s.world with
    db := (EvidenceJournal.ingest sampleGuard sampleCancel {} s.world.db).2 } }
  have hu : u.world.db = (EvidenceJournal.ingest sampleGuard sampleCancel {} s.world.db).2 := rfl
  have ht : (system fun _ _ => true).run u [] = some u := rfl
  exact ⟨s,hs,hraise,evidence_replay_idempotent hs (.inr ⟨_,hraise⟩) hu ht sampleIntent.key⟩

/-- The conflict is raised, and the order of the key stays under review. -/
def ReuseFailsClosed (k : OrderKey) (r : Except PyError EvidenceIngestResult × Db) : Prop :=
  (∃ reason, r.1 = .error (.brokerEvidenceConflict reason)) ∧ r.2.underReview k

/-- A cancellation under the source identity of the full fill, and one for another order. -/
def sampleReuse (clientOrderId : String) (h : clientOrderId ∈ ["order-1","order-2"]) :
    BrokerEvidenceV1 :=
  ⟨{ sampleFields "s:1" .orderCancelled 0 with
      key := ⟨sampleIntent.key.accountFingerprint,clientOrderId⟩ },by
    simp only [List.mem_cons,List.not_mem_nil,or_false] at h
    rcases h with rfl | rfl <;> decide⟩

end BigQmt
