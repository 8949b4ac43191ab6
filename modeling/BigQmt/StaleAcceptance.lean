import BigQmt.Arrival
set_option autoImplicit false

/-!
Acceptances that arrive after a fill or a cancellation: what `EvidenceJournal.ingest`
leaves of an order that is further on.
-/

namespace BigQmt

open Transact Resumption

/-- The source identity of the evidence was used for another fact. -/
def Reused (e : BrokerEvidenceV1) (db : Db) : Prop :=
  ∃ row, identityRow e db = some row ∧ row.fingerprint.semanticDigest ≠ e.semanticDigest

section
variable {e : BrokerEvidenceV1} {db db' : Db} {r : BrokerOrder}

/-- A reuse that commits sends the order of the evidence to review, with the fill it has. -/
theorem ingestReusedIdentity_marked {row : EvidenceKey} {res : Except String EvidenceIngestResult}
    (hj : Journaled db) (hrow : row ∈ db.evidenceKeys)
    (h : ingestReusedIdentity e row db = .ok (res,db')) (hr : db.order? e.key = some r) :
    db'.order? e.key = some { r with status := .manualReview } := by
  obtain ⟨db₁,hfirst,hsecond⟩ := ingestReusedIdentity_ok hj hrow h
  obtain ⟨r₁,hr₁,horder₁⟩ := markConflictInTx_none hfirst
  have hr' : (db.record e .conflict).order? e.key = some r := hr
  by_cases hk : e.key = row.fingerprint.semanticDigest.key
  · rw [← hk,hr'] at hr₁
    cases hr₁
    have hmarked : db₁.order? e.key = some { r with status := .manualReview } := by
      rw [horder₁,if_pos hk]
    obtain ⟨-,rfl⟩ | hagain := hsecond
    · exact hmarked
    · obtain ⟨r₂,hr₂,horder₂⟩ := markConflictInTx_none hagain
      rw [hmarked] at hr₂
      cases hr₂
      rw [horder₂,if_pos rfl]
  · have hkept : db₁.order? e.key = some r := by rw [horder₁,if_neg hk,hr']
    obtain ⟨hsame,-⟩ | hmark := hsecond
    · exact absurd hsame hk
    · obtain ⟨r₂,hr₂,horder₂⟩ := markConflictInTx_none hmark
      rw [hkept] at hr₂
      cases hr₂
      rw [horder₂,if_pos rfl]

end

section
variable {e : BrokerEvidenceV1} {q : Int} {r : BrokerOrder} {c : String}

/-- An acceptance merges with an order that is not complete, and adds nothing to its fill. -/
theorem acceptance_merges (hbound : FillBounded q r)
    (hst : r.status ∈ [OrderStatus.partiallyFilled,.cancelPending])
    (hreq : e.requestedStatus = .acknowledged)
    (hid : idMismatch r.brokerOrderId e.brokerOrderId = false) :
    ∃ p, planTransition c (r.context q) (mergeRequest e) = .ok p := by
  have hzero := accepted_fill hreq
  have hmax : max r.filledQuantity e.filledQuantity = r.filledQuantity := by
    rw [hzero]
    exact max_eq_left hbound.nonneg
  have hle : e.filledQuantity ≤ q := by
    rw [hzero]
    exact hbound.nonneg.trans hbound.le
  have hlive : r.status.brokerTerminal = false := by
    cases hs : r.status <;> simp_all [OrderStatus.brokerTerminal]
  have hclash : ∀ target, terminalClash r.status target = false := by
    intro target
    simp [terminalClash,hlive]
  have hne : r.filledQuantity ≠ q := by
    intro hfull
    obtain hs | hs := hbound.full hfull
    · simp [hs] at hst
    · simp [hs] at hst
  have hnorm : ∃ target, normalizeBrokerStatus .acknowledged r.filledQuantity q = .ok target := by
    simp only [normalizeBrokerStatus,refuse]
    by_cases hpos : 0 < r.filledQuantity <;> simp [hne,hpos]
  obtain ⟨target,hnorm⟩ := hnorm
  rw [planTransition_ok_iff,hmax,hreq]
  exact ⟨hid,hclash _,hle,target,hnorm,hclash _,by simp⟩

/-- The merged acceptance leaves the fill, and the status unless the order is being
cancelled with a fill. -/
theorem Merged.acceptance {o : TransitionOutcome} {filled : Int} {target : OrderStatus}
    (h : Merged q r e o filled target) (hbound : FillBounded q r)
    (hst : r.status ∈ [OrderStatus.partiallyFilled,.cancelPending])
    (hreq : e.requestedStatus = .acknowledged) :
    filled = r.filledQuantity ∧
      (r.status = .partiallyFilled ∨ r.filledQuantity = 0 → o.current = r.status) := by
  have hfill : filled = r.filledQuantity := by
    rw [h.fill,accepted_fill hreq]
    exact max_eq_left hbound.nonneg
  refine ⟨hfill,?_⟩
  intro hcase
  have hnorm := h.normal
  rw [hreq,hfill] at hnorm
  obtain ⟨-,-,-,⟨htarget,-⟩ | ⟨-,⟨hfull,-⟩ | ⟨-,hpos,htarget⟩⟩⟩ := normalizeBrokerStatus_cases hnorm
  · rw [h.current,htarget]
    simp only [List.mem_cons,List.not_mem_nil,or_false] at hst
    obtain hs | hs := hst
    · simp [brokerNext,hs,OrderStatus.brokerTerminal]
    · simp [brokerNext,hs,OrderStatus.brokerTerminal]
  · obtain hs | hs := hbound.full hfull
    · simp [hs] at hst
    · simp [hs] at hst
  · obtain hs | hzero := hcase
    · rw [h.current,htarget]
      simp [brokerNext,hs,OrderStatus.brokerTerminal]
    · omega

end

/-- In every reachable state, an acceptance leaves the fill of an order that is partly filled
or being cancelled, and its status too unless its source identity was used for another fact,
which sends the order to review, or the order is being cancelled with a fill. -/
theorem acceptance_never_moves_back {ms : List (Move Choice Start)} {t : Sys Eff World}
    (h : (system fun _ _ => true).run (Machine.boots World.initial) ms = some t)
    (g : Guard) (c : Choice) {e : BrokerEvidenceV1} {r : BrokerOrder}
    (hr : t.world.db.order? e.key = some r)
    (hst : r.status ∈ [OrderStatus.partiallyFilled,.cancelPending])
    (htype : e.evidenceType = .orderAccepted)
    (hid : idMismatch r.brokerOrderId e.brokerOrderId = false) :
    ∃ r', (EvidenceJournal.ingest g e c t.world.db).2.order? e.key = some r' ∧
      r'.filledQuantity = r.filledQuantity ∧
      (Reused e t.world.db → r'.status = .manualReview ∨
        (EvidenceJournal.ingest g e c t.world.db).2 = t.world.db) ∧
      (¬Reused e t.world.db → r.status = .partiallyFilled ∨ r.filledQuantity = 0 →
        r'.status = r.status) := by
  obtain ⟨hw,hdb⟩ := reach_attests h
  obtain ⟨i,hi⟩ := hw.intent e.key r hr
  have hbound : FillBounded i.quantity r := hdb.bounded e.key r i hr hi
  have hreq : e.requestedStatus = .acknowledged := by
    rw [e.requestedStatus_eq,htype]
    rfl
  obtain ⟨err,heq,-⟩ | ⟨res,db',hin,heq⟩ := EvidenceJournal.ingest_cases g e c t.world.db
  · rw [heq]
    exact ⟨r,hr,rfl,fun _ => .inr rfl,fun _ _ => rfl⟩
  · rw [heq]
    dsimp only
    by_cases hreused : Reused e t.world.db
    · obtain ⟨row,hrow,hdiffers⟩ := hreused
      obtain ⟨-,hj⟩ := journaled_invariant.reach h
      rw [ingestInTx_reused hrow hdiffers] at hin
      exact ⟨_,ingestReusedIdentity_marked hj (identityRow_mem hrow).1 hin hr,rfl,fun _ => .inl rfl,
        fun hnot => absurd ⟨row,hrow,hdiffers⟩ hnot⟩
    · have hkept : db'.order? e.key = some r → ∃ r', db'.order? e.key = some r' ∧
          r'.filledQuantity = r.filledQuantity ∧
          (Reused e t.world.db → r'.status = .manualReview ∨ db' = t.world.db) ∧
          (¬Reused e t.world.db → r.status = .partiallyFilled ∨ r.filledQuantity = 0 →
            r'.status = r.status) :=
        fun hsame => ⟨r,hsame,rfl,fun hyes => absurd hyes hreused,fun _ _ => rfl⟩
      cases ingest_cases hin with
      | reused row rows events hf hd => exact absurd ⟨row,hf,hd⟩ hreused
      | known row r₀ => exact hkept hr
      | knownConflict row => exact hkept hr
      | suppressed r₀ => exact hkept hr
      | applied o db₁ hn hm =>
        obtain ⟨r₁,i₁,filled,hr₁,hi₁,hplan,rfl⟩ := transitionInTx_ok hm
        rw [hr] at hr₁
        rw [hi] at hi₁
        cases hr₁
        cases hi₁
        obtain ⟨target,hmerged⟩ := planTransition_merged hplan
        obtain ⟨hfill,hstatus⟩ := hmerged.acceptance hbound hst hreq
        refine ⟨_,order?_updateOrder (fun _ => rfl) hr,hfill,fun hyes => absurd hyes hreused,?_⟩
        intro _ hcase
        rw [applyTransition_status hplan]
        exact hstatus hcase
      | conflict err reason filled _ hn hraised =>
        obtain ⟨p,hplan⟩ := acceptance_merges (c := e.key.clientOrderId) hbound hst hreq hid
        rw [transitionInTx_eq _ hr hi,hplan] at hraised
        cases hraised

/-- An acceptance under the source identity of the partial fill. -/
def sampleReusedAcceptance : BrokerEvidenceV1 := ⟨sampleFields "s:3" .orderAccepted 0,by decide⟩

/-- An acceptance that differs from the one before in its token. -/
def sampleTokenAcceptance : BrokerEvidenceV1 :=
  ⟨{ sampleFields "s:7" .orderAccepted 0 with brokerToken := some "BQ-1" },by decide⟩

theorem acceptance_keeps_partly_filled : ∃ t r',
    (system fun _ _ => true).run (Machine.boots World.initial) (partlyFilledRun 33) = some t ∧
      (EvidenceJournal.ingest sampleGuard sampleTokenAcceptance {} t.world.db).2.order?
        sampleIntent.key = some r' ∧ r'.status = .partiallyFilled ∧ r'.filledQuantity = 40 := by
  have hrun : ((system fun _ _ => true).run (Machine.boots World.initial)
      (partlyFilledRun 33)).map (fun t => ((identityRow sampleTokenAcceptance t.world.db).isNone,
        t.world.db.order? sampleIntent.key)) =
      some (true,some ⟨sampleIntent.key,.partiallyFilled,some "b-1",40,true,false,false⟩) := by
    decide +kernel
  obtain ⟨t,ht,hdb⟩ := Option.map_eq_some_iff.mp hrun
  simp only [Prod.mk.injEq,Option.isNone_iff_eq_none] at hdb
  obtain ⟨hfresh,hr⟩ := hdb
  obtain ⟨r',hr',hfill,-,hstatus⟩ := acceptance_never_moves_back ht sampleGuard {} (e := sampleTokenAcceptance)
    hr (by decide) rfl (by decide)
  have hnot : ¬Reused sampleTokenAcceptance t.world.db := by
    rintro ⟨row,hrow,-⟩
    rw [hfresh] at hrow
    cases hrow
  exact ⟨t,r',ht,hr',hstatus hnot (.inl rfl),hfill⟩

/-- A reused identity sends the partly filled order to review, and an acceptance ends the
cancellation of a partly filled order. -/
theorem acceptance_moves_order :
    (∃ t, (system fun _ _ => true).run (Machine.boots World.initial) (partlyFilledRun 33) = some t ∧
      t.world.db.order? sampleIntent.key =
        some ⟨sampleIntent.key,.partiallyFilled,some "b-1",40,true,false,false⟩ ∧
      (EvidenceJournal.ingest sampleGuard sampleReusedAcceptance {} t.world.db).2.order?
        sampleIntent.key = some ⟨sampleIntent.key,.manualReview,some "b-1",40,true,false,false⟩) ∧
    ∃ t, (system fun _ _ => true).run (Machine.boots World.initial) (partlyFilledRun 36) = some t ∧
      t.world.db.order? sampleIntent.key =
        some ⟨sampleIntent.key,.cancelPending,some "b-1",40,true,true,false⟩ ∧
      (EvidenceJournal.ingest sampleGuard sampleTokenAcceptance {} t.world.db).2.order?
        sampleIntent.key = some ⟨sampleIntent.key,.partiallyFilled,some "b-1",40,true,true,false⟩ := by
  constructor
  · have hrun : ((system fun _ _ => true).run (Machine.boots World.initial)
        (partlyFilledRun 33)).map (fun t => (t.world.db.order? sampleIntent.key,
          (EvidenceJournal.ingest sampleGuard sampleReusedAcceptance {} t.world.db).2.order?
            sampleIntent.key)) =
        some (some ⟨sampleIntent.key,.partiallyFilled,some "b-1",40,true,false,false⟩,
          some ⟨sampleIntent.key,.manualReview,some "b-1",40,true,false,false⟩) := by decide +kernel
    obtain ⟨t,ht,hdb⟩ := Option.map_eq_some_iff.mp hrun
    obtain ⟨hr,hafter⟩ := Prod.mk.inj hdb
    exact ⟨t,ht,hr,hafter⟩
  · have hrun : ((system fun _ _ => true).run (Machine.boots World.initial)
        (partlyFilledRun 36)).map (fun t => (t.world.db.order? sampleIntent.key,
          (EvidenceJournal.ingest sampleGuard sampleTokenAcceptance {} t.world.db).2.order?
            sampleIntent.key)) =
        some (some ⟨sampleIntent.key,.cancelPending,some "b-1",40,true,true,false⟩,
          some ⟨sampleIntent.key,.partiallyFilled,some "b-1",40,true,true,false⟩) := by decide +kernel
    obtain ⟨t,ht,hdb⟩ := Option.map_eq_some_iff.mp hrun
    obtain ⟨hr,hafter⟩ := Prod.mk.inj hdb
    exact ⟨t,ht,hr,hafter⟩

end BigQmt
