import BigQmt.BridgePrograms
import BigQmt.TerminalFacts
set_option autoImplicit false

/-!
What accepted evidence says of its order from then on, in every state that any
processes can reach.
-/

namespace BigQmt

open Transact Keyed Relation Resumption

/-- The statuses of an order that the broker has said something about. -/
def OrderStatus.lifecycle : OrderStatus → Bool
  | .acknowledged | .partiallyFilled | .filled | .cancelPending | .cancelled | .rejected
  | .unknown | .reconciling | .manualReview => true
  | _ => false

/-- The requests of the processes: a broker fact, or one that claims no fill. -/
def Plain (_ : BrokerOrder) (req : TransitionRequest) : Prop :=
  (∃ e, req = mergeRequest e) ∨ (req.brokerFact = false ∧ req.filledQuantity = none)

theorem Txn.requests_plain {α : Type} {t : Txn α} {db : Db} {row : BrokerOrder}
    {req : TransitionRequest} (ht : t.fillless) (h : t.requests db row req) : Plain row req := by
  cases t with
  | recordRiskDecision g k decision => exact .inr ⟨h.1,h.2.1⟩
  | transitionOrder g k given =>
    obtain ⟨-,rfl⟩ := h
    exact .inr ⟨rfl,ht⟩
  | ingestEvidence g e =>
    obtain ⟨-,-,rfl,-⟩ := h
    exact .inl ⟨e,rfl⟩
  | ingestCommandResult g r => exact .inr ⟨h.1,h.2.1⟩
  | _ => exact absurd h id

/-- The fill stays in range, and a complete one ends the life of the order. -/
structure FillBounded (q : Int) (r : BrokerOrder) : Prop where
  nonneg : 0 ≤ r.filledQuantity
  le : r.filledQuantity ≤ q
  full : r.filledQuantity = q → r.status = .filled ∨ r.status = .manualReview

/-- A merged fact: what `_transition_in_tx` made of it. -/
structure Merged (q : Int) (r : BrokerOrder) (e : BrokerEvidenceV1) (o : TransitionOutcome)
    (filled : Int) (target : OrderStatus) : Prop where
  ids : idMismatch r.brokerOrderId e.brokerOrderId = false
  range : e.filledQuantity ≤ q
  fill : filled = max r.filledQuantity e.filledQuantity
  normal : normalizeBrokerStatus e.requestedStatus filled q = .ok target
  clash : terminalClash r.status target = false
  gain : ¬ (r.status ∈ [OrderStatus.cancelled,.rejected] ∧ r.filledQuantity < filled)
  current : o.current = brokerNext r.status target

section
variable {q : Int} {r r' : BrokerOrder} {e : BrokerEvidenceV1} {o : TransitionOutcome}
variable {filled : Int} {c : String}

theorem planTransition_merged
    (h : planTransition c (r.context q) (mergeRequest e) = .ok (o,filled)) :
    ∃ target, Merged q r e o filled target := by
  obtain ⟨hid,-,target,heff,hnext⟩ := planTransition_ok h
  obtain ⟨hnone,-,-⟩ | ⟨f,hf,-,hle,hfill,hnorm⟩ := effectiveFill_ok heff
  · simp [mergeRequest] at hnone
  · obtain rfl : e.filledQuantity = f := Option.some.inj hf
    obtain ⟨-,rfl,hclash,hgain⟩ | ⟨hfact,-⟩ := nextStatus_ok hnext
    · exact ⟨target,hid,hle,hfill,hnorm,hclash,hgain,rfl⟩
    · simp [mergeRequest] at hfact

/-- A request of the command path keeps the fill, and the status or takes an edge of
the table. -/
theorem planTransition_command {req : TransitionRequest} (hfact : req.brokerFact = false)
    (hnone : req.filledQuantity = none)
    (h : planTransition c (r.context q) req = .ok (o,filled)) :
    filled = r.filledQuantity ∧ (o.current = r.status ∨
      r.status.terminal = false ∧ o.current ∈ r.status.allowed) := by
  obtain ⟨-,-,target,heff,hnext⟩ := planTransition_ok h
  obtain ⟨-,rfl,rfl⟩ | ⟨f,hf,-⟩ := effectiveFill_ok heff
  · refine ⟨rfl,?_⟩
    obtain ⟨hyes,-⟩ | ⟨-,ht⟩ := nextStatus_ok hnext
    · rw [hfact] at hyes
      cases hyes
    · obtain ⟨-,-,⟨-,hcur,-⟩ | ⟨-,hcur,-,hterm,ha⟩⟩ := transition_cases ht
      · exact .inl hcur
      · rw [hcur]
        exact .inr ⟨hterm,ha⟩
  · rw [hnone] at hf
    cases hf

theorem requestedStatus_cases (e : BrokerEvidenceV1) : e.requestedStatus ∈
    [OrderStatus.acknowledged,.partiallyFilled,.filled,.cancelled,.rejected] := by
  rw [e.requestedStatus_eq]
  cases e.evidenceType <;> simp [BrokerEvidenceType.status]

/-- The normalised target is the requested status, or the one that the fill of a live
order asks for. -/
theorem normalizeBrokerStatus_cases {st target : OrderStatus} {f : Int}
    (h : normalizeBrokerStatus st f q = .ok target) :
    (st = .filled → f = q) ∧ (st = .rejected → f = 0) ∧ (st = .cancelled → f ≠ q) ∧
      (target = st ∧ (st ∈ [OrderStatus.acknowledged,.partiallyFilled] → f ≠ q) ∨
        st ∈ [OrderStatus.acknowledged,.partiallyFilled] ∧
          (f = q ∧ target = .filled ∨ f ≠ q ∧ 0 < f ∧ target = .partiallyFilled)) := by
  simp only [normalizeBrokerStatus,refuse_eq_ok] at h
  obtain ⟨hfill,hrej,hcan,h⟩ := h
  refine ⟨fun hs => ?_,fun hs => ?_,fun hs => ?_,?_⟩
  · simpa [hs] using hfill
  · simpa [hs] using hrej
  · simpa [hs] using hcan
  · by_cases hlive : st ∈ [OrderStatus.acknowledged,.partiallyFilled]
    · rw [if_pos hlive] at h
      by_cases hq : f = q
      · rw [if_pos hq] at h
        exact .inr ⟨hlive,.inl ⟨hq,(Except.ok.inj h).symm⟩⟩
      · rw [if_neg hq] at h
        by_cases hpos : 0 < f
        · rw [if_pos hpos] at h
          exact .inr ⟨hlive,.inr ⟨hq,hpos,(Except.ok.inj h).symm⟩⟩
        · rw [if_neg hpos] at h
          obtain ⟨-,h⟩ := refuse_eq_ok.mp h
          exact .inl ⟨(Except.ok.inj h).symm,fun _ => hq⟩
    · rw [if_neg hlive] at h
      exact .inl ⟨(Except.ok.inj h).symm,fun hs => absurd hs hlive⟩

namespace Merged

variable {target : OrderStatus} (h : Merged q r e o filled target)
include h

theorem target_cases :
    target ∈ [OrderStatus.acknowledged,.partiallyFilled,.filled,.cancelled,.rejected] := by
  obtain ⟨-,-,-,⟨rfl,-⟩ | ⟨-,⟨-,rfl⟩ | ⟨-,-,rfl⟩⟩⟩ := normalizeBrokerStatus_cases h.normal
  · exact requestedStatus_cases e
  · simp
  · simp

/-- A fact that completes the fill makes the order filled. -/
theorem filled_of_full (hq : 0 < q) (hfull : filled = q) : target = .filled := by
  have hreq := requestedStatus_cases e
  obtain ⟨-,hrej,hcan,⟨rfl,hlive⟩ | ⟨-,⟨-,rfl⟩ | ⟨hne,-,-⟩⟩⟩ := normalizeBrokerStatus_cases h.normal
  · simp only [List.mem_cons,List.not_mem_nil,or_false] at hreq
    rcases hreq with hs | hs | hs | hs | hs
    · exact absurd hfull (hlive (by simp [hs]))
    · exact absurd hfull (hlive (by simp [hs]))
    · exact hs
    · exact absurd hfull (hcan hs)
    · have hzero := hrej hs
      omega
  · rfl
  · exact absurd hfull hne

theorem bounded (hq : 0 < q) (hb : FillBounded q r) :
    0 ≤ filled ∧ filled ≤ q ∧ (filled = q → o.current = .filled ∨ o.current = .manualReview) := by
  have hnonneg := e.filledQuantity_nonneg
  have hfill := h.fill
  have hrange := h.range
  have hle := hb.le
  have hge := hb.nonneg
  refine ⟨by omega,by omega,fun hfull => ?_⟩
  obtain rfl := h.filled_of_full hq hfull
  rw [h.current]
  unfold brokerNext
  split
  · exact .inr ‹_›
  · split
    · rename_i hterm
      have hclash := h.clash
      have hfilled : OrderStatus.filled.brokerTerminal = true := rfl
      simp only [terminalClash,hterm,hfilled,Bool.true_and,bne_eq_false_iff_eq] at hclash
      exact .inl hclash
    · simp

end Merged

theorem conflictFill_bounds {reported : Option Int} (hb : FillBounded q r)
    (h : conflictFill (r.context q) reported = .ok filled) : 0 ≤ filled ∧ filled ≤ q := by
  have hle := hb.le
  have hge := hb.nonneg
  unfold conflictFill at h
  cases reported with
  | none =>
    obtain rfl : r.filledQuantity = filled := Except.ok.inj h
    exact ⟨hge,hle⟩
  | some f =>
    simp only [refuse_eq_ok,Bool.or_eq_false_iff,decide_eq_false_iff_not,Except.ok.injEq] at h
    obtain ⟨⟨h₀,h₁⟩,rfl⟩ := h
    have hf : f ≤ q := not_lt.mp h₁
    exact ⟨hge.trans (le_max_left _ _),max_le hle hf⟩

theorem FillBounded.write (hq : 0 < q) (hb : FillBounded q r) (hw : OrderWrite Plain q r r') :
    FillBounded q r' := by
  have hopen : ∀ {st : OrderStatus}, r.status = st → st.terminal = false →
      r.filledQuantity ≠ q := by
    rintro st rfl hst hfull
    rcases hb.full hfull with hs | hs
    · simp [hs,OrderStatus.terminal] at hst
    · simp [hs,OrderStatus.terminal] at hst
  cases hw with
  | transition req o filled hp hplan =>
    rcases hp with ⟨e,rfl⟩ | ⟨hfact,hnone⟩
    · obtain ⟨target,hm⟩ := planTransition_merged hplan
      obtain ⟨h₀,h₁,hfull⟩ := hm.bounded hq hb
      refine ⟨h₀,h₁,fun hf => ?_⟩
      rw [applyTransition_status hplan]
      exact hfull hf
    · obtain ⟨rfl,hcur⟩ := planTransition_command hfact hnone hplan
      refine ⟨hb.nonneg,hb.le,fun hfull => ?_⟩
      rw [applyTransition_status hplan]
      rcases hcur with hcur | ⟨hterm,-⟩
      · rw [hcur]
        exact hb.full hfull
      · exact absurd hfull (hopen rfl hterm)
  | submit hs _ =>
    exact ⟨hb.nonneg,hb.le,fun hfull => absurd hfull (hopen hs rfl)⟩
  | cancel hs _ =>
    refine ⟨hb.nonneg,hb.le,fun hfull => ?_⟩
    simp only [List.mem_cons,List.not_mem_nil,or_false] at hs
    rcases hs with hs | hs
    · exact absurd hfull (hopen hs rfl)
    · exact absurd hfull (hopen hs rfl)
  | review res => exact ⟨hb.nonneg,hb.le,fun _ => .inr rfl⟩
  | conflict reported filled hf =>
    obtain ⟨h₀,h₁⟩ := conflictFill_bounds hb hf
    exact ⟨h₀,h₁,fun _ => .inr rfl⟩

end

/-- What a fact that was accepted says of its order. -/
structure Attested (q : Int) (f : SemanticFact) (r : BrokerOrder) : Prop where
  live : r.status.lifecycle = true
  fill : f.filledQuantity ≤ r.filledQuantity
  brokerId : ∀ b, f.brokerOrderId = some b → r.brokerOrderId = some b
  terminal : f.requestedStatus.brokerTerminal = true → r.status = .manualReview ∨
    r.status = f.requestedStatus ∧
      normalizeBrokerStatus f.requestedStatus r.filledQuantity q = .ok f.requestedStatus

section
variable {q : Int} {f : SemanticFact} {r r' : BrokerOrder}

theorem allowed_lifecycle {c st : OrderStatus} (h : c.lifecycle = true) (ha : st ∈ c.allowed) :
    st.lifecycle = true := by
  have hall : c.allowed.all OrderStatus.lifecycle = true := by
    cases c <;> first | rfl | cases h
  exact List.all_eq_true.mp hall st ha

/-- A broker fact leaves no order in a status before its submission. -/
theorem brokerNext_lifecycle {c st : OrderStatus} (hst : st.lifecycle = true) :
    (brokerNext c st).lifecycle = true := by
  unfold brokerNext
  split
  · rename_i hc
    rw [hc]
    rfl
  · split
    · rename_i hc
      cases c <;> first | rfl | cases hc
    · split
      · rename_i hc
        simp only [Bool.and_eq_true,decide_eq_true_eq,List.mem_cons,List.not_mem_nil,or_false] at hc
        rcases hc.2 with rfl | rfl
        · rfl
        · rfl
      · exact hst

namespace Merged

variable {e : BrokerEvidenceV1} {o : TransitionOutcome} {filled : Int} {target : OrderStatus}

theorem lifecycle (h : Merged q r e o filled target) : o.current.lifecycle = true := by
  have htarget : target.lifecycle = true := by
    have hcases := h.target_cases
    clear h
    cases target <;> simp_all [OrderStatus.lifecycle]
  rw [h.current]
  exact brokerNext_lifecycle htarget

/-- A terminal order keeps a fill that fits its status. -/
theorem fill_terminal (h : Merged q r e o filled target) {st : OrderStatus}
    (hst : st.brokerTerminal = true) (hr : r.status = st)
    (hnorm : normalizeBrokerStatus st r.filledQuantity q = .ok st) : filled = r.filledQuantity := by
  have hfill := h.fill
  have hrange := h.range
  obtain ⟨hfilled,-,-,-⟩ := normalizeBrokerStatus_cases hnorm
  have hgain := h.gain
  cases st <;> simp only [OrderStatus.brokerTerminal,Bool.false_eq_true] at hst
  · have hq := hfilled rfl
    omega
  · have hno : ¬ r.filledQuantity < filled := fun hlt => hgain ⟨by simp [hr],hlt⟩
    omega
  · have hno : ¬ r.filledQuantity < filled := fun hlt => hgain ⟨by simp [hr],hlt⟩
    omega

end Merged

/-- No write of the order takes back what the fact says. -/
theorem Attested.write (h : Attested q f r) (hw : OrderWrite Plain q r r') : Attested q f r' := by
  have hadv := hw.advances
  refine ⟨?_,h.fill.trans hadv.filled,fun b hb => hadv.brokerId b (h.brokerId b hb),fun ht => ?_⟩
  · cases hw with
    | transition req o filled hp hplan =>
      rw [applyTransition_status hplan]
      rcases hp with ⟨e,rfl⟩ | ⟨hfact,hnone⟩
      · obtain ⟨target,hm⟩ := planTransition_merged hplan
        exact hm.lifecycle
      · obtain ⟨-,hcur | ⟨-,ha⟩⟩ := planTransition_command hfact hnone hplan
        · rw [hcur]
          exact h.live
        · exact allowed_lifecycle h.live ha
    | submit hs _ =>
      have hlive := h.live
      simp [hs,OrderStatus.lifecycle] at hlive
    | cancel hs _ => rfl
    | review res => rfl
    | conflict reported filled hf => rfl
  · rcases h.terminal ht with hs | ⟨hs,hnorm⟩
    · exact .inl (hadv.review hs)
    · rcases hadv.terminal (hs ▸ ht) with hs' | hs'
      · refine .inr ⟨hs'.trans hs,?_⟩
        have hfill : r'.filledQuantity = r.filledQuantity := by
          cases hw with
          | transition req o filled hp hplan =>
            rcases hp with ⟨e,rfl⟩ | ⟨hfact,hnone⟩
            · obtain ⟨target,hm⟩ := planTransition_merged hplan
              exact hm.fill_terminal ht hs hnorm
            · exact (planTransition_command hfact hnone hplan).1
          | submit _ _ => rfl
          | cancel _ _ => rfl
          | review res => rfl
          | conflict reported filled hf =>
            rw [← hs,← hs'] at ht
            simp [markConflict,OrderStatus.brokerTerminal] at ht
        rw [hfill]
        exact hnorm
      · exact .inl hs'

theorem Attested.path (h : Attested q f r) (hp : ReflTransGen (OrderWrite Plain q) r r') :
    Attested q f r' := by
  induction hp with
  | refl => exact h
  | tail _ hw ih => exact ih.write hw

/-- A fact that is merged is attested from then on. -/
theorem Attested.of_merge {e : BrokerEvidenceV1} {o : TransitionOutcome} {filled : Int} {c : String}
    (h : planTransition c (r.context q) (mergeRequest e) = .ok (o,filled)) :
    Attested q e.semanticDigest (applyTransition (mergeRequest e) o filled r) := by
  obtain ⟨target,hm⟩ := planTransition_merged h
  constructor
  · rw [applyTransition_status h]
    exact hm.lifecycle
  · change e.filledQuantity ≤ filled
    rw [hm.fill]
    exact le_max_right _ _
  · intro b hb
    have hid := hm.ids
    have hb' : e.brokerOrderId = some b := hb
    change r.brokerOrderId.or e.brokerOrderId = some b
    rw [hb'] at hid ⊢
    cases hs : r.brokerOrderId with
    | none => rfl
    | some b' =>
      obtain rfl : b' = b := by simpa [hs,idMismatch] using hid
      rfl
  · intro ht
    rw [applyTransition_status h]
    have hnorm := hm.normal
    obtain rfl : target = e.requestedStatus := normalizeBrokerStatus_terminal ht hnorm
    rcases planTransition_terminal ht h with hcur | hcur
    · exact .inr ⟨hcur,hnorm⟩
    · exact .inl hcur

/-- The journal compares a part of the fact, which is all that is attested. -/
theorem Attested.congr {f' : SemanticFact} (h : Attested q f r)
    (hst : f'.requestedStatus = f.requestedStatus) (hfill : f'.filledQuantity = f.filledQuantity)
    (hid : f'.brokerOrderId = f.brokerOrderId) : Attested q f' r := by
  refine ⟨h.live,?_,?_,?_⟩
  · rw [hfill]
    exact h.fill
  · rw [hid]
    exact h.brokerId
  · rw [hst]
    exact h.terminal

end
/-- A fact that holds of its order in the database. -/
def Db.attests (db : Db) (f : SemanticFact) : Prop :=
  ∃ r i, db.order? f.key = some r ∧ db.intent? f.key = some i ∧ Attested i.quantity f r

/-- The fills are in range, and every fact that the journal accepted holds of its order. -/
structure Attests (db : Db) : Prop where
  bounded : db.OrdersHold FillBounded
  keys : ∀ row ∈ db.evidenceKeys, row.accepted = true → db.attests row.fingerprint.semanticDigest
  observations : ∀ o ∈ db.observations,
    o.classification ∈ [.new,.duplicate,.semanticDuplicate] → db.attests o.evidence.semanticDigest

theorem Attests.empty : Attests Db.empty := by
  refine ⟨Db.OrdersHold.empty _,?_,?_⟩
  · intro row hrow
    simp [Db.empty] at hrow
  · intro o ho
    simp [Db.empty] at ho

section
variable {db db' : Db} {e : BrokerEvidenceV1}

theorem Db.attests.evolve {f : SemanticFact} (h : db.attests f) (hev : Evolves Plain db db') :
    db'.attests f := by
  obtain ⟨r,i,hr,hi,hatt⟩ := h
  obtain ⟨r',hr',hp⟩ := hev.orders _ r i hr hi
  exact ⟨r',i,hr',hev.intents _ i hi,hatt.path hp⟩

theorem bounded_evolve (hw : db.Wf) (h : db.OrdersHold FillBounded) (hev : Evolves Plain db db') :
    db'.OrdersHold FillBounded := by
  refine hev.ordersHold (fun k r q hq hb => ?_) (fun q r r' hq h hwrite => h.write hq hwrite) hw h
  rcases hb with rfl | rfl
  · exact ⟨le_refl _,hq.le,fun hfull => absurd hfull hq.ne⟩
  · exact ⟨le_refl _,hq.le,fun hfull => absurd hfull hq.ne⟩

namespace Attests

theorem evolve (h : Attests db) (hw : db.Wf) (hev : Evolves Plain db db')
    (hj : SameJournal db db') : Attests db' := by
  obtain ⟨hkeys,hobs⟩ := Prod.mk.inj hj
  refine ⟨bounded_evolve hw h.bounded hev,fun row hrow ha => ?_,fun o ho hc => ?_⟩
  · exact (h.keys row (hkeys ▸ hrow) ha).evolve hev
  · exact (h.observations o (hobs ▸ ho) hc).evolve hev

theorem record (h : Attests db) {c : Classification}
    (he : c ∈ [.new,.duplicate,.semanticDuplicate] → db.attests e.semanticDigest) :
    Attests (db.record e c) := by
  refine ⟨h.bounded,h.keys,fun o ho hc => ?_⟩
  rcases List.mem_append.mp ho with ho | ho
  · exact h.observations o ho hc
  · obtain rfl : o = ⟨e,c⟩ := by simpa using ho
    exact he hc

theorem recordKey (h : Attests db) {row : EvidenceKey}
    (hrow : row.accepted = true → db.attests row.fingerprint.semanticDigest) :
    Attests (db.recordKey row) := by
  refine ⟨h.bounded,fun r hr ha => ?_,h.observations⟩
  rcases List.mem_append.mp hr with hr | hr
  · exact h.keys r hr ha
  · obtain rfl : r = row := by simpa using hr
    exact hrow ha

end Attests

theorem BrokerEvidenceV1.brokerOrderId_nonempty (e : BrokerEvidenceV1) :
    e.brokerOrderId ≠ some "" := by
  intro hb
  have hv := e.valid
  simp only [EvidenceFields.postInit,refuse_eq_ok] at hv
  have htext := hv.2.2.2.2.2.2.2.1
  rw [hb] at htext
  simp [optionalText,boundedText] at htext

/-- The observation that suppresses a fact carries the same kind, fill and broker id. -/
theorem Observation.suppresses_cases {o : Observation} (h : o.suppresses e = true) :
    o.evidence.key = e.key ∧ o.evidence.requestedStatus = e.requestedStatus ∧
      o.evidence.filledQuantity = e.filledQuantity ∧
      o.evidence.brokerOrderId = e.brokerOrderId ∧
      o.classification ∈ [.new,.duplicate,.semanticDuplicate] := by
  simp only [Observation.suppresses,Bool.and_eq_true,decide_eq_true_eq] at h
  obtain ⟨⟨⟨⟨⟨⟨⟨hkey,-⟩,hst⟩,hfill⟩,hid⟩,-⟩,-⟩,hc⟩ := h
  refine ⟨hkey,hst,hfill,?_,hc⟩
  have ho := o.evidence.brokerOrderId_nonempty
  have he := e.brokerOrderId_nonempty
  cases hob : o.evidence.brokerOrderId <;> cases heb : e.brokerOrderId <;> simp_all

theorem Attests.suppressed (h : Attests db)
    (hseen : db.observations.any (Observation.suppresses e) = true) :
    db.attests e.semanticDigest := by
  obtain ⟨o,ho,hsup⟩ := List.any_eq_true.mp hseen
  obtain ⟨hkey,hst,hfill,hid,hc⟩ := Observation.suppresses_cases hsup
  obtain ⟨r,i,hr,hi,hatt⟩ := h.observations o ho hc
  have hk : o.evidence.semanticDigest.key = e.semanticDigest.key := hkey
  rw [hk] at hr hi
  exact ⟨r,i,hr,hi,hatt.congr hst.symm hfill.symm hid.symm⟩

theorem Attests.ingest {res : Except String EvidenceIngestResult} (hw : db.Wf) (h : Attests db)
    (hin : ingestInTx e db = .ok (res,db')) : Attests db' := by
  cases ingest_cases hin with
  | reused row rows events _ _ hev =>
    have hnew : Attests (db.record e .conflict) := h.record fun hc => by simp at hc
    have hev' : Evolves Plain (db.record e .conflict)
        { db.record e .conflict with brokerOrders := rows, orderEvents := events } :=
      (hev _).after rfl rfl
    exact hnew.evolve ⟨hw.intent,hw.quantity,hw.unique⟩ hev' rfl
  | known row r hf hr ha =>
    refine h.record fun _ => ?_
    have hfp : row.fingerprint = evidenceFingerprint e := find_key hf
    have hkey := h.keys row (find_mem hf) ha
    rw [hfp] at hkey
    exact hkey
  | knownConflict row hf ha => exact h.record fun hc => by simp at hc
  | suppressed r hn hr hseen =>
    have hfact := h.suppressed hseen
    exact (h.recordKey fun _ => hfact).record fun _ => hfact
  | applied o db₁ hn hm =>
    have hev : Evolves Plain db db₁ := transitionInTx_evolves (fun _ _ => .inl ⟨e,rfl⟩) hm
    have hj : SameJournal db db₁ := journalFrame.transitionInTx_moves _ _ db o db₁ hm
    have hfact : db₁.attests e.semanticDigest := by
      obtain ⟨r,i,filled,hr,hi,hplan,rfl⟩ := transitionInTx_ok hm
      exact ⟨_,i,order?_updateOrder (fun _ => rfl) hr,hi,Attested.of_merge hplan⟩
    exact ((h.evolve hw hev hj).recordKey fun _ => hfact).record fun _ => hfact
  | conflict err reason filled _ _ _ _ hm =>
    have hnew : Attests ((db.recordKey ⟨evidenceFingerprint e,false,none,some reason⟩).record e
        .conflict) := (h.recordKey fun ha => by cases ha).record fun hc => by simp at hc
    exact hnew.evolve ⟨hw.intent,hw.quantity,hw.unique⟩ (markConflictInTx_evolves hm)
      (journalFrame.markConflictInTx_moves _ _ _ _ _ hm)

end

/-- In every state that any processes reach. -/
theorem reach_attests {ms : List (Move Choice Start)} {t : Sys Eff World}
    {allows : Nat → Start → Bool}
    (h : (system allows).run (Machine.boots World.initial) ms = some t) :
    t.world.db.Wf ∧ Attests t.world.db := by
  refine reach_keeps (fun {α x now a db db'} hx hb hw hdb => ?_) h Attests.empty
  obtain hj | ⟨e,res,hin⟩ := Txn.journal_cases hb
  · have hev : Evolves Plain db db' := (Txn.evolves hb).mono fun _ _ => Txn.requests_plain hx
    exact hdb.evolve hw hev hj
  · exact hdb.ingest hw hin

end BigQmt
