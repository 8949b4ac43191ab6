import BigQmt.OmsLogic
set_option autoImplicit false

/-!
The fill and the status of an order agree: `AggregateNeverContradictsFill` of
`formal/EvidenceReplay.tla`, for the statuses of the OMS.
-/

namespace BigQmt

open Resumption Proc

structure FillConsistent (q : Int) (st : OrderStatus) (f : Int) : Prop where
  nonneg : 0 ≤ f
  le : f ≤ q
  filled : st = .filled → f = q
  full : f = q → st = .filled ∨ st = .manualReview
  partly : st = .partiallyFilled → 0 < f ∧ f < q
  acknowledged : st = .acknowledged → f = 0
  rejected : st = .rejected → f = 0
  cancelled : st = .cancelled → f < q

/-- The statuses that say nothing about the fill but that it is not complete. -/
def OrderStatus.silent (st : OrderStatus) : Prop :=
  st ∈ [.created,.riskRejected,.riskAccepted,.aborted,.submitting,.cancelPending,.unknown,
    .reconciling]

section fills
variable {q f : Int} {st : OrderStatus}

theorem FillConsistent.of_silent (h₀ : 0 ≤ f) (h₁ : f < q) (hs : st.silent) :
    FillConsistent q st f := by
  have hne : f ≠ q := by omega
  refine ⟨h₀,by omega,?_,fun h => absurd h hne,?_,?_,?_,?_⟩ <;>
    (intro h; subst h; simp [OrderStatus.silent] at hs)

theorem FillConsistent.review (h₀ : 0 ≤ f) (h₁ : f ≤ q) : FillConsistent q .manualReview f := by
  refine ⟨h₀,h₁,?_,fun _ => .inr rfl,?_,?_,?_,?_⟩ <;> (intro h; cases h)

theorem FillConsistent.lt (h : FillConsistent q st f) (ht : st.terminal = false) : f < q := by
  have hle := h.le
  by_contra hlt
  obtain rfl | rfl := h.full (by omega)
  · simp [OrderStatus.terminal] at ht
  · simp [OrderStatus.terminal] at ht

/-- What `_normalize_broker_status` lets through agrees with the fill. -/
theorem normalizeBrokerStatus_consistent {target : OrderStatus} (h₀ : 0 ≤ f) (h₁ : f ≤ q)
    (hq : 0 < q) (hreq : target ∈ [.acknowledged,.partiallyFilled,.filled,.cancelled,.rejected])
    (h : normalizeBrokerStatus target f q = .ok st) : FillConsistent q st f := by
  simp only [normalizeBrokerStatus,refuse_eq_ok] at h
  obtain ⟨hfill,hrej,hcan,h⟩ := h
  by_cases hlive : target ∈ [OrderStatus.acknowledged,.partiallyFilled]
  · rw [if_pos hlive] at h
    by_cases hfull : f = q
    · rw [if_pos hfull] at h
      cases h
      refine ⟨h₀,h₁,fun _ => hfull,fun _ => .inl rfl,?_,?_,?_,?_⟩ <;> (intro h; cases h)
    · rw [if_neg hfull] at h
      by_cases hpos : 0 < f
      · rw [if_pos hpos] at h
        cases h
        refine ⟨h₀,h₁,?_,fun h => absurd h hfull,fun _ => ⟨hpos,by omega⟩,?_,?_,?_⟩ <;>
          (intro h; cases h)
      · rw [if_neg hpos,refuse_eq_ok] at h
        obtain ⟨hpart,h⟩ := h
        cases h
        have hack : st = .acknowledged := by
          simpa [of_decide_eq_false hpart] using hlive
        subst hack
        refine ⟨h₀,h₁,?_,fun h => absurd h hfull,?_,fun _ => by omega,?_,?_⟩ <;>
          (intro h; cases h)
  · rw [if_neg hlive] at h
    cases h
    obtain rfl | rfl | rfl : st = .filled ∨ st = .cancelled ∨ st = .rejected := by
      simpa using List.mem_of_ne_of_mem (by simp_all) (List.mem_of_ne_of_mem (by simp_all) hreq)
    · have hfq : f = q := by simpa using hfill
      refine ⟨h₀,h₁,fun _ => hfq,fun _ => .inl rfl,?_,?_,?_,?_⟩ <;> (intro h; cases h)
    · have hfq : f ≠ q := by simpa using hcan
      refine ⟨h₀,h₁,?_,fun h => absurd h hfq,?_,?_,?_,fun _ => by omega⟩ <;> (intro h; cases h)
    · have hzero : f = 0 := by simpa using hrej
      refine ⟨h₀,h₁,?_,fun h => absurd (hzero ▸ h) (by omega),?_,?_,fun _ => hzero,?_⟩ <;>
        (intro h; cases h)

/-- The aggregation keeps a status only where the larger fill still agrees with it. -/
theorem brokerNext_consistent {target : OrderStatus} {g : Int} (hq : 0 < q)
    (h : FillConsistent q st f) (ht : FillConsistent q target g) (hg : f ≤ g)
    (hgain : ¬ (st ∈ [OrderStatus.cancelled,.rejected] ∧ f < g)) :
    FillConsistent q (brokerNext st target) g := by
  unfold brokerNext
  by_cases hm : st = .manualReview
  · rw [if_pos hm,hm]
    exact .review ht.nonneg ht.le
  · rw [if_neg hm]
    by_cases hb : st.brokerTerminal = true
    · rw [if_pos hb]
      have hsame : g = f := by
        by_cases hf : st = .filled
        · have hfull := h.filled hf
          have hle := ht.le
          omega
        · have hmem : st ∈ [OrderStatus.cancelled,.rejected] := by
            cases st <;> simp_all [OrderStatus.brokerTerminal]
          by_contra hne
          exact hgain ⟨hmem,by omega⟩
      rw [hsame]
      exact h
    · rw [if_neg hb]
      split
      · rename_i hkeep
        simp only [Bool.and_eq_true,decide_eq_true_eq] at hkeep
        have hzero := ht.acknowledged hkeep.1
        have hpend : st = .cancelPending := by
          by_contra hne
          have hpart : st = .partiallyFilled := by simpa [hne] using hkeep.2
          have hpos := (h.partly hpart).1
          omega
        subst hpend
        exact .of_silent ht.nonneg (by omega) (by simp [OrderStatus.silent])
      · exact ht

end fills

/-- The requests that keep the agreement: a broker fact, or a request of the
command path to a silent status, to `MANUAL_REVIEW` or to the status there is. -/
def Agreeing (row : BrokerOrder) (req : TransitionRequest) : Prop :=
  (req.brokerFact = true ∧ req.filledQuantity.isSome = true ∧
    req.target ∈ [.acknowledged,.partiallyFilled,.filled,.cancelled,.rejected]) ∨
  (req.brokerFact = false ∧ req.filledQuantity = none ∧
    (req.target.silent ∨ req.target = .manualReview ∨ row.status = req.target ∨
      row.status = .manualReview))

section writes
variable {q : Int} {r r' : BrokerOrder}

theorem command_consistent {st target : OrderStatus} {f : Int} {o : TransitionOutcome}
    (h : FillConsistent q st f) (ht : transition st target = some o)
    (hreq : target.silent ∨ target = .manualReview ∨ st = target ∨ st = .manualReview) :
    FillConsistent q o.current f := by
  obtain ⟨-,-,⟨-,hcur,-⟩ | ⟨-,hcur,hne,hterm,-⟩⟩ := transition_cases ht
  · rw [hcur]
    exact h
  · rw [hcur]
    rcases hreq with hs | rfl | hsame | rfl
    · exact .of_silent h.nonneg (h.lt hterm) hs
    · exact .review h.nonneg h.le
    · exact absurd hsame hne
    · simp [OrderStatus.terminal] at hterm

theorem transition_consistent {req : TransitionRequest} {o : TransitionOutcome} {filled : Int}
    (hq : 0 < q) (h : FillConsistent q r.status r.filledQuantity) (hreq : Agreeing r req)
    (hplan : planTransition r.key.clientOrderId (r.context q) req = .ok (o,filled)) :
    FillConsistent q o.current filled := by
  have hgrow := planTransition_filled hplan
  obtain ⟨-,-,target,heff,hnext⟩ := planTransition_ok hplan
  rcases hreq with ⟨hfact,hsome,htarget⟩ | ⟨hfact,hnone,htarget⟩
  · obtain ⟨hnone,-,-⟩ | ⟨f,-,hf₀,hf₁,hmax,hnorm⟩ := effectiveFill_ok heff
    · simp [hnone] at hsome
    · obtain ⟨-,rfl,-,hgain⟩ | ⟨hnf,-⟩ := nextStatus_ok hnext
      · have hle : filled ≤ q := hmax ▸ max_le h.le hf₁
        have hge : 0 ≤ filled := h.nonneg.trans hgrow
        exact brokerNext_consistent hq h
          (normalizeBrokerStatus_consistent hge hle hq htarget hnorm) hgrow hgain
      · rw [hfact] at hnf
        cases hnf
  · obtain ⟨-,hfill,rfl⟩ | ⟨f,hsome,-⟩ := effectiveFill_ok heff
    · obtain ⟨hyes,-⟩ | ⟨-,ht⟩ := nextStatus_ok hnext
      · rw [hfact] at hyes
        cases hyes
      · rw [hfill]
        exact command_consistent h ht htarget
    · rw [hnone] at hsome
      cases hsome

theorem OrderWrite.consistent {P : BrokerOrder → TransitionRequest → Prop}
    (hP : ∀ row req, P row req → Agreeing row req) (hq : 0 < q)
    (h : FillConsistent q r.status r.filledQuantity) (hw : OrderWrite P q r r') :
    FillConsistent q r'.status r'.filledQuantity := by
  cases hw with
  | transition req o filled hp hplan =>
    rw [applyTransition_status hplan]
    exact transition_consistent hq h (hP r req hp) hplan
  | submit hs _ =>
    exact .of_silent h.nonneg (h.lt (by simp [hs,OrderStatus.terminal]))
      (by simp [reserveSubmit,OrderStatus.silent])
  | cancel hs _ =>
    have hlive : r.status.terminal = false := by cases hst : r.status <;> simp_all [OrderStatus.terminal]
    exact .of_silent h.nonneg (h.lt hlive) (by simp [reserveCancel,OrderStatus.silent])
  | review res => exact .review h.nonneg h.le
  | conflict reported filled hf =>
    unfold conflictFill at hf
    cases reported with
    | none =>
      cases hf
      exact .review h.nonneg h.le
    | some f =>
      simp only [refuse_eq_ok,Bool.or_eq_false_iff,decide_eq_false_iff_not,Except.ok.injEq] at hf
      obtain ⟨⟨h₀,h₁⟩,rfl⟩ := hf
      have hle : f ≤ q := not_lt.mp h₁
      exact .review (h.nonneg.trans (le_max_left _ _)) (max_le h.le hle)

end writes

theorem requests_agreeing {α : Type} {t : Txn α} (ht : t.Routine) {db : Db} {row : BrokerOrder}
    {req : TransitionRequest} (h : t.requests db row req) : Agreeing row req := by
  cases t with
  | recordRiskDecision g k decision =>
    obtain ⟨hfact,hnone,-,htarget⟩ := h
    refine .inr ⟨hfact,hnone,.inl ?_⟩
    rcases List.mem_cons.mp htarget with h | h <;> simp_all [OrderStatus.silent]
  | transitionOrder g k given =>
    obtain ⟨-,rfl⟩ := h
    obtain ⟨hnone,-,htarget⟩ := ht
    refine .inr ⟨rfl,hnone,?_⟩
    change given.target.silent ∨ given.target = _ ∨ _
    simp only [List.mem_cons,List.not_mem_nil,or_false] at htarget
    rcases htarget with h | h | h | h | h <;> simp [h,OrderStatus.silent]
  | ingestEvidence g e =>
    obtain ⟨-,-,rfl,-⟩ := h
    refine .inl ⟨rfl,rfl,?_⟩
    change e.requestedStatus ∈ _
    rw [e.requestedStatus_eq]
    cases e.evidenceType <;> simp [BrokerEvidenceType.status]
  | ingestCommandResult g r =>
    obtain ⟨hfact,hnone,-,b,htarget⟩ := h
    refine .inr ⟨hfact,hnone,?_⟩
    rw [htarget]
    unfold reconciliationTarget
    split
    · split
      · simp [OrderStatus.silent]
      · split <;> simp [OrderStatus.silent]
    · simp
  | _ => exact absurd h id

def Db.Consistent (db : Db) : Prop :=
  db.OrdersHold (fun q r => FillConsistent q r.status r.filledQuantity)

theorem Txn.run_consistent {α : Type} {t : Txn α} {c : Choice} {db : Db} (hw : db.Wf)
    (hdb : db.Consistent) (ht : ∀ row req, t.requests db row req → Agreeing row req) :
    (t.run c db).2.Consistent := by
  refine (t.run_evolves c db).ordersHold (fun k r q hq hb => ?_)
    (fun q r r' hq h hwrite => hwrite.consistent ht hq h) hw hdb
  rcases hb with rfl | rfl
  · exact .of_silent (le_refl _) hq (by simp [createdOrder,OrderStatus.silent])
  · exact .of_silent (le_refl _) hq (by simp [importedOrder,OrderStatus.silent])

/-- What can be called: the constructor, or one method of an object in any state. -/
inductive OmsCall where
  | construct (leaseSeconds : Nat)
  | perform (s : OmsState) (op : OmsOp)

def OmsCall.boot : OmsCall → Prog Eff Unit
  | .construct secs => (constructOms secs ()).bind (fun _ => .pure ())
  | .perform s op => (op.perform s).bind (fun _ => .pure ())

/-- Calls one after the other, each of which may be lost between any two effects. -/
def sequentialOms : Machine Eff Choice World OmsCall where
  exec := exec
  boot := OmsCall.boot
  allows pid _ := pid = 0

/-- No other process moves the world while a call is in progress. -/
def fillRules : Rules Eff Choice World where
  exec := exec
  cond _ _ _ := True
  need _ _ := True
  inv w := w.db.Wf ∧ w.db.Consistent
  rely i w w' := i = 0 → w = w'
  guar i w w' := i ≠ 0 → w = w'
  rely_refl _ _ := fun _ => rfl
  rely_trans _ _ _ _ h₁ h₂ := fun h => (h₁ h).trans (h₂ h)

/-- A status that was read is still the status, or the order went to review. -/
def StillIs (k : OrderKey) (st : OrderStatus) (w : World) : Prop :=
  ∀ r, w.db.order? k = some r → r.status = st ∨ r.status = .manualReview

theorem fillLogic : StatusLogic fillRules 0 StillIs where
  exec_eq _ _ _ := rfl
  need _ _ := trivial
  wf _ h := h.1
  rely w w' h := by
    rw [h rfl]
    exact .refl
  routine o c w ho hi _ := by
    refine ⟨⟨(exec_evolves o c w).wf hi.1,?_⟩,fun h => absurd rfl h⟩
    obtain hdb | ⟨α,t,ht,-,hdb⟩ := exec_routine ho c w
    · rw [hdb]
      exact hi.2
    · rw [hdb]
      exact t.run_consistent hi.1 hi.2 fun _ _ h => requests_agreeing ht h
  stable k st w w' h _ hm := h rfl ▸ hm
  status w k r _ hr r' hr' := by
    rw [hr] at hr'
    cases hr'
    exact .inl rfl
  terminal w k r r' _ hr' hadv hterm r'' hr'' := by
    rw [hr'] at hr''
    cases hr''
    exact hadv.terminal hterm
  asked g k req c w hm hf hb hi _ := by
    refine ⟨⟨(exec_evolves _ c w).wf hi.1,?_⟩,fun h => absurd rfl h⟩
    refine Txn.run_consistent hi.1 hi.2 fun row given h => ?_
    obtain ⟨hrow,rfl⟩ := h
    exact .inr ⟨rfl,hf,.inr (.inr (hm row hrow))⟩

/-- After any sequence of calls, whatever raised or was lost on the way, the fill
and the status of every order agree. -/
theorem fill_status_consistent {ms : List (Move Choice OmsCall)} {t : Sys Eff World}
    (h : sequentialOms.run (Machine.boots World.initial) ms = some t) {k : OrderKey}
    {r : BrokerOrder} (hr : t.world.db.order? k = some r) :
    ∃ i, t.world.db.intent? k = some i ∧
      FillConsistent i.quantity r.status r.filledQuantity := by
  have hinit : fillRules.inv World.initial := ⟨Db.Wf.empty,Db.OrdersHold.empty _⟩
  have hboot : ∀ pid call, sequentialOms.allows pid call = true → ∀ w, fillRules.inv w →
      fillRules.Wp pid (fun _ _ => True) (sequentialOms.boot call) w := by
    intro pid call hpid w hi
    obtain rfl : pid = 0 := by simpa [sequentialOms] using hpid
    have hs : Seen [] w := ⟨hi.1,fun _ h => by simp at h⟩
    cases call with
    | construct secs =>
      refine Rules.Wp.bind hi (Rules.Wp.mono (Rules.Wp.of_all fillLogic.seen_stable
        (constructOms_all fillLogic.keeps secs ()) hs) ?_)
      exact fun _ _ _ _ _ _ _ => trivial
    | perform s op =>
      exact Rules.Wp.bind hi (Rules.Wp.mono (fillLogic.perform_ok op hi)
        fun _ _ _ _ _ _ _ => trivial)
  have hcompat : ∀ i j, i ≠ j → ∀ w w', fillRules.guar i w w' → fillRules.rely j w w' :=
    fun i j hij w w' hg hj => hg fun hi => hij (hi.trans hj.symm)
  have hmeets := Machine.Reach.rules fillRules (fun _ _ _ => rfl) hcompat hboot hinit
    (Machine.Reach.of_run sequentialOms h)
  obtain ⟨hwf,hcons⟩ := hmeets.inv
  obtain ⟨i,hi⟩ := hwf.intent k r hr
  exact ⟨i,hi,hcons k r i hr hi⟩

/-- The object that the constructor of the concrete run returns, once reconciled. -/
def sampleOms : OmsState := ⟨"",30,⟨"","",1,30000000⟩,true,false⟩

/-- A submitted order is filled in part and then cancelled. -/
def cancelledRun : List (Move Choice OmsCall) :=
  .start 0 (.construct 30) :: List.replicate 6 (.step 0 {}) ++
  .start 0 (.perform sampleOms (.submitIntent sampleIntent none)) ::
    List.replicate 19 (.step 0 {}) ++
  .start 0 (.perform sampleOms (.ingestBrokerEvidence samplePartialFill)) ::
    List.replicate 2 (.step 0 {}) ++
  .start 0 (.perform sampleOms (.ingestBrokerEvidence sampleCancel)) ::
    List.replicate 2 (.step 0 {})

def cancelledOrder : BrokerOrder := ⟨sampleIntent.key,.cancelled,some "b-1",40,true,false,false⟩

theorem fill_status_cancelled : ∃ t i,
    sequentialOms.run (Machine.boots World.initial) cancelledRun = some t ∧
      t.world.db.order? sampleIntent.key = some cancelledOrder ∧
      t.world.db.intent? sampleIntent.key = some i ∧ FillConsistent i.quantity .cancelled 40 := by
  have hrun : (sequentialOms.run (Machine.boots World.initial) cancelledRun).map
      (fun t => t.world.db.order? sampleIntent.key) = some (some cancelledOrder) := by
    decide +kernel
  obtain ⟨t,ht,hr⟩ := Option.map_eq_some_iff.mp hrun
  obtain ⟨i,hi,hcons⟩ := fill_status_consistent ht hr
  exact ⟨t,i,ht,hr,hi,hcons⟩

end BigQmt
