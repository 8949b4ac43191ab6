import BigQmt.AtMostOnce
import BigQmt.OmsLogic
set_option autoImplicit false

/-!
An order lives at the broker only after its submit was reserved, as long as no
evidence arrives for an order that was never reserved: the aggregation of broker
facts does not look at the reservation.
-/

namespace BigQmt

open Resumption Proc

/-- The statuses that an order takes once it may be known to the broker. -/
def OrderStatus.brokerLifecycle : OrderStatus → Bool
  | .submitting | .acknowledged | .partiallyFilled | .filled | .cancelPending | .cancelled
  | .rejected | .unknown | .reconciling => true
  | _ => false

/-- What the quantity checks of the aggregation refuse for an order without fills. -/
def contradictsQuantity (quantity : Int) (e : BrokerEvidenceV1) : Bool :=
  quantity < e.filledQuantity ||
    (e.requestedStatus = .filled && e.filledQuantity ≠ quantity) ||
    (e.requestedStatus = .cancelled && e.filledQuantity = quantity)

/-- New evidence for an order whose submit was not reserved, not yet under review,
that the quantity does not contradict. -/
def premature (e : BrokerEvidenceV1) (db : Db) : Bool :=
  (identityRow e db).isNone &&
    match db.order? e.key,db.intent? e.key with
    | some r,some i => !r.submitCallStarted && r.status ≠ .manualReview &&
        !contradictsQuantity i.quantity e
    | _,_ => false

/-- No premature evidence gets past the guard of its transaction. -/
def timely : {β : Type} → Eff β → Choice → World → Bool
  | _,.txn (.ingestEvidence g e),c,w =>
      !(c.fault.isNone && (g.check c.now w.db matches .ok ()) && premature e w.db)
  | _,_,_,_ => true

structure Reserved (r : BrokerOrder) : Prop where
  lifecycle : r.status.brokerLifecycle = true → r.submitCallStarted = true
  unfilled : r.submitCallStarted = false → r.status ≠ .manualReview → r.filledQuantity = 0

/-- The requests that keep an order reserved. -/
def Entitled (row : BrokerOrder) (req : TransitionRequest) : Prop :=
  row.submitCallStarted = true ∨ row.status = .manualReview ∨
    (req.brokerFact = false ∧ req.filledQuantity = none ∧ req.target ≠ .submitting)

theorem transition_lifecycle {c r : OrderStatus} {o : TransitionOutcome}
    (h : transition c r = some o) (hc : c.brokerLifecycle = false) (hr : r ≠ .submitting) :
    o.current.brokerLifecycle = false := by
  obtain ⟨-,-,⟨-,hcur,-⟩ | ⟨-,hcur,-,-,hallowed⟩⟩ := transition_cases h
  · rw [hcur]
    exact hc
  · rw [hcur]
    cases c <;> cases r <;> simp_all [OrderStatus.allowed,OrderStatus.brokerLifecycle]

theorem OrderWrite.reserved {P : BrokerOrder → TransitionRequest → Prop} {q : Int}
    {r r' : BrokerOrder} (hP : ∀ row req, Reserved row → P row req → Entitled row req) (h : Reserved r)
    (hw : OrderWrite P q r r') : Reserved r' := by
  have hadv := hw.advances
  -- a reserved order stays reserved, and one under review stays there
  by_cases hres : r.submitCallStarted = true
  · have hres' := hadv.submit hres
    exact ⟨fun _ => hres',fun hno => by simp [hres'] at hno⟩
  by_cases hrev : r.status = .manualReview
  · have hrev' := hadv.review hrev
    exact ⟨fun hl => by simp [hrev',OrderStatus.brokerLifecycle] at hl,fun _ h => absurd hrev' h⟩
  have hdown : r.submitCallStarted = false := by simpa using hres
  have hlife : r.status.brokerLifecycle = false := by
    cases hl : r.status.brokerLifecycle with
    | false => rfl
    | true => exact absurd (h.lifecycle hl) hres
  cases hw with
  | transition req o filled hp hplan =>
    obtain hyes | hyes | ⟨hfact,hnone,htarget⟩ := hP r req h hp
    · exact absurd hyes hres
    · exact absurd hyes hrev
    · obtain ⟨-,-,target,heff,hnext⟩ := planTransition_ok hplan
      obtain ⟨-,hfill,rfl⟩ | ⟨f,hsome,-⟩ := effectiveFill_ok heff
      · obtain ⟨hyes,-⟩ | ⟨-,ht⟩ := nextStatus_ok hnext
        · simp [hfact] at hyes
        · have hkeep := transition_lifecycle ht hlife htarget
          refine ⟨fun hl => ?_,fun _ _ => hfill.trans (h.unfilled hdown hrev)⟩
          rw [applyTransition_status hplan,hkeep] at hl
          cases hl
      · simp [hnone] at hsome
  | submit _ _ => exact ⟨fun _ => rfl,fun hno => by cases hno⟩
  | cancel hs _ => cases hst : r.status <;> simp_all [OrderStatus.brokerLifecycle]
  | review res =>
    exact ⟨fun hl => by simp [markReview,OrderStatus.brokerLifecycle] at hl,fun _ h => absurd rfl h⟩
  | conflict reported filled hf =>
    exact ⟨fun hl => by simp [markConflict,OrderStatus.brokerLifecycle] at hl,
      fun _ h => absurd rfl h⟩

/-- Evidence that contradicts the quantity is never merged into an order without fills. -/
theorem contradictsQuantity_refused {e : BrokerEvidenceV1} {ctx : OrderContext}
    {c : String} {o : TransitionOutcome} {filled : Int} (hzero : ctx.filledQuantity = 0)
    (h : contradictsQuantity ctx.quantity e = true) :
    planTransition c ctx (mergeRequest e) ≠ .ok (o,filled) := by
  intro hplan
  obtain ⟨-,-,target,heff,-⟩ := planTransition_ok hplan
  obtain ⟨hnone,-,-⟩ | ⟨f,hf,hf₀,hf₁,hmax,hnorm⟩ := effectiveFill_ok heff
  · simp [mergeRequest] at hnone
  · simp only [mergeRequest,Option.some.injEq] at hf
    have hfilled : filled = e.filledQuantity := by
      rw [hmax,hzero,hf]
      exact max_eq_right (by omega)
    simp only [normalizeBrokerStatus,refuse_eq_ok,mergeRequest,hfilled] at hnorm
    obtain ⟨hfull,-,hcancel,-⟩ := hnorm
    simp only [contradictsQuantity,Bool.or_eq_true,Bool.and_eq_true,decide_eq_true_eq] at h
    rcases h with (h | ⟨hst,hne⟩) | ⟨hst,heq⟩
    · omega
    · simp [hst,hne] at hfull
    · simp [hst,heq] at hcancel

theorem reconciliationTarget_submitting {b : Bool} {st : OrderStatus}
    (h : reconciliationTarget b st = .submitting) : st = .submitting := by
  unfold reconciliationTarget at h
  split at h
  · split at h
    · cases h
    · split at h
      · cases h
      · exact h
  · exact h

theorem requests_entitled {α : Type} {t : Txn α} (ht : t.Routine) {c : Choice} {w : World}
    (hc : timely (.txn t) c w = true) (hfault : c.fault = none)
    (hbody : ∃ r, t.body c.now w.db = .ok r) {row : BrokerOrder} {req : TransitionRequest}
    (hrow : Reserved row) (h : t.requests w.db row req) : Entitled row req := by
  cases t with
  | recordRiskDecision g k decision =>
    obtain ⟨hfact,hnone,-,htarget⟩ := h
    refine .inr (.inr ⟨hfact,hnone,?_⟩)
    rintro hst
    simp [hst] at htarget
  | transitionOrder g k given =>
    obtain ⟨-,rfl⟩ := h
    obtain ⟨hnone,-,htarget⟩ := ht
    refine .inr (.inr ⟨rfl,hnone,?_⟩)
    intro hst
    have hst' : given.target = .submitting := hst
    simp [hst'] at htarget
  | ingestEvidence g e =>
    obtain ⟨hn,hr,rfl,⟨o,db₁⟩,hm⟩ := h
    obtain ⟨res,hbody⟩ := hbody
    have hguard := (guarded_ok.mp hbody).1
    obtain ⟨r,i,filled,hr',hi,hplan,-⟩ := transitionInTx_ok hm
    obtain rfl : row = r := Option.some.inj (hr.symm.trans hr')
    -- the check admits the evidence only for a reserved order or one under review
    by_contra hno
    simp only [Entitled,not_or] at hno
    have hdown : row.submitCallStarted = false := by simpa using hno.1
    have hzero : (row.context i.quantity).filledQuantity = 0 := hrow.unfilled hdown hno.2.1
    have hcontra : contradictsQuantity (row.context i.quantity).quantity e = true := by
      change contradictsQuantity i.quantity e = true
      simpa [timely,premature,hfault,hguard,hn,hr,hi,hdown,hno.2.1] using hc
    exact contradictsQuantity_refused hzero hcontra hplan
  | ingestCommandResult g r =>
    obtain ⟨hfact,hnone,-,b,htarget⟩ := h
    by_cases hsub : row.status = .submitting
    · exact .inl (hrow.lifecycle (by simp [hsub,OrderStatus.brokerLifecycle]))
    · refine .inr (.inr ⟨hfact,hnone,?_⟩)
      rw [htarget]
      exact fun h => hsub (reconciliationTarget_submitting h)
  | _ => exact absurd h id

def reservedRules : Rules Eff Choice World where
  exec := exec
  cond o c w := timely o c w = true
  need _ _ := True
  inv w := w.db.Wf ∧ w.db.OrdersHold fun _ r => Reserved r
  rely _ w w' := Evolves (fun _ _ => True) w.db w'.db
  guar _ w w' := Evolves (fun _ _ => True) w.db w'.db
  rely_refl _ _ := .refl
  rely_trans _ _ _ _ h₁ h₂ := h₁.trans h₂

/-- Only the request for `SUBMITTING` needs anything: the reservation. -/
def MayReserve (k : OrderKey) (st : OrderStatus) (w : World) : Prop :=
  st = .submitting → reservations.raised (.submitLimitOrder,k) w

theorem evolves_reserved {db db' : Db} {P : BrokerOrder → TransitionRequest → Prop}
    (h : Evolves P db db') (hP : ∀ row req, Reserved row → P row req → Entitled row req)
    (hw : db.Wf) (hdb : db.OrdersHold fun _ r => Reserved r) :
    db'.OrdersHold fun _ r => Reserved r := by
  refine h.ordersHold (fun k r q _ hb => ?_) (fun q r r' _ hr hwrite => hwrite.reserved hP hr) hw hdb
  rcases hb with rfl | rfl
  · exact ⟨fun h => by simp [createdOrder,OrderStatus.brokerLifecycle] at h,fun _ _ => rfl⟩
  · exact ⟨fun _ => rfl,fun _ _ => rfl⟩

theorem reservedLogic (i : Nat) : StatusLogic reservedRules i MayReserve where
  exec_eq _ _ _ := rfl
  need _ _ := trivial
  wf _ h := h.1
  rely _ _ h := h
  routine o c w ho hi hc := by
    refine ⟨⟨(exec_evolves o c w).wf hi.1,?_⟩,exec_evolves o c w⟩
    obtain hdb | ⟨α,t,ht,hP,hdb⟩ := exec_routine ho c w
    · rw [hdb]
      exact hi.2
    · rw [hdb]
      have hct : timely (.txn t) c w = true := hP (fun o => timely o c w = true) hc
      have hev : Evolves (fun row req => Reserved row → Entitled row req) w.db (t.run c w.db).2 :=
        t.run_evolves_of c w.db fun hf hb row req hr hrow =>
          requests_entitled ht hct hf hb hrow hr
      exact evolves_reserved hev (fun _ _ hrow h => h hrow) hi.1 hi.2
  stable k st w w' h _ hm hst := reserved_mono h _ (hm hst)
  status w k r hi hr hst := by
    obtain ⟨i,hint⟩ := hi.1.intent k r hr
    have hres := (hi.2 k r i hr hint).lifecycle (by simp [hst,OrderStatus.brokerLifecycle])
    exact ⟨by simp [World.reserved,DriverCallKind.started,hr,hres],by simp [hint]⟩
  terminal w k r r' _ _ _ hterm hst := by simp [hst,OrderStatus.brokerTerminal] at hterm
  asked g k req c w hm hf hb hi _ := by
    refine ⟨⟨(exec_evolves _ c w).wf hi.1,?_⟩,exec_evolves _ c w⟩
    have hev : Evolves Entitled w.db ((Txn.transitionOrder g k req).run c w.db).2 := by
      refine Txn.run_evolves_of (.transitionOrder g k req) c w.db fun _ _ row given h => ?_
      obtain ⟨hrow,rfl⟩ := h
      by_cases hst : req.target = .submitting
      · obtain ⟨hres,-⟩ := hm hst
        exact .inl (by simpa [World.reserved,DriverCallKind.started,hrow] using hres)
      · exact .inr (.inr ⟨rfl,hf,hst⟩)
    exact evolves_reserved hev (fun _ _ _ h => h) hi.1 hi.2

/-- In every run of any number of OMS processes that lets no premature evidence
in, an order that may be known to the broker has its submit reservation. -/
theorem lifecycle_needs_reservation {ms : List (Move Choice (Nat × List OmsOp))}
    {t : Sys Eff World}
    (h : omsMachine.runWhile timely (Machine.boots World.initial) ms = some t) {k : OrderKey}
    {r : BrokerOrder} (hr : t.world.db.order? k = some r)
    (hs : r.status ∈ [.submitting,.acknowledged,.partiallyFilled,.filled,.cancelPending,
      .cancelled,.rejected,.unknown,.reconciling]) : r.submitCallStarted = true := by
  have hinit : reservedRules.inv World.initial := ⟨Db.Wf.empty,Db.OrdersHold.empty _⟩
  have hmeets := Machine.Reach.rules reservedRules (fun _ _ _ => rfl) (fun _ _ _ _ _ h => h)
    (fun pid req _ w hi => (reservedLogic pid).omsProcess_ok req.1 req.2 hi) hinit
    (Machine.Reach.of_runWhile omsMachine h)
  obtain ⟨hwf,hres⟩ := hmeets.inv
  obtain ⟨i,hi⟩ := hwf.intent k r hr
  refine (hres k r i hr hi).lifecycle ?_
  cases hst : r.status <;> simp_all [OrderStatus.brokerLifecycle]

/-- A submitted order whose full fill is reported. -/
def reservedRun : List (Move Choice (Nat × List OmsOp)) :=
  .start 0 (30,[.recover,.submitIntent sampleIntent none,.ingestBrokerEvidence sampleFill]) ::
    List.replicate 33 (.step 0 {})

theorem lifecycle_reserved_fill : ∃ t r,
    omsMachine.runWhile timely (Machine.boots World.initial) reservedRun = some t ∧
      t.world.db.order? sampleIntent.key = some r ∧ r.status = .filled ∧
      r.submitCallStarted = true := by
  have hrun : (omsMachine.runWhile timely (Machine.boots World.initial) reservedRun).map
      (fun t => (t.world.db.order? sampleIntent.key).map BrokerOrder.status) =
        some (some .filled) := by decide +kernel
  obtain ⟨t,ht,hst⟩ := Option.map_eq_some_iff.mp hrun
  obtain ⟨r,hr,hst⟩ := Option.map_eq_some_iff.mp hst
  exact ⟨t,r,ht,hr,hst,lifecycle_needs_reservation ht hr (by simp [hst])⟩

/-- An order that risk rejected, and evidence of its full fill. -/
def rejectedRun : List (Move Choice (Nat × List OmsOp)) :=
  .start 0 (30,[.recover,
    .submitIntent sampleIntent (some ⟨false,.limitExceeded,"execution-core-v1",0⟩),
    .ingestBrokerEvidence sampleFill]) :: List.replicate 19 (.step 0 {})

theorem rejected_order_is_filled : ∃ t r,
    omsMachine.run (Machine.boots World.initial) rejectedRun = some t ∧
      t.world.db.order? sampleIntent.key = some r ∧ r.status = .filled ∧
      r.submitCallStarted = false := by
  have hrun : (omsMachine.run (Machine.boots World.initial) rejectedRun).map
      (fun t => (t.world.db.order? sampleIntent.key).map
        (fun r => (r.status,r.submitCallStarted))) = some (some (.filled,false)) := by
    decide +kernel
  obtain ⟨t,ht,hrow⟩ := Option.map_eq_some_iff.mp hrun
  obtain ⟨r,hr,hrow⟩ := Option.map_eq_some_iff.mp hrow
  simp only [Prod.mk.injEq] at hrow
  exact ⟨t,r,ht,hr,hrow.1,hrow.2⟩

end BigQmt
