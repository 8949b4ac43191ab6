import BigQmt.System
set_option autoImplicit false

/-!
What the methods of `OfflineOms` are made of: their guarded transactions, reads
and the lease calls. The driver calls, and the transitions to a status that was
read from the database before, stand apart.
-/

namespace BigQmt

open Resumption Proc

/-- The driver call an effect makes. -/
def Eff.driverCall : {β : Type} → Eff β → Option (DriverCallKind × OrderKey)
  | _,.submitLimitOrder intent => some (.submitLimitOrder,intent.key)
  | _,.cancelOrder k => some (.cancelOrder,k)
  | _,_ => none

/-- A request of the command path to a status that says nothing about fills. -/
def TransitionRequest.Neutral (req : TransitionRequest) : Prop :=
  req.filledQuantity = none ∧ req.brokerOrderId = none ∧
    req.target ∈ [.aborted,.unknown,.reconciling,.cancelPending,.manualReview]

def Txn.Routine : {α : Type} → Txn α → Prop
  | _,.transitionOrder _ _ req => req.Neutral
  | _,_ => True

def Eff.Routine : {β : Type} → Eff β → Prop
  | _,.txn t => t.Routine
  | _,.submitLimitOrder _ => False
  | _,.cancelOrder _ => False
  | _,_ => True

theorem exec_routine {β : Type} {o : Eff β} (ho : o.Routine ∨ o.driverCall.isSome = true)
    (c : Choice) (w : World) : (exec o c w).2.db = w.db ∨
      ∃ (α : Type) (t : Txn α), t.Routine ∧ (∀ P : {γ : Type} → Eff γ → Prop, P o → P (.txn t)) ∧
        (exec o c w).2.db = (t.run c w.db).2 := by
  obtain hdb | ⟨α,t,hP,hdb⟩ := exec_db o c w
  · exact .inl hdb
  · refine .inr ⟨α,t,?_,hP,hdb⟩
    rcases hP (fun o => o.Routine ∨ o.driverCall.isSome = true) ho with h | h
    · exact h
    · simp [Eff.driverCall] at h

/-- A request that changes nothing another process sees. -/
def Eff.plain : {β : Type} → Eff β → Bool
  | _,.txn _ | _,.submitLimitOrder _ | _,.cancelOrder _ | _,.renameTemp _ _ _ _ | _,.move _ _ _
  | _,.broker _ => false
  | _,_ => true

theorem Eff.routine_of_plain {β : Type} {o : Eff β} (h : o.plain = true) : o.Routine := by
  cases o <;> trivial

/-- A property of methods that holds of the pieces they are composed of. -/
structure OmsClosed (H : {α : Type} → Oms α → Prop) : Prop extends Proc.Closed H where
  ask : ∀ {α : Type} {o : Eff α}, o.plain = true → H (ask o)
  call : ∀ {α : Type} {o : Eff (Except PyError α)}, o.plain = true → H (call o)
  durable : ∀ {α : Type} {t : Guard → Txn α}, (∀ g, (t g).guard? = some g) →
    (∀ g, (t g).Routine) → H (durable t)
  heartbeat : H omsHeartbeat
  close : H omsClose
  ready : H (update (fun s => { s with reconciled := true }))

section all
variable {P : {β : Type} → Eff β → Prop}

theorem transitionOrder_any (hT : ∀ g k req, P (.txn (.transitionOrder g k req))) (k : OrderKey)
    (req : TransitionRequest) : (transitionOrder k req).All P :=
  all_bind all_self fun _ => all_call (hT _ _ _)

variable (hP : ∀ {β : Type} (o : Eff β), o.Routine → P o)
include hP

theorem omsHeartbeat_all : omsHeartbeat.All P := by
  refine all_bind all_self fun s => ?_
  split
  · exact all_throw _
  · exact all_bind (all_ask (hP _ trivial)) fun now => all_bind (all_call (hP _ trivial))
      fun lease => all_update _

theorem omsClose_all : omsClose.All P := by
  refine all_bind all_self fun s => ?_
  split
  · exact all_pure _
  · exact all_bind (all_call (hP _ trivial)) fun _ => all_update _

theorem constructOms_all (secs : Nat) : (constructOms secs).All P := by
  unfold constructOms
  split
  · exact all_throw _
  · refine all_bind (all_ask (hP _ trivial)) fun sessionId =>
      all_bind (all_ask (hP _ trivial)) fun now => all_bind (all_ask (hP _ trivial)) fun token =>
      all_bind (all_call (hP _ trivial)) fun lease =>
      all_bind (all_tryCatch (all_call (hP _ trivial)) fun e => ?_) fun _ => all_pure _
    exact all_bind (all_call (hP _ trivial)) fun _ => all_throw e

/-- What holds of every routine effect holds of every request of the pieces. -/
theorem OmsClosed.of_routine : OmsClosed (fun x => x.All P) where
  toClosed := .all
  ask h := all_ask (hP _ (Eff.routine_of_plain h))
  call h := all_call (hP _ (Eff.routine_of_plain h))
  durable _ h := all_bind all_self fun _ => all_call (hP _ (h _))
  heartbeat := omsHeartbeat_all hP
  close := omsClose_all hP
  ready := all_update _

end all

section
variable {H : {α : Type} → Oms α → Prop} (hH : OmsClosed H)
include hH

/-- A transition to a status that the source names. -/
theorem transitionOrder_holds {k : OrderKey} {req : TransitionRequest} (h : req.Neutral) :
    H (transitionOrder k req) := hH.durable (fun _ => rfl) fun _ => h

theorem assertLeader_holds : H assertLeader := by
  refine hH.bind hH.self fun s => ?_
  split
  · exact hH.throw _
  · exact hH.bind (hH.ask rfl) fun now => hH.call rfl

theorem ingestBrokerEvidence_holds (e : BrokerEvidenceV1) : H (ingestBrokerEvidence e) := by
  refine hH.bind (hH.durable (fun _ => rfl) fun _ => trivial) fun result => ?_
  cases result with
  | ok applied => exact hH.pure _
  | error reason => exact hH.throw _

theorem ingestActiveQueryEvidence_holds (k : OrderKey) (o : BrokerOrderObservation)
    (reason : String) : H (ingestActiveQueryEvidence k o reason) := by
  unfold ingestActiveQueryEvidence
  split
  · exact hH.throw _
  · refine hH.bind (hH.ask rfl) fun now => hH.bind hH.self fun s => ?_
    split
    · exact hH.throw _
    · exact ingestBrokerEvidence_holds hH _

theorem recoverPreSubmit_holds (row : BrokerOrder) : H (recoverPreSubmit row) := by
  unfold recoverPreSubmit
  split
  · exact hH.throw _
  · exact hH.bind (transitionOrder_holds hH ⟨rfl,rfl,by decide⟩) fun _ => hH.pure _

theorem recoverSubmitting_holds (row : BrokerOrder) : H (recoverSubmitting row) := by
  unfold recoverSubmitting
  split
  · split
    · exact hH.throw _
    · exact hH.bind (transitionOrder_holds hH ⟨rfl,rfl,by decide⟩) fun _ => hH.pure _
  · split
    · exact hH.bind (transitionOrder_holds hH ⟨rfl,rfl,by decide⟩) fun _ => hH.pure _
    · exact hH.pure _

theorem recoverCancelPending_holds (row : BrokerOrder) (status : OrderStatus) :
    H (recoverCancelPending row status) := by
  unfold recoverCancelPending
  split
  · split
    · exact hH.throw _
    · exact hH.bind (transitionOrder_holds hH ⟨rfl,rfl,by decide⟩) fun _ => hH.pure _
  · exact hH.pure _

theorem recoverUnknown_holds (row : BrokerOrder) (status : OrderStatus) :
    H (recoverUnknown row status) := by
  unfold recoverUnknown
  split
  · exact hH.bind (transitionOrder_holds hH ⟨rfl,rfl,by decide⟩) fun _ => hH.pure _
  · exact hH.pure _

theorem callRaised_holds (k : OrderKey) (events : CallEvents) (e : PyError) :
    H (callRaised k events e) :=
  hH.bind (assertLeader_holds hH) fun _ =>
    hH.bind (transitionOrder_holds hH ⟨rfl,rfl,by simp⟩) fun _ => hH.pure _

/-- `callReturned` up to the answer of the query. -/
theorem queried_holds {α : Type} (k : OrderKey) (events : CallEvents)
    {f : Option BrokerOrderObservation → Oms α} (hf : ∀ evidence, H (f evidence)) :
    H (assertLeader >>= fun _ =>
      transitionOrder k { target := .unknown, eventType := events.returned } >>= fun _ =>
      transitionOrder k { target := .reconciling, eventType := events.queryBegin } >>= fun _ =>
      assertLeader >>= fun _ => call (.queryByClientOrderId k) >>= fun evidence =>
      assertLeader >>= fun _ => f evidence : Oms α) :=
  hH.bind (assertLeader_holds hH) fun _ =>
    hH.bind (transitionOrder_holds hH ⟨rfl,rfl,by simp⟩) fun _ =>
    hH.bind (transitionOrder_holds hH ⟨rfl,rfl,by simp⟩) fun _ =>
    hH.bind (assertLeader_holds hH) fun _ => hH.bind (hH.call rfl) fun evidence =>
    hH.bind (assertLeader_holds hH) fun _ => hf evidence

theorem callReturned_holds (k : OrderKey) (events : CallEvents) :
    H (callReturned k events) := by
  refine queried_holds hH k events fun evidence => ?_
  cases evidence with
  | none => exact hH.pure _
  | some o => exact hH.bind (ingestActiveQueryEvidence_holds hH _ _ _) fun _ => hH.pure _

theorem ingestCommandResult_holds (identity : CommandResultIdentity) :
    H (ingestCommandResult identity) := by
  unfold ingestCommandResult
  split
  · exact hH.throw _
  · exact hH.durable (fun _ => rfl) fun _ => trivial

section dynamic
/-! The methods that ask for a status they read. -/

variable (hT : ∀ (k : OrderKey) (req : TransitionRequest), req.filledQuantity = none →
  H (transitionOrder k req))
include hT

theorem recoverQuery_holds (row : BrokerOrder) : H (recoverQuery row) := by
  refine hH.bind (assertLeader_holds hH) fun _ => hH.bind (hH.call rfl) fun evidence =>
    hH.bind (assertLeader_holds hH) fun _ => ?_
  cases evidence with
  | none => exact hH.bind (hT _ _ rfl) fun _ => hH.pure _
  | some o =>
    refine hH.bind (ingestActiveQueryEvidence_holds hH _ _ _) fun _ => ?_
    split
    · exact hH.bind (hH.call rfl) fun status =>
        hH.bind (hT _ _ rfl) fun _ => hH.pure _
    · exact hH.pure _

theorem recoverRow_holds (row : BrokerOrder) : H (recoverRow row) := by
  refine hH.bind (hH.heartbeat) fun _ => ?_
  split
  · exact recoverPreSubmit_holds hH row
  · refine hH.bind (recoverSubmitting_holds hH row) fun status => ?_
    split
    · exact hH.bind (hT _ _ rfl) fun _ => hH.pure _
    · exact hH.bind (recoverCancelPending_holds hH row status) fun status =>
        hH.bind (recoverUnknown_holds hH row status) fun _ => recoverQuery_holds hH hT row

theorem recover_holds : H recover :=
  hH.bind (assertLeader_holds hH) fun _ => hH.bind (hH.call rfl) fun rows =>
    hH.bind (hH.each (recoverRow_holds hH hT) rows) fun _ =>
    hH.bind (hH.heartbeat) fun _ => hH.bind hH.self fun _ =>
    hH.bind (hH.durable (fun _ => rfl) fun _ => trivial) fun _ =>
    hH.bind (assertLeader_holds hH) fun _ => hH.ready

end dynamic

/-- The submit path, whose only effect out of the routine is its driver call. -/
theorem submitDecidedIntent_holds (hC : ∀ intent, H (caught (.submitLimitOrder intent)))
    (intent : OrderIntent) (decision : RiskDecision) :
    H (submitDecidedIntent intent decision) := by
  refine hH.bind (assertLeader_holds hH) fun _ => hH.bind hH.self fun s => ?_
  split
  · exact hH.throw _
  · refine hH.bind (hH.durable (fun _ => rfl) fun _ => trivial) fun _ =>
      hH.bind (hH.durable (fun _ => rfl) fun _ => trivial) fun status => ?_
    split
    · exact hH.pure _
    · refine hH.bind (hH.durable (fun _ => rfl) fun _ => trivial) fun _ =>
        hH.bind (assertLeader_holds hH) fun _ => hH.bind (hC intent) fun returned => ?_
      cases returned with
      | error e => exact callRaised_holds hH _ _ _
      | ok u =>
        refine hH.bind (callReturned_holds hH _ _) fun answer => ?_
        rcases answer with _ | ⟨o,applied⟩
        · exact hH.pure _
        · exact hH.pure _

theorem submitIntent_holds (hC : ∀ intent, H (caught (.submitLimitOrder intent))) (intent : OrderIntent)
    (decision : Option RiskDecision) : H (submitIntent intent decision) := by
  cases decision with
  | some d => exact submitDecidedIntent_holds hH hC intent d
  | none => exact hH.bind (hH.ask rfl) fun now =>
      submitDecidedIntent_holds hH hC intent _

theorem cancelOrder_holds (hT : ∀ k req, req.filledQuantity = none → H (transitionOrder k req))
    (hC : ∀ k, H (caught (.cancelOrder k))) (k : OrderKey) : H (cancelOrder k) := by
  refine hH.bind (assertLeader_holds hH) fun _ => hH.bind hH.self fun s => ?_
  split
  · exact hH.throw _
  · refine hH.bind (hH.durable (fun _ => rfl) fun _ => trivial) fun _ =>
      hH.bind (assertLeader_holds hH) fun _ => hH.bind (hC k) fun returned => ?_
    cases returned with
    | error e => exact callRaised_holds hH _ _ _
    | ok u =>
      refine hH.bind (callReturned_holds hH _ _) fun answer => ?_
      rcases answer with _ | ⟨o,applied⟩
      · exact hH.pure _
      · exact hH.bind (hT _ _ rfl) fun _ => hH.pure _

theorem perform_holds (hT : ∀ k req, req.filledQuantity = none → H (transitionOrder k req))
    (hS : ∀ intent, H (caught (.submitLimitOrder intent))) (hC : ∀ k, H (caught (.cancelOrder k)))
    (op : OmsOp) : H op.perform := by
  refine hH.tryCatch ?_ fun _ => hH.pure _
  cases op with
  | recover => exact recover_holds hH hT
  | submitIntent intent decision =>
    exact hH.bind (submitIntent_holds hH hS intent decision) fun _ => hH.pure _
  | cancelOrder k => exact hH.bind (cancelOrder_holds hH hT hC k) fun _ => hH.pure _
  | ingestBrokerEvidence e => exact hH.bind (ingestBrokerEvidence_holds hH e) fun _ => hH.pure _
  | ingestCommandResult identity =>
    exact hH.bind (ingestCommandResult_holds hH identity) fun _ => hH.pure _
  | registerDurableSubmit row allow =>
    exact hH.bind (hH.durable (fun _ => rfl) fun _ => trivial) fun _ => hH.pure _
  | heartbeat => exact hH.heartbeat
  | close => exact hH.close

end
end BigQmt
