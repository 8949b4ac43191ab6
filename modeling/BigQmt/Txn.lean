import BigQmt.JournalCases
set_option autoImplicit false

/-!
The durable transactions: one constructor for each `with transaction(...)` of
the OMS, the journals and the simulator runtime.
-/

namespace BigQmt

open Transact Keyed Relation

inductive Txn : Type → Type
  | acquire (sessionId token : String) (leaseSeconds now : Nat) : Txn LeaderLease
  | heartbeat (lease : LeaderLease) (leaseSeconds now : Nat) : Txn LeaderLease
  | release (lease : LeaderLease) : Txn Bool
  | startSession (g : Guard) (sessionId : String) : Txn Unit
  | markSessionReconciled (g : Guard) (sessionId : String) : Txn Unit
  | createIntent (g : Guard) (intent : OrderIntent) : Txn Unit
  | recordRiskDecision (g : Guard) (k : OrderKey) (decision : RiskDecision) : Txn OrderStatus
  | prepareSubmit (g : Guard) (k : OrderKey) : Txn Unit
  | prepareCancel (g : Guard) (k : OrderKey) : Txn Unit
  | transitionOrder (g : Guard) (k : OrderKey) (req : TransitionRequest) : Txn TransitionOutcome
  | ingestEvidence (g : Guard) (e : BrokerEvidenceV1) : Txn (Except String EvidenceIngestResult)
  | ingestCommandResult (g : Guard) (r : CommandResult) : Txn CommandResultIngestResult
  | registerDurableSubmit (g : Guard) (row : DurableIdentity) (allowExisting : Bool) : Txn Bool
  | markManualReview (g : Guard) (k : OrderKey) (eventType : String) (resolved : Option Bool) :
      Txn Unit
  | reserveAndPersistDispatch (g : Guard) (sessionId : String) (command : QmtCommand)
      (brokerOrderId : Option String) (cancel : Bool) (raw : Raw) : Txn Dispatch
  | setDispatchState (g : Guard) (commandId : String) (state : DispatchState) : Txn Unit
  | failDispatchManualReview (g : Guard) (command : QmtCommand) (eventType : String) : Txn Unit

def guarded {α : Type} (g : Guard) (now : Nat) (x : DbTx α) : DbTx α := do
  guardWrite g now
  x

/-- A request of the command path, which never claims to be a broker fact. -/
def TransitionRequest.command (req : TransitionRequest) : TransitionRequest :=
  { req with brokerFact := false }

/-- The transaction from `BEGIN IMMEDIATE` to `COMMIT`, at the clock reading `now`. -/
def Txn.body {α : Type} : Txn α → Nat → DbTx α
  | .acquire sessionId token secs now,_ => BigQmt.acquire sessionId token secs now
  | .heartbeat lease secs now,_ => BigQmt.heartbeat lease secs now
  | .release lease,_ => BigQmt.release lease
  | .startSession g sessionId,now => guarded g now (startSessionInTx sessionId)
  | .markSessionReconciled g sessionId,now => guarded g now (markSessionReconciledInTx sessionId)
  | .createIntent g intent,now => guarded g now (createIntentInTx intent)
  | .recordRiskDecision g k decision,now => guarded g now (recordRiskDecisionInTx k decision)
  | .prepareSubmit g k,now => guarded g now (prepareSubmitInTx k)
  | .prepareCancel g k,now => guarded g now (prepareCancelInTx k)
  | .transitionOrder g k req,now => guarded g now (transitionInTx k req.command)
  | .ingestEvidence g e,now => guarded g now (ingestInTx e)
  | .ingestCommandResult g r,now => guarded g now (ingestCommandResultInTx r)
  | .registerDurableSubmit g row allow,now =>
      guarded g now (registerQmtDurableSubmitInTx row allow)
  | .markManualReview g k eventType resolved,now =>
      guarded g now (markManualReviewInTx k eventType resolved)
  | .reserveAndPersistDispatch g sessionId command brokerOrderId cancel raw,now =>
      guarded g now (reserveAndPersistDispatchInTx sessionId command brokerOrderId cancel raw)
  | .setDispatchState g commandId state,now => guarded g now (setDispatchStateInTx commandId state)
  | .failDispatchManualReview g command eventType,now =>
      guarded g now (failDispatchManualReviewInTx command eventType)

/-- The guard that a transaction calls first; the lease transactions have none. -/
def Txn.guard? : {α : Type} → Txn α → Option Guard
  | _,.acquire _ _ _ _ | _,.heartbeat _ _ _ | _,.release _ => none
  | _,.startSession g _ | _,.markSessionReconciled g _ | _,.createIntent g _
  | _,.recordRiskDecision g _ _ | _,.prepareSubmit g _ | _,.prepareCancel g _
  | _,.transitionOrder g _ _ | _,.ingestEvidence g _ | _,.ingestCommandResult g _
  | _,.registerDurableSubmit g _ _ | _,.markManualReview g _ _ _
  | _,.reserveAndPersistDispatch g _ _ _ _ _ | _,.setDispatchState g _ _
  | _,.failDispatchManualReview g _ _ => some g

/-- The requests that a transaction hands to `_transition_in_tx` for a row of the
database it begins with. -/
def Txn.requests {α : Type} : Txn α → Db → BrokerOrder → TransitionRequest → Prop
  | .recordRiskDecision _ _ _,_,_,req => req.brokerFact = false ∧ req.filledQuantity = none ∧
      req.brokerOrderId = none ∧ req.target ∈ [.riskAccepted,.riskRejected]
  | .transitionOrder _ k given,db,row,req => db.order? k = some row ∧ req = given.command
  | .ingestEvidence _ e,db,row,req => identityRow e db = none ∧ db.order? e.key = some row ∧
      req = mergeRequest e ∧ ∃ r, transitionInTx e.key req db = .ok r
  | .ingestCommandResult _ _,_,row,req => req.brokerFact = false ∧ req.filledQuantity = none ∧
      req.brokerOrderId = none ∧ ∃ b, req.target = reconciliationTarget b row.status
  | _,_,_,_ => False

section
variable {P : BrokerOrder → TransitionRequest → Prop} {db db' : Db}

theorem guarded_ok {α : Type} {g : Guard} {now : Nat} {x : DbTx α} {a : α} :
    guarded g now x db = .ok (a,db') ↔ g.check now db = .ok () ∧ x db = .ok (a,db') := by
  simp only [guarded,Tx.bind_eq_ok,guardWrite_eq_ok]
  constructor
  · rintro ⟨_,_,⟨hg,rfl⟩,hx⟩
    exact ⟨hg,hx⟩
  · rintro ⟨hg,hx⟩
    exact ⟨(),db,⟨hg,rfl⟩,hx⟩

theorem createIntentInTx_evolves {intent : OrderIntent} {u : Unit}
    (h : createIntentInTx intent db = .ok (u,db')) : Evolves P db db' := by
  simp only [createIntentInTx,Tx.bind_eq_ok,Tx.attempt_eq_ok,Tx.raiseIf_eq_ok,insertOrder_eq_ok,
    insertEvent_eq_ok] at h
  obtain ⟨res,t,hins,_,_,⟨hok,rfl⟩,_,_,⟨hi,hn,rfl⟩,-,rfl⟩ := h
  obtain ⟨_,rfl,hins⟩ | ⟨_,rfl,-,-⟩ := hins
  · obtain ⟨hnone,hq,rfl⟩ := insertIntent_eq_ok.mp hins
    have h₁ : Evolves P db _ := .insert_intent hnone hq
    have h₂ := h₁.trans (.insert_order hi hn (.inl rfl))
    exact h₂.before rfl rfl
  · simp at hok

theorem recordRiskDecisionInTx_evolves {k : OrderKey} {decision : RiskDecision}
    {s : OrderStatus}
    (hp : ∀ row target name, target ∈ [OrderStatus.riskAccepted,.riskRejected] →
      P row { target := target, eventType := name })
    (h : recordRiskDecisionInTx k decision db = .ok (s,db')) : Evolves P db db' := by
  simp only [recordRiskDecisionInTx,Tx.bind_eq_ok,insertRisk_eq_ok,Tx.pure_eq_ok] at h
  obtain ⟨_,_,⟨-,-,rfl⟩,o,_,ht,-,rfl⟩ := h
  have ht' := transitionInTx_evolves (P := P) (fun r _ => hp r _ _ (by split <;> simp)) ht
  exact ht'.after rfl rfl

theorem recordExecutionReconciliationInTx_evolves {k : OrderKey} {name : String} {b : Bool}
    {o : TransitionOutcome}
    (hp : ∀ row, P row { target := reconciliationTarget b row.status, eventType := name })
    (h : recordExecutionReconciliationInTx k name b db = .ok (o,db')) : Evolves P db db' := by
  simp only [recordExecutionReconciliationInTx,Tx.bind_eq_ok] at h
  obtain ⟨s,t,hs,ht⟩ := h
  obtain ⟨r,hr,rfl,rfl⟩ := getStatusInTx_ok hs
  refine transitionInTx_evolves (fun r' hr' => ?_) ht
  have heq : r' = r := Option.some.inj (hr'.symm.trans hr)
  rw [heq]
  exact hp r

theorem ingestCommandResultInTx_evolves {r : CommandResult} {res : CommandResultIngestResult}
    (hp : ∀ row b name, P row { target := reconciliationTarget b row.status, eventType := name })
    (h : ingestCommandResultInTx r db = .ok (res,db')) : Evolves P db db' := by
  rw [ingestCommandResultInTx,Tx.reads_bind] at h
  cases hx : find CommandResultRow.commandId r.commandId db.commandResults with
  | some row =>
    rw [hx] at h
    cases hc : r.clientOrderId with
    | none =>
      simp only [ingestKnownResult,hc,Tx.bind_eq_ok,Tx.raiseIf_eq_ok,Tx.pure_eq_ok] at h
      obtain ⟨_,_,⟨-,rfl⟩,-,rfl⟩ := h
      exact .refl
    | some c =>
      simp only [ingestKnownResult,hc,Tx.bind_eq_ok,Tx.raiseIf_eq_ok,Tx.pure_eq_ok] at h
      obtain ⟨_,_,⟨-,rfl⟩,_,_,hs,-,rfl⟩ := h
      obtain ⟨_,_,_,rfl⟩ := getStatusInTx_ok hs
      exact .refl
  | none =>
    rw [hx] at h
    simp only [ingestFreshResult,Tx.reads_bind] at h
    cases hc : r.clientOrderId with
    | none =>
      simp only [hc,Tx.bind_eq_ok,Tx.raiseIf_eq_ok,Tx.writes_bind,Tx.pure_eq_ok] at h
      obtain ⟨_,_,⟨-,rfl⟩,-,rfl⟩ := h
      exact .of_eq rfl rfl
    | some c =>
      simp only [hc,reconcileResult,Tx.bind_eq_ok,Tx.raiseIf_eq_ok,Tx.writes_bind,
        requireIntent_eq_ok,Tx.pure_eq_ok] at h
      obtain ⟨_,_,⟨-,rfl⟩,_,_,⟨-,rfl⟩,o,_,ho,_,_,⟨-,rfl⟩,-,rfl⟩ := h
      exact (recordExecutionReconciliationInTx_evolves (fun row => hp row _ _) ho).after rfl rfl

theorem insertIdentity_ok {row : DurableIdentity} {u : Unit}
    (h : insertIdentity row db = .ok (u,db')) :
    (db.intent? row.key).isSome = true ∧
      db' = { db with durableIdentities := db.durableIdentities ++ [row] } := by
  simp only [insertIdentity,Tx.bind_eq_ok,requireIntent_eq_ok,Tx.reads_eq_ok,Tx.raiseIf_eq_ok,
    Tx.writes_eq_ok] at h
  obtain ⟨_,_,⟨hi,rfl⟩,_,_,⟨-,rfl⟩,_,_,⟨-,rfl⟩,rfl⟩ := h
  exact ⟨hi,rfl⟩

theorem registerInTx_evolves {row : DurableIdentity} {allow b : Bool}
    (h : registerQmtDurableSubmitInTx row allow db = .ok (b,db')) : Evolves P db db' := by
  rw [registerQmtDurableSubmitInTx,Tx.reads_bind] at h
  cases hx : matchingIdentity row db with
  | some stored =>
    simp only [hx,knownIdentity] at h
    split at h
    · simp only [Tx.writes_bind,Tx.pure_eq_ok] at h
      obtain ⟨-,rfl⟩ := h
      exact .of_eq rfl rfl
    · simp only [Tx.bind_eq_ok,Tx.raiseIf_eq_ok,Tx.pure_eq_ok] at h
      obtain ⟨_,_,⟨-,rfl⟩,-,rfl⟩ := h
      exact .refl
  | none =>
    simp only [hx,Tx.reads_bind] at h
    split at h
    · simp only [linkIdentity,Tx.bind_eq_ok,Tx.raiseIf_eq_ok,insertEvent_eq_ok,
        Tx.pure_eq_ok] at h
      obtain ⟨_,_,⟨-,rfl⟩,_,_,hid,_,_,hs,_,_,⟨-,rfl⟩,-,rfl⟩ := h
      obtain ⟨-,rfl⟩ := insertIdentity_ok hid
      obtain ⟨_,_,_,rfl⟩ := getStatusInTx_ok hs
      exact .of_eq rfl rfl
    · simp only [importIdentity,Tx.bind_eq_ok,Tx.raiseIf_eq_ok,insertIntent_eq_ok,
        insertOrder_eq_ok,insertEvent_eq_ok,Tx.pure_eq_ok] at h
      obtain ⟨_,db₀,⟨-,rfl⟩,_,_,⟨hn,hq,rfl⟩,_,_,⟨hi,ho,rfl⟩,_,_,hid,_,_,⟨-,rfl⟩,-,rfl⟩ := h
      obtain ⟨-,rfl⟩ := insertIdentity_ok hid
      have h₁ : Evolves P db₀ _ := .insert_intent hn hq
      have h₂ := h₁.trans (.insert_order hi ho (.inr rfl))
      exact h₂.before rfl rfl

theorem persistDispatchInTx_evolves {sessionId : String} {command : QmtCommand}
    {brokerOrderId : Option String} {raw : Raw} {d : Dispatch}
    (h : persistDispatchInTx sessionId command brokerOrderId raw db = .ok (d,db')) :
    Evolves P db db' := by
  rw [persistDispatchInTx,Tx.reads_bind] at h
  cases hx : db.dispatch? command.commandId with
  | some row =>
    simp only [hx,Tx.bind_eq_ok,Tx.raiseIf_eq_ok,Tx.pure_eq_ok] at h
    obtain ⟨_,_,⟨-,rfl⟩,-,rfl⟩ := h
    exact .refl
  | none =>
    simp only [hx,insertDispatch,Tx.bind_eq_ok,requireIntent_eq_ok,Tx.reads_eq_ok,Tx.raiseIf_eq_ok,
      Tx.writes_eq_ok,insertEvent_eq_ok,Tx.pure_eq_ok] at h
    obtain ⟨_,_,⟨_,_,⟨-,rfl⟩,_,_,⟨-,rfl⟩,_,_,⟨-,rfl⟩,rfl⟩,_,_,hs,_,_,⟨-,rfl⟩,-,rfl⟩ := h
    obtain ⟨_,_,_,rfl⟩ := getStatusInTx_ok hs
    exact .of_eq rfl rfl

theorem reserveAndPersistInTx_evolves {sessionId : String} {command : QmtCommand}
    {brokerOrderId : Option String} {cancel : Bool} {raw : Raw} {d : Dispatch}
    (h : reserveAndPersistDispatchInTx sessionId command brokerOrderId cancel raw db =
      .ok (d,db')) : Evolves P db db' := by
  rw [reserveAndPersistDispatchInTx] at h
  split at h
  · simp only [Tx.bind_eq_ok] at h
    obtain ⟨_,_,hr,hp⟩ := h
    exact (prepareCancelInTx_evolves hr).trans (persistDispatchInTx_evolves hp)
  · simp only [Tx.bind_eq_ok] at h
    obtain ⟨_,_,hr,hp⟩ := h
    exact (prepareSubmitInTx_evolves hr).trans (persistDispatchInTx_evolves hp)

theorem failDispatchInTx_evolves {command : QmtCommand} {eventType : String} {u : Unit}
    (h : failDispatchManualReviewInTx command eventType db = .ok (u,db')) :
    Evolves P db db' := by
  simp only [failDispatchManualReviewInTx,setDispatchStateInTx,Tx.writes_bind] at h
  exact (markManualReviewInTx_evolves h).after rfl rfl

/-- What a committed transaction does to the orders. -/
theorem Txn.evolves {α : Type} {t : Txn α} {now : Nat} {a : α}
    (h : t.body now db = .ok (a,db')) : Evolves (t.requests db) db db' := by
  cases t with
  | acquire =>
    obtain ⟨row,rfl⟩ := acquire_ok h
    exact .of_eq rfl rfl
  | heartbeat =>
    obtain ⟨row,rfl⟩ := heartbeat_ok h
    exact .of_eq rfl rfl
  | release =>
    obtain ⟨row,rfl⟩ := release_ok h
    exact .of_eq rfl rfl
  | startSession =>
    obtain ⟨-,h⟩ := guarded_ok.mp h
    simp only [startSessionInTx,Tx.reads_bind,Tx.bind_eq_ok,Tx.raiseIf_eq_ok,
      Tx.writes_eq_ok] at h
    obtain ⟨_,_,⟨-,rfl⟩,rfl⟩ := h
    exact .of_eq rfl rfl
  | markSessionReconciled =>
    obtain ⟨-,h⟩ := guarded_ok.mp h
    simp only [markSessionReconciledInTx,Tx.writes_eq_ok] at h
    subst h
    exact .of_eq rfl rfl
  | createIntent =>
    obtain ⟨-,h⟩ := guarded_ok.mp h
    exact createIntentInTx_evolves h
  | recordRiskDecision =>
    obtain ⟨-,h⟩ := guarded_ok.mp h
    exact recordRiskDecisionInTx_evolves (fun row target name ht => ⟨rfl,rfl,rfl,ht⟩) h
  | prepareSubmit =>
    obtain ⟨-,h⟩ := guarded_ok.mp h
    exact prepareSubmitInTx_evolves h
  | prepareCancel =>
    obtain ⟨-,h⟩ := guarded_ok.mp h
    exact prepareCancelInTx_evolves h
  | transitionOrder =>
    obtain ⟨-,h⟩ := guarded_ok.mp h
    exact transitionInTx_evolves (fun r hr => ⟨hr,rfl⟩) h
  | ingestEvidence =>
    obtain ⟨-,h⟩ := guarded_ok.mp h
    exact ingestInTx_evolves (fun row hn hr hm => ⟨hn,hr,rfl,hm⟩) h
  | ingestCommandResult =>
    obtain ⟨-,h⟩ := guarded_ok.mp h
    exact ingestCommandResultInTx_evolves (fun row b name => ⟨rfl,rfl,rfl,b,rfl⟩) h
  | registerDurableSubmit =>
    obtain ⟨-,h⟩ := guarded_ok.mp h
    exact registerInTx_evolves h
  | markManualReview =>
    obtain ⟨-,h⟩ := guarded_ok.mp h
    exact markManualReviewInTx_evolves h
  | reserveAndPersistDispatch =>
    obtain ⟨-,h⟩ := guarded_ok.mp h
    exact reserveAndPersistInTx_evolves h
  | setDispatchState =>
    obtain ⟨-,h⟩ := guarded_ok.mp h
    simp only [setDispatchStateInTx,Tx.writes_eq_ok] at h
    subst h
    exact .of_eq rfl rfl
  | failDispatchManualReview =>
    obtain ⟨-,h⟩ := guarded_ok.mp h
    exact failDispatchInTx_evolves h

end
end BigQmt
