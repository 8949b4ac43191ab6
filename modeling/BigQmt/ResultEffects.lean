import BigQmt.Frames
import BigQmt.System
set_option autoImplicit false

/-!
What a command result can do: it moves its order towards reconciliation and
keeps one row, whatever the payload says.
-/

namespace BigQmt

open Transact Keyed Resumption

/-- `QmtCommandResultJournal.ingest`: the checks on the payload, then the transaction. -/
def QmtCommandResultJournal.ingest (g : Guard) (identity : CommandResultIdentity) (c : Choice)
    (db : Db) : Except PyError CommandResultIngestResult × Db :=
  match checkCommandResult identity with
  | .error e => (.error e,db)
  | .ok r => (Txn.ingestCommandResult g r).run c db

/-- The method of an OMS object is this ingest under the guard of the object. -/
theorem ingestCommandResult_ingest (identity : CommandResultIdentity) (s : OmsState) :
    (∀ c db, ingestCommandResult identity s =
        .pure ((QmtCommandResultJournal.ingest s.guard identity c db).1,s) ∧
        (QmtCommandResultJournal.ingest s.guard identity c db).2 = db) ∨
      ∃ r k, ingestCommandResult identity s = .op (.txn (.ingestCommandResult s.guard r)) k ∧
        ∀ c w, k (exec (.txn (.ingestCommandResult s.guard r)) c w).1 =
            .pure ((QmtCommandResultJournal.ingest s.guard identity c w.db).1,s) ∧
          (exec (.txn (.ingestCommandResult s.guard r)) c w).2.db =
            (QmtCommandResultJournal.ingest s.guard identity c w.db).2 := by
  unfold QmtCommandResultJournal.ingest ingestCommandResult
  cases checkCommandResult identity with
  | error e => exact .inl fun c db => ⟨rfl,rfl⟩
  | ok r =>
    refine .inr ⟨r,_,rfl,fun c w => ?_⟩
    refine ⟨?_,rfl⟩
    rcases (Txn.ingestCommandResult s.guard r).run c w.db with ⟨err | res,db'⟩
    · rfl
    · rfl

/-- What a command result may do to an order: nothing but its status, along three edges. -/
inductive ResultStep : BrokerOrder → BrokerOrder → Prop
  | same (r : BrokerOrder) : ResultStep r r
  | moved (r : BrokerOrder) (status : OrderStatus)
      (edge : (r.status,status) ∈ [(.submitting,.unknown),(.cancelPending,.unknown),
        (OrderStatus.unknown,OrderStatus.reconciling)]) :
      ResultStep r { r with status := status }

/-- Every order by such a step, and no new order. -/
def ResultSteps (db db' : Db) : Prop :=
  ∀ k, (db.order? k = none → db'.order? k = none) ∧
    ∀ r, db.order? k = some r → ∃ r', db'.order? k = some r' ∧ ResultStep r r'

theorem ResultSteps.of_eq {db db' : Db} (h : db'.brokerOrders = db.brokerOrders) :
    ResultSteps db db' := by
  have hord : ∀ k, db'.order? k = db.order? k := fun k => by simp [Db.order?,h]
  intro k
  rw [hord]
  exact ⟨fun hn => hn,fun r hr => ⟨r,hr,.same r⟩⟩

section
variable {db db' : Db} {r : CommandResult}

theorem reconciliation_step {c name : String} {b : Bool} {row : BrokerOrder} {q filled : Int}
    {o : TransitionOutcome}
    (h : planTransition c (row.context q)
      { target := reconciliationTarget b row.status, eventType := name } = .ok (o,filled)) :
    ResultStep row (applyTransition
      { target := reconciliationTarget b row.status, eventType := name } o filled row) := by
  have hstatus := applyTransition_status h
  obtain ⟨-,-,target,heff,hnext⟩ := planTransition_ok h
  obtain ⟨-,hfill,rfl⟩ | ⟨f,hf,-⟩ := effectiveFill_ok heff
  · obtain ⟨hfact,-⟩ | ⟨-,ht⟩ := nextStatus_ok hnext
    · cases hfact
    · have happ : applyTransition
          { target := reconciliationTarget b row.status, eventType := name } o filled row =
          { row with status := o.current } := by
        have hrow : applyTransition
            { target := reconciliationTarget b row.status, eventType := name } o filled row =
            { row with status := (applyTransition
              { target := reconciliationTarget b row.status, eventType := name } o filled
              row).status } := by
          simp [applyTransition,hfill,BrokerOrder.context]
        rw [hstatus] at hrow
        exact hrow
      rw [happ]
      obtain ⟨-,-,⟨-,hcur,-⟩ | ⟨-,hcur,hne,-,ha⟩⟩ := transition_cases ht
      · rw [hcur]
        exact .same row
      · refine .moved row _ ?_
        rw [hcur]
        have hne' : row.status ≠ reconciliationTarget b row.status := hne
        cases b with
        | false => exact absurd rfl hne'
        | true => cases hs : row.status <;> simp_all [reconciliationTarget]
  · cases hf

theorem recordExecutionReconciliationInTx_steps {k : OrderKey} {name : String} {b : Bool}
    {o : TransitionOutcome}
    (h : recordExecutionReconciliationInTx k name b db = .ok (o,db')) : ResultSteps db db' := by
  simp only [recordExecutionReconciliationInTx,Tx.bind_eq_ok] at h
  obtain ⟨s,_,hs,ht⟩ := h
  obtain ⟨row,hrow,rfl,rfl⟩ := getStatusInTx_ok hs
  obtain ⟨row',i,filled,hrow',-,hplan,rfl⟩ := transitionInTx_ok ht
  obtain rfl : row = row' := Option.some.inj (hrow.symm.trans hrow')
  intro k'
  rw [order?_update (f := applyTransition _ o filled) fun _ => rfl,hrow]
  by_cases hk : k' = k
  · rw [if_pos hk,hk]
    refine ⟨fun hn => ?_,fun r hr => ?_⟩
    · rw [hrow] at hn
      cases hn
    · obtain rfl : row = r := Option.some.inj (hrow.symm.trans hr)
      exact ⟨_,rfl,reconciliation_step hplan⟩
  · rw [if_neg hk]
    exact ⟨fun hn => hn,fun r hr => ⟨r,hr,.same r⟩⟩

/-- An ingest commits as a known duplicate, or with one more row. -/
theorem ingestCommandResultInTx_ok {res : CommandResultIngestResult}
    (h : ingestCommandResultInTx r db = .ok (res,db')) :
    (find CommandResultRow.commandId r.commandId db.commandResults = some r.row ∧ db' = db) ∨
      (find CommandResultRow.commandId r.commandId db.commandResults = none ∧
        db.commandResults.any (fun row => row.qmtSessionId == r.identity.qmtSessionId &&
          row.qmtSequence == r.identity.qmtSequence) = false ∧
        db'.commandResults = db.commandResults ++ [r.row] ∧ ResultSteps db db') := by
  rw [ingestCommandResultInTx,Tx.reads_bind] at h
  cases hx : find CommandResultRow.commandId r.commandId db.commandResults with
  | some row =>
    rw [hx] at h
    simp only [ingestKnownResult,Tx.bind_eq_ok,Tx.raiseIf_eq_ok,decide_eq_false_iff_not,
      not_not] at h
    obtain ⟨_,_,⟨rfl,rfl⟩,h⟩ := h
    refine .inl ⟨rfl,?_⟩
    cases hc : r.clientOrderId with
    | none =>
      simp only [hc,Tx.pure_eq_ok] at h
      exact h.2
    | some c =>
      simp only [hc,Tx.bind_eq_ok,Tx.pure_eq_ok] at h
      obtain ⟨_,_,hs,-,rfl⟩ := h
      obtain ⟨_,_,_,rfl⟩ := getStatusInTx_ok hs
      rfl
  | none =>
    rw [hx] at h
    simp only [ingestFreshResult,Tx.reads_bind,Tx.bind_eq_ok,Tx.raiseIf_eq_ok] at h
    obtain ⟨_,_,⟨hfree,rfl⟩,h⟩ := h
    refine .inr ⟨rfl,hfree,?_⟩
    cases hc : r.clientOrderId with
    | none =>
      simp only [hc,Tx.writes_bind,Tx.pure_eq_ok] at h
      obtain ⟨-,rfl⟩ := h
      exact ⟨rfl,.of_eq rfl⟩
    | some c =>
      simp only [hc,reconcileResult,Tx.bind_eq_ok,Tx.raiseIf_eq_ok,Tx.writes_bind,
        requireIntent_eq_ok,Tx.pure_eq_ok] at h
      obtain ⟨_,_,⟨-,rfl⟩,o,_,ho,_,_,⟨-,rfl⟩,-,rfl⟩ := h
      have hsame : SameResults _ _ := (Tx.moves_bind (Frame.getStatus_moves _) fun _ =>
        resultsFrame.transitionInTx_moves _ _) _ _ _ ho
      have hsteps := recordExecutionReconciliationInTx_steps ho
      exact ⟨hsame,hsteps⟩

end

/-- No two rows share a command id, or a place in the stream of a session. -/
structure ResultsUnique (db : Db) : Prop where
  ids : (db.commandResults.map CommandResultRow.commandId).Nodup
  places : (db.commandResults.map (fun row => (row.qmtSessionId,row.qmtSequence))).Nodup

theorem ingestCommandResultInTx_unique {r : CommandResult} {res : CommandResultIngestResult}
    {db db' : Db} (h : ResultsUnique db) (hin : ingestCommandResultInTx r db = .ok (res,db')) :
    ResultsUnique db' := by
  obtain ⟨-,rfl⟩ | ⟨hnew,hfree,hrows,-⟩ := ingestCommandResultInTx_ok hin
  · exact h
  · constructor
    · rw [hrows,List.map_append]
      refine List.nodup_append.mpr ⟨h.ids,by simp,?_⟩
      intro a ha b hb
      obtain ⟨row,hrow,rfl⟩ := List.mem_map.mp ha
      rw [List.mem_singleton.mp hb]
      exact find_eq_none_iff.mp hnew row hrow
    · rw [hrows,List.map_append]
      refine List.nodup_append.mpr ⟨h.places,by simp,?_⟩
      intro a ha b hb heq
      obtain ⟨row,hrow,rfl⟩ := List.mem_map.mp ha
      rw [List.mem_singleton.mp hb] at heq
      have hno := List.any_eq_false.mp hfree row hrow
      simp only [CommandResult.row,Prod.mk.injEq] at heq
      simp [heq.1,heq.2] at hno

theorem reach_resultsUnique {t : Sys Eff World} {ms : List (Move Choice Start)}
    (h : (system fun _ _ => true).run (Machine.boots World.initial) ms = some t) :
    ResultsUnique t.world.db := by
  have hempty : ResultsUnique Db.empty := ⟨by simp [Db.empty],by simp [Db.empty]⟩
  refine (run_keeps (fun hb _ hu => ?_) h Db.Wf.empty hempty).2
  obtain hsame | ⟨r,res,hin⟩ := Txn.results_cases hb
  · exact ⟨hsame ▸ hu.ids,hsame ▸ hu.places⟩
  · exact ingestCommandResultInTx_unique hu hin

theorem checkCommandResult_ok {identity : CommandResultIdentity} {r : CommandResult}
    (h : checkCommandResult identity = .ok r) :
    r.identity = identity ∧ identity.payload.textAt "command_id" = some r.commandId ∧
      (identity.payload.textAt "result_status").bind ResultStatus.ofValue = some r.resultStatus := by
  unfold checkCommandResult at h
  dsimp only at h
  split at h
  · split at h
    · cases h
    · rename_i commandType resultStatus _ hstatus _ mode _
      simp only [refuse_eq_ok] at h
      obtain ⟨-,hid,-,-,h⟩ := h
      cases hc : checkOrderIdentity identity.accountFingerprint commandType identity.payload with
      | error e => simp [hc,bind,Except.bind] at h
      | ok client =>
        simp only [hc,bind,Except.bind,pure,Except.pure,Except.ok.injEq] at h
        subst h
        refine ⟨rfl,?_,hstatus⟩
        cases ht : identity.payload.textAt "command_id" with
        | none => simp [ht,nonemptyText] at hid
        | some s => rfl
  · cases h

def CommandResultRow.identity (row : CommandResultRow) : CommandResultIdentity :=
  ⟨row.qmtSessionId,row.qmtSequence,row.accountFingerprint,row.payload⟩

/-- The result carries the command id of the row, or its place in the session. -/
def CommandResultIdentity.reuses (identity : CommandResultIdentity) (row : CommandResultRow) : Prop :=
  identity.payload.textAt "command_id" = some row.commandId ∨
    (identity.qmtSessionId = row.qmtSessionId ∧ identity.qmtSequence = row.qmtSequence)

/-- An ingest of a command result leaves nothing behind, or its transaction committed. -/
theorem QmtCommandResultJournal.ingest_cases (g : Guard) (identity : CommandResultIdentity)
    (c : Choice) (db : Db) :
    (∃ err, QmtCommandResultJournal.ingest g identity c db = (.error err,db)) ∨
      ∃ r res db', checkCommandResult identity = .ok r ∧
        ingestCommandResultInTx r db = .ok (res,db') ∧
        QmtCommandResultJournal.ingest g identity c db = (.ok res,db') := by
  unfold QmtCommandResultJournal.ingest
  cases hc : checkCommandResult identity with
  | error err => exact .inl ⟨err,rfl⟩
  | ok r =>
    obtain ⟨err,he⟩ | ⟨res,db',hb,he⟩ := (Txn.ingestCommandResult g r).run_cases c db
    · exact .inl ⟨err,he⟩
    · exact .inr ⟨r,res,db',rfl,(guarded_ok.mp hb).2,he⟩

section
variable {identity : CommandResultIdentity} {r : CommandResult} {res : CommandResultIngestResult}
variable {db db' : Db}

theorem ingestCommandResultInTx_stored (h : ingestCommandResultInTx r db = .ok (res,db')) :
    find CommandResultRow.commandId r.commandId db'.commandResults = some r.row := by
  obtain ⟨hfound,rfl⟩ | ⟨hnew,-,hrows,-⟩ := ingestCommandResultInTx_ok h
  · exact hfound
  · have hlast : find CommandResultRow.commandId r.row.commandId (db.commandResults ++ [r.row]) =
        some r.row := find_append_self hnew
    rw [hrows]
    exact hlast

/-- A stored result stays the first with its id. -/
theorem stored_later (h : find CommandResultRow.commandId r.commandId db.commandResults =
    some r.row) (hlater : db.commandResults <+: db'.commandResults) :
    find CommandResultRow.commandId r.commandId db'.commandResults = some r.row := by
  obtain ⟨rest,hrows⟩ := hlater
  rw [find] at h ⊢
  rw [← hrows,List.find?_append,h]
  rfl

/-- A result that reuses an id or a place with other content never commits. -/
theorem reuse_refused (hu : ResultsUnique db) (hr : r.identity = identity)
    (hid : identity.payload.textAt "command_id" = some r.commandId) {row : CommandResultRow}
    (hrow : row ∈ db.commandResults) (hreuse : identity.reuses row)
    (hne : identity ≠ row.identity) : ingestCommandResultInTx r db ≠ .ok (res,db') := by
  intro hin
  have hother : row ≠ r.row := by
    rintro rfl
    exact hne hr.symm
  obtain ⟨hfound,-⟩ | ⟨hnew,hfree,-⟩ := ingestCommandResultInTx_ok hin
  · have hmem : r.row ∈ db.commandResults := find_mem hfound
    rcases hreuse with hsame | ⟨hsession,hsequence⟩
    · have hsame' : row.commandId = r.row.commandId := Option.some.inj (hsame.symm.trans hid)
      exact hother (List.inj_on_of_nodup_map hu.ids hrow hmem hsame')
    · subst hr
      have hplace : (row.qmtSessionId,row.qmtSequence) =
          (r.row.qmtSessionId,r.row.qmtSequence) := by
        rw [← hsession,← hsequence]
        rfl
      exact hother (List.inj_on_of_nodup_map hu.places hrow hmem hplace)
  · rcases hreuse with hsame | ⟨hsession,hsequence⟩
    · have hsame' : row.commandId = r.commandId := Option.some.inj (hsame.symm.trans hid)
      exact find_eq_none_iff.mp hnew row hrow hsame'
    · subst hr
      have hno := List.any_eq_false.mp hfree row hrow
      simp [hsession,hsequence] at hno

end

/-- In every reachable state, a command result moves an order only along three edges and
touches no other column; an identical result changes nothing after any further run; and
a result that reuses an id or a place with other content is refused without a trace. -/
theorem command_results_never_create_lifecycle {before : List (Move Choice Start)}
    {s : Sys Eff World} (g : Guard) (identity : CommandResultIdentity) (c : Choice)
    (hs : (system fun _ _ => true).run (Machine.boots World.initial) before = some s) :
    ResultSteps s.world.db (QmtCommandResultJournal.ingest g identity c s.world.db).2 ∧
      (∀ res, (QmtCommandResultJournal.ingest g identity c s.world.db).1 = .ok res →
        ∀ (u t : Sys Eff World) (after : List (Move Choice Start)) (g' : Guard) (c' : Choice),
          u.world.db = (QmtCommandResultJournal.ingest g identity c s.world.db).2 →
          (system fun _ _ => true).run u after = some t →
          (QmtCommandResultJournal.ingest g' identity c' t.world.db).2 = t.world.db) ∧
      (∀ row ∈ s.world.db.commandResults, identity.reuses row → identity ≠ row.identity →
        ∃ err, QmtCommandResultJournal.ingest g identity c s.world.db =
          (.error err,s.world.db)) := by
  obtain ⟨err,he⟩ | ⟨r,res,db',hcheck,hin,he⟩ :=
    QmtCommandResultJournal.ingest_cases g identity c s.world.db
  · rw [he]
    refine ⟨.of_eq rfl,fun res hres => ?_,fun _ _ _ _ => ⟨err,rfl⟩⟩
    cases hres
  · obtain ⟨hident,hid,-⟩ := checkCommandResult_ok hcheck
    rw [he]
    refine ⟨?_,fun _ _ u t after g' c' hu ht => ?_,fun row hrow hreuse hne => ?_⟩
    · obtain ⟨-,rfl⟩ | ⟨-,-,-,hsteps⟩ := ingestCommandResultInTx_ok hin
      · exact .of_eq rfl
      · exact hsteps
    · have hstored : find CommandResultRow.commandId r.commandId u.world.db.commandResults =
          some r.row := by
        rw [hu]
        exact ingestCommandResultInTx_stored hin
      have hlater := stored_later hstored (run_moves Txn.appends ht).results
      obtain ⟨err,he'⟩ | ⟨r',res',db'',hcheck',hin',he'⟩ :=
        QmtCommandResultJournal.ingest_cases g' identity c' t.world.db
      · rw [he']
      · obtain rfl : r = r' := Except.ok.inj (hcheck.symm.trans hcheck')
        rw [he']
        obtain ⟨-,rfl⟩ | ⟨hnew,-⟩ := ingestCommandResultInTx_ok hin'
        · rfl
        · rw [hlater] at hnew
          cases hnew
    · exact absurd hin
        (reuse_refused (reach_resultsUnique hs) hident hid hrow hreuse hne)

/-- The Bridge took the submit command of the sample order in shadow mode. -/
def sampleResult : CommandResultIdentity where
  qmtSessionId := "qmt-1"
  qmtSequence := 1
  accountFingerprint := sampleIntent.key.accountFingerprint
  payload :=
    .cons "broker_token" (.text (tokenText sampleIntent.key.accountFingerprint "order-1")) <|
    .cons "client_order_id" (.text "order-1") <| .cons "command_id" (.text "command-1") <|
    .cons "command_type" (.text "SUBMIT_LIMIT") <| .cons "execution_mode" (.text "SHADOW") <|
    .cons "live_side_effect" (.bool false) <| .cons "result_status" (.text "SHADOW_ACCEPTED") .nil

def submittingRun : List (Move Choice Start) :=
  .start 0 (.oms 30 [.recover,.submitIntent sampleIntent none]) :: List.replicate 20 (.step 0 {})

theorem command_result_of_submitting : ∃ s,
    (system fun _ _ => true).run (Machine.boots World.initial) submittingRun = some s ∧
      (s.world.db.order? sampleIntent.key).map BrokerOrder.status = some .submitting ∧
      ((QmtCommandResultJournal.ingest sampleGuard sampleResult {} s.world.db).2.order?
        sampleIntent.key).map BrokerOrder.status = some .unknown ∧
      ResultSteps s.world.db
        (QmtCommandResultJournal.ingest sampleGuard sampleResult {} s.world.db).2 := by
  have hrun : ((system fun _ _ => true).run (Machine.boots World.initial) submittingRun).map
      (fun s => ((s.world.db.order? sampleIntent.key).map BrokerOrder.status,
        ((QmtCommandResultJournal.ingest sampleGuard sampleResult {} s.world.db).2.order?
          sampleIntent.key).map BrokerOrder.status)) =
      some (some .submitting,some .unknown) := by decide +kernel
  obtain ⟨s,hs,hdb⟩ := Option.map_eq_some_iff.mp hrun
  simp only [Prod.mk.injEq] at hdb
  exact ⟨s,hs,hdb.1,hdb.2,
    (command_results_never_create_lifecycle sampleGuard sampleResult {} hs).1⟩

end BigQmt
