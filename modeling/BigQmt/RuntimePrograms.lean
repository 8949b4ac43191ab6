import BigQmt.OmsPrograms
set_option autoImplicit false

/-!
What the methods of `GuojinSimOmsRuntime` are made of, with the publication of a
command apart.
-/

namespace BigQmt

open Resumption Proc

/-- The transactions of the runtime: a reservation comes with the frame of its command,
and no dispatch goes back to its plan. -/
def Txn.hosted : {α : Type} → Txn α → Prop
  | _,.startSession _ _ | _,.markSessionReconciled _ _ => False
  | _,.prepareSubmit _ _ | _,.prepareCancel _ _ => False
  | _,.transitionOrder _ _ req => req.Neutral
  | _,.reserveAndPersistDispatch _ _ command _ cancel raw => encodeCommandFrame command = .ok raw ∧
      command.commandType = if cancel then .cancelOrder else .submitLimit
  | _,.setDispatchState _ _ state => state ≠ .planned
  | _,_ => True

theorem Txn.routine_of_hosted {α : Type} {t : Txn α} (h : t.hosted) : t.Routine := by
  cases t with
  | transitionOrder g k req => exact h
  | _ => trivial

/-- What the runtime asks for, apart from the rename that publishes. -/
def Eff.hosted : {β : Type} → Eff β → Prop
  | _,.txn t => t.hosted
  | _,.submitLimitOrder _ | _,.cancelOrder _ | _,.renameTemp _ _ _ _ | _,.move _ _ _
  | _,.broker _ => False
  | _,_ => True

theorem Eff.routine_of_hosted {β : Type} {o : Eff β} (h : o.hosted) : o.Routine := by
  cases o with
  | txn t => exact Txn.routine_of_hosted h
  | _ => trivial

theorem Eff.hosted_of_plain {β : Type} {o : Eff β} (h : o.plain = true) : o.hosted := by
  cases o <;> trivial

/-- The state that a transaction takes a dispatch to. -/
def Txn.advances : {α : Type} → Txn α → Option (String × DispatchState)
  | _,.setDispatchState _ commandId state => some (commandId,state)
  | _,.failDispatchManualReview _ command _ => some (command.commandId,.manualReview)
  | _,_ => none

def Eff.advances : {β : Type} → Eff β → Option (String × DispatchState)
  | _,.txn t => t.advances
  | _,_ => none

theorem Eff.advances_of_plain {β : Type} {o : Eff β} (h : o.plain = true) : o.advances = none := by
  cases o with
  | txn t => cases h
  | _ => rfl

/-- A property of methods that holds of the pieces they are composed of, where no
piece sets the state of a dispatch. -/
structure RuntimeQuiet (H : {α : Type} → Runtime α → Prop) : Prop extends Proc.Closed H where
  ask : ∀ {α : Type} {o : Eff α}, o.plain = true → H (ask o)
  call : ∀ {α : Type} {o : Eff (Except PyError α)}, o.plain = true → H (call o)
  durable : ∀ {α : Type} {t : Guard → Txn α}, (∀ g, (t g).guard? = some g) →
    (∀ g, (t g).hosted) → (∀ g, (t g).advances = none) → H (Runtime.durable t)
  maintain : H Runtime.maintain
  close : H Runtime.close
  mapper : ∀ m : Mapper, H (update (fun s => { s with mapper := m }))

/-- The reservation that persists its plan. -/
def Txn.reserves : {α : Type} → Txn α → Bool
  | _,.reserveAndPersistDispatch _ _ _ _ _ _ => true
  | _,_ => false

def Eff.reserves : {β : Type} → Eff β → Bool
  | _,.txn t => t.reserves
  | _,_ => false

theorem Eff.reserves_of_plain {β : Type} {o : Eff β} (h : o.plain = true) : o.reserves = false := by
  cases o with
  | txn t => cases h
  | _ => rfl

/-- A property of methods that holds of the pieces they are composed of, where no piece
sets the state of a dispatch or makes a reservation. -/
structure RuntimeCalm (H : {α : Type} → Runtime α → Prop) : Prop extends Proc.Closed H where
  ask : ∀ {α : Type} {o : Eff α}, o.plain = true → H (ask o)
  call : ∀ {α : Type} {o : Eff (Except PyError α)}, o.plain = true → H (call o)
  durable : ∀ {α : Type} {t : Guard → Txn α}, (∀ g, (t g).guard? = some g) →
    (∀ g, (t g).hosted) → (∀ g, (t g).advances = none) → (∀ g, (t g).reserves = false) →
    H (Runtime.durable t)
  maintain : H Runtime.maintain
  close : H Runtime.close
  mapper : ∀ m : Mapper, H (update (fun s => { s with mapper := m }))

theorem RuntimeQuiet.calm {H : {α : Type} → Runtime α → Prop} (h : RuntimeQuiet H) :
    RuntimeCalm H where
  toClosed := h.toClosed
  ask := h.ask
  call := h.call
  durable hg ht hs _ := h.durable hg ht hs
  maintain := h.maintain
  close := h.close
  mapper := h.mapper

/-- A property of methods that holds of the pieces they are composed of. -/
structure RuntimeClosed (H : {α : Type} → Runtime α → Prop) : Prop extends Proc.Closed H where
  ask : ∀ {α : Type} {o : Eff α}, o.plain = true → H (ask o)
  call : ∀ {α : Type} {o : Eff (Except PyError α)}, o.plain = true → H (call o)
  durable : ∀ {α : Type} {t : Guard → Txn α}, (∀ g, (t g).guard? = some g) →
    (∀ g, (t g).hosted) → H (Runtime.durable t)
  maintain : H Runtime.maintain
  close : H Runtime.close
  mapper : ∀ m : Mapper, H (update (fun s => { s with mapper := m }))

theorem RuntimeClosed.quiet {H : {α : Type} → Runtime α → Prop} (h : RuntimeClosed H) :
    RuntimeQuiet H where
  toClosed := h.toClosed
  ask := h.ask
  call := h.call
  durable hg ht _ := h.durable hg ht
  maintain := h.maintain
  close := h.close
  mapper := h.mapper

theorem RuntimeClosed.calm {H : {α : Type} → Runtime α → Prop} (h : RuntimeClosed H) :
    RuntimeCalm H := h.quiet.calm

namespace Runtime

section all
variable {P : {β : Type} → Eff β → Prop}
variable (hP : ∀ {β : Type} (o : Eff β), o.hosted → o.advances = none → o.reserves = false → P o)
include hP

theorem maintain_all : maintain.All P := by
  refine all_bind all_self fun s => all_bind (all_ask (hP _ trivial rfl rfl)) fun started => ?_
  split
  · exact all_bind (all_ask (hP _ trivial rfl rfl)) fun now => all_bind (all_call (hP _ trivial rfl rfl))
      fun lease => all_bind (all_ask (hP _ trivial rfl rfl)) fun ended => all_update _
  · exact all_pure _

theorem close_all : close.All P := by
  refine all_bind all_self fun s => ?_
  split
  · exact all_pure _
  · exact all_bind (all_tryCatch (all_bind (all_call (hP _ trivial rfl rfl)) fun _ => all_pure _)
      fun e => all_bind (all_update _) fun _ => all_throw e) fun _ => all_update _

theorem construct_all (inst : QmtInstance) : (construct inst).All P := by
  unfold construct
  split
  · exact all_throw _
  · exact all_bind (all_ask (hP _ trivial rfl rfl)) fun now => all_bind (all_ask (hP _ trivial rfl rfl)) fun token =>
      all_bind (all_call (hP _ trivial rfl rfl)) fun lease => all_bind (all_ask (hP _ trivial rfl rfl)) fun _ =>
      all_pure _

/-- What holds of every such effect holds of every request of the pieces. -/
theorem calm_of_hosted : RuntimeCalm (fun x => x.All P) where
  toClosed := .all
  ask h := all_ask (hP _ (Eff.hosted_of_plain h) (Eff.advances_of_plain h) (Eff.reserves_of_plain h))
  call h := all_call (hP _ (Eff.hosted_of_plain h) (Eff.advances_of_plain h) (Eff.reserves_of_plain h))
  durable _ h hs hr := all_bind all_self fun _ => all_call (hP _ (h _) (hs _) (hr _))
  maintain := maintain_all hP
  close := close_all hP
  mapper _ := all_update _

end all

theorem quiet_of_hosted {P : {β : Type} → Eff β → Prop}
    (hP : ∀ {β : Type} (o : Eff β), o.hosted → o.advances = none → P o) :
    RuntimeQuiet (fun x => x.All P) where
  toClosed := .all
  ask h := all_ask (hP _ (Eff.hosted_of_plain h) (Eff.advances_of_plain h))
  call h := all_call (hP _ (Eff.hosted_of_plain h) (Eff.advances_of_plain h))
  durable _ h hs := all_bind all_self fun _ => all_call (hP _ (h _) (hs _))
  maintain := maintain_all fun o h hs _ => hP o h hs
  close := close_all fun o h hs _ => hP o h hs
  mapper _ := all_update _

theorem closed_of_hosted {P : {β : Type} → Eff β → Prop}
    (hP : ∀ {β : Type} (o : Eff β), o.hosted → P o) : RuntimeClosed (fun x => x.All P) where
  toClosed := .all
  ask h := all_ask (hP _ (Eff.hosted_of_plain h))
  call h := all_call (hP _ (Eff.hosted_of_plain h))
  durable _ h := all_bind all_self fun _ => all_call (hP _ (h _))
  maintain := maintain_all fun o h _ _ => hP o h
  close := close_all fun o h _ _ => hP o h
  mapper _ := all_update _

theorem buildSubmitCommand_type {s : RuntimeState} {intent : OrderIntent} {command : QmtCommand}
    (h : buildSubmitCommand s intent = .ok command) : command.commandType = .submitLimit := by
  cases ht : brokerTokenFor s.account intent.key.clientOrderId with
  | error e => simp [buildSubmitCommand,ht,bind,Except.bind] at h
  | ok token =>
    simp only [buildSubmitCommand,ht,bind,Except.bind,pure,Except.pure,Except.ok.injEq] at h
    exact h ▸ rfl

theorem buildCancelCommand_type {s : RuntimeState} {clientOrderId brokerOrderId : String}
    {nowMs : Int} {command : QmtCommand}
    (h : buildCancelCommand s clientOrderId brokerOrderId nowMs = .ok command) :
    command.commandType = .cancelOrder := by
  cases ht : brokerTokenFor s.account clientOrderId with
  | error e => simp [buildCancelCommand,ht,bind,Except.bind] at h
  | ok token =>
    simp only [buildCancelCommand,ht,bind,Except.bind,pure,Except.pure,Except.ok.injEq] at h
    exact h ▸ rfl

theorem observedState_ne (dir : SpoolDir) : observedState dir ≠ .planned := by
  cases dir <;> decide

section calm
variable {H : {α : Type} → Runtime α → Prop} (hH : RuntimeCalm H)
include hH

theorem select_holds {α : Type} (q : Db → α) : H (select q) := hH.call rfl

theorem assertLeader_holds : H assertLeader := by
  refine hH.bind hH.self fun s => ?_
  split
  · exact hH.throw _
  · exact hH.bind (hH.ask rfl) fun now => hH.call rfl

theorem registerOrder_holds (clientOrderId symbol : String) (quantity : Int) :
    H (registerOrder clientOrderId symbol quantity) := by
  refine hH.bind hH.self fun s => hH.bind (hH.ofExcept _) fun r => ?_
  exact hH.bind (hH.mapper r.2) fun _ => hH.pure r.1

theorem restoreIdentity_holds (row : DurableIdentity) : H (restoreIdentity row) := by
  refine hH.bind hH.self fun s => ?_
  split
  · exact hH.throw _
  · refine hH.bind (registerOrder_holds hH _ _ _) fun token => ?_
    split
    · exact hH.throw _
    · exact hH.pure _

theorem restorePersistedIdentities_holds : H restorePersistedIdentities :=
  hH.bind (select_holds hH _) fun rows => hH.each (restoreIdentity_holds hH) rows

theorem readCandidates_holds (state : CommandState) (dir : SpoolDir) (names : List String)
    (c : Candidates) : H (readCandidates state dir names c) := by
  induction names generalizing c with
  | nil => exact hH.pure c
  | cons name names ih =>
    refine hH.bind hH.self fun s => hH.bind (hH.call rfl) fun raw =>
      hH.bind (hH.ofExcept _) fun row => ?_
    cases row with
    | none => exact hH.bind (hH.pure c) ih
    | some row => exact hH.bind (hH.ofExcept _) ih

theorem checkCandidate_holds (row : DurableIdentity) : H (checkCandidate row) := by
  refine hH.bind (select_holds hH _) fun stored => ?_
  cases stored with
  | some stored =>
    dsimp only
    split
    · exact hH.throw _
    · exact hH.pure _
  | none =>
    refine hH.bind (select_holds hH _) fun prior => ?_
    split
    · refine hH.bind (select_holds hH _) fun dispatch => ?_
      split
      · exact hH.pure _
      · exact hH.throw _
    · exact hH.pure _

theorem importCandidate_holds (row : DurableIdentity) : H (importCandidate row) :=
  hH.bind (select_holds hH _) fun _ =>
    hH.bind (hH.durable (fun _ => rfl) (fun _ => trivial) (fun _ => rfl) fun _ => rfl) fun _ =>
    hH.bind (registerOrder_holds hH _ _ _) fun _ => hH.pure _

theorem refreshIdentities_holds : H refreshIdentities :=
  hH.bind hH.self fun _ => hH.bind (hH.call rfl) fun _ =>
    hH.bind (readCandidates_holds hH _ _ _ _) fun _ => hH.bind (hH.call rfl) fun _ =>
    hH.bind (readCandidates_holds hH _ _ _ _) fun c =>
    hH.bind (hH.each (checkCandidate_holds hH) c.rows) fun _ =>
    hH.each (importCandidate_holds hH) c.rows

theorem restoreDispatchPlan_holds (row : Dispatch) : H (restoreDispatchPlan row) := by
  refine hH.bind hH.self fun s => hH.bind (hH.ofExcept _) fun command => ?_
  dsimp only
  split
  · exact hH.throw _
  · refine hH.bind (registerOrder_holds hH _ _ _) fun token => ?_
    split
    · exact hH.throw _
    · exact hH.pure _

theorem restoreDispatchPlanIdentities_holds : H restoreDispatchPlanIdentities :=
  hH.bind hH.self fun _ => hH.bind (select_holds hH _) fun rows =>
    hH.each (restoreDispatchPlan_holds hH) rows

theorem validateRow_holds (row : BrokerOrder) : H (validateRow row) := by
  have hreview : ∀ (eventType : String) (resolved : Option Bool),
      H (durable (fun g => .markManualReview g row.key eventType resolved)) :=
    fun _ _ => hH.durable (fun _ => rfl) (fun _ => trivial) (fun _ => rfl) fun _ => rfl
  refine hH.bind hH.self fun s => ?_
  have hcancel : ∀ (b : Bool), H (if b then (do
        let dispatch ← select (fun db => dispatchForOrder db row.key .cancelOrder)
        if planned s.session dispatch then return ()
        else durable (fun g => .markManualReview g row.key
          "QMT_CANCEL_RESERVATION_WITHOUT_DISPATCH" (some true)))
      else (pure () : Runtime Unit)) := by
    intro b
    split
    · refine hH.bind (select_holds hH _) fun dispatch => ?_
      split
      · exact hH.pure _
      · exact hreview _ _
    · exact hH.pure _
  dsimp only
  split
  · refine hH.bind (select_holds hH _) fun dispatch => ?_
    split
    · exact hcancel _
    · exact hreview _ _
  · exact hcancel _

theorem validateDispatchInvariants_holds : H validateDispatchInvariants :=
  hH.bind (assertLeader_holds hH) fun _ => hH.bind hH.self fun _ =>
    hH.bind (select_holds hH _) fun rows => hH.each (validateRow_holds hH) rows

theorem getStatus_holds (k : OrderKey) : H (getStatus k) := hH.call rfl

theorem beginReconciliation_holds (command : QmtCommand) : H (beginReconciliation command) := by
  have hmove : ∀ req : TransitionRequest, req.Neutral →
      H (durable (fun g => .transitionOrder g command.orderKey req) >>= fun _ => pure ()) :=
    fun req hreq => hH.bind (hH.durable (fun _ => rfl) (fun _ => hreq) (fun _ => rfl) fun _ => rfl) fun _ => hH.pure _
  refine hH.bind (getStatus_holds hH _) fun current => ?_
  split
  · exact hH.bind (hH.durable (fun _ => rfl) (fun _ => ⟨rfl,rfl,by simp⟩) (fun _ => rfl) fun _ => rfl) fun _ =>
      hmove _ ⟨rfl,rfl,by simp⟩
  · split
    · exact hmove _ ⟨rfl,rfl,by simp⟩
    · exact hH.pure _

theorem nowMillis_holds : H nowMillis := hH.bind (hH.ask rfl) fun _ => hH.pure _

theorem findExisting_holds (commandId : String) (dirs : List SpoolDir) :
    H (findExisting commandId dirs) := by
  induction dirs with
  | nil => exact hH.pure none
  | cons dir dirs ih =>
    refine hH.bind (hH.ask rfl) fun found => ?_
    split
    · exact hH.pure _
    · exact ih

theorem foundIn_holds (commandId : String) (dirs : List SpoolDir) : H (foundIn commandId dirs) := by
  induction dirs with
  | nil => exact hH.pure []
  | cons dir dirs ih =>
    exact hH.bind (hH.ask rfl) fun found => hH.bind ih fun rest => hH.pure _

theorem locate_holds (commandId : String) : H (locate commandId) := by
  refine hH.bind (foundIn_holds hH _ _) fun found => ?_
  split
  · exact hH.throw _
  · exact hH.pure _

theorem ingestBrokerEvidence_holds (e : BrokerEvidenceV1) : H (ingestBrokerEvidence e) := by
  refine hH.bind (hH.durable (fun _ => rfl) (fun _ => trivial) (fun _ => rfl) fun _ => rfl) fun result => ?_
  cases result with
  | ok applied => exact hH.pure _
  | error reason => exact hH.throw _

theorem publish_holds (hrename : ∀ commandId raw expiresMs nowMs,
    H (Proc.call (.renameTemp commandId raw expiresMs nowMs))) (command : QmtCommand) :
    H (publish command) := by
  refine hH.bind (hH.ofExcept _) fun raw => hH.bind (nowMillis_holds hH) fun nowMs => ?_
  split
  · exact hH.throw _
  · refine hH.bind (findExisting_holds hH _ _) fun existing => ?_
    cases existing with
    | none => exact hH.bind (hH.call rfl) fun _ => hrename _ _ _ _
    | some dir =>
      refine hH.bind (hH.call rfl) fun content => ?_
      split
      · exact hH.pure _
      · exact hH.throw _

end calm

theorem reserveAndPersistDispatch_holds {H : {α : Type} → Runtime α → Prop} (hH : RuntimeQuiet H)
    {command : QmtCommand} (brokerOrderId : Option String)
    (cancel : Bool) (ht : command.commandType = if cancel then .cancelOrder else .submitLimit) :
    H (reserveAndPersistDispatch command brokerOrderId cancel) :=
  hH.bind hH.self fun _ => hH.bind_ofExcept fun _ hraw =>
    hH.durable (fun _ => rfl) (fun _ => ⟨hraw,ht⟩) fun _ => rfl

section
variable {H : {α : Type} → Runtime α → Prop} (hH : RuntimeClosed H)
include hH

theorem setDispatchState_holds (commandId : String) {state : DispatchState}
    (hs : state ≠ .planned) : H (setDispatchState commandId state) :=
  hH.durable (fun _ => rfl) fun _ => hs

theorem failDispatchManualReview_holds (command : QmtCommand) (eventType : String) :
    H (failDispatchManualReview command eventType) := hH.durable (fun _ => rfl) fun _ => trivial

theorem observeCommandResultDispatch_holds (commandId resultStatus : String) :
    H (observeCommandResultDispatch commandId resultStatus) := by
  refine hH.bind (select_holds hH.calm _) fun row => ?_
  split
  · exact hH.pure _
  · split
    · exact setDispatchState_holds hH _ (by decide)
    · split
      · exact setDispatchState_holds hH _ (by decide)
      · exact hH.pure _

theorem ingestExecutionCommandResult_holds (r : ExecutionCommandResult) :
    H (ingestExecutionCommandResult r) := by
  refine hH.bind hH.self fun s => ?_
  split
  · exact hH.throw _
  · split
    · exact hH.throw _
    · split
      · exact hH.throw _
      · split
        · exact hH.throw _
        · exact hH.bind (hH.ofExcept _) fun checked =>
            hH.bind (hH.durable (fun _ => rfl) fun _ => trivial) fun _ =>
            observeCommandResultDispatch_holds hH _ _

section publishing
variable (hpublish : ∀ command, H (publish command))
include hpublish

theorem publishPlanned_holds (command : QmtCommand) : H (publishPlanned command) := by
  refine hH.bind (nowMillis_holds hH.calm) fun nowMs => ?_
  split
  · exact failDispatchManualReview_holds hH _ _
  · exact hH.bind (hpublish command) fun _ => hH.bind (setDispatchState_holds hH _ (by decide)) fun _ =>
      beginReconciliation_holds hH.calm command

theorem recoverDispatch_holds (row : Dispatch) : H (recoverDispatch row) := by
  refine hH.bind (assertLeader_holds hH.calm) fun _ => hH.bind hH.self fun s =>
    hH.bind (hH.ofExcept _) fun command => ?_
  split
  · exact hH.throw _
  · refine hH.bind (locate_holds hH.calm _) fun located => ?_
    cases located with
    | none =>
      dsimp only
      split
      · exact publishPlanned_holds hH hpublish command
      · split
        · exact failDispatchManualReview_holds hH _ _
        · exact hH.pure _
    | some observed =>
      refine hH.bind (hH.call rfl) fun content => ?_
      split
      · exact hH.throw _
      · dsimp only
        split
        · exact hH.bind (setDispatchState_holds hH _ (observedState_ne _)) fun _ =>
            beginReconciliation_holds hH.calm command
        · exact beginReconciliation_holds hH.calm command

theorem recoverDispatches_holds : H recoverDispatches :=
  hH.bind (assertLeader_holds hH.calm) fun _ => hH.bind hH.self fun _ =>
    hH.bind (select_holds hH.calm _) fun rows => hH.each (recoverDispatch_holds hH hpublish) rows

theorem executeIntent_holds (intent : OrderIntent) : H (executeIntent intent) := by
  refine hH.bind (assertLeader_holds hH.calm) fun _ => hH.bind hH.maintain fun _ =>
    hH.bind hH.self fun s => ?_
  split
  · exact hH.throw _
  · refine hH.bind (hH.ask rfl) fun now => hH.bind (select_holds hH.calm _) fun existing => ?_
    cases existing with
    | some row =>
      refine hH.bind (hH.ofExcept _) fun command => hH.bind (hH.ofExcept _) fun raw => ?_
      split
      · exact hH.throw _
      · exact hH.bind (recoverDispatch_holds hH hpublish row) fun _ => getStatus_holds hH.calm _
    | none =>
      exact hH.bind (hH.durable (fun _ => rfl) fun _ => trivial) fun _ =>
        hH.bind (hH.durable (fun _ => rfl) fun _ => trivial) fun _ =>
        hH.bind_ofExcept fun command hcommand =>
        hH.bind (reserveAndPersistDispatch_holds hH.quiet _ _ (buildSubmitCommand_type hcommand)) fun row =>
        hH.bind (registerOrder_holds hH.calm _ _ _) fun _ =>
        hH.bind (recoverDispatch_holds hH hpublish row) fun _ => getStatus_holds hH.calm _

theorem cancelIntent_holds (clientOrderId : String) : H (cancelIntent clientOrderId) := by
  refine hH.bind (assertLeader_holds hH.calm) fun _ => hH.bind hH.maintain fun _ =>
    hH.bind hH.self fun s => hH.bind (hH.call rfl) fun order => ?_
  split
  · exact hH.pure _
  · refine hH.bind (select_holds hH.calm _) fun existing => ?_
    cases existing with
    | some row => exact hH.bind (recoverDispatch_holds hH hpublish row) fun _ => getStatus_holds hH.calm _
    | none =>
      dsimp only
      split
      · exact hH.throw _
      · split
        · exact hH.throw _
        · exact hH.bind (nowMillis_holds hH.calm) fun nowMs => hH.bind_ofExcept fun command hcommand =>
            hH.bind (reserveAndPersistDispatch_holds hH.quiet _ _ (buildCancelCommand_type hcommand)) fun row =>
            hH.bind (recoverDispatch_holds hH hpublish row) fun _ => getStatus_holds hH.calm _

theorem perform_holds (op : Op) : H op.perform := by
  refine hH.tryCatch ?_ fun _ => hH.pure _
  cases op with
  | executeIntent intent =>
    exact hH.bind (executeIntent_holds hH hpublish intent) fun _ => hH.pure _
  | cancelIntent clientOrderId =>
    exact hH.bind (cancelIntent_holds hH hpublish clientOrderId) fun _ => hH.pure _
  | ingestBrokerEvidence e => exact hH.bind (ingestBrokerEvidence_holds hH.calm e) fun _ => hH.pure _
  | ingestExecutionCommandResult r => exact ingestExecutionCommandResult_holds hH r
  | recoverDispatches => exact recoverDispatches_holds hH hpublish
  | refreshIdentities => exact refreshIdentities_holds hH.calm
  | maintain => exact hH.maintain
  | close => exact hH.close

theorem serve_holds (ops : List Op) : H (serve ops) := by
  have hinit : H initialise :=
    hH.bind (restorePersistedIdentities_holds hH.calm) fun _ =>
      hH.bind (refreshIdentities_holds hH.calm) fun _ =>
      hH.bind (restoreDispatchPlanIdentities_holds hH.calm) fun _ =>
      hH.bind (validateDispatchInvariants_holds hH.calm) fun _ => recoverDispatches_holds hH hpublish
  exact hH.bind (hH.tryCatch hinit fun e => hH.bind hH.close fun _ => hH.throw e)
    fun _ => hH.each (perform_holds hH hpublish) ops

end publishing
end

/-- Every request of a runtime process. -/
theorem process_all {P : {β : Type} → Eff β → Prop} (hP : ∀ {β : Type} (o : Eff β), o.hosted → P o)
    (hrename : ∀ commandId raw expiresMs nowMs, P (.renameTemp commandId raw expiresMs nowMs))
    (inst : QmtInstance) (ops : List Op) : (process inst ops).All P := by
  have hpublish := publish_holds (closed_of_hosted hP).calm
    (fun commandId raw expiresMs nowMs => all_call (hrename commandId raw expiresMs nowMs))
  have hserve := serve_holds (closed_of_hosted hP) hpublish ops
  refine Prog.All.bind (construct_all (fun o h _ _ => hP o h) inst ()) fun r => ?_
  rcases r with ⟨e | s,u⟩
  · trivial
  · exact Prog.All.bind (hserve s) fun _ => trivial

end Runtime
end BigQmt
