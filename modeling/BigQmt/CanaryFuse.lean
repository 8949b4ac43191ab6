import BigQmt.LiveCanary
import BigQmt.Traces
import Mathlib.Data.List.Basic
set_option autoImplicit false

/-!
The fuse of the live canary Bridge: what its broker calls are in one session, whatever
they return or raise.
-/

namespace BigQmt

open Resumption Proc

/-- The order of a `passorder` call. -/
def liveOrder : Event LiveEff → Option LiveOrder
  | ⟨.broker (.passorder order),_⟩ => some order
  | _ => none

def isPassorder (e : Event LiveEff) : Bool := (liveOrder e).isSome

def isCancel : Event LiveEff → Bool
  | ⟨.broker (.cancel _),_⟩ => true
  | _ => false

/-- A broker API has raised. -/
def apiRaised : Event LiveEff → Bool
  | ⟨.broker _,.error _⟩ => true
  | _ => false

/-- The one order this build permits, of a command for this session. -/
structure LiveOrder.Authorized (session : String) (o : LiveOrder) : Prop where
  buys : o.opType = 23
  symbol : o.symbol = "00700.HGT"
  quantity : o.quantity.eqNat 100 = true
  price : o.price.eqNat 1 = true
  token : o.userOrderId = o.command.brokerToken
  session : o.command.payload.get "expected_qmt_session_id" = some (.text session)

namespace LiveCanary

/-- What holds of the events of a session at every moment. -/
structure Fused (session : String) (tr : List (Event LiveEff)) : Prop where
  submits : tr.countP isPassorder ≤ 1
  cancels : tr.countP isCancel ≤ 1
  orders : ∀ e ∈ tr, ∀ o, liveOrder e = some o → o.Authorized session
  halted : tr.Pairwise (fun e e' => apiRaised e = true → isPassorder e' = false ∧ isCancel e' = false)

def fuse (session : String) : Watch LiveEff := ⟨fun _ => True,Fused session⟩

/-- An exception has passed, and the session is about to halt. -/
structure Shaken (session : String) (s : LiveState) (tr : List (Event LiveEff)) : Prop where
  fused : Fused session tr
  session : s.sessionId = session
  submits : tr.countP isPassorder ≤ s.simulationSubmitCalls

/-- Between two commands: a session that is not halted has counted its calls, and none of
them has raised. -/
structure Guarded (session : String) (s : LiveState) (tr : List (Event LiveEff)) : Prop
    extends Shaken session s tr where
  cancels : s.liveCanaryHalted = false → tr.countP isCancel ≤ s.simulationCancelCalls
  raised : s.liveCanaryHalted = false → ∀ e ∈ tr, apiRaised e = false

variable {session : String} {s : LiveState} {tr : List (Event LiveEff)} {e : Event LiveEff}

theorem Guarded.halt (h : Shaken session s tr) :
    Guarded session { s with liveCanaryHalted := true } tr :=
  ⟨⟨h.fused,h.session,h.submits⟩,by simp,by simp⟩

/-- An event that is no mutating call. -/
theorem Fused.other (h : Fused session tr) (ho : liveOrder e = none) (hc : isCancel e = false) :
    Fused session (tr ++ [e]) := by
  have hp : isPassorder e = false := by simp [isPassorder,ho]
  refine ⟨?_,?_,?_,?_⟩
  · simpa [List.countP_append,hp] using h.submits
  · simpa [List.countP_append,hc] using h.cancels
  · intro e' he' o horder
    obtain hold | hlast := List.mem_append.mp he'
    · exact h.orders e' hold o horder
    · rw [List.mem_singleton.mp hlast,ho] at horder
      cases horder
  · refine List.pairwise_append.mpr ⟨h.halted,List.pairwise_singleton _ _,fun e' _ e'' he'' _ => ?_⟩
    rw [List.mem_singleton.mp he'']
    exact ⟨hp,hc⟩

/-- A mutating call, the first of its kind, before anything has raised. -/
theorem Fused.mutate (h : Fused session tr) (hraised : ∀ e ∈ tr, apiRaised e = false)
    (hsubmits : tr.countP isPassorder + (if isPassorder e then 1 else 0) ≤ 1)
    (hcancels : tr.countP isCancel + (if isCancel e then 1 else 0) ≤ 1)
    (horder : ∀ o, liveOrder e = some o → o.Authorized session) : Fused session (tr ++ [e]) := by
  refine ⟨?_,?_,?_,?_⟩
  · simpa [List.countP_append,List.countP_singleton] using hsubmits
  · simpa [List.countP_append,List.countP_singleton] using hcancels
  · intro e' he' o ho
    obtain hold | hlast := List.mem_append.mp he'
    · exact h.orders e' hold o ho
    · rw [List.mem_singleton.mp hlast] at ho
      exact horder o ho
  · refine List.pairwise_append.mpr ⟨h.halted,List.pairwise_singleton _ _,fun e' he' _ _ hr => ?_⟩
    simp [hraised e' he'] at hr

/-- A session that may still make its one call of a kind. -/
structure Fresh (session : String) (kind : Event LiveEff → Bool) (s : LiveState)
    (tr : List (Event LiveEff)) : Prop extends Guarded session s tr where
  running : s.liveCanaryHalted = false
  unused : tr.countP kind = 0

/-- What a method of the command path leaves: a result, a refusal between two commands, or
an exception the session is about to halt for. -/
def Outcome {α : Type} (session : String) (P : LiveState → List (Event LiveEff) → Prop) :
    Except PyError α → LiveState → List (Event LiveEff) → Prop
  | .ok _,s,tr => P s tr
  | .error e,s,tr => Guarded session s tr ∨ Shaken session s tr ∧ Bridge.isCommandError e = false

/-- A request that is neither a mutating call nor an exception of a broker API. -/
structure Quiet (e : Event LiveEff) : Prop where
  order : liveOrder e = none
  cancel : isCancel e = false
  raised : apiRaised e = false

theorem Quiet.kind (h : Quiet e) {kind : Event LiveEff → Bool}
    (hkind : kind = isPassorder ∨ kind = isCancel) : kind e = false := by
  obtain rfl | rfl := hkind
  · simp [isPassorder,h.order]
  · exact h.cancel

theorem Shaken.other (h : Shaken session s tr) (ho : liveOrder e = none)
    (hc : isCancel e = false) : Shaken session s (tr ++ [e]) := by
  refine ⟨h.fused.other ho hc,h.session,?_⟩
  have hp : isPassorder e = false := by simp [isPassorder,ho]
  simpa [List.countP_append,hp] using h.submits

theorem Guarded.quiet (h : Guarded session s tr) (he : Quiet e) :
    Guarded session s (tr ++ [e]) := by
  refine ⟨h.toShaken.other he.order he.cancel,fun hs => ?_,fun hs e' he' => ?_⟩
  · simpa [List.countP_append,he.cancel] using h.cancels hs
  · obtain hold | hlast := List.mem_append.mp he'
    · exact h.raised hs e' hold
    · rw [List.mem_singleton.mp hlast]
      exact he.raised

variable {kind : Event LiveEff → Bool}

theorem Fresh.quiet (hkind : kind = isPassorder ∨ kind = isCancel) (h : Fresh session kind s tr)
    (he : Quiet e) : Fresh session kind s (tr ++ [e]) := by
  refine ⟨h.toGuarded.quiet he,h.running,?_⟩
  simpa [List.countP_append,he.kind hkind] using h.unused

/-- A broker query: its answer, or an exception. -/
theorem callApi_fresh {α : Type} {api : LiveApi α}
    (hkind : kind = isPassorder ∨ kind = isCancel)
    (hquery : ∀ b, liveOrder ⟨.broker api,b⟩ = none ∧ isCancel ⟨.broker api,b⟩ = false) :
    Meets (fuse session) (Fresh session kind) (Outcome session (Fresh session kind))
      (callApi api) := by
  rintro s tr h (e | a) -
  · obtain ⟨ho,hc⟩ := hquery (.error e)
    have hshaken := h.toShaken.other ho hc
    exact ⟨hshaken.fused,.inr ⟨hshaken,e.2⟩⟩
  · obtain ⟨ho,hc⟩ := hquery (.ok a)
    have hfresh := h.quiet hkind ⟨ho,hc,rfl⟩
    exact ⟨hfresh.fused,hfresh⟩

theorem ask_fresh {α : Type} {o : LiveEff α} (hkind : kind = isPassorder ∨ kind = isCancel)
    (hquiet : ∀ b, Quiet ⟨o,b⟩) :
    Meets (fuse session) (Fresh session kind) (Outcome session (Fresh session kind))
      (ask o : Live α) := by
  intro s tr h b _
  have hfresh := h.quiet hkind (hquiet b)
  exact ⟨hfresh.fused,hfresh⟩

/-- A refusal of the command path. -/
theorem refuse_fresh {α : Type} {P : LiveState → List (Event LiveEff) → Prop} (message : String) :
    Meets (fuse session) (Fresh session kind) (Outcome session P)
      (throw (.commandError message) : Live α) :=
  meets_throw fun _ _ h => .inl h.toGuarded

theorem instrumentPreflight_fresh (hkind : kind = isPassorder ∨ kind = isCancel)
    (symbol : String) : Meets (fuse session) (Fresh session kind)
      (Outcome session (Fresh session kind)) (instrumentPreflight symbol) := by
  refine Meets.bind (callApi_fresh hkind fun _ => ⟨rfl,rfl⟩) (fun details => ?_) fun _ _ _ h => h
  cases details with
  | none => exact refuse_fresh _
  | some details =>
    dsimp only
    split
    · exact refuse_fresh _
    · split
      · exact refuse_fresh _
      · refine Meets.bind (ask_fresh hkind fun _ => ⟨rfl,rfl,rfl⟩) (fun detected => ?_)
          fun _ _ _ h => h
        split
        · exact refuse_fresh _
        · exact meets_pure fun _ _ h => h

theorem cashPreflight_fresh (hkind : kind = isPassorder ∨ kind = isCancel) :
    Meets (fuse session) (Fresh session kind) (Outcome session (Fresh session kind))
      cashPreflight := by
  refine Meets.bind (callApi_fresh hkind fun _ => ⟨rfl,rfl⟩) (fun rows => ?_) fun _ _ _ h => h
  split
  · exact refuse_fresh _
  · split
    · exact meets_pure fun _ _ h => h
    · exact refuse_fresh _
  · exact refuse_fresh _

theorem cancelTarget_fresh (hkind : kind = isPassorder ∨ kind = isCancel) (command : Bridge.Command) :
    Meets (fuse session) (Fresh session kind) (Outcome session (Fresh session kind))
      (cancelTarget command) := by
  refine Meets.bind (callApi_fresh hkind fun _ => ⟨rfl,rfl⟩) (fun rows => ?_) fun _ _ _ h => h
  cases rows with
  | none => exact refuse_fresh _
  | some rows =>
    dsimp only
    split
    · exact refuse_fresh _
    · exact meets_pure fun _ _ h => h

/-- The quota is reserved, and then the one call is made. -/
theorem passorder_guarded {order : LiveOrder} (horder : order.Authorized session) :
    Meets (fuse session) (Fresh session isPassorder) (Outcome session (Guarded session)) (do
      update (fun s => { s with simulationSubmitCalls := s.simulationSubmitCalls + 1 })
      callApi (.passorder order)
      return ("LIVE_CANARY_SUBMIT_CALL_RETURNED",true) : Live (String × Bool)) := by
  rintro s tr h answer -
  have hfused : Fused session (tr ++ [⟨.broker (.passorder order),answer⟩]) := by
    refine h.fused.mutate (h.raised h.running) ?_ ?_ ?_
    · simp [h.unused,isPassorder,liveOrder]
    · simpa [isCancel] using h.fused.cancels
    · rintro o ho
      simp only [liveOrder,Option.some.injEq] at ho
      rwa [← ho]
  have hshaken : Shaken session
      { s with simulationSubmitCalls := s.simulationSubmitCalls + 1 }
      (tr ++ [⟨.broker (.passorder order),answer⟩]) := by
    refine ⟨hfused,h.session,?_⟩
    have hle := hfused.submits
    change _ ≤ s.simulationSubmitCalls + 1
    omega
  refine ⟨hfused,?_⟩
  cases answer with
  | error e => exact .inr ⟨hshaken,e.2⟩
  | ok u =>
    refine ⟨hshaken,fun hs => ?_,fun hs e he => ?_⟩
    · simpa [List.countP_append,isCancel] using h.cancels hs
    · obtain hold | hlast := List.mem_append.mp he
      · exact h.raised hs e hold
      · rw [List.mem_singleton.mp hlast]
        rfl

theorem authorized_of_case {command : Bridge.Command} {price : PyNumber}
    (hcase : authorizedCase command.payload price = true)
    (hsession : command.payload.get "expected_qmt_session_id" = some (.text session)) :
    (⟨23,(command.payload.textAt "symbol").getD "",price,
      (pyNumber (command.payload.get "quantity")).getD .nonfinite,command.brokerToken,command,
      session⟩ : LiveOrder).Authorized session := by
  simp only [authorizedCase,Bool.and_eq_true,decide_eq_true_eq] at hcase
  obtain ⟨⟨⟨hsymbol,-⟩,hquantity⟩,hprice⟩ := hcase
  refine ⟨rfl,?_,?_,hprice,rfl,hsession⟩
  · cases hs : command.payload.textAt "symbol" with
    | none => simp [hs] at hsymbol
    | some symbol => simpa [hs,mutationSymbols] using hsymbol
  · cases hq : pyNumber (command.payload.get "quantity") with
    | none => simp [hq] at hquantity
    | some q => simpa [hq,authorizedQuantity] using hquantity

/-- A session that has not halted. -/
def Running (session : String) (s : LiveState) (tr : List (Event LiveEff)) : Prop :=
  Guarded session s tr ∧ s.liveCanaryHalted = false

theorem executeSubmit_guarded {command : Bridge.Command}
    (hsession : command.payload.get "expected_qmt_session_id" = some (.text session)) :
    Meets (fuse session) (Running session) (Outcome session (Guarded session))
      (executeSubmit command) := by
  refine meets_self_bind fun s => ?_
  dsimp only
  split
  · exact meets_throw fun _ _ h => .inl h.2.1
  · rename_i hbelow
    split
    · exact meets_throw fun _ _ h => .inl h.2.1
    · rename_i price _
      split
      · exact meets_throw fun _ _ h => .inl h.2.1
      · rename_i hcase
        rintro s' tr ⟨hs,h,hrunning⟩
        rw [← hs] at hbelow ⊢
        have hid : s'.sessionId = session := h.session
        have hunused : tr.countP isPassorder = 0 := by
          have hsubmits := h.submits
          have hmax : simulationMaxSubmitCalls = 1 := rfl
          omega
        refine (?_ : Meets _ (Fresh session isPassorder) _ _) s' tr ⟨h,hrunning,hunused⟩
        refine Meets.bind (ask_fresh (.inl rfl) fun _ => ⟨rfl,rfl,rfl⟩) (fun now => ?_)
          fun _ _ _ h => h
        split
        · exact refuse_fresh _
        · refine Meets.bind (instrumentPreflight_fresh (.inl rfl) _) (fun _ => ?_) fun _ _ _ h => h
          refine Meets.bind (cashPreflight_fresh (.inl rfl)) (fun _ => ?_) fun _ _ _ h => h
          rw [hid]
          exact passorder_guarded (authorized_of_case (by simpa using hcase) hsession)

/-- The one cancellation is made, and counted when it returns. -/
theorem cancel_guarded (brokerOrderId : String) :
    Meets (fuse session) (Fresh session isCancel) (Outcome session (Guarded session)) (do
      let sent ← callApi (.cancel brokerOrderId)
      update (fun s => { s with simulationCancelCalls := s.simulationCancelCalls + 1 })
      return (if sent then "LIVE_CANARY_CANCEL_SIGNAL_SENT" else "LIVE_CANARY_CANCEL_NOT_SENT",
        true) : Live (String × Bool)) := by
  rintro s tr h answer -
  have hpassorder : isPassorder ⟨.broker (.cancel brokerOrderId),answer⟩ = false := rfl
  have hfused : Fused session (tr ++ [⟨.broker (.cancel brokerOrderId),answer⟩]) := by
    refine h.fused.mutate (h.raised h.running) ?_ ?_ ?_
    · simpa [hpassorder] using h.fused.submits
    · simp [h.unused,isCancel]
    · rintro o ho
      cases ho
  have hsubmits : List.countP isPassorder (tr ++ [⟨.broker (.cancel brokerOrderId),answer⟩]) ≤
      s.simulationSubmitCalls := by
    simpa [List.countP_append,hpassorder] using h.submits
  refine ⟨hfused,?_⟩
  cases answer with
  | error e => exact .inr ⟨⟨hfused,h.session,hsubmits⟩,e.2⟩
  | ok sent =>
    refine ⟨⟨hfused,h.session,hsubmits⟩,fun hs => ?_,fun hs e he => ?_⟩
    · have hle := hfused.cancels
      change _ ≤ s.simulationCancelCalls + 1
      omega
    · obtain hold | hlast := List.mem_append.mp he
      · exact h.raised hs e hold
      · rw [List.mem_singleton.mp hlast]
        rfl

theorem executeCancel_guarded (command : Bridge.Command) :
    Meets (fuse session) (Running session) (Outcome session (Guarded session))
      (executeCancel command) := by
  refine meets_self_bind fun s => ?_
  split
  · exact meets_throw fun _ _ h => .inl h.2.1
  · rename_i hbelow
    rintro _ tr ⟨rfl,h,hrunning⟩
    have hunused : tr.countP isCancel = 0 := by
      have hcancels := h.cancels hrunning
      have hmax : simulationMaxCancelCalls = 1 := rfl
      omega
    refine (?_ : Meets _ (Fresh session isCancel) _ _) _ tr ⟨h,hrunning,hunused⟩
    refine Meets.bind (cancelTarget_fresh (.inr rfl) command) (fun id => ?_) fun _ _ _ h => h
    refine Meets.bind (callApi_fresh (.inr rfl) fun _ => ⟨rfl,rfl⟩) (fun cancellable => ?_)
      fun _ _ _ h => h
    split
    · exact meets_pure fun _ _ h => h.toGuarded
    · exact cancel_guarded id

theorem executeOrderCommand_guarded (command : Bridge.Command) :
    Meets (fuse session) (Guarded session) (Outcome session (Guarded session))
      (executeOrderCommand command) := by
  refine meets_self_bind fun s => ?_
  split
  · exact meets_throw fun _ _ h => .inl h.2
  · split
    · exact meets_throw fun _ _ h => .inl h.2
    · rename_i hauthorized
      split
      · exact meets_throw fun _ _ h => .inl h.2
      · rename_i hrunning
        rintro _ tr ⟨rfl,h⟩
        have hsession : command.payload.get "expected_qmt_session_id" = some (.text session) := by
          rw [← h.session]
          by_contra hne
          exact hauthorized (.inr (.inr hne))
        refine (?_ : Meets _ (Running session) _ _) _ tr ⟨h,by simpa using hrunning⟩
        split
        · exact executeSubmit_guarded hsession
        · exact executeCancel_guarded command
        · exact meets_throw fun _ _ h => .inl h.1

theorem call_guarded {α : Type} {o : LiveEff (Except PyError α)} (hquiet : ∀ b, Quiet ⟨o,b⟩) :
    Keeps (fuse session) (Guarded session) (call o : Live α) :=
  keeps_call (fun _ _ b h _ => (h.quiet (hquiet b)).fused) fun _ _ b h _ => h.quiet (hquiet b)

theorem ask_guarded {α : Type} {o : LiveEff α} (hquiet : ∀ b, Quiet ⟨o,b⟩) :
    Keeps (fuse session) (Guarded session) (ask o : Live α) :=
  keeps_ask (fun _ _ b h _ => (h.quiet (hquiet b)).fused) fun _ _ b h _ => h.quiet (hquiet b)

theorem attempt_guarded {α : Type} {x : Live α} (hx : Keeps (fuse session) (Guarded session) x) :
    Keeps (fuse session) (Guarded session) (attempt x) :=
  closed_keeps.tryCatch (closed_keeps.bind hx fun _ => closed_keeps.pure _)
    fun _ => closed_keeps.pure _

theorem readClaimed_guarded (name : String) :
    Keeps (fuse session) (Guarded session) (readClaimed name) :=
  closed_keeps.bind closed_keeps.self fun _ =>
    closed_keeps.bind (call_guarded fun _ => ⟨rfl,rfl,rfl⟩) fun _ => closed_keeps.ofExcept _

theorem finish_guarded (command : Bridge.Command) (name : String) (target : SpoolDir)
    (status : String) (live : Bool) :
    Keeps (fuse session) (Guarded session) (finish command name target status live) :=
  closed_keeps.bind (call_guarded fun _ => ⟨rfl,rfl,rfl⟩)
    fun _ => call_guarded fun _ => ⟨rfl,rfl,rfl⟩

theorem rejectClaimed_guarded (name : String) :
    Keeps (fuse session) (Guarded session) (rejectClaimed name) := by
  refine closed_keeps.bind (ask_guarded fun _ => ⟨rfl,rfl,rfl⟩) fun present => ?_
  split
  · exact call_guarded fun _ => ⟨rfl,rfl,rfl⟩
  · exact closed_keeps.pure _

theorem processSnapshotRequest_guarded (command : Bridge.Command) (name : String) :
    Keeps (fuse session) (Guarded session) (processSnapshotRequest command name) := by
  refine closed_keeps.bind (attempt_guarded (call_guarded fun _ => ⟨rfl,rfl,rfl⟩))
    fun outcome => ?_
  cases outcome with
  | error e => exact call_guarded fun _ => ⟨rfl,rfl,rfl⟩
  | ok u => exact finish_guarded _ _ _ _ _

/-- An exception that is no `CommandError` halts the session before anything else is done. -/
theorem processOrderCommand_guarded (command : Bridge.Command) (name : String) :
    Keeps (fuse session) (Guarded session) (processOrderCommand command name) := by
  have hattempt : Meets (fuse session) (Guarded session)
      (fun r s tr => ∃ outcome, r = .ok outcome ∧ Outcome session (Guarded session) outcome s tr)
      (attempt (executeOrderCommand command)) := by
    intro s tr h
    refine Prog.along_bind.mpr (Prog.along_bind.mpr ?_)
    refine (executeOrderCommand_guarded command s tr h).mono ?_
    rintro ⟨e | result,s'⟩ tr' h'
    · exact ⟨_,rfl,h'⟩
    · exact ⟨_,rfl,h'⟩
  refine Meets.bind hattempt (fun outcome => ?_) ?_
  · cases outcome with
    | ok result =>
      refine (finish_guarded _ _ _ _ _).mono ?_ fun _ _ _ h => h
      rintro s tr ⟨_,⟨rfl⟩,h⟩
      exact h
    | error e =>
      dsimp only
      split
      · rename_i he
        refine (finish_guarded _ _ _ _ _).mono ?_ fun _ _ _ h => h
        rintro s tr ⟨_,⟨rfl⟩,h | ⟨-,hne⟩⟩
        · exact h
        · simp [hne] at he
      · refine Meets.bind (R := fun _ => Guarded session) (meets_update ?_)
          (fun _ => finish_guarded _ _ _ _ _) fun _ _ _ h => h
        rintro s tr ⟨_,⟨rfl⟩,h | ⟨h,-⟩⟩
        · exact Guarded.halt h.toShaken
        · exact Guarded.halt h
  · rintro e s tr ⟨_,hr,-⟩
    cases hr

theorem processClaimed_guarded (name : String) :
    Keeps (fuse session) (Guarded session) (processClaimed name) := by
  refine closed_keeps.bind (attempt_guarded (readClaimed_guarded name)) fun decoded => ?_
  cases decoded with
  | error e => exact rejectClaimed_guarded name
  | ok command =>
    refine closed_keeps.bind (ask_guarded fun _ => ⟨rfl,rfl,rfl⟩) fun now => ?_
    split
    · exact finish_guarded _ _ _ _ _
    · split
      · exact processSnapshotRequest_guarded command name
      · exact processOrderCommand_guarded command name

theorem abandon_guarded (name : String) :
    Keeps (fuse session) (Guarded session) (abandon name) := by
  refine closed_keeps.bind (ask_guarded fun _ => ⟨rfl,rfl,rfl⟩) fun present => ?_
  split
  · exact closed_keeps.bind (attempt_guarded (call_guarded fun _ => ⟨rfl,rfl,rfl⟩))
      fun _ => closed_keeps.pure _
  · exact closed_keeps.pure _

theorem recoverOrphan_guarded (name : String) :
    Keeps (fuse session) (Guarded session) (recoverOrphan name) := by
  refine closed_keeps.tryCatch (closed_keeps.bind (readClaimed_guarded name) fun command =>
    closed_keeps.bind (call_guarded fun _ => ⟨rfl,rfl,rfl⟩) fun _ => ?_)
    fun _ => abandon_guarded name
  split
  · exact call_guarded fun _ => ⟨rfl,rfl,rfl⟩
  · exact call_guarded fun _ => ⟨rfl,rfl,rfl⟩

theorem recoverOrphanedClaims_guarded :
    Keeps (fuse session) (Guarded session) recoverOrphanedClaims := by
  refine closed_keeps.bind closed_keeps.self fun s => ?_
  split
  · exact closed_keeps.pure _
  · have hdone : ∀ s tr, Guarded session s tr →
        Guarded session { s with orphanRecoveryDone := true } tr :=
      fun _ _ h => ⟨⟨h.fused,h.session,h.submits⟩,h.cancels,h.raised⟩
    refine closed_keeps.bind (keeps_update hdone) fun _ =>
      closed_keeps.bind (attempt_guarded (call_guarded fun _ => ⟨rfl,rfl,rfl⟩)) fun names => ?_
    cases names with
    | error e => exact closed_keeps.pure _
    | ok names => exact closed_keeps.each recoverOrphan_guarded names

theorem claim_guarded (name : String) : Keeps (fuse session) (Guarded session) (claim name) := by
  refine closed_keeps.tryCatch (closed_keeps.bind (ask_guarded fun _ => ⟨rfl,rfl,rfl⟩)
    fun taken => ?_) fun _ => abandon_guarded name
  split
  · exact closed_keeps.pure _
  · exact closed_keeps.bind (call_guarded fun _ => ⟨rfl,rfl,rfl⟩) fun _ =>
      processClaimed_guarded name

theorem drainCommandInbox_guarded :
    Keeps (fuse session) (Guarded session) drainCommandInbox := by
  refine closed_keeps.bind recoverOrphanedClaims_guarded fun _ =>
    closed_keeps.bind (attempt_guarded (call_guarded fun _ => ⟨rfl,rfl,rfl⟩)) fun names => ?_
  cases names with
  | error e => exact closed_keeps.pure _
  | ok names => exact closed_keeps.each claim_guarded _

def anyAnswer : Watch LiveEff := ⟨fun _ => True,fun _ => True⟩

/-- What leaves a method as an exception other than `CommandError` is what a broker API has
raised, and no more is asked of a broker API after it. -/
def Blames {α : Type} (x : Live α) : Prop :=
  Meets anyAnswer (fun _ tr => ∀ e ∈ tr, apiRaised e = false)
    (fun r _ tr => (∃ e, r = .error e ∧ Bridge.isCommandError e = false) ↔
      ∃ e ∈ tr, apiRaised e = true) x

section blames
variable {α β : Type}

theorem blames_pure (a : α) : Blames (pure a : Live α) := by
  intro s tr h
  refine ⟨?_,?_⟩
  · rintro ⟨e,he,-⟩
    cases he
  · rintro ⟨e,he,hraised⟩
    simp [h e he] at hraised

theorem blames_refuse (message : String) :
    Blames (throw (.commandError message) : Live α) := by
  intro s tr h
  refine ⟨?_,?_⟩
  · rintro ⟨e,⟨rfl⟩,he⟩
    cases he
  · rintro ⟨e,he,hraised⟩
    simp [h e he] at hraised

theorem Blames.bind {x : Live α} {f : α → Live β} (hx : Blames x) (hf : ∀ a, Blames (f a)) :
    Blames (x >>= f) := by
  refine Meets.bind hx (fun a => (hf a).mono ?_ fun _ _ _ h => h) ?_
  · intro s tr h e he
    by_contra hraised
    obtain ⟨e',he',-⟩ := h.mpr ⟨e,he,by simpa using hraised⟩
    cases he'
  · intro e s tr h
    rw [← h]
    simp

theorem blames_self_bind {f : LiveState → Live α} (hf : ∀ s, Blames (f s)) :
    Blames (self >>= f) :=
  fun s tr h => hf s s tr h

theorem blames_update (f : LiveState → LiveState) : Blames (update f) :=
  fun s tr h => blames_pure () (f s) tr h

theorem blames_ask {o : LiveEff α} (hquiet : ∀ b, apiRaised ⟨o,b⟩ = false) :
    Blames (ask o : Live α) := by
  intro s tr h b _
  refine ⟨trivial,blames_pure b s _ fun e he => ?_⟩
  obtain hold | hlast := List.mem_append.mp he
  · exact h e hold
  · rw [List.mem_singleton.mp hlast]
    exact hquiet b

theorem blames_callApi (api : LiveApi α) : Blames (callApi api) := by
  rintro s tr h (e | a) -
  · refine ⟨trivial,fun _ => ?_,fun _ => ⟨e.1,rfl,e.2⟩⟩
    exact ⟨_,List.mem_append_right _ (List.mem_singleton_self _),rfl⟩
  · refine ⟨trivial,blames_pure a s _ fun e he => ?_⟩
    obtain hold | hlast := List.mem_append.mp he
    · exact h e hold
    · rw [List.mem_singleton.mp hlast]
      rfl

theorem blames_instrumentPreflight (symbol : String) : Blames (instrumentPreflight symbol) := by
  refine (blames_callApi _).bind fun details => ?_
  cases details with
  | none => exact blames_refuse _
  | some details =>
    dsimp only
    split
    · exact blames_refuse _
    · split
      · exact blames_refuse _
      · refine (blames_ask fun _ => rfl).bind fun detected => ?_
        split
        · exact blames_refuse _
        · exact blames_pure _

theorem blames_cashPreflight : Blames cashPreflight := by
  refine (blames_callApi _).bind fun rows => ?_
  split
  · exact blames_refuse _
  · split
    · exact blames_pure _
    · exact blames_refuse _
  · exact blames_refuse _

theorem blames_executeSubmit (command : Bridge.Command) : Blames (executeSubmit command) := by
  refine blames_self_bind fun s => ?_
  dsimp only
  split
  · exact blames_refuse _
  · split
    · exact blames_refuse _
    · split
      · exact blames_refuse _
      · refine (blames_ask fun _ => rfl).bind fun now => ?_
        split
        · exact blames_refuse _
        · exact (blames_instrumentPreflight _).bind fun _ => blames_cashPreflight.bind fun _ =>
            (blames_update _).bind fun _ => (blames_callApi _).bind fun _ => blames_pure _

theorem blames_cancelTarget (command : Bridge.Command) : Blames (cancelTarget command) := by
  refine (blames_callApi _).bind fun rows => ?_
  cases rows with
  | none => exact blames_refuse _
  | some rows =>
    dsimp only
    split
    · exact blames_refuse _
    · exact blames_pure _

theorem blames_executeCancel (command : Bridge.Command) : Blames (executeCancel command) := by
  refine blames_self_bind fun s => ?_
  split
  · exact blames_refuse _
  · refine (blames_cancelTarget command).bind fun id => (blames_callApi _).bind fun cancellable => ?_
    split
    · exact blames_pure _
    · exact (blames_callApi _).bind fun _ => (blames_update _).bind fun _ => blames_pure _

theorem blames_executeOrderCommand (command : Bridge.Command) :
    Blames (executeOrderCommand command) := by
  refine blames_self_bind fun s => ?_
  split
  · exact blames_refuse _
  · split
    · exact blames_refuse _
    · split
      · exact blames_refuse _
      · split
        · exact blames_executeSubmit command
        · exact blames_executeCancel command
        · exact blames_refuse _

end blames

/-- A tick that finds both directories empty. -/
def idleTick : List (Event LiveEff) :=
  [⟨.listDir .claimed,Except.ok []⟩,⟨.listDir .inbox,Except.ok []⟩]

end LiveCanary
end BigQmt
