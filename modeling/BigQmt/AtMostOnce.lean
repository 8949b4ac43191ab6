import BigQmt.OmsPrograms
import BigQmt.Permits
set_option autoImplicit false

/-!
Any number of `OfflineOms` processes on one database: the reservation of a call
is the permit to make it, so no order is submitted or cancelled twice.
-/

namespace BigQmt

open Resumption Proc Keyed

/-- A start request is the lease length and the calls of the new process. -/
def omsMachine : Machine Eff Choice World (Nat × List OmsOp) where
  exec := exec
  boot req := omsProcess req.1 req.2
  allows _ _ := true

/-- The driver call that a committed reservation entitles to. -/
def Txn.reservation : {α : Type} → Txn α → Option (DriverCallKind × OrderKey)
  | _,.prepareSubmit _ k => some (.submitLimitOrder,k)
  | _,.prepareCancel _ k => some (.cancelOrder,k)
  | _,_ => none

def Eff.granted : {β : Type} → Eff β → β → Option (DriverCallKind × OrderKey)
  | _,.txn t,.ok _ => t.reservation
  | _,_,_ => none

def World.callCount (w : World) (kind : DriverCallKind) (k : OrderKey) : Nat :=
  w.driverCalls.countP (fun call => call.kind = kind ∧ call.key = k)

def reservations : Permits Eff World (DriverCallKind × OrderKey) where
  grants := Eff.granted
  uses := Eff.driverCall
  raised call w := w.reserved call.1 call.2 = true ∧ (w.db.intent? call.2).isSome = true
  count call w := w.callCount call.1 call.2

theorem exec_driverCalls {β : Type} (o : Eff β) (c : Choice) (w : World) :
    (exec o c w).2.driverCalls = w.driverCalls ++
      o.driverCall.toList.map (fun call => ⟨call.1,call.2,w.reserved call.1 call.2⟩) := by
  cases o with
  | readFile dir name => cases h : w.spool.lookup dir name <;> simp [exec,h,Eff.driverCall]
  | renameTemp id raw e n => cases h : c.fault <;> simp [exec,h,World.rename,Eff.driverCall]
  | move a b n =>
    cases h : c.fault with
    | some e => simp [exec,h,Eff.driverCall]
    | none => cases hm : w.spool.move a b n <;> simp [exec,h,hm,Eff.driverCall]
  | _ => simp [exec,Eff.driverCall,World.callDriver]

/-- A raised flag is never lowered. -/
theorem reserved_mono {P : BrokerOrder → TransitionRequest → Prop} {w w' : World}
    (h : Evolves P w.db w'.db) (call : DriverCallKind × OrderKey)
    (hraised : reservations.raised call w) : reservations.raised call w' := by
  obtain ⟨kind,k⟩ := call
  obtain ⟨hres,hi⟩ := hraised
  obtain ⟨i,hi⟩ := Option.isSome_iff_exists.mp hi
  obtain ⟨r,hr,hs⟩ : ∃ r, w.db.order? k = some r ∧ kind.started r = true := by
    simpa [World.reserved,Option.any_eq_true] using hres
  obtain ⟨r',hr',hadv⟩ := h.order_advances hr hi
  have hs' : kind.started r' = true := by
    cases kind with
    | submitLimitOrder => exact hadv.submit hs
    | cancelOrder => exact hadv.cancel hs
  exact ⟨by simp [World.reserved,hr',hs'],by simp [h.intents k i hi]⟩

theorem exec_raised {β : Type} (o : Eff β) (c : Choice) (w : World)
    (call : DriverCallKind × OrderKey) (h : reservations.raised call w) :
    reservations.raised call (exec o c w).2 :=
  reserved_mono (exec_evolves o c w) call h

/-- A reservation commits only from a lowered flag, and leaves it raised. -/
theorem reserve_raises (kind : DriverCallKind) (reserve : BrokerOrder → BrokerOrder)
    (hkey : ∀ r, (reserve r).key = r.key) (hset : ∀ r, kind.started (reserve r) = true)
    {k : OrderKey} {target : OrderStatus} {eventType : OrderEventType} {already : PyError}
    {w : World} {db' : Db} {u : Unit}
    (h : reserveInTx k target eventType already kind.started reserve w.db = .ok (u,db')) :
    ¬ reservations.raised (kind,k) w ∧ reservations.raised (kind,k) { w with db := db' } := by
  obtain ⟨r,i,o,hr,hi,hs,-,-,rfl⟩ := reserveInTx_ok h
  refine ⟨fun hraised => ?_,?_,?_⟩
  · simp [reservations,World.reserved,hr,hs] at hraised
  · have hord := order?_updateOrder hkey hr
    change ((w.db.updateOrder k reserve).order? k).any kind.started = true
    simp [hord,hset]
  · exact Option.isSome_iff_exists.mpr ⟨i,hi⟩

theorem reservation_grant {α : Type} {t : Txn α} {call : DriverCallKind × OrderKey}
    (ht : t.reservation = some call) {c : Choice} {w : World} {a : α}
    (h : (t.run c w.db).1 = .ok a) :
    ¬ reservations.raised call w ∧
      reservations.raised call { w with db := (t.run c w.db).2 } := by
  obtain ⟨e,he⟩ | ⟨b,db',hb,he⟩ := t.run_cases c w.db
  · rw [he] at h
    cases h
  · rw [he]
    cases t with
    | prepareSubmit g k =>
      simp only [Txn.reservation,Option.some.injEq] at ht
      subst ht
      exact reserve_raises .submitLimitOrder reserveSubmit (fun _ => rfl) (fun _ => rfl)
        (guarded_ok.mp hb).2
    | prepareCancel g k =>
      simp only [Txn.reservation,Option.some.injEq] at ht
      subst ht
      exact reserve_raises .cancelOrder reserveCancel (fun _ => rfl) (fun _ => rfl)
        (guarded_ok.mp hb).2
    | _ => simp [Txn.reservation] at ht

theorem granted_txn {β : Type} {o : Eff β} {b : β} {call : DriverCallKind × OrderKey}
    (h : o.granted b = some call) : o.driverCall = none := by
  cases o <;> first | rfl | simp [Eff.granted] at h

theorem exec_callCount {β : Type} (o : Eff β) (c : Choice) (w : World)
    (call : DriverCallKind × OrderKey) :
    (exec o c w).2.callCount call.1 call.2 =
      w.callCount call.1 call.2 + if o.driverCall = some call then 1 else 0 := by
  simp only [World.callCount,exec_driverCalls,List.countP_append]
  by_cases hu : o.driverCall = some call
  · simp [hu]
  · rw [if_neg hu]
    refine congrArg (_ + ·) (List.countP_eq_zero.mpr ?_)
    intro logged hlogged
    obtain ⟨other,hother,rfl⟩ := List.mem_map.mp hlogged
    have ho : o.driverCall = some other := Option.mem_toList.mp hother
    intro hsame
    have hsame := of_decide_eq_true hsame
    exact hu (ho.trans (congrArg some (Prod.ext hsame.1 hsame.2)))

theorem reservations_lawful : reservations.Lawful omsMachine where
  mono := exec_raised
  grant := by
    intro β o c w call h
    cases o with
    | txn t =>
      cases hr : (t.run c w.db).1 with
      | error e => simp [reservations,omsMachine,exec,hr,Eff.granted] at h
      | ok a =>
        have ht : t.reservation = some call := by
          simpa [reservations,omsMachine,exec,hr,Eff.granted] using h
        exact reservation_grant ht hr
    | _ => simp [reservations,Eff.granted] at h
  once _ _ _ h := granted_txn h
  count o c w call := exec_callCount o c w call

theorem unused_of_routine {β : Type} (o : Eff β) (h : o.Routine) : reservations.Unused o := by
  cases o with
  | submitLimitOrder intent => exact absurd h id
  | cancelOrder k => exact absurd h id
  | _ => rfl

theorem unused_transition (g : Guard) (k : OrderKey) (req : TransitionRequest) :
    reservations.Unused (.txn (.transitionOrder g k req)) := rfl

theorem assertLeader_inert : assertLeader.All reservations.Inert := by
  refine all_bind all_self fun s => ?_
  split
  · exact all_throw _
  · exact all_bind (all_ask ⟨rfl,fun _ => rfl⟩) fun now => all_call ⟨rfl,fun r => by cases r <;> rfl⟩

theorem durable_inert {α : Type} {t : Guard → Txn α} (h : ∀ g, (t g).reservation = none) :
    (durable t).All reservations.Inert := by
  refine all_bind all_self fun s => all_call ⟨rfl,fun r => ?_⟩
  cases r with
  | ok a => exact h _
  | error e => rfl

/-- A reservation, and then the driver call it entitles to. -/
theorem reserve_then_call {t : Guard → Txn Unit} {o : Eff (Except PyError Unit)}
    {call : DriverCallKind × OrderKey} {f : Except PyError Unit → Oms SubmitResult}
    (ht : ∀ g, (t g).reservation = some call) (ho : o.driverCall = some call)
    (hf : ∀ r, (f r).All reservations.Unused) (s : OmsState)
    (held : Option (DriverCallKind × OrderKey)) :
    reservations.LinOk (durable t >>= fun _ => assertLeader >>= fun _ => caught o >>= f) s held
      (fun _ _ => True) := by
  have hrest : ∀ s, reservations.LinOk (assertLeader >>= fun _ => caught o >>= f) s (some call)
      (fun _ _ => True) := fun s =>
    Permits.LinOk.bind_inert assertLeader_inert fun _ s => Permits.LinOk.bind_use ho hf
  exact Permits.LinOk.bind_grant (o := .txn (t s.guard)) rfl (fun _ => ht _) fun _ s => hrest s

theorem submitDecidedIntent_lin (intent : OrderIntent) (decision : RiskDecision) (s : OmsState)
    (held : Option (DriverCallKind × OrderKey)) :
    reservations.LinOk (submitDecidedIntent intent decision) s held (fun _ _ => True) := by
  refine Permits.LinOk.bind_inert assertLeader_inert fun _ s =>
    Permits.LinOk.bind_inert all_self fun s' s => ?_
  split
  · exact .of_unused (all_throw _) _ _
  · refine Permits.LinOk.bind_inert (durable_inert fun _ => rfl) fun _ s =>
      Permits.LinOk.bind_inert (durable_inert fun _ => rfl) fun status s => ?_
    split
    · exact .of_unused (all_pure _) _ _
    · refine reserve_then_call (fun _ => rfl) rfl (fun r => ?_) s held
      cases r with
      | error e => exact callRaised_holds (.of_routine unused_of_routine) _ _ _
      | ok u =>
        refine all_bind (callReturned_holds (.of_routine unused_of_routine) _ _) fun answer => ?_
        rcases answer with _ | ⟨o,applied⟩
        · exact all_pure _
        · exact all_pure _

theorem cancelOrder_lin (k : OrderKey) (s : OmsState)
    (held : Option (DriverCallKind × OrderKey)) :
    reservations.LinOk (cancelOrder k) s held (fun _ _ => True) := by
  refine Permits.LinOk.bind_inert assertLeader_inert fun _ s =>
    Permits.LinOk.bind_inert all_self fun s' s => ?_
  split
  · exact .of_unused (all_throw _) _ _
  · refine reserve_then_call (fun _ => rfl) rfl (fun r => ?_) s held
    cases r with
    | error e => exact callRaised_holds (.of_routine unused_of_routine) _ _ _
    | ok u =>
      refine all_bind (callReturned_holds (.of_routine unused_of_routine) _ _) fun answer => ?_
      rcases answer with _ | ⟨o,applied⟩
      · exact all_pure _
      · exact all_bind (transitionOrder_any unused_transition _ _) fun _ => all_pure _

theorem perform_lin (op : OmsOp) (s : OmsState) (held : Option (DriverCallKind × OrderKey)) :
    reservations.LinOk op.perform s held (fun _ _ => True) := by
  refine Permits.LinOk.tryCatch ?_ fun _ => all_pure _
  cases op with
  | recover => exact .of_unused (recover_holds (.of_routine unused_of_routine)
      fun k req _ => transitionOrder_any unused_transition k req) _ _
  | submitIntent intent decision =>
    refine Permits.LinOk.seq ?_ fun _ _ _ => trivial
    cases decision with
    | some d => exact submitDecidedIntent_lin intent d s held
    | none =>
      exact Permits.LinOk.bind_inert (all_ask ⟨rfl,fun _ => rfl⟩) fun now s =>
        submitDecidedIntent_lin intent _ s held
  | cancelOrder k => exact Permits.LinOk.seq (cancelOrder_lin k s held) fun _ _ _ => trivial
  | ingestBrokerEvidence e =>
    exact .of_unused (all_bind (ingestBrokerEvidence_holds (.of_routine unused_of_routine) e) fun _ => all_pure _) _ _
  | ingestCommandResult identity =>
    exact .of_unused (all_bind (ingestCommandResult_holds (.of_routine unused_of_routine) identity)
      fun _ => all_pure _) _ _
  | registerDurableSubmit row allow =>
    have hroutine : ∀ g, (Txn.registerDurableSubmit g row allow).Routine := fun _ => trivial
    exact .of_unused (all_bind ((OmsClosed.of_routine unused_of_routine).durable (fun _ => rfl) hroutine) fun _ => all_pure _) _ _
  | heartbeat => exact .of_unused (omsHeartbeat_all unused_of_routine) _ _
  | close => exact .of_unused (omsClose_all unused_of_routine) _ _

theorem omsProcess_lin (secs : Nat) (ops : List OmsOp) :
    reservations.Lin (fun _ _ => True) (omsProcess secs ops) none := by
  refine Permits.Lin.bind ((Permits.Lin.of_unused (constructOms_all unused_of_routine secs ()) none).mono ?_)
  intro held r _
  obtain ⟨r,u⟩ := r
  cases r with
  | error e => trivial
  | ok s =>
    exact Permits.Lin.bind ((Permits.LinOk.each perform_lin ops s held).mono fun _ _ _ => trivial)

/-- In every run of any number of OMS processes, each order is submitted at most
once and cancelled at most once, and only with its reservation committed. -/
theorem driver_calls_at_most_once {ms : List (Move Choice (Nat × List OmsOp))}
    {t : Sys Eff World} (h : omsMachine.run (Machine.boots World.initial) ms = some t) :
    (∀ kind k, t.world.callCount kind k ≤ 1) ∧
      ∀ call ∈ t.world.driverCalls, call.reserved = true := by
  have hsound := reservations_lawful.sound (fun _ req _ => omsProcess_lin req.1 req.2)
    (fun w => ∀ call ∈ w.driverCalls, call.reserved = true) ?_ (by simp [World.initial])
    (fun _ => rfl) (Machine.Reach.of_run omsMachine h)
  · obtain ⟨hreserved,held,hheld⟩ := hsound
    exact ⟨fun kind k => (hheld.count (kind,k)).1,hreserved⟩
  · intro β o c w huse hw call hcall
    change call ∈ (exec o c w).2.driverCalls at hcall
    rw [exec_driverCalls,List.mem_append] at hcall
    obtain hold | hnew := hcall
    · exact hw call hold
    · obtain ⟨made,hmade,rfl⟩ := List.mem_map.mp hnew
      exact (huse made (Option.mem_toList.mp hmade)).1

/-- The first process dies right after its driver call; a second one takes the
lease over, reconciles and tries the same order again. -/
def takeoverRun : List (Move Choice (Nat × List OmsOp)) :=
  .start 0 (30,[.recover,.submitIntent sampleIntent none]) ::
    List.replicate 22 (.step 0 {}) ++
  .crash 0 :: .start 1 (30,[.recover,.submitIntent sampleIntent none]) ::
    List.replicate 27 (.step 1 { now := 40000000, uuid := "second" })

theorem driver_calls_takeover : ∃ t,
    omsMachine.run (Machine.boots World.initial) takeoverRun = some t ∧
      t.world.driverCalls = [⟨.submitLimitOrder,sampleIntent.key,true⟩] ∧
      (∀ kind k, t.world.callCount kind k ≤ 1) ∧
      ∀ call ∈ t.world.driverCalls, call.reserved = true := by
  have hrun : (omsMachine.run (Machine.boots World.initial) takeoverRun).map
      (fun t => t.world.driverCalls) = some [⟨.submitLimitOrder,sampleIntent.key,true⟩] := by
    decide +kernel
  obtain ⟨t,ht,hcalls⟩ := Option.map_eq_some_iff.mp hrun
  exact ⟨t,ht,hcalls,driver_calls_at_most_once ht⟩

end BigQmt
