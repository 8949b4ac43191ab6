import BigQmt.BrokerAuthority
set_option autoImplicit false

/-!
The plans of the reservations in every run of runtimes and Bridges, and how many broker
calls an order gets from one Host and one Bridge.
-/

namespace BigQmt

open Resumption

/-- A request of a runtime or of a Bridge: it makes a transaction of the runtime or none. -/
def Eff.planned {β : Type} (o : Eff β) : Prop := o.hosted ∨ o.transacts = false

theorem exec_plan_step {β : Type} {o : Eff β} (ho : o.planned) (c : Choice) (w : World) :
    ∃ change, PlanStep w.db (exec o c w).2.db change := by
  obtain hdb | ⟨α,t,hP,hdb⟩ := exec_db o c w
  · exact ⟨none,.same (congrArg Db.plans hdb)⟩
  · have ht : t.hosted := by
      rcases hP (fun o => o.planned) ho with hhosted | hsilent
      · exact hhosted
      · cases hsilent
    rw [hdb]
    obtain ⟨e,he⟩ | ⟨a,db',hb,he⟩ := t.run_cases c w.db
    · rw [he]
      exact ⟨none,.same rfl⟩
    · rw [he]
      exact ⟨t.advances,Txn.plan_step ht hb⟩

theorem simulatorProcesses_planned {pid : Nat} {start : Start}
    (h : simulatorProcesses pid start = true) : start.boot.All (fun o => o.planned) := by
  cases start with
  | runtime inst ops =>
    exact Runtime.process_all (fun _ ho => .inl ho) (fun _ _ _ _ => .inr rfl) inst ops
  | bridge account ticks =>
    exact Bridge.process_all (fun _ ho => .inr (Eff.silent_of_forward ho)) account ticks
  | _ => cases h

section runs
variable {ms before after : List (Move Choice Start)} {s t : Sys Eff World}

theorem simulator_plans
    (h : (system simulatorProcesses).run (Machine.boots World.initial) ms = some t) :
    Plans t.world.db := by
  refine Machine.Reach.invariant_of_all (system simulatorProcesses) (fun o => o.planned)
    (fun w => Plans w.db) (fun _ _ hallowed => simulatorProcesses_planned hallowed)
    (fun o c w ho hp => ?_) (Machine.Reach.of_run _ h) Plans.empty
  obtain ⟨change,hstep⟩ := exec_plan_step ho c w
  exact hp.step hstep

theorem simulator_meets
    (h : (system simulatorProcesses).run (Machine.boots World.initial) ms = some t) :
    authorityRules.Meets t :=
  Machine.Reach.rules authorityRules (fun _ _ _ => rfl) (fun _ _ _ _ _ hguar => hguar)
    (fun _ _ hallowed _ hi => simulatorProcesses_boot hallowed hi) (w := World.initial)
    Traced.initial ((Machine.Reach.of_run _ h).mono _ fun _ _ _ h => h)

theorem simulator_later
    (hs : (system simulatorProcesses).run (Machine.boots World.initial) before = some s)
    (ht : (system simulatorProcesses).run s after = some t) : Later s.world.db t.world.db :=
  Machine.Reach.guaranteed authorityRules (fun _ _ _ => rfl) (fun _ _ _ _ _ hguar => hguar)
    (fun _ _ hallowed _ hi => simulatorProcesses_boot hallowed hi)
    (G := fun w w' => Later w.db w'.db) (fun w => Later.refl w.db) (fun _ _ _ => Later.trans)
    (fun _ _ _ hguar => hguar) (simulator_meets hs)
    ((Machine.Reach.of_run _ ht).mono _ fun _ _ _ h => h)

/-- The only plan for its order and its kind of command. -/
structure Dispatch.Sole (db : Db) (d : Dispatch) : Prop where
  mem : d ∈ db.dispatches
  only : ∀ e ∈ db.dispatches, e.key = d.key → e.commandType = d.commandType → e = d

theorem Plans.sole {db : Db} (hp : Plans db) {d : Dispatch} (hd : d ∈ db.dispatches) :
    d.Sole db :=
  ⟨hd,fun _ he hkey hkind => List.inj_on_of_nodup_map hp.orders he hd (Prod.ext hkey hkind)⟩

/-- In every run of any runtimes and any Bridges, crashed anywhere and started again: the
reservation of a call has one plan, which carries the command for the call that was
reserved. Later this row is still the only one; nothing of it but its state has changed,
and its state has not gone back to `PLANNED`. -/
theorem reservations_keep_their_plans
    (hs : (system simulatorProcesses).run (Machine.boots World.initial) before = some s)
    (ht : (system simulatorProcesses).run s after = some t) {ev : OrderEvent}
    (hev : ev ∈ s.world.db.orderEvents) (hreserves : ev.reserves = true) :
    ∃ (d d' : Dispatch) (c : QmtCommand), d.key = ev.key ∧ d.commandType = ev.commandType ∧
      d.Sole s.world.db ∧ d.Carries s.world.db c ∧
      d'.Sole t.world.db ∧ d'.Carries t.world.db c ∧ d.Kept d' := by
  have hplans := simulator_plans hs
  have hlater := simulator_later hs ht
  have hrun : (system simulatorProcesses).run (Machine.boots World.initial) (before ++ after) =
      some t := by
    rw [Machine.run_append,hs]
    exact ht
  obtain ⟨d,hd,hkey,hkind⟩ := hplans.reserved ev (List.mem_filter.mpr ⟨hev,hreserves⟩)
  obtain ⟨c,hc⟩ := (simulator_meets hs).inv.plans d hd
  obtain ⟨d',hd',hkept⟩ := hlater.rows d hd
  exact ⟨d,d',c,hkey,hkind,hplans.sole hd,hc,(simulator_plans hrun).sole hd',
    hkept.carries hlater hc,hkept⟩

end runs

/-- The order is submitted by the Bridge after its reservation. -/
theorem reservations_keep_their_plans_submitted : ∃ s t,
    (system simulatorProcesses).run (Machine.boots World.initial)
      (.start 0 (.runtime sampleInstance [.executeIntent datedIntent]) ::
        List.replicate 44 (.step 0 { now := 2000000, uuid := "t" })) = some s ∧
      (system simulatorProcesses).run s (bridgeTurn 7) = some t ∧
      ∃ ev ∈ s.world.db.orderEvents, ∃ (d d' : Dispatch) (c : QmtCommand), d.key = ev.key ∧
        d.Sole s.world.db ∧ d'.Sole t.world.db ∧ d'.Carries t.world.db c ∧ d.Kept d' := by
  obtain ⟨s,t,-,hs,hevents,ht,-⟩ := intent_carried_out
  replace hs := simulatorHost_run hs
  rw [plannedIntent] at hs
  replace ht := simulatorHost_run ht
  obtain ⟨ev,hev,hreserves⟩ := List.any_eq_true.mp hevents
  obtain ⟨d,d',c,hkey,-,hsole,-,hsole',hcarries,hkept⟩ :=
    reservations_keep_their_plans hs ht hev hreserves
  exact ⟨s,t,hs,ht,ev,hev,d,d',c,hkey,hsole,hsole',hcarries,hkept⟩

theorem simulatorHost_oneHost {pid : Nat} {start : Start} (h : simulatorHost pid start = true) :
    oneHost pid start = true := by
  cases start with
  | runtime inst ops => exact h
  | bridge account ticks => exact h
  | _ => cases h

/-- The broker calls made for plans of this order and this kind. -/
def World.orderCalls (w : World) (k : OrderKey) (kind : QmtCommandType) : Nat :=
  w.brokerCalls.countP fun call =>
    w.db.dispatches.any fun d => d.commandId = call.commandId && d.key = k && d.commandType = kind

/-- Plans have different orders or kinds: those for one order and kind are one command. -/
theorem orderCalls_le {w : World} (hp : Plans w.db) {d : Dispatch} (hd : d ∈ w.db.dispatches) :
    w.orderCalls d.key d.commandType ≤ w.callsOf d.commandId := by
  refine List.countP_mono_left fun call _ hcall => ?_
  obtain ⟨e,he,hsame⟩ := List.any_eq_true.mp hcall
  simp only [Bool.and_eq_true,decide_eq_true_eq] at hsame
  obtain ⟨⟨hid,hkey⟩,hkind⟩ := hsame
  have heq : e = d := (hp.sole hd).only e he hkey hkind
  simp [← hid,heq]

theorem orderCalls_pos {w : World} {d : Dispatch} {call : BrokerCall} (hd : d ∈ w.db.dispatches)
    (hcall : call ∈ w.brokerCalls) (hcovers : d.Covers w.db call) :
    0 < w.orderCalls d.key d.commandType := by
  refine List.countP_pos_iff.mpr ⟨call,hcall,List.any_eq_true.mpr ⟨d,hd,?_⟩⟩
  simp [hcovers.id]

/-- In every run of one Host and one Bridge, crashed anywhere and started again: no order
gets more than one broker call of a kind, and every broker call is the one of a plan. -/
theorem orders_called_once {ms : List (Move Choice Start)} {t : Sys Eff World}
    (h : (system simulatorHost).run (Machine.boots World.initial) ms = some t) :
    (∀ k kind, t.world.orderCalls k kind ≤ 1) ∧
      ∀ call ∈ t.world.brokerCalls, ∃ d ∈ t.world.db.dispatches, d.Covers t.world.db call ∧
        t.world.orderCalls d.key d.commandType = 1 := by
  have hrun := Machine.run_allows (system simulatorHost)
    (fun _ _ hallowed => simulatorHost_processes hallowed) h
  have hone := Machine.run_allows (system simulatorHost)
    (fun _ _ hallowed => simulatorHost_oneHost hallowed) h
  have hplans := simulator_plans hrun
  have honce : ∀ k kind, t.world.orderCalls k kind ≤ 1 := by
    intro k kind
    by_cases hd : ∃ d ∈ t.world.db.dispatches, d.key = k ∧ d.commandType = kind
    · obtain ⟨d,hd,rfl,rfl⟩ := hd
      have hcalls := (lived_of_reach ((oneHost_meets hone).inv.lives d.commandId) .absent).once
      have hle := orderCalls_le hplans hd
      exact hle.trans hcalls
    · have hnone : t.world.orderCalls k kind = 0 := by
        refine List.countP_eq_zero.mpr fun call _ hcall => hd ?_
        obtain ⟨d,hmem,hsame⟩ := List.any_eq_true.mp hcall
        simp only [Bool.and_eq_true,decide_eq_true_eq] at hsame
        exact ⟨d,hmem,hsame.1.2,hsame.2⟩
      omega
  refine ⟨honce,fun call hcall => ?_⟩
  obtain ⟨d,hd,hcovers⟩ := ((simulator_traced hrun).calls call hcall).planned
  have hpos := orderCalls_pos hd hcall hcovers
  have hle := honce d.key d.commandType
  exact ⟨d,hd,hcovers,by omega⟩

/-- The Host executes an intent again after the Bridge has submitted its order. -/
def repeatedIntent : List (Move Choice Start) := oneIntent ++ intentAgain

theorem orders_called_once_repeated : ∃ t,
    (system simulatorHost).run (Machine.boots World.initial) repeatedIntent = some t ∧
      t.world.brokerCalls.length = 1 ∧ ∀ k kind, t.world.orderCalls k kind ≤ 1 := by
  obtain ⟨s,t,u,hs,-,ht,-,hu,hlength⟩ := intent_carried_out
  have hrun : (system simulatorHost).run (Machine.boots World.initial) repeatedIntent = some u := by
    rw [repeatedIntent,oneIntent_split,Machine.run_append,Machine.run_append,hs,Option.bind_some,ht,
      Option.bind_some,hu]
  exact ⟨u,hrun,hlength,(orders_called_once hrun).1⟩

end BigQmt
