import BigQmt.Bridge
import BigQmt.Lifecycle
import BigQmt.Runtime
import BigQmt.Service
set_option autoImplicit false

/-!
The processes of the system on one database and one command spool, and what an
order can go through in any run of them.
-/

namespace BigQmt

open Resumption Proc

/-- What can be started: an `OfflineOms`, a `GuojinSimOmsRuntime`, a Host that
publishes commands, or the Bridge. -/
inductive Start where
  | oms (leaseSeconds : Nat) (ops : List OmsOp)
  | runtime (inst : QmtInstance) (ops : List Runtime.Op)
  | publisher (commands : List QmtCommand)
  | bridge (account : Bridge.Account) (ticks : Nat)

/-- `publish` of one command after the other, by a caller that survives its
exceptions. -/
def publishAll (commands : List QmtCommand) : Prog Eff Unit :=
  (each (fun c : QmtCommand => (tryCatch (publish c) (fun _ => pure ()) :
    Proc Eff PyError Unit Unit)) commands ()).bind (fun _ => .pure ())

def Start.boot : Start → Prog Eff Unit
  | .oms secs ops => omsProcess secs ops
  | .runtime inst ops => Runtime.process inst ops
  | .publisher commands => publishAll commands
  | .bridge account ticks => Bridge.process account ticks

/-- The system in which a slot may run the processes that `allows` admits. -/
def system (allows : Nat → Start → Bool) : Machine Eff Choice World Start where
  exec := exec
  boot := Start.boot
  allows := allows

/-- Only a transaction changes the database; what holds of the effect holds of it. -/
theorem exec_db {β : Type} (o : Eff β) (c : Choice) (w : World) :
    (exec o c w).2.db = w.db ∨
      ∃ (α : Type) (t : Txn α), (∀ P : {γ : Type} → Eff γ → Prop, P o → P (.txn t)) ∧
        (exec o c w).2.db = (t.run c w.db).2 := by
  cases o with
  | txn t => exact .inr ⟨_,t,fun _ h => h,rfl⟩
  | readFile dir name => cases h : w.spool.lookup dir name <;> simp [exec,h]
  | renameTemp id raw e n => cases h : c.fault <;> simp [exec,h,World.rename]
  | move a b n =>
    cases h : c.fault with
    | some e => simp [exec,h]
    | none => cases hm : w.spool.move a b n <;> simp [exec,h,hm]
  | _ => exact .inl rfl

/-- The database stays, or a transaction commits. -/
theorem exec_commits {β : Type} (o : Eff β) (c : Choice) (w : World) :
    (exec o c w).2.db = w.db ∨
      ∃ (α : Type) (t : Txn α) (a : α), t.body c.now w.db = .ok (a,(exec o c w).2.db) := by
  obtain hdb | ⟨α,t,-,hdb⟩ := exec_db o c w
  · exact .inl hdb
  · obtain ⟨e,he⟩ | ⟨a,db',hb,he⟩ := t.run_cases c w.db
    · rw [hdb,he]
      exact .inl rfl
    · rw [hdb,he]
      exact .inr ⟨α,t,a,hb⟩

theorem exec_evolves {β : Type} (o : Eff β) (c : Choice) (w : World) :
    Evolves (fun _ _ => True) w.db (exec o c w).2.db := by
  obtain hdb | ⟨α,t,-,hdb⟩ := exec_db o c w
  · rw [hdb]
    exact .refl
  · rw [hdb]
    exact (t.run_evolves c w.db).mono fun _ _ _ => trivial

section runs
variable {M : Machine Eff Choice World Start} (hM : ∀ {β : Type} (o : Eff β) c w,
  M.exec o c w = exec o c w)
include hM

theorem reach_wf {cond : Cond Eff Choice World} {s t : Sys Eff World} (h : M.Reach cond s t)
    (hs : s.world.db.Wf) : t.world.db.Wf := by
  refine Machine.Reach.invariant M (fun w => w.db.Wf) ?_ h hs
  intro β o c w _ hw
  rw [hM]
  exact (exec_evolves o c w).wf hw

theorem reach_evolves {cond : Cond Eff Choice World} {s t : Sys Eff World} (h : M.Reach cond s t) :
    Evolves (fun _ _ => True) s.world.db t.world.db := by
  refine Machine.Reach.related M (fun w w' => Evolves (fun _ _ => True) w.db w'.db)
    (fun _ => .refl) (fun _ _ _ h₁ h₂ => h₁.trans h₂) ?_ h
  intro β o c w _
  rw [hM]
  exact exec_evolves o c w

end runs

section
variable {allows : Nat → Start → Bool} {s t : Sys Eff World} {ms : List (Move Choice Start)}

/-- A relation along which every transaction moves relates the databases of a run. -/
theorem run_moves {G : Db → Db → Prop} [IsPreorder Db G]
    (htxn : ∀ {α : Type} {t : Txn α} {now : Nat} {a : α} {db db' : Db},
      t.body now db = .ok (a,db') → G db db')
    (h : (system allows).run s ms = some t) : G s.world.db t.world.db := by
  refine Machine.Reach.related (system allows) (fun w w' => G w.db w'.db) (fun w => refl_of G w.db)
    (fun _ _ _ h₁ h₂ => trans_of G h₁ h₂) ?_ (Machine.Reach.of_run _ h)
  intro β o c w _
  change G w.db (exec o c w).2.db
  obtain hdb | ⟨α,t,a,hb⟩ := exec_commits o c w
  · rw [hdb]
    exact refl_of G w.db
  · exact htxn hb

/-- What every transaction keeps of a well-formed database holds throughout a run. -/
theorem run_keeps {J : Db → Prop}
    (htxn : ∀ {α : Type} {t : Txn α} {now : Nat} {a : α} {db db' : Db},
      t.body now db = .ok (a,db') → db.Wf → J db → J db')
    (h : (system allows).run s ms = some t) (hw : s.world.db.Wf) (hs : J s.world.db) :
    t.world.db.Wf ∧ J t.world.db := by
  refine Machine.Reach.invariant (system allows) (fun w => w.db.Wf ∧ J w.db) ?_
    (Machine.Reach.of_run _ h) ⟨hw,hs⟩
  intro β o c w _ hw
  change (exec o c w).2.db.Wf ∧ J (exec o c w).2.db
  refine ⟨(exec_evolves o c w).wf hw.1,?_⟩
  obtain hdb | ⟨α,t,a,hb⟩ := exec_commits o c w
  · rw [hdb]
    exact hw.2
  · exact htxn hb hw.1 hw.2

end

/-- In every run of any processes, an order in one of the broker's terminal
statuses stays there or goes to `MANUAL_REVIEW`, which is never left; its fill
never shrinks and its broker id never changes. -/
theorem order_facts_monotone {before after : List (Move Choice Start)} {s t : Sys Eff World}
    (hs : (system fun _ _ => true).run (Machine.boots World.initial) before = some s)
    (ht : (system fun _ _ => true).run s after = some t) {k : OrderKey} {r : BrokerOrder}
    (hr : s.world.db.order? k = some r) :
    ∃ r', t.world.db.order? k = some r' ∧
      (r.status ∈ [.filled,.cancelled,.rejected] →
        r'.status = r.status ∨ r'.status = .manualReview) ∧
      (r.status = .manualReview → r'.status = .manualReview) ∧
      r.filledQuantity ≤ r'.filledQuantity ∧
      ∀ b, r.brokerOrderId = some b → r'.brokerOrderId = some b := by
  have hwf : s.world.db.Wf :=
    reach_wf (fun _ _ _ => rfl) (Machine.Reach.of_run _ hs) Db.Wf.empty
  have hev := reach_evolves (fun _ _ _ => rfl) (Machine.Reach.of_run _ ht)
  obtain ⟨r',hr',hadv⟩ := hev.advances hwf hr
  refine ⟨r',hr',fun hterm => hadv.terminal ?_,hadv.review,hadv.filled,hadv.brokerId⟩
  cases hst : r.status <;> simp_all [OrderStatus.brokerTerminal]

/-- A process submits the order and its full fill is reported; then a cancellation
is reported as well. -/
def filledRun : List (Move Choice Start) :=
  .start 0 (.oms 30 [.recover,.submitIntent sampleIntent none,.ingestBrokerEvidence sampleFill,
    .ingestBrokerEvidence sampleCancel]) :: List.replicate 32 (.step 0 {})

def sampleGuard : Guard := ⟨"OMS instance",false,⟨"","",1,30000000⟩⟩

def filledOrder : BrokerOrder := ⟨sampleIntent.key,.filled,some "b-1",100,true,false,false⟩

theorem order_facts_filled_then_review : ∃ s t,
    (system fun _ _ => true).run (Machine.boots World.initial) filledRun = some s ∧
    (system fun _ _ => true).run s [.step 0 {}] = some t ∧
    s.world.db.order? sampleIntent.key = some filledOrder ∧
    ∃ r', t.world.db.order? sampleIntent.key = some r' ∧
      (r'.status = .filled ∨ r'.status = .manualReview) ∧ (100 : Int) ≤ r'.filledQuantity ∧
      r'.brokerOrderId = some "b-1" := by
  have hs : ((system fun _ _ => true).run (Machine.boots World.initial) filledRun).map
      (fun s => s.world.db.order? sampleIntent.key) = some (some filledOrder) := by
    decide +kernel
  have ht : ((system fun _ _ => true).run (Machine.boots World.initial)
      (filledRun ++ [.step 0 {}])).isSome = true := by decide +kernel
  obtain ⟨s,hs,hr⟩ := Option.map_eq_some_iff.mp hs
  rw [Machine.run_append,hs,Option.bind_some] at ht
  obtain ⟨t,ht⟩ := Option.isSome_iff_exists.mp ht
  obtain ⟨r',hr',hterm,-,hfill,hid⟩ := order_facts_monotone hs ht hr
  exact ⟨s,t,hs,ht,hr,r',hr',hterm (by decide),hfill,hid _ rfl⟩

end BigQmt
