import BigQmt.OmsPrograms
import BigQmt.RuntimePrograms
set_option autoImplicit false

/-!
The processes without a database connection: the Bridge and a publishing Host
make no transaction. With the OMS methods, what every request of a process is.
-/

namespace BigQmt

open Resumption Proc

/-- A request to the database that may write. -/
def Eff.transacts : {β : Type} → Eff β → Bool
  | _,.txn _ => true
  | _,_ => false

theorem exec_silent {β : Type} {o : Eff β} (ho : o.transacts = false) (c : Choice) (w : World) :
    (exec o c w).2.db = w.db := by
  obtain hdb | ⟨α,t,hP,-⟩ := exec_db o c w
  · exact hdb
  · have hno : (Eff.txn t).transacts = false := hP (fun o => o.transacts = false) ho
    cases hno

/-- A request that leaves the database alone and takes files to later directories only. -/
def Eff.forward : {β : Type} → Eff β → Bool
  | _,.txn _ => false
  | _,.renameTemp _ _ _ _ => false
  | _,.move source target _ => source.rank < target.rank
  | _,_ => true

theorem Eff.silent_of_forward {β : Type} {o : Eff β} (h : o.forward = true) :
    o.transacts = false := by
  cases o with
  | txn t => cases h
  | _ => rfl

theorem Bridge.attempt_all {P : {β : Type} → Eff β → Prop} {α : Type} {x : Bridge α}
    (hx : x.All P) : (attempt x).All P :=
  all_tryCatch (all_bind hx fun _ => all_pure _) fun _ => all_pure _

namespace Bridge

section
variable {P : {β : Type} → Eff β → Prop} (hP : ∀ {β : Type} (o : Eff β), o.forward = true → P o)
include hP

theorem executeSubmit_all (command : Command) (checkedMs : Int) :
    (executeSubmit command checkedMs).All P := by
  refine all_bind all_self fun s => ?_
  dsimp only
  split
  · exact all_throw _
  · split
    · exact all_throw _
    · split
      · exact all_throw _
      · split
        · exact all_throw _
        · split
          · exact all_throw _
          · split
            · exact all_throw _
            · exact all_bind (all_call (hP _ rfl)) fun _ => all_bind (all_update _) fun _ =>
                all_pure _

theorem cancelTarget_all (command : Command) : (cancelTarget command).All P := by
  refine all_bind (all_call (hP _ rfl)) fun rows => ?_
  cases rows with
  | none => exact all_throw _
  | some rows =>
    dsimp only
    split
    · exact all_throw _
    · exact all_pure _

theorem executeCancel_all (command : Command) (checkedMs : Int) :
    (executeCancel command checkedMs).All P := by
  refine all_bind all_self fun s => ?_
  split
  · exact all_throw _
  · refine all_bind (cancelTarget_all hP command) fun _ =>
      all_bind (all_call (hP _ rfl)) fun cancellable => ?_
    split
    · exact all_pure _
    · exact all_bind (all_call (hP _ rfl)) fun _ => all_bind (all_update _) fun _ => all_pure _

theorem executeOrderCommand_all (command : Command) (checkedMs : Int) :
    (executeOrderCommand command checkedMs).All P := by
  refine all_bind all_self fun s => ?_
  split
  · exact all_throw _
  · split
    · exact all_throw _
    · split
      · exact executeSubmit_all hP command checkedMs
      · exact executeCancel_all hP command checkedMs
      · exact all_throw _

theorem readClaimed_all (name : String) : (readClaimed name).All P :=
  all_bind all_self fun _ => all_bind (all_call (hP _ rfl)) fun _ => all_ofExcept _

theorem commandResult_all (command : Command) (status : String) (live : Bool) :
    (commandResult command status live).All P := all_call (hP _ rfl)

theorem finish_all (command : Command) (name : String) {target : SpoolDir} (status : String)
    (live : Bool) (ht : SpoolDir.claimed.rank < target.rank) :
    (finish command name target status live).All P :=
  all_bind (all_call (hP _ (decide_eq_true ht))) fun _ => commandResult_all hP command status live

theorem rejectClaimed_all (name : String) : (rejectClaimed name).All P := by
  refine all_bind (all_ask (hP _ rfl)) fun present => ?_
  split
  · exact all_call (hP _ rfl)
  · exact all_pure _

theorem processSnapshotRequest_all (command : Command) (name : String) :
    (processSnapshotRequest command name).All P := by
  refine all_bind (attempt_all (all_call (hP _ rfl))) fun outcome => ?_
  cases outcome with
  | error e => exact all_call (hP _ rfl)
  | ok u => exact finish_all hP _ _ _ _ (by decide)

theorem processOrderCommand_all (command : Command) (name : String) (checkedMs : Int) :
    (processOrderCommand command name checkedMs).All P := by
  refine all_bind (attempt_all (executeOrderCommand_all hP command checkedMs)) fun outcome => ?_
  cases outcome with
  | ok result => exact finish_all hP _ _ _ _ (by decide)
  | error e =>
    dsimp only
    split
    · exact finish_all hP _ _ _ _ (by decide)
    · exact finish_all hP _ _ _ _ (by decide)

theorem processClaimed_all (name : String) : (processClaimed name).All P := by
  refine all_bind (attempt_all (readClaimed_all hP name)) fun decoded => ?_
  cases decoded with
  | error e => exact rejectClaimed_all hP name
  | ok command =>
    refine all_bind (all_bind (all_ask (hP _ rfl)) fun _ => all_pure _) fun nowMs => ?_
    split
    · exact finish_all hP _ _ _ _ (by decide)
    · split
      · exact processSnapshotRequest_all hP command name
      · exact processOrderCommand_all hP command name nowMs

theorem abandon_all (name : String) : (abandon name).All P := by
  refine all_bind (all_ask (hP _ rfl)) fun present => ?_
  split
  · exact all_bind (attempt_all (all_call (hP _ rfl))) fun _ => all_pure _
  · exact all_pure _

theorem recoverOrphan_all (name : String) : (recoverOrphan name).All P := by
  refine all_tryCatch (all_bind (readClaimed_all hP name) fun command =>
    all_bind (all_call (hP _ rfl)) fun _ => ?_) fun _ => abandon_all hP name
  split
  · exact commandResult_all hP _ _ _
  · exact commandResult_all hP _ _ _

theorem recoverOrphanedClaims_all : recoverOrphanedClaims.All P := by
  refine all_bind all_self fun s => ?_
  split
  · exact all_pure _
  · refine all_bind (all_update _) fun _ =>
      all_bind (attempt_all (all_call (hP _ rfl))) fun names => ?_
    cases names with
    | error e => exact all_pure _
    | ok names => exact all_each (recoverOrphan_all hP) names

theorem claim_all (name : String) : (claim name).All P := by
  refine all_tryCatch (all_bind (all_ask (hP _ rfl)) fun taken => ?_) fun _ => abandon_all hP name
  split
  · exact all_pure _
  · exact all_bind (all_call (hP _ rfl)) fun _ => processClaimed_all hP name

theorem drainCommandInbox_all : drainCommandInbox.All P := by
  refine all_bind (recoverOrphanedClaims_all hP) fun _ =>
    all_bind (attempt_all (all_call (hP _ rfl))) fun names => ?_
  cases names with
  | error e => exact all_pure _
  | ok names => exact all_each (claim_all hP) _

theorem process_all (account : Account) (ticks : Nat) : (process account ticks).All P := by
  refine ⟨hP _ rfl,fun sessionId => ?_⟩
  split
  · exact Prog.All.bind (all_each (fun _ => drainCommandInbox_all hP) _ _) fun _ => trivial
  · trivial

end
end Bridge

section
variable {P : {β : Type} → Eff β → Prop} (hP : ∀ {β : Type} (o : Eff β), o.transacts = false → P o)
include hP

theorem findExisting_all {σ : Type} (commandId : String) (dirs : List SpoolDir) :
    (findExisting commandId dirs : Proc Eff PyError σ _).All P := by
  induction dirs with
  | nil => exact all_pure _
  | cons dir dirs ih =>
    refine all_bind (all_ask (hP _ rfl)) fun found => ?_
    split
    · exact all_pure _
    · exact ih

theorem publish_all {σ : Type} (command : QmtCommand) :
    (publish command : Proc Eff PyError σ _).All P := by
  refine all_bind (all_ofExcept _) fun raw =>
    all_bind (all_bind (all_ask (hP _ rfl)) fun _ => all_pure _) fun nowMs => ?_
  split
  · exact all_throw _
  · refine all_bind (findExisting_all hP _ _) fun existing => ?_
    cases existing with
    | some dir =>
      refine all_bind (all_call (hP _ rfl)) fun content => ?_
      split
      · exact all_pure _
      · exact all_throw _
    | none => exact all_bind (all_call (hP _ rfl)) fun _ => all_call (hP _ rfl)

theorem publishAll_all (commands : List QmtCommand) : (publishAll commands).All P :=
  Prog.All.bind (all_each (fun c => all_tryCatch (publish_all hP c) fun _ => all_pure _) _ _)
    fun _ => trivial

end

/-- No transition of the command path claims a fill. -/
def Txn.fillless : {α : Type} → Txn α → Prop
  | _,.transitionOrder _ _ req => req.filledQuantity = none
  | _,_ => True

def Eff.fillless : {β : Type} → Eff β → Prop
  | _,.txn t => t.fillless
  | _,_ => True

theorem Eff.fillless_of_routine {β : Type} (o : Eff β) (h : o.Routine) : o.fillless := by
  cases o with
  | txn t =>
    cases t with
    | transitionOrder g k req => exact h.1
    | _ => trivial
  | _ => trivial

theorem Eff.fillless_of_silent {β : Type} (o : Eff β) (h : o.transacts = false) : o.fillless := by
  cases o with
  | txn t => cases h
  | _ => trivial

/-- No process of the system makes any other request. -/
theorem boot_fillless (start : Start) : start.boot.All Eff.fillless := by
  cases start with
  | oms secs ops =>
    have homs : OmsClosed (fun x => x.All Eff.fillless) := .of_routine Eff.fillless_of_routine
    have hperform := perform_holds homs
      (fun k req hreq => all_bind all_self fun _ => all_call hreq)
      (fun _ => all_ask trivial) (fun _ => all_ask trivial)
    refine Prog.All.bind (constructOms_all Eff.fillless_of_routine secs ()) fun r => ?_
    rcases r with ⟨e | s,u⟩
    · trivial
    · exact Prog.All.bind (homs.each hperform ops s) fun _ => trivial
  | runtime inst ops =>
    exact Runtime.process_all (fun o h => Eff.fillless_of_routine o (Eff.routine_of_hosted h))
      (fun _ _ _ _ => trivial) inst ops
  | publisher commands => exact publishAll_all Eff.fillless_of_silent commands
  | bridge account ticks =>
    exact Bridge.process_all (fun o h => Eff.fillless_of_silent o (Eff.silent_of_forward h)) account ticks

/-- What every transaction without such a claim keeps of a well-formed database holds in
every state that any processes can reach. -/
theorem reach_keeps {J : Db → Prop} {allows : Nat → Start → Bool}
    (htxn : ∀ {α : Type} {t : Txn α} {now : Nat} {a : α} {db db' : Db}, t.fillless →
      t.body now db = .ok (a,db') → db.Wf → J db → J db')
    {ms : List (Move Choice Start)} {t : Sys Eff World}
    (h : (system allows).run (Machine.boots World.initial) ms = some t) (hempty : J Db.empty) :
    t.world.db.Wf ∧ J t.world.db := by
  refine Machine.Reach.invariant_of_all (system allows) Eff.fillless (fun w => w.db.Wf ∧ J w.db)
    (fun _ req _ => boot_fillless req) ?_ (Machine.Reach.of_run _ h) ⟨Db.Wf.empty,hempty⟩
  intro β o c w ho hw
  change (exec o c w).2.db.Wf ∧ J (exec o c w).2.db
  refine ⟨(exec_evolves o c w).wf hw.1,?_⟩
  obtain hdb | ⟨α,t,hP,hdb⟩ := exec_db o c w
  · rw [hdb]
    exact hw.2
  · obtain ⟨e,he⟩ | ⟨a,db',hb,he⟩ := t.run_cases c w.db
    · rw [hdb,he]
      exact hw.2
    · rw [hdb,he]
      exact htxn (hP Eff.fillless ho) hb hw.1 hw.2

end BigQmt
