import BigQmt.BridgePrograms
import BigQmt.DispatchPlans
import BigQmt.ResultEffects
set_option autoImplicit false

/-!
A dispatch under review stays under review, as long as nothing is observed of its
command: `recover_dispatches` leaves the row out, but the retry of `execute_intent` and
the observation of a command result do not look at its state.
-/

namespace BigQmt

open Resumption Proc Keyed

def Db.reviewed (db : Db) (commandId : String) : Bool :=
  (db.dispatch? commandId).any (fun d => d.dispatchState = .manualReview)

/-- The statuses that `_observe_command_result_dispatch` takes a dispatch on for. -/
def CommandResult.settles (r : CommandResult) : Bool :=
  r.resultStatus ∈ [.simulationMutationUnknown,.simulationOrphanedUnknown,.rejectedExpired]

/-- The journal takes no result that settles a dispatch under review. -/
def Txn.calm : {α : Type} → Txn α → Choice → Db → Bool
  | _,.ingestCommandResult g r,c,db =>
      !(r.settles && db.reviewed r.commandId && ((Txn.ingestCommandResult g r).run c db).1.isOk)
  | _,_,_,_ => true

/-- Nothing is observed of a dispatch under review: no probe finds its command file, and
no result settles it. -/
def calm : {β : Type} → Eff β → Choice → World → Bool
  | _,.isFile dir name,_,w => !(w.db.reviewed name && w.spool.has dir name)
  | _,.txn t,c,w => t.calm c w.db
  | _,_,_,_ => true

section
variable {db db' : Db} {change : Option (String × DispatchState)} {id : String}

/-- A transaction leaves every row alone that it does not advance, or plans a new one. -/
theorem PlanStep.found_other (h : PlanStep db db' change) (hid : ∀ st, change ≠ some (id,st)) :
    db'.dispatch? id = db.dispatch? id ∨
      ∃ d, db'.dispatch? id = some d ∧ d.dispatchState = .planned ∧ db.dispatch? id = none := by
  have hsame : db'.dispatches = db.dispatches → db'.dispatch? id = db.dispatch? id := by
    intro heq
    rw [Db.dispatch?,Db.dispatch?,heq]
  cases h with
  | same plans => exact .inl (hsame (Prod.mk.inj plans).1)
  | known command row ev encoded event found plans => exact .inl (hsame (Prod.mk.inj plans).1)
  | advanced commandId state forward plans =>
    have hdb : db'.dispatches = _ := (Prod.mk.inj plans).1
    have hne : id ≠ commandId := fun heq => hid state (by rw [heq])
    rw [Db.dispatch?,hdb]
    exact .inl (find_modify_ne (fun _ => rfl) hne)
  | fresh session command brokerOrderId raw ev encoded event allowed plans =>
    have hdb : db'.dispatches = _ := (Prod.mk.inj plans).1
    have hnew : db.dispatch? command.commandId = none := by
      refine find_eq_none_iff.mpr fun d hmem heq => ?_
      simp only [dispatchRefused,Bool.or_eq_false_iff,List.any_eq_false] at allowed
      exact allowed.1.1 d hmem (by simp [heq,plannedDispatch])
    rw [Db.dispatch?,hdb]
    by_cases heq : id = command.commandId
    · subst heq
      have hfound : find Dispatch.commandId
          (plannedDispatch session command brokerOrderId raw).commandId _ = some _ :=
        find_append_self hnew
      exact .inr ⟨_,hfound,rfl,hnew⟩
    · exact .inl (find_append_ne heq)

theorem PlanStep.found_advanced {st : DispatchState} (h : PlanStep db db' (some (id,st))) :
    db'.dispatch? id = (db.dispatch? id).map (fun d => { d with dispatchState := st }) := by
  cases h with
  | advanced commandId state forward plans =>
    have hdb : db'.dispatches = _ := (Prod.mk.inj plans).1
    rw [Db.dispatch?,hdb]
    exact find_modify_self fun _ => rfl

theorem PlanStep.reviewed_other (h : PlanStep db db' change) (hid : ∀ st, change ≠ some (id,st)) :
    db'.reviewed id = db.reviewed id := by
  obtain hsame | ⟨d,hd,hstate,hnone⟩ := h.found_other hid
  · rw [Db.reviewed,Db.reviewed,hsame]
  · simp [Db.reviewed,hd,hnone,hstate]

/-- The rows under review stay as they are. -/
def ReviewKept (db db' : Db) : Prop :=
  ∀ id d, db.dispatch? id = some d → d.dispatchState = .manualReview → db'.dispatch? id = some d

theorem PlanStep.reviewKept (h : PlanStep db db' change)
    (hid : ∀ id st, change = some (id,st) → st ≠ .manualReview → db.reviewed id = false) :
    ReviewKept db db' := by
  intro id d hd hstate
  by_cases hchange : ∃ st, change = some (id,st)
  · obtain ⟨st,rfl⟩ := hchange
    have hreview : st = .manualReview := by
      by_contra hne
      simpa [Db.reviewed,hd,hstate] using hid id st rfl hne
    have hfound := h.found_advanced
    simp only [hd,hreview,Option.map_some,← hstate] at hfound
    exact hfound
  · obtain hsame | ⟨-,-,-,hnone⟩ := h.found_other fun st heq => hchange ⟨st,heq⟩
    · rw [hsame]
      exact hd
    · rw [hd] at hnone
      cases hnone

end

/-- What the process in slot 0 tolerates and promises: only it writes the database, and
it leaves the rows under review alone. -/
def reviewRules : Rules Eff Choice World where
  exec := exec
  cond o c w := calm o c w = true
  need _ _ := True
  inv w := Plans w.db
  rely i w w' := i = 0 → w'.db = w.db
  guar i w w' := if i = 0 then ReviewKept w.db w'.db else w'.db = w.db
  rely_refl _ _ _ := rfl
  rely_trans _ _ _ _ h₁ h₂ hi := (h₂ hi).trans (h₁ hi)

theorem reviewRules_stable (P : Db → Prop) : reviewRules.Stable 0 (fun w => P w.db) := by
  intro w w' hr _ h
  rw [hr rfl]
  exact h

theorem ReviewKept.refl (db : Db) : ReviewKept db db := fun _ _ hd _ => hd

theorem ReviewKept.trans {a b c : Db} (h₁ : ReviewKept a b) (h₂ : ReviewKept b c) : ReviewKept a c :=
  fun id d hd hstate => h₂ id d (h₁ id d hd hstate) hstate

/-- An effect without a transaction leaves what is known of the database. -/
theorem review_silent {β : Type} {o : Eff β} (ho : o.transacts = false) (P : Db → Prop) :
    reviewRules.Keeps 0 (fun w => P w.db) o := by
  intro w hi hw
  refine ⟨trivial,fun c _ => ?_⟩
  change Plans (exec o c w).2.db ∧ ReviewKept w.db (exec o c w).2.db ∧ P (exec o c w).2.db
  rw [exec_silent ho]
  exact ⟨hi,.refl _,hw⟩

/-- A transaction that takes no row out of review. -/
theorem review_txn {α : Type} {t : Txn α} (ht : t.hosted) {w : World} (hi : Plans w.db)
    (hid : ∀ id st, t.advances = some (id,st) → st ≠ .manualReview → w.db.reviewed id = false)
    {Q : Except PyError α → World → Prop}
    (he : ∀ e, Q (.error e) w)
    (hok : ∀ c a db', t.body c.now w.db = .ok (a,db') → t.run c w.db = (.ok a,db') →
      t.calm c w.db = true →
      Q (.ok a) { w with db := db' }) : reviewRules.After 0 (.txn t) Q w := by
  refine ⟨trivial,fun c hc => ?_⟩
  change Plans (t.run c w.db).2 ∧ ReviewKept w.db (t.run c w.db).2 ∧
    Q (t.run c w.db).1 { w with db := (t.run c w.db).2 }
  obtain ⟨e,he'⟩ | ⟨a,db',hb,he'⟩ := t.run_cases c w.db
  · rw [he']
    exact ⟨hi,.refl _,he e⟩
  · rw [he']
    have hstep := Txn.plan_step ht hb
    exact ⟨hi.step hstep,hstep.reviewKept hid,hok c a db' hb he' hc⟩

/-- None of these dispatches is under review. -/
def Clear (ids : List String) (db : Db) : Prop := ∀ id ∈ ids, db.reviewed id = false

theorem Clear.step {ids : List String} {db db' : Db} {change : Option (String × DispatchState)}
    (h : Clear ids db) (hstep : PlanStep db db' change)
    (hid : ∀ id st, change = some (id,st) → id ∉ ids) : Clear ids db' := by
  intro id hmem
  rw [hstep.reviewed_other fun st heq => hid id st heq hmem]
  exact h id hmem

/-- What a method that advances no dispatch asks for. -/
theorem review_quiet {β : Type} {o : Eff β} (ho : o.hosted) (hadv : o.advances = none)
    (ids : List String) : reviewRules.Keeps 0 (fun w => Clear ids w.db) o := by
  intro w hi hw
  refine ⟨trivial,fun c _ => ?_⟩
  change Plans (exec o c w).2.db ∧ ReviewKept w.db (exec o c w).2.db ∧ Clear ids (exec o c w).2.db
  have hkeep : ∀ db, db = w.db → Plans db ∧ ReviewKept w.db db ∧ Clear ids db := by
    rintro db rfl
    exact ⟨hi,.refl _,hw⟩
  obtain hdb | ⟨α,t,hP,hdb⟩ := exec_db o c w
  · exact hkeep _ hdb
  · have ht : t.hosted := hP (fun o => o.hosted) ho
    have hnone : t.advances = none := hP (fun o => o.advances = none) hadv
    rw [hdb]
    obtain ⟨e,he⟩ | ⟨a,db',hb,he⟩ := t.run_cases c w.db
    · exact hkeep _ (congrArg Prod.snd he)
    · have hstep : PlanStep w.db db' none := hnone ▸ Txn.plan_step ht hb
      rw [he]
      exact ⟨hi.step hstep,hstep.reviewKept (by simp),hw.step hstep (by simp)⟩

/-- The result whose arguments repeat what its payload says, as the only caller passes it. -/
def Runtime.ExecutionCommandResult.Forwarded (r : Runtime.ExecutionCommandResult) : Prop :=
  r.payload.textAt "command_id" = some r.commandId ∧
    r.payload.textAt "result_status" = some r.resultStatus

instance (r : Runtime.ExecutionCommandResult) : Decidable r.Forwarded :=
  inferInstanceAs (Decidable (_ ∧ _))

def Runtime.Op.forwarded : Runtime.Op → Bool
  | .ingestExecutionCommandResult r => r.Forwarded
  | _ => true

namespace Runtime

section
variable {s : RuntimeState} {w : World} {ids : List String}

/-- A method without a transaction, before one that starts from what is known. -/
theorem bind_silent {α β : Type} {x : Runtime α} {f : α → Runtime β}
    {Q : Except PyError β → RuntimeState → World → Prop}
    (hx : x.All (fun o => o.transacts = false)) (P : Db → Prop) (hi : Plans w.db) (hw : P w.db)
    (he : ∀ e s w, P w.db → Q (.error e) s w)
    (hf : ∀ a s w, Plans w.db → P w.db → reviewRules.Ok 0 (f a) s Q w) :
    reviewRules.Ok 0 (x >>= f) s Q w :=
  Rules.Ok.bind_keeps (reviewRules_stable P) (fun s => (hx s).mono fun _ ho => review_silent ho P)
    hi hw (fun e s w _ => he e s w) hf

theorem quiet_ok : RuntimeQuiet (fun x => x.All (reviewRules.Keeps 0 fun w => Clear ids w.db)) :=
  quiet_of_hosted fun _ ho hadv => review_quiet ho hadv ids

theorem assertLeader_silent : assertLeader.All (fun o => o.transacts = false) := by
  refine all_bind all_self fun s => ?_
  split
  · exact all_throw _
  · exact all_bind (all_ask rfl) fun _ => all_call rfl

theorem nowMillis_silent : (nowMillis : Runtime Int).All (fun o => o.transacts = false) :=
  all_bind (all_ask rfl) fun _ => all_pure _

theorem registerOrder_silent (clientOrderId symbol : String) (quantity : Int) :
    (registerOrder clientOrderId symbol quantity).All (fun o => o.transacts = false) :=
  all_bind all_self fun _ => all_bind (all_ofExcept _) fun _ => all_bind (all_update _) fun _ =>
    all_pure _

/-- A probe that finds the file shows that the dispatch is not under review. -/
theorem foundIn_ok (commandId : String) (dirs : List SpoolDir) (P : Db → Prop) (hi : Plans w.db)
    (hw : P w.db) : reviewRules.Ok 0 (foundIn commandId dirs) s (fun r _ w => P w.db ∧
      ∀ found, r = .ok found → found ≠ [] → w.db.reviewed commandId = false) w := by
  induction dirs generalizing P s w with
  | nil =>
    intro u hu hi
    refine ⟨reviewRules_stable P _ _ hu hi hw,fun found hr hne => ?_⟩
    cases hr
    exact absurd rfl hne
  | cons dir dirs ih =>
    refine Rules.Ok.bind_ask (A := fun found w =>
      P w.db ∧ (found = true → w.db.reviewed commandId = false)) (fun u hu hi => ?_)
      fun found w hi hw => ?_
    · refine ⟨trivial,fun c hc => ⟨hi,.refl _,reviewRules_stable P _ _ hu hi hw,fun hfound => ?_⟩⟩
      have hcalm : u.db.reviewed commandId = false ∨ u.spool.has dir commandId = false := by
        simpa [reviewRules,calm] using hc
      rcases hcalm with hrev | hno
      · exact hrev
      · exact absurd hfound (by simp [reviewRules,exec,hno])
    · refine Rules.Ok.bind hi (Rules.Ok.mono (ih (fun db => P db ∧
        (found = true → db.reviewed commandId = false)) hi hw) fun r s w hi hr => ?_)
      obtain ⟨⟨hP,hfound⟩,hrest⟩ := hr
      cases r with
      | error e => exact fun u hu hi => ⟨reviewRules_stable P _ _ hu hi hP,fun _ hr => by cases hr⟩
      | ok rest =>
        refine Rules.Ok.pure fun u hu hi => ?_
        have hdb : u.db = w.db := hu rfl
        rw [hdb]
        refine ⟨hP,fun all hr hne => ?_⟩
        cases hr
        cases found with
        | true => exact hfound rfl
        | false => exact hrest rest rfl hne

theorem locate_ok (commandId : String) (P : Db → Prop) (hi : Plans w.db) (hw : P w.db) :
    reviewRules.Ok 0 (locate commandId) s (fun r _ w => P w.db ∧
      ∀ dir, r = .ok (some dir) → w.db.reviewed commandId = false) w := by
  refine Rules.Ok.bind hi (Rules.Ok.mono (foundIn_ok commandId _ P hi hw) fun r s w hi hr => ?_)
  obtain ⟨hP,hfound⟩ := hr
  cases r with
  | error e => exact fun u hu hi => ⟨reviewRules_stable P _ _ hu hi hP,fun _ hr => by cases hr⟩
  | ok found =>
    dsimp only
    split
    · exact fun u hu hi => ⟨reviewRules_stable P _ _ hu hi hP,fun _ hr => by cases hr⟩
    · refine Rules.Ok.pure fun u hu hi => ?_
      have hdb : u.db = w.db := hu rfl
      rw [hdb]
      refine ⟨hP,fun dir hr => hfound found rfl ?_⟩
      rintro rfl
      cases hr

/-- A transaction at the end of a method, which takes no other row out of review. -/
theorem durable_ok {α : Type} {t : Guard → Txn α} (ht : ∀ g, (t g).hosted)
    (hid : ∀ g id st, (t g).advances = some (id,st) →
      id ∉ ids ∧ (st ≠ .manualReview → w.db.reviewed id = false)) (hw : Clear ids w.db) :
    reviewRules.Ok 0 (durable t) s (fun _ _ w => Clear ids w.db) w := by
  refine Rules.Ok.call (Q := fun _ (w : World) => Clear ids w.db) (fun _ => reviewRules_stable _)
    fun u hu hi => ?_
  have hdb : u.db = w.db := hu rfl
  have hclear : Clear ids u.db := hdb ▸ hw
  refine review_txn (ht _) hi (fun id st hadv hne => hdb ▸ (hid _ id st hadv).2 hne)
    (fun _ => hclear) fun c a db' hb _ _ => ?_
  exact hclear.step (Txn.plan_step (ht _) hb) fun id st hadv => (hid _ id st hadv).1

theorem setDispatchState_ok {commandId : String} {state : DispatchState} (hs : state ≠ .planned)
    (hid : commandId ∉ ids) (hw : Clear ids w.db) (hrev : w.db.reviewed commandId = false) :
    reviewRules.Ok 0 (setDispatchState commandId state) s (fun _ _ w => Clear ids w.db) w := by
  refine durable_ok (fun _ => hs) (fun g id st hadv => ?_) hw
  cases hadv
  exact ⟨hid,fun _ => hrev⟩

theorem failDispatch_ok {command : QmtCommand} {eventType : String} (hid : command.commandId ∉ ids)
    (hw : Clear ids w.db) : reviewRules.Ok 0 (failDispatchManualReview command eventType) s
      (fun _ _ w => Clear ids w.db) w := by
  refine durable_ok (fun _ => trivial) (fun g id st hadv => ?_) hw
  cases hadv
  exact ⟨hid,fun hne => absurd rfl hne⟩

theorem beginReconciliation_ok {command : QmtCommand} (hw : Clear ids w.db) :
    reviewRules.Ok 0 (beginReconciliation command) s (fun _ _ w => Clear ids w.db) w :=
  Rules.Ok.of_all (reviewRules_stable _) (beginReconciliation_holds quiet_ok.calm command) hw

theorem publishPlanned_ok {command : QmtCommand} (hi : Plans w.db) (hid : command.commandId ∉ ids)
    (hw : Clear ids w.db) (hrev : w.db.reviewed command.commandId = false) :
    reviewRules.Ok 0 (publishPlanned command) s (fun _ _ w => Clear ids w.db) w := by
  have hA : Clear ids w.db ∧ w.db.reviewed command.commandId = false := ⟨hw,hrev⟩
  refine bind_silent nowMillis_silent (fun db => Clear ids db ∧
    db.reviewed command.commandId = false) hi hA (fun _ _ _ h => h.1) fun nowMs s w hi hw => ?_
  split
  · exact failDispatch_ok hid hw.1
  · refine bind_silent (publish_all (fun _ h => h) command) (fun db => Clear ids db ∧
      db.reviewed command.commandId = false) hi hw (fun _ _ _ h => h.1) fun _ s w hi hw => ?_
    exact Rules.Ok.seq (reviewRules_stable _) hi (setDispatchState_ok (by decide) hid hw.1 hw.2)
      fun _ s w _ hw => beginReconciliation_ok hw

/-- What is known of a row that recovery is called with. -/
def Current (row : Dispatch) (db : Db) : Prop :=
  row.dispatchState ≠ .manualReview → db.reviewed row.commandId = false

/-- Recovery of one row changes its state only when the row is not under review. -/
theorem recoverDispatch_ok {row : Dispatch} (hi : Plans w.db) (hid : row.commandId ∉ ids)
    (hw : Clear ids w.db) (hrow : Current row w.db) :
    reviewRules.Ok 0 (recoverDispatch row) s (fun _ _ w => Clear ids w.db) w := by
  refine bind_silent assertLeader_silent (fun db => Clear ids db ∧ Current row db) hi ⟨hw,hrow⟩
    (fun _ _ _ h => h.1) fun _ s w hi hw => ?_
  refine Rules.Ok.bind_ofExcept (Q := fun _ _ w => Clear ids w.db)
    (fun e u hu hi => reviewRules_stable (Clear ids) _ _ hu hi hw.1) fun command _ => ?_
  split
  · exact fun u hu hi => reviewRules_stable _ _ _ hu hi hw.1
  · rename_i hsame
    have hcommand : row.commandId = command.commandId := by
      by_contra hne
      exact hsame (by simp [dispatchIdentityChanged,hne])
    rw [hcommand] at hid
    refine Rules.Ok.bind hi (Rules.Ok.mono (locate_ok command.commandId
      (fun db => Clear ids db ∧ Current row db) hi hw) fun r s w hi hr => ?_)
    obtain ⟨⟨hw,hrow⟩,hfound⟩ := hr
    rw [Current,hcommand] at hrow
    cases r with
    | error e => exact fun u hu hi => reviewRules_stable _ _ _ hu hi hw
    | ok located =>
      cases located with
      | none =>
        dsimp only
        split
        · rename_i hplanned
          exact publishPlanned_ok hi hid hw (hrow (by simp [hplanned]))
        · split
          · exact failDispatch_ok hid hw
          · exact fun u hu hi => reviewRules_stable _ _ _ hu hi hw
      | some observed =>
        have hrev := hfound observed rfl
        refine bind_silent (all_call rfl) (fun db => Clear ids db ∧
          db.reviewed command.commandId = false) hi ⟨hw,hrev⟩ (fun _ _ _ h => h.1)
          fun content s w hi hw => ?_
        split
        · exact fun u hu hi => reviewRules_stable _ _ _ hu hi hw.1
        · dsimp only
          split
          · exact Rules.Ok.seq (reviewRules_stable _) hi
              (setDispatchState_ok (observedState_ne observed) hid hw.1 hw.2)
              fun _ s w _ hw => beginReconciliation_ok hw
          · exact beginReconciliation_ok hw.1

/-- The rows that `recover_dispatches` selects. -/
theorem recoverRows_ok {rows : List Dispatch} (hids : (rows.map Dispatch.commandId).Nodup)
    (hi : Plans w.db) (hw : Clear (rows.map Dispatch.commandId) w.db) :
    reviewRules.Ok 0 (each recoverDispatch rows) s (fun _ _ _ => True) w := by
  induction rows generalizing s w with
  | nil => exact fun _ _ _ => trivial
  | cons row rows ih =>
    obtain ⟨hnew,hids⟩ := List.nodup_cons.mp hids
    have hrow : w.db.reviewed row.commandId = false := hw _ (by simp)
    have hrest : Clear (rows.map Dispatch.commandId) w.db := fun id hmem => hw id (by simp [hmem])
    refine Rules.Ok.bind hi (Rules.Ok.mono (recoverDispatch_ok hi hnew hrest fun _ => hrow)
      fun r s w hi hw => ?_)
    cases r with
    | error e => exact fun _ _ _ => trivial
    | ok u => exact ih hids hi hw

theorem select_ok {α : Type} (q : Db → α) (P : α → Db → Prop)
    (hw : ∀ db, db = w.db → P (q db) db) {β : Type} {f : α → Runtime β}
    {Q : Except PyError β → RuntimeState → World → Prop} (he : ∀ e s w, Q (.error e) s w)
    (hf : ∀ a s w, Plans w.db → P a w.db → reviewRules.Ok 0 (f a) s Q w) :
    reviewRules.Ok 0 (select q >>= f) s Q w := by
  refine Rules.Ok.bind_call (A := fun r w => r = .ok (q w.db) ∧ P (q w.db) w.db)
    (fun u hu hi => ?_) (fun e w _ _ u _ _ => he e s u) fun a w hi hw => ?_
  · exact ⟨trivial,fun c _ => ⟨hi,.refl _,rfl,hw _ (hu rfl)⟩⟩
  · obtain ⟨hr,hP⟩ := hw
    cases hr
    exact hf _ s w hi hP

theorem current_of_mem {db : Db} {row : Dispatch} (hp : Plans db) (hrow : row ∈ db.dispatches) :
    Current row db := by
  intro hstate
  have hfound : db.dispatch? row.commandId = some row := find_of_mem hp.ids hrow
  simp [Db.reviewed,hfound,hstate]

theorem quiet_true {α : Type} {x : Runtime α}
    (hx : x.All (reviewRules.Keeps 0 fun w => Clear [] w.db)) :
    reviewRules.Ok 0 x s (fun _ _ _ => True) w :=
  Rules.Ok.mono (Rules.Ok.of_all (reviewRules_stable _) hx fun _ h => by cases h)
    fun _ _ _ _ _ => trivial

theorem bind_quiet {α β : Type} {x : Runtime α} {f : α → Runtime β}
    (hx : x.All (reviewRules.Keeps 0 fun w => Clear [] w.db)) (hi : Plans w.db)
    (hf : ∀ a s w, Plans w.db → reviewRules.Ok 0 (f a) s (fun _ _ _ => True) w) :
    reviewRules.Ok 0 (x >>= f) s (fun _ _ _ => True) w := by
  refine Rules.Ok.bind hi (Rules.Ok.mono (quiet_true hx) fun r s w hi _ => ?_)
  cases r with
  | error e => exact fun _ _ _ => trivial
  | ok a => exact hf a s w hi

theorem bind_recovered {α : Type} {row : Dispatch} {f : Unit → Runtime α} (hi : Plans w.db)
    (hrow : Current row w.db)
    (hf : ∀ a s w, Plans w.db → reviewRules.Ok 0 (f a) s (fun _ _ _ => True) w) :
    reviewRules.Ok 0 (recoverDispatch row >>= f) s (fun _ _ _ => True) w := by
  have hone := @recoverDispatch_ok s w [] row hi (by simp) (fun _ h => by cases h) hrow
  refine Rules.Ok.bind hi (Rules.Ok.mono hone fun r s w hi _ => ?_)
  cases r with
  | error e => exact fun _ _ _ => trivial
  | ok a => exact hf a s w hi

/-- The row of a reservation is the one that the database has now. -/
theorem bind_reserved {α : Type} {command : QmtCommand} {brokerOrderId : Option String} {cancel : Bool}
    {f : Dispatch → Runtime α}
    (ht : command.commandType = if cancel then .cancelOrder else .submitLimit) (hi : Plans w.db)
    (hf : ∀ row s w, Plans w.db → Current row w.db →
      reviewRules.Ok 0 (f row) s (fun _ _ _ => True) w) :
    reviewRules.Ok 0 (reserveAndPersistDispatch command brokerOrderId cancel >>= f) s
      (fun _ _ _ => True) w := by
  have hreserve : reviewRules.Ok 0 (reserveAndPersistDispatch command brokerOrderId cancel) s
      (fun r _ w => ∀ row, r = .ok row → Current row w.db) w := by
    refine Rules.Ok.bind_ofExcept (Q := fun r _ (w : World) => ∀ row, r = .ok row → Current row w.db)
      (fun e u _ _ row hr => by cases hr) fun raw hraw => ?_
    refine Rules.Ok.call (Q := fun r (w : World) => ∀ row, r = .ok row → Current row w.db)
      (fun r => reviewRules_stable fun db => ∀ row, r = .ok row → Current row db) fun u hu hi => ?_
    have hhosted : (Txn.reserveAndPersistDispatch s.guard s.session command brokerOrderId cancel
        raw).hosted := ⟨hraw,ht⟩
    refine review_txn hhosted hi (by simp [Txn.advances]) (fun e row hr => by cases hr)
      fun c a db' hb _ _ row hr hstate => ?_
    cases hr
    have hfound := (reserveAndPersistInTx_plans hraw ht (guarded_ok.mp hb).2).2
    simp [Db.reviewed,hfound,hstate]
  refine Rules.Ok.bind hi (Rules.Ok.mono hreserve fun r s w hi hr => ?_)
  cases r with
  | error e => exact fun _ _ _ => trivial
  | ok row => exact hf row s w hi (hr row rfl)

theorem recoverDispatches_ok (hi : Plans w.db) :
    reviewRules.Ok 0 recoverDispatches s (fun _ _ _ => True) w := by
  refine bind_quiet (assertLeader_holds quiet_ok.calm) hi fun _ s w hi => ?_
  refine select_ok _ (fun rows db => (rows.map Dispatch.commandId).Nodup ∧
    Clear (rows.map Dispatch.commandId) db) (fun db hdb => ?_) (fun _ _ _ => trivial)
    fun rows s w hi hrows => recoverRows_ok hrows.1 hi hrows.2
  subst hdb
  have hperm := List.perm_insertionSort (fun a b => dispatchOrder a b = true) (w.db.dispatches.filter
    fun d => d.qmtSessionId = s.session ∧ d.dispatchState ≠ .manualReview)
  constructor
  · exact (hperm.map Dispatch.commandId).nodup_iff.mpr
      (hi.ids.sublist (List.filter_sublist.map Dispatch.commandId))
  · intro id hid
    obtain ⟨row,hrow,rfl⟩ := List.mem_map.mp hid
    have hrow := List.mem_filter.mp (hperm.mem_iff.mp hrow)
    simp only [decide_eq_true_eq] at hrow
    exact current_of_mem hi hrow.1 hrow.2.2

theorem select_dispatch {α : Type} {k : OrderKey} {commandType : QmtCommandType}
    {f : Option Dispatch → Runtime α} (hi : Plans w.db)
    (hf : ∀ existing s w, Plans w.db → (∀ row, existing = some row → Current row w.db) →
      reviewRules.Ok 0 (f existing) s (fun _ _ _ => True) w) :
    reviewRules.Ok 0 (select (fun db => dispatchForOrder db k commandType) >>= f) s
      (fun _ _ _ => True) w := by
  refine select_ok _ (fun existing db => ∀ row, existing = some row → Current row db)
    (fun db hdb row hrow => ?_) (fun _ _ _ => trivial) hf
  subst hdb
  exact current_of_mem hi (List.mem_of_find?_eq_some hrow)

theorem executeIntent_ok (intent : OrderIntent) (hi : Plans w.db) :
    reviewRules.Ok 0 (executeIntent intent) s (fun _ _ _ => True) w := by
  refine bind_quiet (assertLeader_holds quiet_ok.calm) hi fun _ s w hi =>
    bind_quiet quiet_ok.maintain hi fun _ s w hi => ?_
  refine bind_quiet quiet_ok.self hi fun s' s w hi => ?_
  split
  · exact quiet_true (quiet_ok.throw _)
  · refine bind_quiet (quiet_ok.ask rfl) hi fun now s w hi => ?_
    refine select_dispatch hi fun existing s w hi hexisting => ?_
    · cases existing with
      | some row =>
        refine Rules.Ok.bind_ofExcept (fun _ _ _ _ => trivial) fun command _ =>
          Rules.Ok.bind_ofExcept (fun _ _ _ _ => trivial) fun raw _ => ?_
        split
        · exact quiet_true (quiet_ok.throw _)
        · exact bind_recovered hi (hexisting row rfl) fun _ s w hi => quiet_true (getStatus_holds quiet_ok.calm _)
      | none =>
        refine bind_quiet (quiet_ok.durable (fun _ => rfl) (fun _ => trivial) fun _ => rfl) hi
          fun _ s w hi => bind_quiet
            (quiet_ok.durable (fun _ => rfl) (fun _ => trivial) fun _ => rfl) hi fun _ s w hi => ?_
        refine Rules.Ok.bind_ofExcept (fun _ _ _ _ => trivial) fun command hcommand => ?_
        refine bind_reserved (buildSubmitCommand_type hcommand) hi fun row s w hi hrow => ?_
        refine bind_silent (registerOrder_silent _ _ _) (Current row) hi hrow (fun _ _ _ _ => trivial)
          fun _ s w hi hrow => ?_
        exact bind_recovered hi hrow fun _ s w hi => quiet_true (getStatus_holds quiet_ok.calm _)

theorem cancelIntent_ok (clientOrderId : String) (hi : Plans w.db) :
    reviewRules.Ok 0 (cancelIntent clientOrderId) s (fun _ _ _ => True) w := by
  refine bind_quiet (assertLeader_holds quiet_ok.calm) hi fun _ s w hi =>
    bind_quiet quiet_ok.maintain hi fun _ s w hi => bind_quiet quiet_ok.self hi fun s' s w hi =>
    bind_quiet (quiet_ok.call rfl) hi fun order s w hi => ?_
  split
  · exact quiet_true (quiet_ok.pure _)
  · refine select_dispatch hi fun existing s w hi hexisting => ?_
    cases existing with
    | some row => exact bind_recovered hi (hexisting row rfl) fun _ s w hi => quiet_true (getStatus_holds quiet_ok.calm _)
    | none =>
      dsimp only
      split
      · exact quiet_true (quiet_ok.throw _)
      · split
        · exact quiet_true (quiet_ok.throw _)
        · refine bind_quiet (nowMillis_holds quiet_ok.calm) hi fun nowMs s w hi => ?_
          refine Rules.Ok.bind_ofExcept (fun _ _ _ _ => trivial) fun command hcommand => ?_
          refine bind_reserved (buildCancelCommand_type hcommand) hi fun row s w hi hrow => ?_
          exact bind_recovered hi hrow fun _ s w hi => quiet_true (getStatus_holds quiet_ok.calm _)

theorem ofValue_value {text : String} {status : ResultStatus}
    (h : ResultStatus.ofValue text = some status) : status.value = text := by
  have hfound := List.find?_some h
  simpa using hfound

/-- The statuses that the observation of a result acts on. -/
def observedStatuses : List String :=
  ["SIMULATION_MUTATION_UNKNOWN","SIMULATION_ORPHANED_UNKNOWN","REJECTED_EXPIRED"]

theorem settles_of_status {r : CommandResult} {text : String}
    (h : ResultStatus.ofValue text = some r.resultStatus) (hmem : text ∈ observedStatuses) :
    r.settles = true := by
  simp only [observedStatuses,List.mem_cons,List.not_mem_nil,or_false] at hmem
  have hcases : some r.resultStatus ∈ [some .simulationMutationUnknown,
      some .simulationOrphanedUnknown,some ResultStatus.rejectedExpired] := by
    rw [← h]
    rcases hmem with rfl | rfl | rfl <;> decide
  simpa [CommandResult.settles] using hcases

theorem observe_ok {r : ExecutionCommandResult}
    (hrev : r.resultStatus ∈ observedStatuses → w.db.reviewed r.commandId = false) :
    reviewRules.Ok 0 (observeCommandResultDispatch r.commandId r.resultStatus) s
      (fun _ _ _ => True) w := by
  have hset : ∀ (state : DispatchState) (s : RuntimeState) (w : World), state ≠ .planned →
      w.db.reviewed r.commandId = false →
      reviewRules.Ok 0 (setDispatchState r.commandId state) s (fun _ _ _ => True) w :=
    fun state s w hne hrev => Rules.Ok.mono (@setDispatchState_ok s w [] r.commandId state hne
      (by simp) (fun _ h => by cases h) hrev) fun _ _ _ _ _ => trivial
  refine select_ok _ (fun _ db => r.resultStatus ∈ observedStatuses → db.reviewed r.commandId = false)
    (fun db hdb => hdb ▸ hrev) (fun _ _ _ => trivial) fun row s w hi hrev => ?_
  split
  · exact quiet_true (quiet_ok.pure _)
  · split
    · rename_i hstatus
      simp only [List.mem_cons,List.not_mem_nil,or_false] at hstatus
      refine hset _ s w (by decide) (hrev ?_)
      rcases hstatus with hstatus | hstatus <;> simp [observedStatuses,hstatus]
    · split
      · rename_i hstatus
        exact hset _ s w (by decide) (hrev (by simp [observedStatuses,hstatus]))
      · exact quiet_true (quiet_ok.pure _)

theorem ingestExecutionCommandResult_ok {r : ExecutionCommandResult} (hr : r.Forwarded)
    (hi : Plans w.db) :
    reviewRules.Ok 0 (ingestExecutionCommandResult r) s (fun _ _ _ => True) w := by
  refine bind_quiet quiet_ok.self hi fun s' s w hi => ?_
  split
  · exact quiet_true (quiet_ok.throw _)
  · split
    · exact quiet_true (quiet_ok.throw _)
    · split
      · exact quiet_true (quiet_ok.throw _)
      · split
        · exact quiet_true (quiet_ok.throw _)
        · refine Rules.Ok.bind_ofExcept (fun _ _ _ _ => trivial) fun checked hchecked => ?_
          obtain ⟨-,hid,hstatus⟩ := checkCommandResult_ok hchecked
          have hsame : checked.commandId = r.commandId := Option.some.inj (hid.symm.trans hr.1)
          have hsettles : r.resultStatus ∈ observedStatuses → checked.settles = true := by
            rw [hr.2] at hstatus
            exact settles_of_status hstatus
          change reviewRules.Ok 0 (call (.txn (.ingestCommandResult s.guard checked)) >>= fun _ =>
            observeCommandResultDispatch r.commandId r.resultStatus) s (fun _ _ _ => True) w
          refine Rules.Ok.bind_call (A := fun res w => res.isOk = true →
            r.resultStatus ∈ observedStatuses → w.db.reviewed r.commandId = false)
            (fun u hu hi => ?_) (fun _ _ _ _ _ _ _ => trivial) fun res w hi hrev => observe_ok (hrev rfl)
          have ht : (Txn.ingestCommandResult s.guard checked).hosted := trivial
          refine review_txn ht hi (by simp [Txn.advances]) (fun _ hok => by cases hok)
            fun c a db' hb hrun hcalm _ hmem => ?_
          have hstep : PlanStep u.db db' none := Txn.plan_step ht hb
          rw [hstep.reviewed_other (by simp)]
          simp only [Txn.calm,hsettles hmem,hrun,hsame] at hcalm
          simpa [Except.isOk,Except.toBool] using hcalm

theorem perform_ok {op : Op} (hop : op.forwarded = true) (hi : Plans w.db) :
    reviewRules.Ok 0 op.perform s (fun _ _ _ => True) w := by
  refine Rules.Ok.tryCatch_all (reviewRules_stable fun _ => True) hi ?_ fun _ _ _ _ _ => quiet_true (quiet_ok.pure _)
  cases op with
  | executeIntent intent =>
    exact Rules.Ok.seq (reviewRules_stable fun _ => True) hi (executeIntent_ok intent hi)
      fun _ _ _ _ _ => quiet_true (quiet_ok.pure _)
  | cancelIntent clientOrderId =>
    exact Rules.Ok.seq (reviewRules_stable fun _ => True) hi (cancelIntent_ok clientOrderId hi)
      fun _ _ _ _ _ => quiet_true (quiet_ok.pure _)
  | ingestBrokerEvidence e =>
    exact bind_quiet (ingestBrokerEvidence_holds quiet_ok.calm e) hi fun _ _ _ _ => quiet_true (quiet_ok.pure _)
  | ingestExecutionCommandResult r =>
    exact ingestExecutionCommandResult_ok (of_decide_eq_true hop) hi
  | recoverDispatches => exact recoverDispatches_ok hi
  | refreshIdentities => exact quiet_true (refreshIdentities_holds quiet_ok.calm)
  | maintain => exact quiet_true quiet_ok.maintain
  | close => exact quiet_true quiet_ok.close

theorem serve_ok {ops : List Op} (hops : ∀ op ∈ ops, op.forwarded = true) (hi : Plans w.db) :
    reviewRules.Ok 0 (serve ops) s (fun _ _ _ => True) w := by
  have hinit : reviewRules.Ok 0 initialise s (fun _ _ _ => True) w :=
    bind_quiet (restorePersistedIdentities_holds quiet_ok.calm) hi fun _ _ _ hi =>
    bind_quiet (refreshIdentities_holds quiet_ok.calm) hi fun _ _ _ hi =>
    bind_quiet (restoreDispatchPlanIdentities_holds quiet_ok.calm) hi fun _ _ _ hi =>
    bind_quiet (validateDispatchInvariants_holds quiet_ok.calm) hi fun _ _ _ hi => recoverDispatches_ok hi
  refine Rules.Ok.seq (reviewRules_stable fun _ => True) hi
    (Rules.Ok.tryCatch_all (reviewRules_stable fun _ => True) hi hinit fun e _ _ hi _ =>
      bind_quiet quiet_ok.close hi fun _ _ _ _ => quiet_true (quiet_ok.throw e)) fun _ s w hi _ => ?_
  exact Rules.Ok.each (reviewRules_stable fun _ => True)
    (fun op hop s w hi _ => perform_ok (hops op hop) hi) hi trivial

theorem process_wp (inst : QmtInstance) {ops : List Op} (hops : ∀ op ∈ ops, op.forwarded = true)
    (hi : Plans w.db) : reviewRules.Wp 0 (fun _ _ => True) (process inst ops) w := by
  have hconstruct : (construct inst ()).All (reviewRules.Keeps 0 fun w => Clear [] w.db) :=
    construct_all (fun _ ho hadv _ => review_quiet ho hadv []) inst ()
  refine Rules.Wp.bind hi (Rules.Wp.mono (Rules.Wp.of_all (reviewRules_stable _) hconstruct
    fun _ h => by cases h) fun r w hi _ => ?_)
  rcases r with ⟨e | s,u⟩
  · exact fun _ _ _ => trivial
  · exact Rules.Wp.bind hi (Rules.Wp.mono (serve_ok hops hi) fun _ _ _ _ _ _ _ => trivial)

end
end Runtime

/-- What can be started: a Host, or a process that moves command files. -/
inductive Roaming where
  | runtime (inst : QmtInstance) (ops : List Runtime.Op)
  | mover (moves : List (SpoolDir × SpoolDir × String))

/-- Moves of command files between any directories. -/
def moveFiles (moves : List (SpoolDir × SpoolDir × String)) : Prog Eff Unit :=
  (each (fun m => (tryCatch (call (.move m.1 m.2.1 m.2.2)) (fun _ => pure ()) :
    Proc Eff PyError Unit Unit)) moves ()).bind (fun _ => .pure ())

/-- One Host at a time, and any processes that move command files. -/
def roaming : Machine Eff Choice World Roaming where
  exec := exec
  boot
    | .runtime inst ops => Runtime.process inst ops
    | .mover moves => moveFiles moves
  allows pid
    | .runtime _ ops => pid == 0 && ops.all Runtime.Op.forwarded
    | .mover _ => pid != 0

theorem moveFiles_silent (moves : List (SpoolDir × SpoolDir × String)) :
    (moveFiles moves).All (fun o => o.transacts = false) :=
  Prog.All.bind (all_each (fun _ => all_tryCatch (all_call rfl) fun _ => all_pure _) moves ())
    fun _ => trivial

theorem roaming_wp {pid : Nat} {start : Roaming} (h : roaming.allows pid start = true) {w : World}
    (hi : Plans w.db) : reviewRules.Wp pid (fun _ _ => True) (roaming.boot start) w := by
  cases start with
  | runtime inst ops =>
    have hallowed : (pid = 0) ∧ ∀ op ∈ ops, op.forwarded = true := by
      simpa [roaming] using h
    obtain ⟨rfl,hops⟩ := hallowed
    exact Runtime.process_wp inst hops hi
  | mover moves =>
    have hpid : pid ≠ 0 := by simpa [roaming] using h
    refine Rules.Wp.of_all (A := fun _ => True) (fun _ _ _ _ _ => trivial)
      ((moveFiles_silent moves).mono fun o ho w hi _ => ⟨trivial,fun c _ => ?_⟩) trivial
    have hdb : (exec o c w).2.db = w.db := exec_silent ho c w
    refine ⟨?_,?_,trivial⟩
    · change Plans (exec o c w).2.db
      exact hdb ▸ hi
    · simp [reviewRules,hpid,hdb]

/-- In every run of the runtime, restarted at will, with the command files moved about:
a dispatch under review stays as it is, as long as nothing is observed of its command. -/
theorem dispatch_review_absorbing {before after : List (Move Choice Roaming)} {s t : Sys Eff World}
    (hs : roaming.runWhile calm (Machine.boots World.initial) before = some s)
    (ht : roaming.runWhile calm s after = some t) {commandId : String} {d : Dispatch}
    (hd : s.world.db.dispatch? commandId = some d) (hstate : d.dispatchState = .manualReview) :
    t.world.db.dispatch? commandId = some d := by
  have hcompat : ∀ i j, i ≠ j → ∀ w w', reviewRules.guar i w w' → reviewRules.rely j w w' := by
    intro i j hne w w' hguar hj
    have hi : i ≠ 0 := by omega
    simpa [reviewRules,hi] using hguar
  have hboot : ∀ pid start, roaming.allows pid start = true → ∀ w, reviewRules.inv w →
      reviewRules.Wp pid (fun _ _ => True) (roaming.boot start) w :=
    fun pid start hallowed w hi => roaming_wp hallowed hi
  have hmeets : reviewRules.Meets s := Machine.Reach.rules reviewRules (fun _ _ _ => rfl) hcompat
    hboot (w := World.initial) Plans.empty (Machine.Reach.of_runWhile _ hs)
  have hkept := Machine.Reach.guaranteed reviewRules (fun _ _ _ => rfl) hcompat hboot
    (G := fun w w' => ReviewKept w.db w'.db) (fun w => ReviewKept.refl w.db)
    (fun _ _ _ => ReviewKept.trans) (fun i w w' hguar => ?_)
    hmeets (Machine.Reach.of_runWhile _ ht)
  · exact hkept commandId d hd hstate
  · by_cases hi : i = 0
    · simpa [reviewRules,hi] using hguar
    · have hdb : w'.db = w.db := by simpa [reviewRules,hi] using hguar
      rw [hdb]
      exact .refl _

/-- The Bridge reports that the submit command of the sample order came too late. -/
def expiredResult : Runtime.ExecutionCommandResult where
  sourceEventId := "qmt-1:1"
  accountFingerprint := datedIntent.key.accountFingerprint
  commandId := submitCommandId
  resultStatus := "REJECTED_EXPIRED"
  executionMode := "SIMULATION_CALIBRATION"
  payload :=
    .cons "broker_token" (.text (tokenText datedIntent.key.accountFingerprint "order-1")) <|
    .cons "client_order_id" (.text "order-1") <| .cons "command_id" (.text submitCommandId) <|
    .cons "command_type" (.text "SUBMIT_LIMIT") <|
    .cons "execution_mode" (.text "SIMULATION_CALIBRATION") <|
    .cons "live_side_effect" (.bool false) <|
    .cons "result_status" (.text "REJECTED_EXPIRED") .nil

/-- The Host plans a command that has expired already, and puts it under review. -/
def expiredRun : List (Move Choice Roaming) :=
  .start 0 (.runtime sampleInstance [.executeIntent datedIntent,
    .ingestExecutionCommandResult expiredResult]) :: List.replicate 35 (.step 0 { now := 70000000 })

/-- The Host is restarted and the intent executed again. -/
def executedAgain : List (Move Choice Roaming) :=
  .crash 0 :: .start 0 (.runtime sampleInstance [.executeIntent datedIntent]) ::
    List.replicate 28 (.step 0 { now := 110000000 })

def submitState (s : Sys Eff World) : Option DispatchState :=
  (s.world.db.dispatch? submitCommandId).map Dispatch.dispatchState

theorem run_of_calm {s t : Sys Eff World} {ms : List (Move Choice Roaming)}
    (h : roaming.runWhile calm s ms = some t) : roaming.run s ms = some t := by
  induction ms generalizing s with
  | nil => exact h
  | cons m ms ih =>
    simp only [Machine.runWhile] at h
    split at h
    · obtain ⟨u,hm,hu⟩ := Option.bind_eq_some_iff.mp h
      simp only [Machine.run,hm,Option.bind_some]
      exact ih hu
    · cases h

/-- From the review on: the result arrives, or the intent is executed again. -/
theorem submit_under_review : ∃ s t u,
    roaming.runWhile calm (Machine.boots World.initial) (expiredRun.take 32) = some s ∧
      submitState s = some .manualReview ∧ roaming.run s (expiredRun.drop 32) = some t ∧
      submitState t = some .observedRejected ∧
      roaming.runWhile calm s executedAgain = some u := by
  have hrun : (roaming.runWhile calm (Machine.boots World.initial) (expiredRun.take 32)).any
      (fun s => decide (submitState s = some .manualReview) &&
        ((roaming.run s (expiredRun.drop 32)).any fun t =>
          decide (submitState t = some .observedRejected)) &&
        (roaming.runWhile calm s executedAgain).isSome) = true := by decide +kernel
  simp only [Option.any_eq_true,Bool.and_eq_true,decide_eq_true_eq,Option.isSome_iff_exists] at hrun
  obtain ⟨s,hs,⟨hreview,t,ht,hrejected⟩,u,hu⟩ := hrun
  exact ⟨s,t,u,hs,hreview,ht,hrejected,hu⟩

theorem dispatch_review_left : ∃ s t,
    roaming.run (Machine.boots World.initial) (expiredRun.take 32) = some s ∧
      roaming.run s (expiredRun.drop 32) = some t ∧
      submitState s = some .manualReview ∧ submitState t = some .observedRejected := by
  obtain ⟨s,t,-,hs,hreview,ht,hrejected,-⟩ := submit_under_review
  exact ⟨s,t,run_of_calm hs,ht,hreview,hrejected⟩

theorem dispatch_review_absorbing_retried : ∃ s t d,
    roaming.runWhile calm (Machine.boots World.initial) (expiredRun.take 32) = some s ∧
      roaming.runWhile calm s executedAgain = some t ∧
      s.world.db.dispatch? submitCommandId = some d ∧ d.dispatchState = .manualReview ∧
      t.world.db.dispatch? submitCommandId = some d := by
  obtain ⟨s,-,t,hs,hstate,-,-,ht⟩ := submit_under_review
  obtain ⟨d,hd,hreview⟩ := Option.map_eq_some_iff.mp hstate
  exact ⟨s,t,d,hs,ht,hd,hreview,dispatch_review_absorbing hs ht hd hreview⟩

end BigQmt
