import BigQmt.CommandRules
import BigQmt.PlanOrders
set_option autoImplicit false

/-!
Where a broker call comes from: a claimed file, the plan whose frame the file holds, and
the order that the plan was reserved for. The Host's side: what its files and plans say.
-/

namespace BigQmt

open Resumption Proc

/-- The call that the plan is for, with the data of its order. -/
def Dispatch.AsksFor (db : Db) (d : Dispatch) : BrokerApi → Prop
  | .passorder opType symbol price quantity token =>
      d.commandType = .submitLimit ∧ d.brokerToken = some token ∧
      ∃ i r, db.intent? d.key = some i ∧ db.order? d.key = some r ∧ r.submitCallStarted = true ∧
        opType = (if i.side = .buy then 23 else 24) ∧ symbol = i.symbol ∧
        price = .text i.limitPrice ∧ quantity = i.quantity ∧ 0 < quantity ∧
        quantity ≤ Bridge.simulationMaxOrderQuantity
  | .cancel brokerOrderId =>
      d.commandType = .cancelOrder ∧
      ∃ r, db.order? d.key = some r ∧ r.cancelCallStarted = true ∧ r.brokerOrderId = some brokerOrderId

/-- The plan is that of the command the call is made for, in the session of the Bridge. -/
structure Dispatch.Covers (db : Db) (d : Dispatch) (call : BrokerCall) : Prop where
  id : d.commandId = call.commandId
  account : d.key.accountFingerprint = call.accountFingerprint
  session : d.qmtSessionId = call.bridgeSession
  expires : d.expiresMs = call.expiresMs
  asks : d.AsksFor db call.api

structure BrokerCall.Authorised (db : Db) (call : BrokerCall) : Prop where
  account : call.accountFingerprint = Bridge.authorizedAccountFingerprint
  bridge : call.bridgeFingerprint = call.accountFingerprint
  session : call.expectedSession = some (.text call.bridgeSession)
  unexpired : call.checkedMs < call.expiresMs
  planned : ∃ d ∈ db.dispatches, d.Covers db call

/-- Every file holds the frame of a plan, and every call is that of a plan. -/
structure Traced (w : World) : Prop where
  wf : w.db.Wf
  plans : PlansOrdered w.db
  files : ∀ dir n raw, w.spool.lookup dir n = some raw →
    ∃ d ∈ w.db.dispatches, d.commandId = n ∧ d.frameBlob = raw
  calls : ∀ call ∈ w.brokerCalls, call.Authorised w.db

theorem Traced.initial : Traced World.initial where
  wf := Db.Wf.empty
  plans _ hd := by cases hd
  files _ _ _ h := by cases h
  calls _ h := by cases h

theorem Later.asksFor {db db' : Db} {d : Dispatch} {api : BrokerApi} (h : Later db db')
    (hd : d.AsksFor db api) : d.AsksFor db' api := by
  cases api with
  | passorder opType symbol price quantity token =>
    obtain ⟨hkind,htoken,i,r,hi,hr,hsub,hdata⟩ := hd
    obtain ⟨r',hr',hadv⟩ := h.orders _ r hr
    exact ⟨hkind,htoken,i,r',h.intents _ _ hi,hr',hadv.submit hsub,hdata⟩
  | cancel brokerOrderId =>
    obtain ⟨hkind,r,hr,hcan,hid⟩ := hd
    obtain ⟨r',hr',hadv⟩ := h.orders _ r hr
    exact ⟨hkind,r',hr',hadv.cancel hcan,hadv.brokerId _ hid⟩

theorem Later.authorised {db db' : Db} {call : BrokerCall} (h : Later db db')
    (hc : call.Authorised db) : call.Authorised db' := by
  obtain ⟨d,hd,hcovers⟩ := hc.planned
  obtain ⟨d',hd',hk⟩ := h.rows d hd
  refine ⟨hc.account,hc.bridge,hc.session,hc.unexpired,d',hd',?_⟩
  rw [hk.row]
  exact ⟨hcovers.id,hcovers.account,hcovers.session,hcovers.expires,
    h.asksFor (d := { d with dispatchState := d'.dispatchState }) hcovers.asks⟩

/-- A step that leaves the files and the calls alone. -/
theorem Traced.later {w w' : World} (hi : Traced w) (hsame : SameFiles w w') (hwf : w'.db.Wf)
    (hlater : Later w.db w'.db) (hplans : PlansOrdered w'.db) : Traced w' := by
  refine ⟨hwf,hplans,fun dir n raw hfile => ?_,fun call hcall => ?_⟩
  · rw [hsame.spool] at hfile
    obtain ⟨d,hd,hid,hframe⟩ := hi.files dir n raw hfile
    obtain ⟨d',hd',hk⟩ := hlater.rows d hd
    refine ⟨d',hd',?_⟩
    rw [hk.row]
    exact ⟨hid,hframe⟩
  · rw [hsame.calls] at hcall
    exact hlater.authorised (hi.calls call hcall)

def authorityRules : Rules Eff Choice World where
  exec := exec
  cond _ _ _ := True
  need _ _ := True
  inv := Traced
  rely _ w w' := Later w.db w'.db
  guar _ w w' := Later w.db w'.db
  rely_refl _ w := .refl w.db
  rely_trans _ _ _ _ h₁ h₂ := h₁.trans h₂

/-- What stays known as the database goes on. -/
def Lasting (A : World → Prop) : Prop := ∀ w w', Later w.db w'.db → A w → A w'

theorem lasting_true : Lasting fun _ => True := fun _ _ _ _ => trivial

section
variable {A : World → Prop} {i : Nat} {w : World}

theorem Lasting.stable (hA : Lasting A) : authorityRules.Stable i A :=
  fun w w' hrely _ hw => hA w w' hrely hw

/-- A request of the runtime that makes no reservation. -/
theorem hosted_traced {β : Type} {o : Eff β} (ho : o.hosted) (hres : o.reserves = false)
    (hi : Traced w) (c : Choice) : Traced (exec o c w).2 ∧ Later w.db (exec o c w).2.db := by
  have hsame := exec_still (Eff.still_of_hosted ho) c w
  have hwf := (exec_evolves o c w).wf hi.wf
  have hstay : (exec o c w).2.db = w.db → Traced (exec o c w).2 ∧ Later w.db (exec o c w).2.db := by
    intro hdb
    have hlater : Later w.db (exec o c w).2.db := hdb ▸ .refl w.db
    exact ⟨hi.later hsame hwf hlater (hdb ▸ hi.plans),hlater⟩
  obtain hdb | ⟨α,t,hP,hdb⟩ := exec_db o c w
  · exact hstay hdb
  · obtain ⟨e,he⟩ | ⟨a,db',hb,he⟩ := t.run_cases c w.db
    · exact hstay (by rw [hdb,he])
    · have ht : t.hosted ∧ t.reserves = false :=
        hP (fun o => o.hosted ∧ o.reserves = false) ⟨ho,hres⟩
      obtain ⟨hlater,hplans⟩ := hi.plans.step hi.wf ht.1 ht.2 hb
      rw [he] at hdb
      rw [hdb] at hwf ⊢
      exact ⟨hi.later hsame (hdb ▸ hwf) (hdb ▸ hlater) (hdb ▸ hplans),hlater⟩

theorem hosted_after {β : Type} {o : Eff β} (ho : o.hosted) (hres : o.reserves = false)
    (hA : Lasting A) (hi : authorityRules.inv w) (hw : A w) :
    authorityRules.After i o (fun _ w => A w) w := by
  refine ⟨trivial,fun c _ => ?_⟩
  obtain ⟨hinv,hlater⟩ := hosted_traced ho hres hi c
  exact ⟨hinv,hlater,hA _ _ hlater hw⟩

theorem keeps_hosted {β : Type} {o : Eff β} (ho : o.hosted) (hres : o.reserves = false) :
    authorityRules.Keeps i (fun _ => True) o :=
  fun _ hi _ => hosted_after ho hres lasting_true hi trivial

theorem calm_traced : RuntimeCalm fun x => x.All (authorityRules.Keeps i fun _ => True) :=
  Runtime.calm_of_hosted fun _ ho _ hres => keeps_hosted ho hres

end

/-- The database has the row, at whatever state it is. -/
def HasRow (row : Dispatch) (w : World) : Prop := ∃ d ∈ w.db.dispatches, row.Kept d

/-- The database has a plan with the frame of the command. -/
def HasPlan (command : QmtCommand) (w : World) : Prop :=
  ∃ d ∈ w.db.dispatches, d.commandId = command.commandId ∧ encodeCommandFrame command = .ok d.frameBlob

theorem lasting_hasRow (row : Dispatch) : Lasting (HasRow row) := by
  rintro w w' hlater ⟨d,hd,hk⟩
  obtain ⟨d',hd',hk'⟩ := hlater.rows d hd
  exact ⟨d',hd',hk.trans hk'⟩

theorem lasting_hasPlan (command : QmtCommand) : Lasting (HasPlan command) := by
  rintro w w' hlater ⟨d,hd,hid,hframe⟩
  obtain ⟨d',hd',hk⟩ := hlater.rows d hd
  refine ⟨d',hd',?_⟩
  rw [hk.row]
  exact ⟨hid,hframe⟩

/-- The command that a row's frame decodes to is the one it is the plan of. -/
theorem HasRow.hasPlan {row : Dispatch} {w : World} {command : QmtCommand} (h : HasRow row w)
    (hi : Traced w) (hdecode : decodeCommandFrame row.frameBlob = .ok command) :
    HasPlan command w := by
  obtain ⟨d,hd,hk⟩ := h
  obtain ⟨c,hc⟩ := hi.plans d hd
  have hblob : d.frameBlob = row.frameBlob := by rw [hk.row]
  have hsame : c = command := by
    have hback := decode_encode hc.frame
    rw [hblob,hdecode,Except.ok.injEq] at hback
    exact hback.symm
  exact ⟨d,hd,hsame ▸ hc.id,hsame ▸ hc.frame⟩

namespace Runtime

section
variable {i : Nat} {w : World} {s : RuntimeState}

/-- Methods that make no reservation and publish nothing. -/
def Preserves {α : Type} (i : Nat) (x : Runtime α) : Prop :=
  x.All (authorityRules.Keeps i fun _ => True)

theorem Preserves.ok {α : Type} {x : Runtime α} (hx : Preserves i x) :
    authorityRules.Ok i x s (fun _ _ _ => True) w :=
  Rules.Ok.of_all lasting_true.stable hx trivial

/-- A method with any outcome, before one that starts from what is known. -/
theorem bind_known {α β : Type} {x : Runtime α} {f : α → Runtime β} {A : World → Prop}
    (hx : authorityRules.Ok i x s (fun _ _ _ => True) w) (hA : Lasting A)
    (hi : authorityRules.inv w) (hw : A w)
    (hf : ∀ a s w, authorityRules.inv w → A w → authorityRules.Ok i (f a) s (fun _ _ _ => True) w) :
    authorityRules.Ok i (x >>= f) s (fun _ _ _ => True) w := by
  refine Rules.Ok.bind hi (Rules.Ok.mono (Rules.Ok.frame (fun w w' => hA w w') (fun w w' => hA w w')
    hx hw) fun r s w hi hw => ?_)
  cases r with
  | error e => exact fun _ _ _ => trivial
  | ok a => exact hf a s w hi hw.2

theorem Preserves.bind {α β : Type} {x : Runtime α} {f : α → Runtime β} {A : World → Prop}
    (hx : Preserves i x) (hA : Lasting A) (hi : authorityRules.inv w) (hw : A w)
    (hf : ∀ a s w, authorityRules.inv w → A w → authorityRules.Ok i (f a) s (fun _ _ _ => True) w) :
    authorityRules.Ok i (x >>= f) s (fun _ _ _ => True) w := bind_known hx.ok hA hi hw hf

theorem preserves_txn {α : Type} {t : Guard → Txn α} (ht : ∀ g, (t g).hosted)
    (hres : ∀ g, (t g).reserves = false) : Preserves i (durable t) :=
  all_bind all_self fun _ => all_call (keeps_hosted (ht _) (hres _))

theorem setDispatchState_preserves (commandId : String) {state : DispatchState}
    (hs : state ≠ .planned) : Preserves i (setDispatchState commandId state) :=
  preserves_txn (fun _ => hs) fun _ => rfl

theorem failDispatchManualReview_preserves (command : QmtCommand) (eventType : String) :
    Preserves i (failDispatchManualReview command eventType) :=
  preserves_txn (fun _ => trivial) fun _ => rfl

theorem Preserves.seq {α β : Type} {x : Runtime α} {f : α → Runtime β} (hx : Preserves i x)
    (hf : ∀ a, Preserves i (f a)) : Preserves i (x >>= f) := all_bind hx hf

theorem ingestExecutionCommandResult_preserves (r : ExecutionCommandResult) :
    Preserves i (ingestExecutionCommandResult r) := by
  refine all_bind all_self fun s => ?_
  split
  · exact all_throw _
  · split
    · exact all_throw _
    · split
      · exact all_throw _
      · split
        · exact all_throw _
        · refine all_bind (all_ofExcept _) fun checked => all_bind
            (preserves_txn (fun _ => trivial) fun _ => rfl) fun _ =>
            all_bind (select_holds calm_traced _) fun row => ?_
          split
          · exact all_pure _
          · split
            · exact setDispatchState_preserves _ (by decide)
            · split
              · exact setDispatchState_preserves _ (by decide)
              · exact all_pure _

/-- The rename of a command that the database has a plan of. -/
theorem rename_traced {command : QmtCommand} {raw : Raw} {expiresMs nowMs : Int}
    (hraw : encodeCommandFrame command = .ok raw) :
    authorityRules.Keeps i (HasPlan command) (.renameTemp command.commandId raw expiresMs nowMs) := by
  intro w hi hw
  refine ⟨trivial,fun c _ => ?_⟩
  change Traced (exec (.renameTemp command.commandId raw expiresMs nowMs) c w).2 ∧
    Later w.db (exec (.renameTemp command.commandId raw expiresMs nowMs) c w).2.db ∧
    HasPlan command (exec (.renameTemp command.commandId raw expiresMs nowMs) c w).2
  cases hf : c.fault with
  | some e =>
    simp only [exec,hf]
    exact ⟨hi,.refl w.db,hw⟩
  | none =>
    simp only [exec,hf]
    refine ⟨⟨hi.wf,hi.plans,fun dir n content hfile => ?_,hi.calls⟩,.refl w.db,hw⟩
    change (w.spool.put .inbox command.commandId raw).lookup dir n = some content at hfile
    rw [Spool.lookup_put] at hfile
    split at hfile
    · rename_i heq
      cases hfile
      obtain ⟨d,hd,hid,hframe⟩ := hw
      exact ⟨d,hd,hid.trans heq.2.symm,Except.ok.inj (hframe.symm.trans hraw)⟩
    · exact hi.files dir n content hfile

theorem publish_traced (command : QmtCommand) (hi : authorityRules.inv w)
    (hw : HasPlan command w) :
    authorityRules.Ok i (publish command : Runtime Unit) s (fun _ _ _ => True) w := by
  have hknown := lasting_hasPlan command
  refine Rules.Ok.bind_ofExcept (fun _ _ _ _ => trivial) fun raw hraw => ?_
  refine Preserves.bind (nowMillis_holds calm_traced) hknown hi hw fun nowMs s w hi hw => ?_
  split
  · exact fun _ _ _ => trivial
  · refine Preserves.bind (findExisting_holds calm_traced _ _) hknown hi hw fun existing s w hi hw => ?_
    cases existing with
    | some dir =>
      refine Preserves.bind (calm_traced.call rfl) hknown hi hw fun content s w hi hw => ?_
      split
      · exact fun _ _ _ => trivial
      · exact fun _ _ _ => trivial
    | none =>
      refine Preserves.bind (calm_traced.call rfl) hknown hi hw fun _ s w hi hw => ?_
      exact Rules.Ok.of_all hknown.stable (all_call (rename_traced hraw)) hw |>.mono
        fun _ _ _ _ _ => trivial

theorem publishPlanned_traced {command : QmtCommand} (hi : authorityRules.inv w)
    (hw : HasPlan command w) :
    authorityRules.Ok i (publishPlanned command) s (fun _ _ _ => True) w := by
  refine Preserves.bind (nowMillis_holds calm_traced) (lasting_hasPlan command) hi hw
    fun nowMs s w hi hw => ?_
  split
  · exact (failDispatchManualReview_preserves command _).ok
  · refine bind_known (publish_traced command hi hw) lasting_true hi trivial fun _ s w hi _ => ?_
    exact ((setDispatchState_preserves _ (by decide)).seq fun _ =>
      beginReconciliation_holds calm_traced command).ok

theorem recoverDispatch_traced {row : Dispatch} (hi : authorityRules.inv w) (hw : HasRow row w) :
    authorityRules.Ok i (recoverDispatch row) s (fun _ _ _ => True) w := by
  refine Preserves.bind (assertLeader_holds calm_traced) (lasting_hasRow row) hi hw
    fun _ s w hi hw => Rules.Ok.bind_self ?_
  refine Rules.Ok.bind_ofExcept (fun _ _ _ _ => trivial) fun command hdecode => ?_
  have hplan : HasPlan command w := hw.hasPlan hi hdecode
  split
  · exact fun _ _ _ => trivial
  · refine Preserves.bind (locate_holds calm_traced command.commandId) (lasting_hasPlan command)
      hi hplan fun located s w hi hplan => ?_
    cases located with
    | none =>
      dsimp only
      split
      · exact publishPlanned_traced hi hplan
      · split
        · exact (failDispatchManualReview_preserves command _).ok
        · exact fun _ _ _ => trivial
    | some observed =>
      refine Preserves.bind (calm_traced.call (o := .readFile observed command.commandId) rfl)
        lasting_true hi trivial fun content s w hi _ => ?_
      split
      · exact fun _ _ _ => trivial
      · dsimp only
        split
        · exact ((setDispatchState_preserves _ (observedState_ne observed)).seq fun _ =>
            beginReconciliation_holds calm_traced command).ok
        · exact Preserves.ok (beginReconciliation_holds calm_traced command)

/-- A transaction without a reservation: what is known where it commits. -/
theorem txn_after {α : Type} {t : Txn α} {Q : Except PyError α → World → Prop} (ht : t.hosted)
    (hres : t.reserves = false) (hi : authorityRules.inv w) (herror : ∀ e, Q (.error e) w)
    (hok : ∀ now a db', t.body now w.db = .ok (a,db') → Q (.ok a) { w with db := db' }) :
    authorityRules.After i (.txn t) Q w := by
  refine ⟨trivial,fun c _ => ?_⟩
  obtain ⟨hinv,hlater⟩ := hosted_traced (o := .txn t) ht hres hi c
  refine ⟨hinv,hlater,?_⟩
  change Q (t.run c w.db).1 { w with db := (t.run c w.db).2 }
  obtain ⟨e,he⟩ | ⟨a,db',hb,he⟩ := t.run_cases c w.db
  · rw [he]
    exact herror e
  · rw [he]
    exact hok c.now a db' hb

/-- A query, before a method that knows what was true of its answer. -/
theorem bind_select {α β : Type} {q : Db → β} {f : β → Runtime α} {A : World → Prop}
    {B : β → World → Prop} (hA : Lasting A) (hw : A w) (hq : ∀ w, B (q w.db) w)
    (hf : ∀ b w, authorityRules.inv w → A w → B b w →
      authorityRules.Ok i (f b) s (fun _ _ _ => True) w) :
    authorityRules.Ok i (select q >>= f) s (fun _ _ _ => True) w := by
  refine Rules.Ok.bind_call (A := fun r w => A w ∧ ∀ b, r = .ok b → B b w) (fun u hu hi => ?_)
    (fun _ _ _ _ _ _ _ => trivial) fun b w hi hb => hf b w hi hb.1 (hb.2 b rfl)
  refine ⟨trivial,fun c _ => ⟨hi,.refl u.db,hA _ _ hu hw,fun b hb => ?_⟩⟩
  cases hb
  exact hq u

/-- A guarded transaction, before a method that knows what it has left. -/
theorem bind_durable {α β : Type} {t : Guard → Txn β} {f : β → Runtime α}
    {A : Except PyError β → World → Prop}
    (h : ∀ u, Later w.db u.db → Traced u → authorityRules.After i (.txn (t s.guard)) A u)
    (hf : ∀ b w, authorityRules.inv w → A (.ok b) w →
      authorityRules.Ok i (f b) s (fun _ _ _ => True) w) :
    authorityRules.Ok i (durable t >>= f) s (fun _ _ _ => True) w := by
  have hcall : authorityRules.Ok i (Proc.call (.txn (t s.guard)) >>= f) s (fun _ _ _ => True) w :=
    Rules.Ok.bind_call h (fun _ _ _ _ _ _ _ => trivial) hf
  exact hcall

theorem bind_nowMillis {α : Type} {f : Int → Runtime α} {A : World → Prop} (hA : Lasting A)
    (hw : A w) (hf : ∀ nowMs w, authorityRules.inv w → A w →
      authorityRules.Ok i (f nowMs) s (fun _ _ _ => True) w) :
    authorityRules.Ok i (nowMillis >>= f) s (fun _ _ _ => True) w := by
  have hask : authorityRules.Ok i (Proc.ask .clock >>= fun now => f ((now / 1000 : Nat) : Int)) s
      (fun _ _ _ => True) w :=
    Rules.Ok.bind_ask (fun u hu hi => hosted_after trivial rfl hA hi (hA _ _ hu hw))
      fun now w hi hw => hf _ w hi hw
  exact hask

/-- What a reservation returns is a row of the database. -/
def RowOf (r : Except PyError Dispatch) (w : World) : Prop := ∀ row, r = .ok row → HasRow row w

theorem lasting_rowOf (r : Except PyError Dispatch) : Lasting (RowOf r) :=
  fun w w' hlater h row hr => lasting_hasRow row w w' hlater (h row hr)

/-- The plan of a command that asks for its order. -/
theorem reserveAndPersistDispatch_traced {command : QmtCommand} {brokerOrderId : Option String}
    {cancel : Bool} (htype : command.commandType = if cancel then .cancelOrder else .submitLimit)
    (hw : command.Asks w.db s.session cancel) :
    authorityRules.Ok i (reserveAndPersistDispatch command brokerOrderId cancel) s
      (fun r _ w => RowOf r w) w := by
  refine Rules.Ok.bind_self (Rules.Ok.bind_ofExcept (fun e u _ _ row hrow => by cases hrow)
    fun raw hraw => Rules.Ok.bind_self ?_)
  refine Rules.Ok.call (fun r => (lasting_rowOf r).stable) fun u hu hi => ⟨trivial,fun c _ => ?_⟩
  have hasks : command.Asks u.db s.session cancel := hu.asks hw
  let t : Txn Dispatch := .reserveAndPersistDispatch s.guard s.session command brokerOrderId cancel raw
  have hsame : SameFiles u (exec (.txn t) c u).2 := ⟨rfl,rfl⟩
  have hwf := (exec_evolves (.txn t) c u).wf hi.wf
  change Traced (exec (.txn t) c u).2 ∧ Later u.db (exec (.txn t) c u).2.db ∧
    RowOf (t.run c u.db).1 (exec (.txn t) c u).2
  obtain ⟨e,he⟩ | ⟨row,db',hb,he⟩ := t.run_cases c u.db
  · have hdb : (exec (.txn t) c u).2.db = u.db := congrArg Prod.snd he
    have hlater : Later u.db (exec (.txn t) c u).2.db := by
      rw [hdb]
      exact .refl u.db
    have hplans : PlansOrdered (exec (.txn t) c u).2.db := by
      rw [hdb]
      exact hi.plans
    refine ⟨hi.later hsame hwf hlater hplans,hlater,fun row hrow => ?_⟩
    rw [he] at hrow
    cases hrow
  · have hdb : (exec (.txn t) c u).2.db = db' := congrArg Prod.snd he
    obtain ⟨hlater,hplans,hmem⟩ := hi.plans.reserve hi.wf hraw htype hasks hb
    rw [← hdb] at hlater hplans hmem
    refine ⟨hi.later hsame hwf hlater hplans,hlater,fun row' hrow => ?_⟩
    rw [he,Except.ok.injEq] at hrow
    exact ⟨row',hrow ▸ hmem,.refl row'⟩

/-- The reservation, the publication of its row, and nothing else that is not known. -/
theorem bind_plan {α : Type} {command : QmtCommand} {brokerOrderId : Option String}
    {cancel : Bool} {f : Dispatch → Runtime α}
    (htype : command.commandType = if cancel then .cancelOrder else .submitLimit)
    (hi : authorityRules.inv w) (hw : command.Asks w.db s.session cancel)
    (hf : ∀ row s w, authorityRules.inv w → HasRow row w →
      authorityRules.Ok i (f row) s (fun _ _ _ => True) w) :
    authorityRules.Ok i (reserveAndPersistDispatch command brokerOrderId cancel >>= f) s
      (fun _ _ _ => True) w := by
  refine Rules.Ok.bind hi (Rules.Ok.mono (reserveAndPersistDispatch_traced htype hw)
    fun r s w hi hr => ?_)
  cases r with
  | error e => exact fun _ _ _ => trivial
  | ok row => exact hf row s w hi (hr row rfl)

theorem recovered_status {k : OrderKey} {row : Dispatch} (hi : authorityRules.inv w)
    (hw : HasRow row w) : authorityRules.Ok i (recoverDispatch row >>= fun _ => getStatus k) s
      (fun _ _ _ => True) w :=
  Rules.Ok.seq lasting_true.stable hi (recoverDispatch_traced hi hw) fun _ _ _ _ _ =>
    Preserves.ok (getStatus_holds calm_traced k)

theorem createIntentInTx_intent {intent : OrderIntent} {db db' : Db} {u : Unit}
    (h : createIntentInTx intent db = .ok (u,db')) :
    db'.intent? intent.key = some intent.toIntentColumns := by
  simp only [createIntentInTx,Transact.Tx.bind_eq_ok,Transact.Tx.attempt_eq_ok,
    Transact.Tx.raiseIf_eq_ok,insertOrder_eq_ok,insertEvent_eq_ok] at h
  obtain ⟨res,t,hins,_,_,⟨hok,rfl⟩,_,_,⟨hi,hn,rfl⟩,-,rfl⟩ := h
  obtain ⟨_,rfl,hins⟩ | ⟨_,rfl,-,-⟩ := hins
  · obtain ⟨hnone,-,rfl⟩ := insertIntent_eq_ok.mp hins
    exact Keyed.find_append_self hnone
  · simp at hok

theorem buildSubmitCommand_asks {intent : OrderIntent} {command : QmtCommand}
    (h : buildSubmitCommand s intent = .ok command)
    (haccount : intent.key.accountFingerprint = s.account)
    (hw : w.db.intent? intent.key = some intent.toIntentColumns) :
    command.Asks w.db s.session false := by
  cases ht : brokerTokenFor s.account intent.key.clientOrderId with
  | error e => simp [buildSubmitCommand,ht,bind,Except.bind] at h
  | ok token =>
    simp only [buildSubmitCommand,ht,bind,Except.bind,pure,Except.pure,Except.ok.injEq] at h
    subst h
    have hkey : (⟨s.account,intent.key.clientOrderId⟩ : OrderKey) = intent.key := by rw [← haccount]
    refine ⟨intent,?_,rfl⟩
    change w.db.intent? ⟨s.account,intent.key.clientOrderId⟩ = _
    rw [hkey]
    exact hw

theorem buildCancelCommand_asks {clientOrderId brokerOrderId : String} {nowMs : Int}
    {command : QmtCommand} {order : BrokerOrder}
    (h : buildCancelCommand s clientOrderId brokerOrderId nowMs = .ok command)
    (hw : w.db.order? (s.key clientOrderId) = some order)
    (hid : order.brokerOrderId = some brokerOrderId) : command.Asks w.db s.session true := by
  cases ht : brokerTokenFor s.account clientOrderId with
  | error e => simp [buildCancelCommand,ht,bind,Except.bind] at h
  | ok token =>
    simp only [buildCancelCommand,ht,bind,Except.bind,pure,Except.pure,Except.ok.injEq] at h
    subst h
    exact ⟨order,brokerOrderId,hw,hid,rfl⟩

/-- The database has the intent. -/
def HasIntent (intent : OrderIntent) (w : World) : Prop :=
  w.db.intent? intent.key = some intent.toIntentColumns

theorem lasting_hasIntent (intent : OrderIntent) : Lasting (HasIntent intent) :=
  fun _ _ hlater h => hlater.intents _ _ h

/-- A row that a query finds is a row of the database. -/
theorem found_hasRow {p : Dispatch → Bool} (w : World) (row : Dispatch)
    (h : w.db.dispatches.find? p = some row) : HasRow row w :=
  ⟨row,List.mem_of_find?_eq_some h,.refl row⟩

theorem executeIntent_traced (intent : OrderIntent) (hi : authorityRules.inv w) :
    authorityRules.Ok i (executeIntent intent) s (fun _ _ _ => True) w := by
  refine Preserves.bind (assertLeader_holds calm_traced) lasting_true hi trivial
    fun _ s w hi _ => Preserves.bind calm_traced.maintain lasting_true hi trivial
    fun _ s w hi _ => Rules.Ok.bind_self ?_
  split
  · exact fun _ _ _ => trivial
  · rename_i haccount
    refine Rules.Ok.bind_ask (fun u _ hi => hosted_after trivial rfl lasting_true hi trivial)
      fun now w hi _ => ?_
    refine bind_select (B := fun existing w => ∀ row, existing = some row → HasRow row w)
      lasting_true trivial (fun w row hrow => found_hasRow w row hrow) fun existing w hi _ hexisting => ?_
    cases existing with
    | some row =>
      refine Rules.Ok.bind_ofExcept (fun _ _ _ _ => trivial) fun command _ =>
        Rules.Ok.bind_ofExcept (fun _ _ _ _ => trivial) fun raw _ => ?_
      split
      · exact fun _ _ _ => trivial
      · exact recovered_status hi (hexisting row rfl)
    | none =>
      refine bind_durable (A := fun r w => r = .ok () → HasIntent intent w)
        (fun u _ hu => txn_after trivial rfl hu (fun e he => by cases he) fun now a db' hb _ =>
          createIntentInTx_intent (guarded_ok.mp hb).2) fun _ w hi hintent => ?_
      refine bind_durable (A := fun _ w => HasIntent intent w) (fun u hu hi =>
        hosted_after trivial rfl (lasting_hasIntent intent) hi
          (lasting_hasIntent intent _ _ hu (hintent rfl))) fun _ w hi hintent => ?_
      refine Rules.Ok.bind_ofExcept (fun _ _ _ _ => trivial) fun command hcommand => ?_
      refine bind_plan (buildSubmitCommand_type hcommand) hi
        (buildSubmitCommand_asks hcommand (not_not.mp haccount) hintent) fun row s w hi hrow => ?_
      exact Preserves.bind (registerOrder_holds calm_traced _ _ _) (lasting_hasRow row) hi hrow
        fun _ s w hi hrow => recovered_status hi hrow

/-- The order that `cancel_intent` reads. -/
def HasOrder (k : OrderKey) (order : BrokerOrder) (w : World) : Prop :=
  ∃ r, w.db.order? k = some r ∧ Advances order r

theorem lasting_hasOrder (k : OrderKey) (order : BrokerOrder) : Lasting (HasOrder k order) := by
  rintro w w' hlater ⟨r,hr,hadv⟩
  obtain ⟨r',hr',hadv'⟩ := hlater.orders k r hr
  exact ⟨r',hr',hadv.trans hadv'⟩

theorem cancelIntent_traced (clientOrderId : String) (hi : authorityRules.inv w) :
    authorityRules.Ok i (cancelIntent clientOrderId) s (fun _ _ _ => True) w := by
  refine Preserves.bind (assertLeader_holds calm_traced) lasting_true hi trivial
    fun _ s w hi _ => Preserves.bind calm_traced.maintain lasting_true hi trivial
    fun _ s w hi _ => Rules.Ok.bind_self ?_
  refine Rules.Ok.bind_call (A := fun r w => ∀ order, r = .ok order →
    HasOrder (s.key clientOrderId) order w) (fun u _ hu => ⟨trivial,fun c _ => ⟨hu,.refl u.db,?_⟩⟩)
    (fun _ _ _ _ _ _ _ => trivial) fun order w hi horder => ?_
  · intro order horder
    simp only [authorityRules,exec] at horder
    cases hrow : u.db.order? (s.key clientOrderId) with
    | none => simp [hrow] at horder
    | some row =>
      simp only [hrow,Except.ok.injEq] at horder
      exact ⟨row,hrow,horder ▸ .refl row⟩
  · split
    · exact Rules.Ok.pure fun _ _ _ => trivial
    · refine bind_select (B := fun existing w => (∀ row, existing = some row → HasRow row w))
        (lasting_hasOrder (s.key clientOrderId) order) (horder order rfl)
        (fun w row hrow => found_hasRow w row hrow) fun existing w hi horder hexisting => ?_
      cases existing with
      | some row => exact recovered_status hi (hexisting row rfl)
      | none =>
        dsimp only
        split
        · exact fun _ _ _ => trivial
        · cases hid : order.brokerOrderId.filter (fun b => decide (b ≠ "")) with
          | none => exact fun _ _ _ => trivial
          | some brokerOrderId =>
            have hstored : order.brokerOrderId = some brokerOrderId := (Option.filter_eq_some_iff.mp hid).1
            refine bind_nowMillis (lasting_hasOrder (s.key clientOrderId) order) horder
              fun nowMs w hi horder => ?_
            refine Rules.Ok.bind_ofExcept (fun _ _ _ _ => trivial) fun command hcommand => ?_
            obtain ⟨r,hr,hadv⟩ := horder
            have hasks := buildCancelCommand_asks hcommand hr (hadv.brokerId _ hstored)
            exact bind_plan (buildCancelCommand_type hcommand) hi hasks
              fun row s w hi hrow => recovered_status hi hrow

theorem recoverDispatches_traced (hi : authorityRules.inv w) :
    authorityRules.Ok i recoverDispatches s (fun _ _ _ => True) w := by
  refine Preserves.bind (assertLeader_holds calm_traced) lasting_true hi trivial
    fun _ s w hi _ => Rules.Ok.bind_self ?_
  refine bind_select (B := fun rows w => ∀ row ∈ rows, HasRow row w) lasting_true trivial
    (fun w row hrow => ?_) fun rows w hi _ hrows => ?_
  · rw [List.mem_insertionSort,List.mem_filter] at hrow
    exact ⟨row,hrow.1,.refl row⟩
  · have hlast : Lasting fun w => ∀ row ∈ rows, HasRow row w :=
      fun w w' hlater h row hrow => lasting_hasRow row w w' hlater (h row hrow)
    refine Rules.Ok.mono (Rules.Ok.each hlast.stable (fun row hrow s w hi hw => ?_) hi hrows)
      fun _ _ _ _ _ => trivial
    exact Rules.Ok.mono (Rules.Ok.frame (fun w w' => hlast w w') (fun w w' => hlast w w')
      (recoverDispatch_traced hi (hw row hrow)) hw) fun _ _ _ _ h => h.2

theorem discard_traced {α : Type} {x : Runtime α} (hi : authorityRules.inv w)
    (hx : authorityRules.Ok i x s (fun _ _ _ => True) w) :
    authorityRules.Ok i (discard x) s (fun _ _ _ => True) w :=
  bind_known hx lasting_true hi trivial fun _ _ _ _ _ _ _ _ => trivial

theorem perform_traced (op : Op) (hi : authorityRules.inv w) :
    authorityRules.Ok i op.perform s (fun _ _ _ => True) w := by
  refine Rules.Ok.tryCatch_all lasting_true.stable hi ?_ fun _ _ _ _ _ _ _ _ => trivial
  cases op with
  | executeIntent intent => exact discard_traced hi (executeIntent_traced intent hi)
  | cancelIntent clientOrderId => exact discard_traced hi (cancelIntent_traced clientOrderId hi)
  | ingestBrokerEvidence e =>
    exact discard_traced hi (Preserves.ok (ingestBrokerEvidence_holds calm_traced e))
  | ingestExecutionCommandResult r => exact (ingestExecutionCommandResult_preserves r).ok
  | recoverDispatches => exact recoverDispatches_traced hi
  | refreshIdentities => exact Preserves.ok (refreshIdentities_holds calm_traced)
  | maintain => exact Preserves.ok calm_traced.maintain
  | close => exact Preserves.ok calm_traced.close

theorem serve_traced (ops : List Op) (hi : authorityRules.inv w) :
    authorityRules.Ok i (serve ops) s (fun _ _ _ => True) w := by
  have hinit : authorityRules.Ok i initialise s (fun _ _ _ => True) w :=
    Preserves.bind (restorePersistedIdentities_holds calm_traced) lasting_true hi trivial fun _ _ _ hi _ =>
    Preserves.bind (refreshIdentities_holds calm_traced) lasting_true hi trivial fun _ _ _ hi _ =>
    Preserves.bind (restoreDispatchPlanIdentities_holds calm_traced) lasting_true hi trivial fun _ _ _ hi _ =>
    Preserves.bind (validateDispatchInvariants_holds calm_traced) lasting_true hi trivial fun _ _ _ hi _ =>
    recoverDispatches_traced hi
  refine bind_known (Rules.Ok.tryCatch_all lasting_true.stable hi hinit fun e s w hi _ =>
    Preserves.ok (calm_traced.bind calm_traced.close fun _ => calm_traced.throw e)) lasting_true hi trivial
    fun _ s w hi _ => ?_
  exact Rules.Ok.each lasting_true.stable (fun op _ s w hi _ => perform_traced op hi) hi trivial

theorem process_traced (inst : QmtInstance) (ops : List Op) (hi : authorityRules.inv w) :
    authorityRules.Wp i (fun _ _ => True) (process inst ops) w := by
  have hconstruct : (construct inst ()).All (authorityRules.Keeps i fun _ => True) :=
    construct_all (fun _ ho _ hres => keeps_hosted ho hres) inst ()
  refine Rules.Wp.bind hi (Rules.Wp.mono (Rules.Wp.of_all lasting_true.stable hconstruct trivial)
    fun r w hi _ => ?_)
  rcases r with ⟨e | s,u⟩
  · exact fun _ _ _ => trivial
  · exact Rules.Wp.bind hi (Rules.Wp.mono (serve_traced ops hi) fun _ _ _ _ _ _ _ => trivial)

end
end Runtime
end BigQmt
