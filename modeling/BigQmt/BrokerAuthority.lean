import BigQmt.Authority
import BigQmt.BridgeLife
set_option autoImplicit false

/-!
The Bridge's side of a broker call, and what holds of every call of any Hosts and Bridges:
it is the one that a durable plan is for.
-/

namespace BigQmt

open Resumption Proc

/-- The command that the Bridge has read is the one of a plan, for its own account. -/
def Carried (account : String) (command : Bridge.Command) (w : World) : Prop :=
  ∃ d ∈ w.db.dispatches, ∃ c : QmtCommand, d.Carries w.db c ∧ account = c.accountFingerprint ∧
    command =
      ⟨c.commandId,c.commandType,c.expiresMs,c.accountFingerprint,c.brokerToken,c.payload⟩

theorem lasting_carried (account : String) (command : Bridge.Command) :
    Lasting (Carried account command) := by
  rintro w w' hlater ⟨d,hd,c,hc,haccount,hcommand⟩
  obtain ⟨d',hd',hk⟩ := hlater.rows d hd
  exact ⟨d',hd',c,hk.carries hlater hc,haccount,hcommand⟩

namespace Bridge

section
variable {i : Nat} {w : World} {s : BridgeState}

theorem idle_traced {β : Type} (o : Eff β) (ho : o.idle = true) :
    authorityRules.Keeps i (fun _ => True) o := by
  intro w hi _
  refine ⟨trivial,fun c _ => ?_⟩
  have hdb : (exec o c w).2.db = w.db := exec_silent (Eff.silent_of_idle ho) c w
  have hlater : Later w.db (exec o c w).2.db := by
    rw [hdb]
    exact .refl w.db
  have hwf : (exec o c w).2.db.Wf := by
    rw [hdb]
    exact hi.wf
  have hplans : PlansOrdered (exec o c w).2.db := by
    rw [hdb]
    exact hi.plans
  exact ⟨hi.later (exec_still (Eff.still_of_idle ho) c w) hwf hlater hplans,hlater,trivial⟩

/-- A file keeps its name and its content wherever it goes. -/
theorem move_traced {source target : SpoolDir} (name : String) (hne : source ≠ target) :
    authorityRules.Keeps i (fun _ => True) (.move source target name) := by
  intro w hi _
  refine ⟨trivial,fun c _ => ?_⟩
  change Traced (exec (.move source target name) c w).2 ∧
    Later w.db (exec (.move source target name) c w).2.db ∧ True
  cases hf : c.fault with
  | some e =>
    simp only [exec,hf]
    exact ⟨hi,.refl w.db,trivial⟩
  | none =>
    cases hm : w.spool.move source target name with
    | none =>
      simp only [exec,hf,hm]
      exact ⟨hi,.refl w.db,trivial⟩
    | some spool =>
      simp only [exec,hf,hm]
      refine ⟨⟨hi.wf,hi.plans,fun dir n raw hfile => ?_,hi.calls⟩,.refl w.db,trivial⟩
      change spool.lookup dir n = some raw at hfile
      rw [Spool.lookup_move hm hne] at hfile
      split at hfile
      · rename_i heq
        split at hfile
        · exact hi.files source n raw (heq ▸ hfile)
        · split at hfile
          · cases hfile
          · exact hi.files dir n raw (heq ▸ hfile)
      · exact hi.files dir n raw hfile

theorem claimed_traced (name : String) (target : SpoolDir)
    (ht : SpoolDir.claimed.rank < target.rank) :
    authorityRules.Keeps i (fun _ => True) (.move .claimed target name) := by
  refine move_traced name fun heq => ?_
  rw [← heq] at ht
  omega

theorem traced_ok {α : Type} {x : Bridge α} (hx : x.All (authorityRules.Keeps i fun _ => True)) :
    authorityRules.Ok i x s (fun _ _ _ => True) w :=
  Rules.Ok.of_all lasting_true.stable hx trivial

/-- The call that an order command leads to, once all its checks have passed. -/
theorem broker_traced {β : Type} {call : BrokerCall} {f : Bool → Bridge β}
    (hcall : ∀ u : World, Later w.db u.db → call.Authorised u.db)
    (hf : ∀ sent, (f sent).All (authorityRules.Keeps i fun _ => True)) :
    authorityRules.Ok i (Proc.call (.broker call) >>= f) s (fun _ _ _ => True) w := by
  refine Rules.Ok.bind_call (A := fun _ _ => True) (fun u hu hi => ⟨trivial,fun c _ => ?_⟩)
    (fun _ _ _ _ _ _ _ => trivial) fun sent w _ _ => traced_ok (hf sent)
  refine ⟨⟨hi.wf,hi.plans,hi.files,fun made hmade => ?_⟩,.refl u.db,trivial⟩
  change made ∈ u.brokerCalls ++ [call] at hmade
  rw [List.mem_append,List.mem_singleton] at hmade
  rcases hmade with hold | rfl
  · exact hi.calls made hold
  · exact hcall u hu

/-- What the gate and the authorization have checked before an order command runs. -/
structure Cleared (s : BridgeState) (command : Command) (checkedMs : Int) : Prop where
  account : s.accountFingerprint = authorizedAccountFingerprint
  session : command.payload.get "expected_qmt_session_id" = some (.text s.sessionId)
  unexpired : checkedMs < command.expiresMs

variable {command : Command} {checkedMs : Int}

/-- The plan of a command that is cleared covers a call with the arguments of the plan. -/
theorem Cleared.authorised (h : Cleared s command checkedMs)
    (hc : Carried s.accountFingerprint command w) {api : BrokerApi}
    (hasks : ∀ d ∈ w.db.dispatches, ∀ c : QmtCommand, d.Carries w.db c →
      command.payload = c.payload → command.commandType = c.commandType →
      command.brokerToken = c.brokerToken → d.AsksFor w.db api) :
    (brokerCall s command checkedMs api).Authorised w.db := by
  obtain ⟨d,hd,c,hcarries,haccount,rfl⟩ := hc
  refine ⟨haccount.symm.trans h.account,haccount,h.session,h.unexpired,d,hd,hcarries.id,?_,?_,
    hcarries.expires,hasks d hd c hcarries rfl rfl rfl⟩
  · rw [hcarries.key]
    rfl
  · have hsession : c.payload.get "expected_qmt_session_id" = some (.text d.qmtSessionId) := by
      have horder := hcarries.order
      unfold QmtCommand.Ordered at horder
      split at horder
      · obtain ⟨intent,r,-,-,-,hpayload⟩ := horder
        rw [hpayload]
        rfl
      · obtain ⟨r,b,-,-,-,hpayload⟩ := horder
        rw [hpayload]
        rfl
      · exact horder.elim
    have hsame : d.qmtSessionId = s.sessionId := by simpa using hsession.symm.trans h.session
    exact hsame

theorem brokerToken_of_carries {db : Db} {d : Dispatch} {c : QmtCommand} (hc : d.Carries db c)
    (hkind : c.commandType ≠ .requestSnapshot) : d.brokerToken = some (c.brokerToken.getD "") := by
  obtain ⟨hvalid,-,-⟩ := encodeCommandFrame_ok hc.frame
  obtain ⟨clientOrderId,-,-,htoken⟩ := (identified_of_validate hvalid).order hkind
  rw [hc.token,htoken]
  rfl

/-- The arguments that a submit reads in its payload are those of the intent. -/
theorem submit_asksFor {db : Db} {d : Dispatch} {c : QmtCommand} (hc : d.Carries db c)
    (hkind : c.commandType = .submitLimit) {symbol : String}
    (hsymbol : simulationOrderSymbol (c.payload.get "symbol") = some symbol)
    (hquantity : (c.payload.numAt "quantity").any
      (fun q => 0 < q && q ≤ simulationMaxOrderQuantity) = true) :
    d.AsksFor db (.passorder (if c.payload.textAt "side" = some "BUY" then 23 else 24) symbol
      ((c.payload.get "limit_price").getD .null) ((c.payload.numAt "quantity").getD 0)
      (c.brokerToken.getD "")) := by
  have horder := hc.order
  unfold QmtCommand.Ordered at horder
  rw [hkind] at horder
  obtain ⟨intent,r,hi,hr,hsub,hpayload⟩ := horder
  rw [← hc.key] at hi hr
  have hq : c.payload.numAt "quantity" = some intent.quantity := by
    rw [hpayload]
    rfl
  have hs : simulationOrderSymbol (some (.text intent.symbol)) = some symbol := by
    rw [hpayload] at hsymbol
    exact hsymbol
  have hside : c.payload.textAt "side" = some intent.side.value := by
    rw [hpayload]
    rfl
  have hprice : c.payload.get "limit_price" = some (.text intent.limitPrice) := by
    rw [hpayload]
    rfl
  rw [hq] at hquantity
  have hbounds : 0 < intent.quantity ∧ intent.quantity ≤ simulationMaxOrderQuantity := by
    simpa using hquantity
  have hsame : symbol = intent.symbol := by
    unfold simulationOrderSymbol at hs
    have htext := (Option.filter_eq_some_iff.mp hs).1
    simpa [Json.str] using htext.symm
  rw [hq,hside,hprice]
  refine ⟨hc.kind.trans hkind,brokerToken_of_carries hc (by simp [hkind]),intent.toIntentColumns,r,hi,
    hr,hsub,?_,hsame,rfl,rfl,hbounds⟩
  cases intent.side <;> rfl

theorem cancel_asksFor {db : Db} {d : Dispatch} {c : QmtCommand} (hc : d.Carries db c)
    (hkind : c.commandType = .cancelOrder) :
    d.AsksFor db (.cancel ((c.payload.textAt "broker_order_id").getD "")) := by
  have horder := hc.order
  unfold QmtCommand.Ordered at horder
  rw [hkind] at horder
  obtain ⟨r,brokerOrderId,hr,hcan,hid,hpayload⟩ := horder
  rw [← hc.key] at hr
  refine ⟨hc.kind.trans hkind,r,hr,hcan,?_⟩
  rw [hid,hpayload]
  rfl

theorem executeSubmit_traced (h : Cleared s command checkedMs)
    (hc : Carried s.accountFingerprint command w) (hkind : command.commandType = .submitLimit) :
    authorityRules.Ok i (executeSubmit command checkedMs) s (fun _ _ _ => True) w := by
  refine Rules.Ok.bind_self ?_
  dsimp only
  split
  · exact fun _ _ _ => trivial
  · split
    · exact fun _ _ _ => trivial
    · split
      · exact fun _ _ _ => trivial
      · rename_i symbol side quantity hsymbol
        split
        · exact fun _ _ _ => trivial
        · split
          · exact fun _ _ _ => trivial
          · rename_i hquantity
            split
            · exact fun _ _ _ => trivial
            · refine broker_traced (fun u hu => ?_) fun _ => all_bind (all_update _) fun _ => all_pure _
              refine h.authorised (lasting_carried _ _ w u hu hc) fun d hd c hcarries hpayload htype
                htoken => ?_
              rw [htype] at hkind
              rw [hpayload] at hsymbol hquantity ⊢
              rw [htoken]
              exact submit_asksFor hcarries hkind hsymbol (by simpa using hquantity)

/-- A request of the Bridge that leaves the world alone keeps what is known. -/
theorem idle_after {β : Type} {o : Eff β} {A : World → Prop} (ho : o.idle = true) (hA : Lasting A)
    (hi : authorityRules.inv w) (hw : A w) : authorityRules.After i o (fun _ w => A w) w := by
  have hkeeps : authorityRules.Keeps i (fun _ => True) o := idle_traced o ho
  refine ⟨trivial,fun c hc => ?_⟩
  obtain ⟨hinv,hlater,-⟩ := (hkeeps w hi trivial).2 c hc
  exact ⟨hinv,hlater,hA _ _ hlater hw⟩

/-- The target of a cancel is the order that the command names. -/
theorem cancelTarget_traced : authorityRules.Ok i (cancelTarget command) s (fun r s' _ => s' = s ∧
    ∀ b, r = .ok b → b = (command.payload.textAt "broker_order_id").getD "") w := by
  refine Rules.Ok.bind_call (fun u _ hi => idle_after rfl lasting_true hi trivial)
    (fun _ _ _ _ _ _ _ => ⟨rfl,by simp⟩) fun rows w hi _ => ?_
  cases rows with
  | none => exact fun _ _ _ => ⟨rfl,by simp⟩
  | some rows =>
    dsimp only
    split
    · exact fun _ _ _ => ⟨rfl,by simp⟩
    · exact fun _ _ _ => ⟨rfl,fun b hb => (Except.ok.inj hb).symm⟩

theorem executeCancel_traced (hi : authorityRules.inv w) (h : Cleared s command checkedMs)
    (hc : Carried s.accountFingerprint command w) (hkind : command.commandType = .cancelOrder) :
    authorityRules.Ok i (executeCancel command checkedMs) s (fun _ _ _ => True) w := by
  have hlast := lasting_carried s.accountFingerprint command
  refine Rules.Ok.bind_self ?_
  split
  · exact fun _ _ _ => trivial
  · refine Rules.Ok.bind hi (Rules.Ok.mono (Rules.Ok.frame (fun w w' => hlast w w')
      (fun w w' => hlast w w') cancelTarget_traced hc) fun r s' w hi hr => ?_)
    obtain ⟨⟨rfl,htarget⟩,hc⟩ := hr
    cases r with
    | error e => exact fun _ _ _ => trivial
    | ok brokerOrderId =>
      refine Rules.Ok.bind_call (fun u hu hi => idle_after rfl hlast hi (hlast _ _ hu hc))
        (fun _ _ _ _ _ _ _ => trivial) fun cancellable w hi hc => ?_
      split
      · exact fun _ _ _ => trivial
      · refine broker_traced (fun u hu => ?_) fun _ => all_bind (all_update _) fun _ => all_pure _
        refine h.authorised (lasting_carried _ _ w u hu hc) fun d hd c hcarries hpayload htype _ => ?_
        rw [htarget brokerOrderId rfl,hpayload]
        exact cancel_asksFor hcarries (htype ▸ hkind)

theorem executeOrderCommand_traced (hi : authorityRules.inv w)
    (hc : Carried s.accountFingerprint command w) (hunexpired : checkedMs < command.expiresMs) :
    authorityRules.Ok i (executeOrderCommand command checkedMs) s (fun _ _ _ => True) w := by
  refine Rules.Ok.bind_self ?_
  split
  · exact fun _ _ _ => trivial
  · rename_i hgate
    split
    · exact fun _ _ _ => trivial
    · rename_i hsession
      have hcleared : Cleared s command checkedMs :=
        ⟨not_not.mp fun h => hgate (.inl h),not_not.mp fun h => hsession (.inr h),hunexpired⟩
      split
      · rename_i hkind
        exact executeSubmit_traced hcleared hc hkind
      · rename_i hkind
        exact executeCancel_traced hi hcleared hc hkind
      · exact fun _ _ _ => trivial

theorem attempt_traced {α : Type} {x : Bridge α} (hi : authorityRules.inv w)
    (hx : authorityRules.Ok i x s (fun _ _ _ => True) w) :
    authorityRules.Ok i (attempt x) s (fun _ _ _ => True) w :=
  Rules.Ok.tryCatch_all lasting_true.stable hi (Rules.Ok.seq lasting_true.stable hi hx
    fun _ _ _ _ _ _ _ _ => trivial) fun _ _ _ _ _ _ _ _ => trivial

theorem processOrderCommand_traced (name : String) (hi : authorityRules.inv w)
    (hc : Carried s.accountFingerprint command w) (hunexpired : checkedMs < command.expiresMs) :
    authorityRules.Ok i (processOrderCommand command name checkedMs) s (fun _ _ _ => True) w := by
  refine Rules.Ok.seq lasting_true.stable hi
    (attempt_traced hi (executeOrderCommand_traced hi hc hunexpired)) fun outcome s w hi _ => ?_
  have hfinish := fun (target : SpoolDir) (status : String) (live : Bool)
    (ht : SpoolDir.claimed.rank < target.rank) => traced_ok (s := s) (w := w) (i := i)
      (finish_moves idle_traced (claimed_traced name) command status live ht)
  cases outcome with
  | ok result => exact hfinish _ _ _ (by decide)
  | error e =>
    dsimp only
    split
    · exact hfinish _ _ _ (by decide)
    · exact hfinish _ _ _ (by decide)

/-- What the Bridge reads in a claimed file is the command of a plan. -/
theorem readClaimed_traced (name : String) : authorityRules.Ok i (readClaimed name) s
    (fun r s' w => s' = s ∧ ∀ command, r = .ok command → Carried s.accountFingerprint command w) w := by
  refine Rules.Ok.bind_self ?_
  refine Rules.Ok.bind_call (A := fun r w => ∀ raw, r = .ok raw → ∃ d ∈ w.db.dispatches, d.frameBlob = raw)
    (fun u _ hi => ?_) (fun _ _ _ _ _ _ _ => ⟨rfl,by simp⟩) fun raw w hi hraw => ?_
  · have hread : authorityRules.After i (.readFile .claimed name) (fun _ _ => True) u :=
      idle_after rfl lasting_true hi trivial
    refine ⟨trivial,fun c hc => ?_⟩
    obtain ⟨hinv,hlater,-⟩ := hread.2 c hc
    refine ⟨hinv,hlater,fun raw hraw => ?_⟩
    change (exec (.readFile .claimed name) c u).1 = .ok raw at hraw
    change ∃ d ∈ (exec (.readFile .claimed name) c u).2.db.dispatches, d.frameBlob = raw
    cases hlookup : u.spool.lookup .claimed name with
    | none => simp [exec,hlookup] at hraw
    | some content =>
      have hcontent : content = raw := by
        simp only [exec,hlookup,answer] at hraw
        split at hraw
        · exact Except.ok.inj hraw
        · cases hraw
      obtain ⟨d,hd,-,hframe⟩ := hi.files .claimed name content hlookup
      simp only [exec,hlookup]
      exact ⟨d,hd,hframe.trans hcontent⟩
  · obtain ⟨d,hd,hframe⟩ := hraw raw rfl
    obtain ⟨c,hc⟩ := hi.plans d hd
    cases hread : readCommandFrame s.accountFingerprint raw with
    | error e => exact fun _ _ _ => ⟨rfl,by simp⟩
    | ok command =>
      have hcarried : Carried s.accountFingerprint command w := by
        obtain ⟨haccount,hcommand⟩ := readCommandFrame_encoded (hframe ▸ hc.frame) hread
        exact ⟨d,hd,c,hc,haccount,hcommand⟩
      refine Rules.Ok.pure fun u hu _ => ⟨rfl,fun command' heq => ?_⟩
      cases heq
      exact lasting_carried _ _ _ _ hu hcarried

theorem processClaimed_traced (name : String) (hi : authorityRules.inv w) :
    authorityRules.Ok i (processClaimed name) s (fun _ _ _ => True) w := by
  have hstable : ∀ (r : Except PyError Command) (s' : BridgeState), authorityRules.Stable i fun w =>
      s' = s ∧ ∀ command, r = .ok command → Carried s.accountFingerprint command w :=
    fun r s' w w' hrely _ h => ⟨h.1,fun command hr => lasting_carried _ _ w w' hrely (h.2 command hr)⟩
  refine Rules.Ok.bind hi (Rules.Ok.mono (attempt_ok hstable hi (readClaimed_traced name))
    fun r s' w hi hr => ?_)
  obtain ⟨decoded,rfl,rfl,hcarried⟩ := hr
  cases decoded with
  | error e => exact traced_ok (rejectClaimed_moves idle_traced (claimed_traced name))
  | ok command =>
    have hlast := lasting_carried s'.accountFingerprint command
    have hnow : authorityRules.Ok i (nowMillis : Bridge Int) s' (fun _ s₁ w => s₁ = s' ∧
        Carried s'.accountFingerprint command w) w :=
      Rules.Ok.bind_ask (fun u hu hi => idle_after rfl hlast hi (hlast _ _ hu (hcarried command rfl)))
        fun now w _ hc u hu _ => ⟨rfl,hlast _ _ hu hc⟩
    refine Rules.Ok.bind hi (Rules.Ok.mono hnow fun r s₁ w hi hr => ?_)
    obtain ⟨rfl,hc⟩ := hr
    cases r with
    | error e => exact fun _ _ _ => trivial
    | ok nowMs =>
      dsimp only
      split
      · exact traced_ok (finish_moves idle_traced (claimed_traced name) _ _ _ (by decide))
      · rename_i hlive
        split
        · exact traced_ok (processSnapshotRequest_moves idle_traced (claimed_traced name) _)
        · exact processOrderCommand_traced name hi hc (by omega)

theorem claim_traced (name : String) (hi : authorityRules.inv w) :
    authorityRules.Ok i (claim name) s (fun _ _ _ => True) w := by
  have hmove : authorityRules.Keeps i (fun _ => True) (.move .inbox .claimed name) :=
    move_traced name (by decide)
  refine Rules.Ok.tryCatch_all lasting_true.stable hi ?_ fun e s w hi _ =>
    traced_ok (abandon_moves idle_traced name (claimed_traced name _ (by decide)))
  refine Rules.Ok.bind_all lasting_true.stable (all_ask (idle_traced _ rfl)) hi trivial
    fun taken s w hi _ => ?_
  split
  · exact traced_ok (all_pure _)
  · exact Rules.Ok.bind_all lasting_true.stable (all_call hmove) hi trivial
      fun _ s w hi _ => processClaimed_traced name hi

theorem drainCommandInbox_traced (hi : authorityRules.inv w) :
    authorityRules.Ok i drainCommandInbox s (fun _ _ _ => True) w := by
  refine Rules.Ok.bind_all lasting_true.stable (recoverOrphanedClaims_moves idle_traced fun name =>
    claimed_traced name _ (by decide)) hi trivial fun _ s w hi _ =>
    Rules.Ok.bind_all lasting_true.stable (attempt_all (all_call (idle_traced _ rfl))) hi trivial
      fun names s w hi _ => ?_
  cases names with
  | error e => exact traced_ok (all_pure _)
  | ok names =>
    exact Rules.Ok.each lasting_true.stable (fun name _ s w hi _ => claim_traced name hi) hi trivial

theorem process_traced (account : Account) (ticks : Nat) :
    authorityRules.Wp i (fun _ _ => True) (process account ticks) w := by
  intro u hu hi
  refine ⟨trivial,fun c hc => ?_⟩
  have hload : authorityRules.Keeps i (fun _ => True) .uuid4 := idle_traced _ rfl
  obtain ⟨hinv,hlater,-⟩ := (hload u hi trivial).2 c hc
  refine ⟨hinv,hlater,?_⟩
  split
  · exact Rules.Wp.bind hinv (Rules.Wp.mono (Rules.Ok.each lasting_true.stable
      (fun _ _ _ _ hi _ => drainCommandInbox_traced hi) hinv trivial) fun _ _ _ _ _ _ _ => trivial)
  · exact fun _ _ _ => trivial

end
end Bridge

/-- Any runtimes and any Bridges, in any slots. -/
def simulatorProcesses : Nat → Start → Bool
  | _,.runtime _ _ | _,.bridge _ _ => true
  | _,_ => false

theorem simulatorProcesses_boot {pid : Nat} {start : Start} (h : simulatorProcesses pid start = true)
    {w : World} (hi : authorityRules.inv w) :
    authorityRules.Wp pid (fun _ _ => True) start.boot w := by
  cases start with
  | runtime inst ops => exact Runtime.process_traced inst ops hi
  | bridge account ticks => exact Bridge.process_traced account ticks
  | _ => cases h

theorem simulator_traced {ms : List (Move Choice Start)} {t : Sys Eff World}
    (h : (system simulatorProcesses).run (Machine.boots World.initial) ms = some t) :
    Traced t.world :=
  (Machine.Reach.rules authorityRules (fun _ _ _ => rfl) (fun _ _ _ _ _ hguar => hguar)
    (fun _ _ hallowed _ hi => simulatorProcesses_boot hallowed hi) Traced.initial
    ((Machine.Reach.of_run _ h).mono _ fun _ _ _ h => h)).inv

/-- In every run of any runtimes and any Bridges, every call of the broker carries out a
durable plan: it is made for the authorised account, in the session that the command was
made for and before it expires, and its arguments are those of the order that was
reserved. -/
theorem broker_calls_carry_out_plans {ms : List (Move Choice Start)} {t : Sys Eff World}
    (h : (system simulatorProcesses).run (Machine.boots World.initial) ms = some t)
    {call : BrokerCall} (hcall : call ∈ t.world.brokerCalls) : call.Authorised t.world.db :=
  (simulator_traced h).calls call hcall

/-- One runtime in slot 0 and one Bridge in slot 1. -/
def simulatorHost (pid : Nat) : Start → Bool
  | .runtime _ _ => pid = 0
  | .bridge _ _ => pid = 1
  | _ => false

theorem simulatorHost_processes {pid : Nat} {start : Start} (h : simulatorHost pid start = true) :
    simulatorProcesses pid start = true := by
  cases start with
  | runtime inst ops => rfl
  | bridge account ticks => rfl
  | _ => cases h

theorem simulatorHost_run {s t : Sys Eff World} {ms : List (Move Choice Start)}
    (h : (system simulatorHost).run s ms = some t) : (system simulatorProcesses).run s ms = some t :=
  Machine.run_allows (system simulatorHost) (fun _ _ hallowed => simulatorHost_processes hallowed) h

/-- The Host executes one intent and the Bridge takes its submit up. -/
def oneIntent : List (Move Choice Start) :=
  .start 0 (.runtime sampleInstance [.executeIntent datedIntent]) ::
    (List.replicate 44 (.step 0 { now := 2000000, uuid := "t" }) ++ bridgeTurn 7)

/-- The first part of it: the order is reserved and its command published. -/
def plannedIntent : List (Move Choice Start) :=
  .start 0 (.runtime sampleInstance [.executeIntent datedIntent]) ::
    List.replicate 44 (.step 0 { now := 2000000, uuid := "t" })

theorem oneIntent_split : oneIntent = plannedIntent ++ bridgeTurn 7 := rfl

/-- Both die, the Host executes the intent again and the Bridge looks again. -/
def intentAgain : List (Move Choice Start) :=
  .crash 0 :: .crash 1 ::
    .start 0 (.runtime sampleInstance [.executeIntent datedIntent]) ::
      (List.replicate 40 (.step 0 { now := 90000000, uuid := "u" }) ++ bridgeTurn 6)

/-- The intent is reserved and submitted, and it is not submitted again. -/
theorem intent_carried_out : ∃ s t u,
    (system simulatorHost).run (Machine.boots World.initial) plannedIntent = some s ∧
      s.world.db.orderEvents.any OrderEvent.reserves = true ∧
      (system simulatorHost).run s (bridgeTurn 7) = some t ∧ t.world.brokerCalls.length = 1 ∧
      (system simulatorHost).run t intentAgain = some u ∧ u.world.brokerCalls.length = 1 := by
  have hrun : ((system simulatorHost).run (Machine.boots World.initial) plannedIntent).map
      (fun s => (s.world.db.orderEvents.any OrderEvent.reserves,
        ((system simulatorHost).run s (bridgeTurn 7)).map fun t => (t.world.brokerCalls.length,
          ((system simulatorHost).run t intentAgain).map fun u => u.world.brokerCalls.length))) =
      some (true,some (1,some 1)) := by decide +kernel
  obtain ⟨s,hs,hviews⟩ := Option.map_eq_some_iff.mp hrun
  obtain ⟨hreserves,hviews⟩ := Prod.mk.inj hviews
  obtain ⟨t,ht,hviews⟩ := Option.map_eq_some_iff.mp hviews
  obtain ⟨hlength,hviews⟩ := Prod.mk.inj hviews
  obtain ⟨u,hu,hagain⟩ := Option.map_eq_some_iff.mp hviews
  exact ⟨s,t,u,hs,hreserves,ht,hlength,hu,hagain⟩

theorem broker_calls_carry_out_plans_submit : ∃ t,
    (system simulatorProcesses).run (Machine.boots World.initial) oneIntent = some t ∧
      ∃ call ∈ t.world.brokerCalls, call.Authorised t.world.db := by
  obtain ⟨s,t,-,hs,-,ht,hlength,-⟩ := intent_carried_out
  have hrun : (system simulatorProcesses).run (Machine.boots World.initial) oneIntent = some t := by
    rw [oneIntent_split,Machine.run_append,simulatorHost_run hs,Option.bind_some]
    exact simulatorHost_run ht
  obtain ⟨call,hcalls⟩ := List.length_eq_one_iff.mp hlength
  have hcall : call ∈ t.world.brokerCalls := by simp [hcalls]
  exact ⟨t,hrun,call,hcall,broker_calls_carry_out_plans hrun hcall⟩

end BigQmt
