import BigQmt.CommandFormat
import BigQmt.Traces
set_option autoImplicit false

/-!
How many mutating broker calls the simulation Bridge makes in one session, against the
counters that bound them.
-/

namespace BigQmt

open Resumption Proc

/-- A call of `passorder`. -/
def Eff.submits : {β : Type} → Eff β → Bool
  | _,.broker ⟨.passorder .., _,_,_,_,_,_,_⟩ => true
  | _,_ => false

/-- A call of `cancel`. -/
def Eff.cancels : {β : Type} → Eff β → Bool
  | _,.broker ⟨.cancel _,_,_,_,_,_,_,_⟩ => true
  | _,_ => false

/-- The broker call has returned; other requests may do anything. -/
def brokerReturned : Event Eff → Prop
  | ⟨.broker _,.error _⟩ => False
  | _ => True

def submitCalls (tr : List (Event Eff)) : Nat := tr.countP (fun e => e.request.submits)

def cancelCalls (tr : List (Event Eff)) : Nat := tr.countP (fun e => e.request.cancels)

namespace Bridge

/-- The fuse, while the broker calls return. -/
def fuse : Watch Eff where
  ok := brokerReturned
  safe tr := submitCalls tr ≤ simulationMaxSubmitCalls ∧ cancelCalls tr ≤ simulationMaxCancelCalls

/-- The counters count the calls. -/
structure Counted (s : BridgeState) (log : List (Event Eff)) : Prop where
  submits : submitCalls log = s.simulationSubmitCalls
  cancels : cancelCalls log = s.simulationCancelCalls
  submitted : s.simulationSubmitCalls ≤ simulationMaxSubmitCalls
  cancelled : s.simulationCancelCalls ≤ simulationMaxCancelCalls

theorem Counted.safe {s : BridgeState} {log : List (Event Eff)} (h : Counted s log) :
    fuse.safe log := by
  have hsubmits := h.submits
  have hcancels := h.cancels
  have hsubmitted := h.submitted
  have hcancelled := h.cancelled
  exact ⟨by omega,by omega⟩

theorem submitCalls_snoc (log : List (Event Eff)) (e : Event Eff) :
    submitCalls (log ++ [e]) = submitCalls log + if e.request.submits then 1 else 0 := by
  simp [submitCalls,List.countP_append,List.countP_singleton]

theorem cancelCalls_snoc (log : List (Event Eff)) (e : Event Eff) :
    cancelCalls (log ++ [e]) = cancelCalls log + if e.request.cancels then 1 else 0 := by
  simp [cancelCalls,List.countP_append,List.countP_singleton]

/-- Another request counts for nothing. -/
theorem Counted.other {s : BridgeState} {log : List (Event Eff)} (h : Counted s log) {e : Event Eff}
    (hs : e.request.submits = false) (hc : e.request.cancels = false) : Counted s (log ++ [e]) := by
  refine ⟨?_,?_,h.submitted,h.cancelled⟩
  · rw [submitCalls_snoc,hs]
    exact h.submits
  · rw [cancelCalls_snoc,hc]
    exact h.cancels

theorem Counted.submit {s : BridgeState} {log : List (Event Eff)} (h : Counted s log)
    (hbelow : ¬simulationMaxSubmitCalls ≤ s.simulationSubmitCalls) {e : Event Eff}
    (hs : e.request.submits = true) (hc : e.request.cancels = false) :
    Counted { s with simulationSubmitCalls := s.simulationSubmitCalls + 1 } (log ++ [e]) := by
  refine ⟨?_,?_,?_,h.cancelled⟩
  · rw [submitCalls_snoc,hs,h.submits]
    rfl
  · rw [cancelCalls_snoc,hc]
    exact h.cancels
  · change s.simulationSubmitCalls + 1 ≤ simulationMaxSubmitCalls
    omega

theorem Counted.cancel {s : BridgeState} {log : List (Event Eff)} (h : Counted s log)
    (hbelow : ¬simulationMaxCancelCalls ≤ s.simulationCancelCalls) {e : Event Eff}
    (hs : e.request.submits = false) (hc : e.request.cancels = true) :
    Counted { s with simulationCancelCalls := s.simulationCancelCalls + 1 } (log ++ [e]) := by
  refine ⟨?_,?_,h.submitted,?_⟩
  · rw [submitCalls_snoc,hs]
    exact h.submits
  · rw [cancelCalls_snoc,hc,h.cancels]
    rfl
  · change s.simulationCancelCalls + 1 ≤ simulationMaxCancelCalls
    omega

theorem call_counted {α : Type} {o : Eff (Except PyError α)} (hs : o.submits = false)
    (hc : o.cancels = false) : Keeps fuse Counted (call o : Bridge α) :=
  keeps_call (fun _ _ _ h _ => (h.other hs hc).safe) fun _ _ _ h _ => h.other hs hc

theorem ask_counted {α : Type} {o : Eff α} (hs : o.submits = false) (hc : o.cancels = false) :
    Keeps fuse Counted (ask o : Bridge α) :=
  keeps_ask (fun _ _ _ h _ => (h.other hs hc).safe) fun _ _ _ h _ => h.other hs hc

theorem executeSubmit_counted (command : Command) (checkedMs : Int) :
    Keeps fuse Counted (executeSubmit command checkedMs) := by
  refine meets_self_bind fun s => ?_
  dsimp only
  split
  · exact meets_throw fun _ _ hs => hs.2
  · rename_i hbelow
    split
    · exact meets_throw fun _ _ hs => hs.2
    · split
      · exact meets_throw fun _ _ hs => hs.2
      · split
        · exact meets_throw fun _ _ hs => hs.2
        · split
          · exact meets_throw fun _ _ hs => hs.2
          · split
            · exact meets_throw fun _ _ hs => hs.2
            · -- the call is made below the limit, and then counted
              rintro _ log ⟨rfl,hs⟩ b hb
              cases b with
              | error e => exact hb.elim
              | ok sent =>
                refine ⟨(hs.submit hbelow ?_ ?_).safe,hs.submit hbelow ?_ ?_⟩ <;> rfl

/-- A cancellation below the limit. -/
def Open (s : BridgeState) (log : List (Event Eff)) : Prop :=
  Counted s log ∧ ¬simulationMaxCancelCalls ≤ s.simulationCancelCalls

theorem call_open {α : Type} {o : Eff (Except PyError α)} (hs : o.submits = false)
    (hc : o.cancels = false) : Keeps fuse Open (call o : Bridge α) :=
  keeps_call (fun _ _ _ h _ => (h.1.other hs hc).safe) fun _ _ _ h _ => ⟨h.1.other hs hc,h.2⟩

theorem cancelTarget_open (command : Command) : Keeps fuse Open (cancelTarget command) := by
  refine closed_keeps.bind (call_open rfl rfl) fun rows => ?_
  cases rows with
  | none => exact closed_keeps.throw _
  | some rows =>
    dsimp only
    split
    · exact closed_keeps.throw _
    · exact closed_keeps.pure _

theorem executeCancel_counted (command : Command) (checkedMs : Int) :
    Keeps fuse Counted (executeCancel command checkedMs) := by
  refine meets_self_bind fun s => ?_
  split
  · exact meets_throw fun _ _ hs => hs.2
  · rename_i hbelow
    have hopen : ∀ s' log, s' = s ∧ Counted s' log → Open s' log := by
      rintro _ log ⟨rfl,hs⟩
      exact ⟨hs,hbelow⟩
    refine Meets.bind ((cancelTarget_open command).mono hopen fun _ _ _ h => h) (fun id => ?_)
      fun _ _ _ h => h.1
    refine Meets.bind (call_open rfl rfl) (fun cancellable => ?_) fun _ _ _ h => h.1
    split
    · exact meets_pure fun _ _ h => h.1
    · rintro s log ⟨hs,hbelow⟩ b hb
      cases b with
      | error e => exact hb.elim
      | ok sent =>
        refine ⟨(hs.cancel hbelow ?_ ?_).safe,hs.cancel hbelow ?_ ?_⟩ <;> rfl

theorem executeOrderCommand_counted (command : Command) (checkedMs : Int) :
    Keeps fuse Counted (executeOrderCommand command checkedMs) := by
  refine meets_self_bind fun s => ?_
  split
  · exact meets_throw fun _ _ hs => hs.2
  · split
    · exact meets_throw fun _ _ hs => hs.2
    · split
      · exact (executeSubmit_counted command checkedMs).mono (fun _ _ hs => hs.2) fun _ _ _ h => h
      · exact (executeCancel_counted command checkedMs).mono (fun _ _ hs => hs.2) fun _ _ _ h => h
      · exact meets_throw fun _ _ hs => hs.2

theorem attempt_counted {α : Type} {x : Bridge α} (hx : Keeps fuse Counted x) :
    Keeps fuse Counted (attempt x) :=
  closed_keeps.tryCatch (closed_keeps.bind hx fun _ => closed_keeps.pure _)
    fun _ => closed_keeps.pure _

theorem readClaimed_counted (name : String) : Keeps fuse Counted (readClaimed name) :=
  closed_keeps.bind closed_keeps.self fun _ =>
    closed_keeps.bind (call_counted rfl rfl) fun _ => closed_keeps.ofExcept _

theorem finish_counted (command : Command) (name : String) (target : SpoolDir) (status : String)
    (live : Bool) : Keeps fuse Counted (finish command name target status live) :=
  closed_keeps.bind (call_counted rfl rfl) fun _ => call_counted rfl rfl

theorem rejectClaimed_counted (name : String) : Keeps fuse Counted (rejectClaimed name) := by
  refine closed_keeps.bind (ask_counted rfl rfl) fun present => ?_
  split
  · exact call_counted rfl rfl
  · exact closed_keeps.pure _

theorem processSnapshotRequest_counted (command : Command) (name : String) :
    Keeps fuse Counted (processSnapshotRequest command name) := by
  refine closed_keeps.bind (attempt_counted (call_counted rfl rfl)) fun outcome => ?_
  cases outcome with
  | error e => exact call_counted rfl rfl
  | ok u => exact finish_counted _ _ _ _ _

theorem processOrderCommand_counted (command : Command) (name : String) (checkedMs : Int) :
    Keeps fuse Counted (processOrderCommand command name checkedMs) := by
  refine closed_keeps.bind (attempt_counted (executeOrderCommand_counted command checkedMs))
    fun outcome => ?_
  cases outcome with
  | ok result => exact finish_counted _ _ _ _ _
  | error e =>
    dsimp only
    split
    · exact finish_counted _ _ _ _ _
    · exact finish_counted _ _ _ _ _

theorem processClaimed_counted (name : String) : Keeps fuse Counted (processClaimed name) := by
  refine closed_keeps.bind (attempt_counted (readClaimed_counted name)) fun decoded => ?_
  cases decoded with
  | error e => exact rejectClaimed_counted name
  | ok command =>
    refine closed_keeps.bind
      (closed_keeps.bind (ask_counted rfl rfl) fun _ => closed_keeps.pure _) fun nowMs => ?_
    split
    · exact finish_counted _ _ _ _ _
    · split
      · exact processSnapshotRequest_counted command name
      · exact processOrderCommand_counted command name nowMs

theorem abandon_counted (name : String) : Keeps fuse Counted (abandon name) := by
  refine closed_keeps.bind (ask_counted rfl rfl) fun present => ?_
  split
  · exact closed_keeps.bind (attempt_counted (call_counted rfl rfl)) fun _ => closed_keeps.pure _
  · exact closed_keeps.pure _

theorem recoverOrphan_counted (name : String) : Keeps fuse Counted (recoverOrphan name) := by
  refine closed_keeps.tryCatch (closed_keeps.bind (readClaimed_counted name) fun command =>
    closed_keeps.bind (call_counted rfl rfl) fun _ => ?_) fun _ => abandon_counted name
  split
  · exact call_counted rfl rfl
  · exact call_counted rfl rfl

theorem recoverOrphanedClaims_counted : Keeps fuse Counted recoverOrphanedClaims := by
  refine closed_keeps.bind closed_keeps.self fun s => ?_
  split
  · exact closed_keeps.pure _
  · have hdone : ∀ s log, Counted s log → Counted { s with orphanRecoveryDone := true } log :=
      fun _ _ h => ⟨h.submits,h.cancels,h.submitted,h.cancelled⟩
    refine closed_keeps.bind (keeps_update hdone) fun _ =>
      closed_keeps.bind (attempt_counted (call_counted rfl rfl)) fun names => ?_
    cases names with
    | error e => exact closed_keeps.pure _
    | ok names => exact closed_keeps.each recoverOrphan_counted names

theorem claim_counted (name : String) : Keeps fuse Counted (claim name) := by
  refine closed_keeps.tryCatch (closed_keeps.bind (ask_counted rfl rfl) fun taken => ?_)
    fun _ => abandon_counted name
  split
  · exact closed_keeps.pure _
  · exact closed_keeps.bind (call_counted rfl rfl) fun _ => processClaimed_counted name

theorem drainCommandInbox_counted : Keeps fuse Counted drainCommandInbox := by
  refine closed_keeps.bind recoverOrphanedClaims_counted fun _ =>
    closed_keeps.bind (attempt_counted (call_counted rfl rfl)) fun names => ?_
  cases names with
  | error e => exact closed_keeps.pure _
  | ok names => exact closed_keeps.each claim_counted _

/-- A tick that finds both directories empty. -/
def idleSession : List (Event Eff) :=
  [⟨.uuid4,"qmt"⟩,⟨.listDir .claimed,Except.ok []⟩,⟨.listDir .inbox,Except.ok []⟩]

def submitPayload : Fields :=
  .cons "simulation_calibration" (.bool true) (.cons "expected_qmt_session_id" (.text "qmt")
    (.cons "symbol" (.text "600000.SH") (.cons "side" (.text "BUY")
      (.cons "quantity" (.int 100) (.cons "limit_price" (.int 10) .nil)))))

/-- A submission in the session `qmt`, with the token of its client order id. -/
def submitFields (commandId clientOrderId token : String) : Fields :=
  .cons "command_protocol_version" (.text "0.1") (.cons "command_id" (.text commandId)
    (.cons "command_type" (.text "SUBMIT_LIMIT") (.cons "created_ms" (.int 1)
      (.cons "expires_ms" (.int 1000)
        (.cons "account_fingerprint" (.text authorizedAccountFingerprint)
          (.cons "client_order_id" (.text clientOrderId) (.cons "broker_token" (.text token)
            (.cons "payload" (.object submitPayload) .nil))))))))

def submitFrame (commandId clientOrderId : String) : Raw :=
  ⟨some (.object (.cons "command_transport_version" (.text "1") (.cons "command"
    (.object (submitFields commandId clientOrderId
      (tokenText authorizedAccountFingerprint clientOrderId))) .nil))),900,true,0⟩

def submitCommand (commandId clientOrderId : String) : Command :=
  ⟨commandId,.submitLimit,1000,authorizedAccountFingerprint,
    some (tokenText authorizedAccountFingerprint clientOrderId),submitPayload⟩

theorem read_submitFrame {commandId clientOrderId : String} (hid : commandId ≠ "")
    (horder : clientOrderId ≠ "") :
    readCommandFrame authorizedAccountFingerprint (submitFrame commandId clientOrderId) =
      .ok (submitCommand commandId clientOrderId) := by
  have hframe : frameCommand (submitFrame commandId clientOrderId) =
      .ok (submitFields commandId clientOrderId
        (tokenText authorizedAccountFingerprint clientOrderId)) := rfl
  have htype : (submitFields commandId clientOrderId
      (tokenText authorizedAccountFingerprint clientOrderId)).get "command_type" =
        some (.text QmtCommandType.submitLimit.value) := rfl
  rw [readCommandFrame_of_get hframe rfl hid htype rfl rfl (by decide) rfl rfl,
    if_neg (by decide),orderToken_of_get rfl horder rfl]
  rfl

/-- The session `qmt` of the authorized account, below its limit. -/
structure Ready (s : BridgeState) : Prop where
  account : s.accountFingerprint = authorizedAccountFingerprint
  accountType : s.accountType.toUpper = "STOCK"
  session : s.sessionId = "qmt"
  recovered : s.orphanRecoveryDone = true
  below : ¬simulationMaxSubmitCalls ≤ s.simulationSubmitCalls

/-- A call of a method that makes so many calls of `passorder`. -/
def Spends {α : Type} (x : Bridge α) (s : BridgeState) (r : Except PyError α) (s' : BridgeState)
    (calls : Nat) : Prop :=
  ∃ tr, Ends x s tr r s' ∧ submitCalls tr = calls

section spends
variable {α β : Type} {s s' s'' : BridgeState} {m n : Nat}

theorem spends_pure (a : α) : Spends (pure a : Bridge α) s (.ok a) s 0 := ⟨[],ends_pure a,rfl⟩

theorem spends_update (f : BridgeState → BridgeState) :
    Spends (update f : Bridge Unit) s (.ok ()) (f s) 0 := ⟨[],ends_update f,rfl⟩

theorem spends_ofExcept {r : Except PyError α} : Spends (Proc.ofExcept r : Bridge α) s r s 0 :=
  ⟨[],ends_ofExcept,rfl⟩

theorem spends_ask {o : Eff α} (ho : o.submits = false) (a : α) :
    Spends (ask o : Bridge α) s (.ok a) s 0 :=
  ⟨_,ends_ask a,by simp [submitCalls,ho]⟩

theorem spends_call {o : Eff (Except PyError α)} (ho : o.submits = false) (r : Except PyError α) :
    Spends (call o : Bridge α) s r s 0 :=
  ⟨_,ends_call r,by simp [submitCalls,ho]⟩

theorem spends_submit {o : Eff (Except PyError α)} (ho : o.submits = true) (r : Except PyError α) :
    Spends (call o : Bridge α) s r s 1 :=
  ⟨_,ends_call r,by simp [submitCalls,ho]⟩

theorem spends_self_bind {f : BridgeState → Bridge β} {r : Except PyError β}
    (h : Spends (f s) s r s' n) : Spends (self >>= f) s r s' n := h

theorem Spends.bind {x : Bridge α} {f : α → Bridge β} {a : α} {r : Except PyError β}
    (hx : Spends x s (.ok a) s' m) (hf : Spends (f a) s' r s'' n) :
    Spends (x >>= f) s r s'' (m + n) := by
  obtain ⟨tr,hx,rfl⟩ := hx
  obtain ⟨tr',hf,rfl⟩ := hf
  exact ⟨_,hx.bind hf,List.countP_append⟩

theorem Spends.raise {x : Bridge α} {f : α → Bridge β} {e : PyError}
    (hx : Spends x s (.error e) s' n) : Spends (x >>= f) s (.error e) s' n := by
  obtain ⟨tr,hx,rfl⟩ := hx
  exact ⟨tr,hx.raise,rfl⟩

theorem Spends.catch {x : Bridge α} {f : PyError → Bridge α} {e : PyError} {r : Except PyError α}
    (hx : Spends x s (.error e) s' m) (hf : Spends (f e) s' r s'' n) :
    Spends (tryCatch x f) s r s'' (m + n) := by
  obtain ⟨tr,hx,rfl⟩ := hx
  obtain ⟨tr',hf,rfl⟩ := hf
  exact ⟨_,hx.catch hf,List.countP_append⟩

theorem Spends.return {x : Bridge α} {f : PyError → Bridge α} {a : α}
    (hx : Spends x s (.ok a) s' n) : Spends (tryCatch x f) s (.ok a) s' n := by
  obtain ⟨tr,hx,rfl⟩ := hx
  exact ⟨tr,hx.return,rfl⟩

theorem Spends.attempt_ok {x : Bridge α} {a : α} (hx : Spends x s (.ok a) s' n) :
    Spends (attempt x) s (.ok (.ok a)) s' n :=
  Spends.return (Spends.bind (f := fun a => pure (Except.ok a)) hx (spends_pure (Except.ok a)))

theorem Spends.attempt_error {x : Bridge α} {e : PyError} (hx : Spends x s (.error e) s' n) :
    Spends (attempt x) s (.ok (.error e)) s' n :=
  Spends.catch (f := fun e => pure (Except.error e)) hx.raise (spends_pure (Except.error e))

end spends

theorem executeSubmit_raises {s : BridgeState} (h : Ready s) (commandId clientOrderId : String)
    (checkedMs : Int) (e : PyError) :
    Spends (executeSubmit (submitCommand commandId clientOrderId) checkedMs) s (.error e) s 1 := by
  have hprice : priceInRange (submitPayload.get "limit_price") = some true := by decide
  have hsymbol : simulationOrderSymbol (submitPayload.get "symbol") = some "600000.SH" := by decide
  have hside : submitPayload.textAt "side" = some "BUY" := rfl
  have hquantity : submitPayload.numAt "quantity" = some 100 := rfl
  have hpayload : (submitCommand commandId clientOrderId).payload = submitPayload := rfl
  refine spends_self_bind ?_
  dsimp only
  rw [hpayload,if_neg h.below,hprice,hsymbol,hside,hquantity]
  dsimp only
  rw [if_neg (by decide),if_neg (by decide),if_neg (by decide)]
  exact Spends.raise (spends_submit rfl (.error e))

/-- The command is run after its checks; its `passorder` raises, and it ends in `unknown`. -/
theorem processClaimed_raises {s : BridgeState} (h : Ready s) {commandId clientOrderId : String}
    (hid : commandId ≠ "") (horder : clientOrderId ≠ "") (name : String) :
    Spends (processClaimed name) s (.ok ()) s 1 := by
  have hread : Spends (readClaimed name) s (.ok (submitCommand commandId clientOrderId)) s 0 := by
    refine spends_self_bind ?_
    refine (spends_call rfl (.ok (submitFrame commandId clientOrderId))).bind (n := 0) ?_
    have hframe := read_submitFrame hid horder
    rw [h.account,hframe]
    exact spends_ofExcept
  have hexecute : Spends (executeOrderCommand (submitCommand commandId clientOrderId) 0) s
      (.error (.osError "timed out")) s 1 := by
    refine spends_self_bind ?_
    have hgate : ¬(s.accountFingerprint ≠ authorizedAccountFingerprint ∨
        s.accountType.toUpper ≠ "STOCK") := by
      simp [h.account,h.accountType]
    have hsession : ¬((submitCommand commandId clientOrderId).payload.get "simulation_calibration" ≠
        some (.bool true) ∨ (submitCommand commandId clientOrderId).payload.get
          "expected_qmt_session_id" ≠ some (.text s.sessionId)) := by
      have hpayload : (submitCommand commandId clientOrderId).payload = submitPayload := rfl
      rw [h.session,hpayload]
      decide
    rw [if_neg hgate,if_neg hsession]
    exact executeSubmit_raises h commandId clientOrderId 0 _
  refine hread.attempt_ok.bind (n := 1) ?_
  have hclock : Spends nowMillis s (.ok 0) s 0 := by
    unfold nowMillis
    exact (spends_ask (o := .clock) rfl 0).bind (n := 0) (spends_pure _)
  refine hclock.bind (n := 1) ?_
  have hlive : ¬(submitCommand commandId clientOrderId).expiresMs ≤ 0 := by
    have hexpires : (submitCommand commandId clientOrderId).expiresMs = 1000 := rfl
    omega
  rw [if_neg hlive,if_neg (by simp [submitCommand])]
  refine hexecute.attempt_error.bind (n := 0) ?_
  exact (spends_call (o := .move .claimed .unknown name) rfl (.ok ())).bind (n := 0)
    (spends_call rfl (.ok ()))

theorem tick_raises {s : BridgeState} (h : Ready s) {commandId clientOrderId : String}
    (hid : commandId ≠ "") (horder : clientOrderId ≠ "") :
    Spends drainCommandInbox s (.ok ()) s 1 := by
  have hrecover : Spends recoverOrphanedClaims s (.ok ()) s 0 := by
    refine spends_self_bind ?_
    rw [if_pos h.recovered]
    exact spends_pure ()
  have hclaim : Spends (claim commandId) s (.ok ()) s 1 := by
    refine Spends.return ?_
    refine (spends_ask (o := .isFile .claimed commandId) rfl false).bind (n := 1) ?_
    exact (spends_call (o := .move .inbox .claimed commandId) rfl (.ok ())).bind (n := 1)
      (processClaimed_raises h hid horder commandId)
  refine hrecover.bind (n := 1) ?_
  refine (spends_call (o := .listDir .inbox) rfl (.ok [commandId])).attempt_ok.bind (n := 1) ?_
  exact hclaim.bind (n := 0) (spends_pure ())

/-- One tick after the other, each with a command of its own. -/
theorem ticks_raise {s : BridgeState} (h : Ready s) (l : List Nat) :
    Spends (each (fun _ => drainCommandInbox) l) s (.ok ()) s l.length := by
  induction l with
  | nil => exact spends_pure ()
  | cons n l ih =>
    have hid : "c-" ++ toString n ≠ "" := by simp
    have horder : "o-" ++ toString n ≠ "" := by simp
    have htick := tick_raises h hid horder
    have hall := htick.bind (f := fun _ => each (fun _ => drainCommandInbox) l) ih
    rwa [Nat.add_comm] at hall

/-- The first tick finds both directories empty. -/
theorem firstTick (s : BridgeState) (hs : s.orphanRecoveryDone = false) :
    Spends drainCommandInbox s (.ok ()) { s with orphanRecoveryDone := true } 0 := by
  have hrecover : Spends recoverOrphanedClaims s (.ok ()) { s with orphanRecoveryDone := true } 0 := by
    refine spends_self_bind ?_
    rw [if_neg (by simp [hs])]
    refine (spends_update _).bind (n := 0) ?_
    exact (spends_call (o := .listDir .claimed) rfl (.ok [])).attempt_ok.bind (n := 0)
      (spends_pure ())
  refine hrecover.bind (n := 0) ?_
  exact (spends_call (o := .listDir .inbox) rfl (.ok [])).attempt_ok.bind (n := 0) (spends_pure ())

/-- Calls that raise are not counted: a session whose every `passorder` raises makes as
many of them as there are commands. -/
theorem raising_session (n : Nat) : ∃ tr,
    (process ⟨authorizedAccountFingerprint,"STOCK"⟩ (n + 1)).Path tr ∧ submitCalls tr = n := by
  have hgate : mutationGateValid ⟨authorizedAccountFingerprint,"STOCK"⟩ = true := by
    decide +kernel
  have htype : ("STOCK" : String).toUpper = "STOCK" := by decide +kernel
  have hready : Ready ⟨authorizedAccountFingerprint,"STOCK","qmt",true,0,0⟩ :=
    ⟨rfl,htype,rfl,rfl,by decide⟩
  have hticks := (firstTick ⟨authorizedAccountFingerprint,"STOCK","qmt",false,0,0⟩ rfl).bind
    (f := fun _ => each (fun _ => drainCommandInbox) ((List.range n).map Nat.succ))
    (ticks_raise hready _)
  obtain ⟨tr,hends,hcalls⟩ := hticks
  refine ⟨⟨.uuid4,"qmt"⟩ :: tr,.next "qmt" ?_,?_⟩
  · rw [if_pos hgate,List.range_succ_eq_map]
    have hpath := (Prog.Ends.bind (f := fun _ => Prog.pure ()) hends (Prog.Ends.pure ())).path
    rwa [List.append_nil] at hpath
  · have hsnoc : submitCalls (⟨.uuid4,"qmt"⟩ :: tr) = submitCalls tr :=
      List.countP_cons_of_neg (by simp [Eff.submits])
    rw [hsnoc,hcalls,List.length_map,List.length_range,Nat.zero_add]

end Bridge
end BigQmt
