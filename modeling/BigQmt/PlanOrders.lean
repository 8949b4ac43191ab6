import BigQmt.DispatchPlans
set_option autoImplicit false

/-!
What a dispatch plan says of its order: the command in its frame asks for the order that
the database has, and for nothing else.
-/

namespace BigQmt

open Transact Keyed

/-- A command for an order whose call was reserved, with the data of the order. -/
def QmtCommand.Ordered (db : Db) (session : String) (c : QmtCommand) : Prop :=
  match c.commandType with
  | .submitLimit => ∃ (intent : OrderIntent) (r : BrokerOrder),
      db.intent? c.orderKey = some intent.toIntentColumns ∧ db.order? c.orderKey = some r ∧
      r.submitCallStarted = true ∧ c.payload = Runtime.submitPayload session intent
  | .cancelOrder => ∃ (r : BrokerOrder) (brokerOrderId : String),
      db.order? c.orderKey = some r ∧ r.cancelCallStarted = true ∧
      r.brokerOrderId = some brokerOrderId ∧ c.payload = Runtime.cancelPayload session brokerOrderId
  | .requestSnapshot => False

/-- The row is the plan of the command. -/
structure Dispatch.Carries (db : Db) (d : Dispatch) (c : QmtCommand) : Prop where
  frame : encodeCommandFrame c = .ok d.frameBlob
  id : d.commandId = c.commandId
  key : d.key = c.orderKey
  kind : d.commandType = c.commandType
  token : d.brokerToken = c.brokerToken
  expires : d.expiresMs = c.expiresMs
  order : c.Ordered db d.qmtSessionId

/-- Every plan is the plan of a command. -/
def PlansOrdered (db : Db) : Prop := ∀ d ∈ db.dispatches, ∃ c, d.Carries db c

/-- What no transaction takes back. -/
structure Later (db db' : Db) : Prop where
  intents : ∀ k i, db.intent? k = some i → db'.intent? k = some i
  orders : ∀ k r, db.order? k = some r → ∃ r', db'.order? k = some r' ∧ Advances r r'
  rows : PlansKept db db'

theorem Later.refl (db : Db) : Later db db :=
  ⟨fun _ _ h => h,fun _ r h => ⟨r,h,.refl r⟩,fun d hd => ⟨d,hd,.refl d⟩⟩

theorem Later.trans {a b c : Db} (h₁ : Later a b) (h₂ : Later b c) : Later a c := by
  refine ⟨fun k i h => h₂.intents k i (h₁.intents k i h),fun k r h => ?_,
    trans_of PlansKept h₁.rows h₂.rows⟩
  obtain ⟨r₁,hr₁,hadv₁⟩ := h₁.orders k r h
  obtain ⟨r₂,hr₂,hadv₂⟩ := h₂.orders k r₁ hr₁
  exact ⟨r₂,hr₂,hadv₁.trans hadv₂⟩

section
variable {db db' : Db} {session : String} {c : QmtCommand} {d d' : Dispatch}

theorem Later.ordered (h : Later db db') (hc : c.Ordered db session) : c.Ordered db' session := by
  unfold QmtCommand.Ordered at hc ⊢
  cases ht : c.commandType with
  | submitLimit =>
    simp only [ht] at hc ⊢
    obtain ⟨intent,r,hi,hr,hsub,hpayload⟩ := hc
    obtain ⟨r',hr',hadv⟩ := h.orders _ r hr
    exact ⟨intent,r',h.intents _ _ hi,hr',hadv.submit hsub,hpayload⟩
  | cancelOrder =>
    simp only [ht] at hc ⊢
    obtain ⟨r,brokerOrderId,hr,hcan,hid,hpayload⟩ := hc
    obtain ⟨r',hr',hadv⟩ := h.orders _ r hr
    exact ⟨r',brokerOrderId,hr',hadv.cancel hcan,hadv.brokerId _ hid,hpayload⟩
  | requestSnapshot => simp [ht] at hc

theorem Dispatch.Kept.carries (hk : d.Kept d') (h : Later db db') (hc : d.Carries db c) :
    d'.Carries db' c := by
  rw [hk.row]
  exact ⟨hc.frame,hc.id,hc.key,hc.kind,hc.token,hc.expires,h.ordered hc.order⟩

theorem plannedDispatch_carries {brokerOrderId : Option String} {raw : Raw}
    (hraw : encodeCommandFrame c = .ok raw) (hc : c.Ordered db session) :
    (plannedDispatch session c brokerOrderId raw).Carries db c :=
  ⟨hraw,rfl,rfl,rfl,rfl,rfl,hc⟩

theorem later_of_evolves {P : BrokerOrder → TransitionRequest → Prop} (h : Evolves P db db')
    (hw : db.Wf) (hrows : PlansKept db db') : Later db db' :=
  ⟨h.intents,fun _ _ hr => h.advances hw hr,hrows⟩

theorem kept_of_modify {commandId : String} {state : DispatchState} (hstate : state ≠ .planned)
    (hd : d' ∈ modify Dispatch.commandId commandId (fun r => { r with dispatchState := state })
      db.dispatches) : ∃ d ∈ db.dispatches, d.Kept d' := by
  obtain ⟨d,hmem,rfl⟩ := List.mem_map.mp hd
  refine ⟨d,hmem,?_⟩
  split
  · exact ⟨rfl,fun _ => hstate⟩
  · exact .refl d

/-- A transaction of the runtime that is no reservation has the rows from before. -/
theorem Txn.rows_kept {α : Type} {t : Txn α} {now : Nat} {a : α} (ht : t.hosted)
    (hres : t.reserves = false) (h : t.body now db = .ok (a,db')) (hd : d' ∈ db'.dispatches) :
    ∃ d ∈ db.dispatches, d.Kept d' := by
  have hsame : SamePlans db db' → ∃ d ∈ db.dispatches, d.Kept d' := by
    intro hplans
    have hrows : db'.dispatches = db.dispatches := (Prod.mk.inj hplans).1
    exact ⟨d',hrows ▸ hd,.refl d'⟩
  have hmoves : ∀ {x : DbTx α} {g : Guard}, Tx.Moves SamePlans x →
      guarded g now x db = .ok (a,db') → ∃ d ∈ db.dispatches, d.Kept d' :=
    fun hx h => hsame (hx db a db' (guarded_ok.mp h).2)
  cases t with
  | reserveAndPersistDispatch => cases hres
  | prepareSubmit => exact ht.elim
  | prepareCancel => exact ht.elim
  | acquire =>
    obtain ⟨row,rfl⟩ := acquire_ok h
    exact hsame rfl
  | heartbeat =>
    obtain ⟨row,rfl⟩ := heartbeat_ok h
    exact hsame rfl
  | release =>
    obtain ⟨row,rfl⟩ := release_ok h
    exact hsame rfl
  | ingestEvidence g e =>
    exact hmoves (plansFrame.ingestInTx_moves (fun _ _ => rfl) (fun _ _ => rfl) e) h
  | ingestCommandResult g r =>
    exact hmoves (plansFrame.ingestCommandResultInTx_moves (fun _ _ => rfl) r) h
  | setDispatchState g commandId state =>
    have hw := (guarded_ok.mp h).2
    simp only [setDispatchStateInTx,Tx.writes_eq_ok] at hw
    subst hw
    exact kept_of_modify ht hd
  | failDispatchManualReview g command eventType =>
    have hw := (guarded_ok.mp h).2
    simp only [failDispatchManualReviewInTx,setDispatchStateInTx,Tx.writes_bind] at hw
    have hmark := plansFrame.markManualReviewInTx_moves _ _ _ _ _ _ hw
    rw [(Prod.mk.inj hmark).1] at hd
    exact kept_of_modify (by decide) hd
  | _ => exact hsame (plansFrame.txn_moves rfl now db a db' h)

/-- What the runtime knows when it reserves: the intent of a submit, or the broker's id of
the order to cancel. -/
def QmtCommand.Asks (db : Db) (session : String) (c : QmtCommand) (cancel : Bool) : Prop :=
  if cancel then ∃ (r : BrokerOrder) (brokerOrderId : String), db.order? c.orderKey = some r ∧
    r.brokerOrderId = some brokerOrderId ∧ c.payload = Runtime.cancelPayload session brokerOrderId
  else ∃ intent : OrderIntent, db.intent? c.orderKey = some intent.toIntentColumns ∧
    c.payload = Runtime.submitPayload session intent

theorem Later.asks {cancel : Bool} (h : Later db db') (hc : c.Asks db session cancel) :
    c.Asks db' session cancel := by
  cases cancel with
  | true =>
    simp only [QmtCommand.Asks,if_true] at hc ⊢
    obtain ⟨r,brokerOrderId,hr,hid,hpayload⟩ := hc
    obtain ⟨r',hr',hadv⟩ := h.orders _ r hr
    exact ⟨r',brokerOrderId,hr',hadv.brokerId _ hid,hpayload⟩
  | false =>
    simp only [QmtCommand.Asks,Bool.false_eq_true,if_false] at hc ⊢
    obtain ⟨intent,hi,hpayload⟩ := hc
    exact ⟨intent,h.intents _ _ hi,hpayload⟩

/-- A reservation marks the row of its order. -/
theorem reserveInTx_marks {k : OrderKey} {target : OrderStatus} {eventType : OrderEventType}
    {already : PyError} {started : BrokerOrder → Bool} {reserve : BrokerOrder → BrokerOrder} {u : Unit}
    (hkey : ∀ r, (reserve r).key = r.key)
    (h : reserveInTx k target eventType already started reserve db = .ok (u,db')) :
    ∃ r, db.order? k = some r ∧ db'.order? k = some (reserve r) ∧ db'.dispatches = db.dispatches := by
  obtain ⟨r,i,o,hr,-,-,-,-,rfl⟩ := reserveInTx_ok h
  refine ⟨r,hr,?_,rfl⟩
  have hmarked : Db.order? { db.updateOrder k reserve with orderEvents := db.orderEvents ++
      [⟨k,eventType,some r.status,target,o.disposition⟩] } k = (db.order? k).map reserve := by
    rw [order?_update hkey,if_pos rfl]
  rw [hmarked,hr]
  rfl

variable {brokerOrderId : Option String} {cancel : Bool} {raw : Raw} {row : Dispatch}

/-- The reservation marks the order, and adds at most the plan of its own command. -/
theorem reserveAndPersistInTx_rows
    (h : reserveAndPersistDispatchInTx session c brokerOrderId cancel raw db = .ok (row,db'))
    (htype : c.commandType = if cancel then .cancelOrder else .submitLimit) (hw : db.Wf)
    (hasks : c.Asks db session cancel) :
    c.Ordered db' session ∧ row ∈ db'.dispatches ∧ (db'.dispatches = db.dispatches ∨
      db'.dispatches = db.dispatches ++ [plannedDispatch session c brokerOrderId raw]) := by
  have hrows : ∀ {db₁ : Db}, db₁.dispatches = db.dispatches →
      persistDispatchInTx session c brokerOrderId raw db₁ = .ok (row,db') →
      row ∈ db'.dispatches ∧ (db'.dispatches = db.dispatches ∨
        db'.dispatches = db.dispatches ++ [plannedDispatch session c brokerOrderId raw]) := by
    intro db₁ hsame hpersist
    obtain ⟨hrow,⟨-,-,rfl⟩ | ⟨-,hnew⟩⟩ := persistDispatchInTx_plans hpersist
    · exact ⟨find_mem hrow,.inl hsame⟩
    · exact ⟨find_mem hrow,.inr (hsame ▸ (Prod.mk.inj hnew).1)⟩
  rw [reserveAndPersistDispatchInTx] at h
  unfold QmtCommand.Ordered
  cases cancel with
  | true =>
    simp only [if_true,Tx.bind_eq_ok,QmtCommand.Asks] at h htype hasks
    obtain ⟨_,db₁,hres,hpersist⟩ := h
    have hev₁ := prepareCancelInTx_evolves (P := fun _ _ => True) hres
    have hev₂ := persistDispatchInTx_evolves (P := fun _ _ => True) hpersist
    obtain ⟨r,b,hr,hid,hpayload⟩ := hasks
    obtain ⟨r₀,hr₀,hmarked,hsame⟩ := reserveInTx_marks
      (fun _ => rfl : ∀ r, (reserveCancel r).key = r.key) hres
    obtain rfl : r₀ = r := Option.some.inj (hr₀.symm.trans hr)
    obtain ⟨r',hr',hadv⟩ := hev₂.advances (hev₁.wf hw) hmarked
    simp only [htype]
    exact ⟨⟨r',b,hr',hadv.cancel rfl,hadv.brokerId b hid,hpayload⟩,hrows hsame hpersist⟩
  | false =>
    simp only [Bool.false_eq_true,if_false,Tx.bind_eq_ok,QmtCommand.Asks] at h htype hasks
    obtain ⟨_,db₁,hres,hpersist⟩ := h
    have hev₁ := prepareSubmitInTx_evolves (P := fun _ _ => True) hres
    have hev₂ := persistDispatchInTx_evolves (P := fun _ _ => True) hpersist
    obtain ⟨intent,hi,hpayload⟩ := hasks
    obtain ⟨r₀,-,hmarked,hsame⟩ := reserveInTx_marks
      (fun _ => rfl : ∀ r, (reserveSubmit r).key = r.key) hres
    obtain ⟨r',hr',hadv⟩ := hev₂.advances (hev₁.wf hw) hmarked
    simp only [htype]
    exact ⟨⟨intent,r',hev₂.intents _ _ (hev₁.intents _ _ hi),hr',hadv.submit rfl,hpayload⟩,
      hrows hsame hpersist⟩

/-- One transaction of the runtime keeps the plans the plans of their orders. -/
theorem PlansOrdered.step {α : Type} {t : Txn α} {now : Nat} {a : α} (hp : PlansOrdered db)
    (hw : db.Wf) (ht : t.hosted) (hres : t.reserves = false) (h : t.body now db = .ok (a,db')) :
    Later db db' ∧ PlansOrdered db' := by
  have hlater : Later db db' :=
    later_of_evolves (Txn.evolves h) hw (Txn.plan_step ht h).kept
  refine ⟨hlater,fun d' hd' => ?_⟩
  obtain ⟨d,hd,hk⟩ := Txn.rows_kept ht hres h hd'
  obtain ⟨c,hc⟩ := hp d hd
  exact ⟨c,hk.carries hlater hc⟩

/-- So does the reservation of a command that asks for its order. -/
theorem PlansOrdered.reserve {g : Guard} {now : Nat} (hp : PlansOrdered db) (hw : db.Wf)
    (hraw : encodeCommandFrame c = .ok raw)
    (htype : c.commandType = if cancel then .cancelOrder else .submitLimit)
    (hasks : c.Asks db session cancel)
    (h : (Txn.reserveAndPersistDispatch g session c brokerOrderId cancel raw).body now db =
      .ok (row,db')) : Later db db' ∧ PlansOrdered db' ∧ row ∈ db'.dispatches := by
  have hhosted : (Txn.reserveAndPersistDispatch g session c brokerOrderId cancel raw).hosted :=
    ⟨hraw,htype⟩
  have hlater : Later db db' :=
    later_of_evolves (Txn.evolves h) hw (Txn.plan_step hhosted h).kept
  obtain ⟨hordered,hrow,hrows⟩ := reserveAndPersistInTx_rows (guarded_ok.mp h).2 htype hw hasks
  refine ⟨hlater,fun d' hd' => ?_,hrow⟩
  have hold : d' ∈ db.dispatches → ∃ c, d'.Carries db' c := by
    intro hd
    obtain ⟨c',hc'⟩ := hp d' hd
    exact ⟨c',(Dispatch.Kept.refl d').carries hlater hc'⟩
  rcases hrows with heq | heq
  · exact hold (heq ▸ hd')
  · rw [heq,List.mem_append,List.mem_singleton] at hd'
    rcases hd' with hd | rfl
    · exact hold hd
    · exact ⟨c,plannedDispatch_carries hraw hordered⟩

end
end BigQmt
