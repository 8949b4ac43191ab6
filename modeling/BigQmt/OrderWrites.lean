import BigQmt.EvidenceJournal
import BigQmt.CommandResults
import BigQmt.Dispatches
set_option autoImplicit false

/-!
What a transaction can do to an order: the rows of `order_intents` stay, and a
row of `broker_orders` moves by the writes listed here and no others.
-/

namespace BigQmt

open Transact Keyed Relation

def BrokerOrder.context (row : BrokerOrder) (quantity : Int) : OrderContext :=
  ⟨row.status,row.brokerOrderId,row.filledQuantity,quantity⟩

/-- One `UPDATE` of an order of the given quantity; `P` bounds the requests that
reach `_transition_in_tx`. -/
inductive OrderWrite (P : BrokerOrder → TransitionRequest → Prop) (quantity : Int) :
    BrokerOrder → BrokerOrder → Prop
  | transition (row : BrokerOrder) (req : TransitionRequest) (outcome : TransitionOutcome)
      (filled : Int) (allowed : P row req)
      (plan : planTransition row.key.clientOrderId (row.context quantity) req =
        .ok (outcome,filled)) :
      OrderWrite P quantity row (applyTransition req outcome filled row)
  | submit (row : BrokerOrder) (status : row.status = .riskAccepted)
      (fresh : row.submitCallStarted = false) : OrderWrite P quantity row (reserveSubmit row)
  | cancel (row : BrokerOrder) (status : row.status ∈ [.acknowledged,.partiallyFilled])
      (fresh : row.cancelCallStarted = false) : OrderWrite P quantity row (reserveCancel row)
  | review (row : BrokerOrder) (resolved : Option Bool) :
      OrderWrite P quantity row (markReview resolved row)
  | conflict (row : BrokerOrder) (reported : Option Int) (filled : Int)
      (range : conflictFill (row.context quantity) reported = .ok filled) :
      OrderWrite P quantity row (markConflict filled row)

/-- The rows that `INSERT INTO broker_orders` writes. -/
def Born (k : OrderKey) (row : BrokerOrder) : Prop := row = createdOrder k ∨ row = importedOrder k

structure Evolves (P : BrokerOrder → TransitionRequest → Prop) (db db' : Db) : Prop where
  intents : ∀ k i, db.intent? k = some i → db'.intent? k = some i
  orders : ∀ k r i, db.order? k = some r → db.intent? k = some i →
    ∃ r', db'.order? k = some r' ∧ ReflTransGen (OrderWrite P i.quantity) r r'
  born : ∀ k r', db.order? k = none → db'.order? k = some r' →
    ∃ i r, db'.intent? k = some i ∧ Born k r ∧ ReflTransGen (OrderWrite P i.quantity) r r'
  quantities : ∀ k i, db.intent? k = none → db'.intent? k = some i → 0 < i.quantity
  unique : (db.brokerOrders.map BrokerOrder.key).Nodup →
    (db'.brokerOrders.map BrokerOrder.key).Nodup

/-- The orders after one `UPDATE` with its event. -/
theorem order?_update {db : Db} {k k' : OrderKey} {f : BrokerOrder → BrokerOrder}
    {events : List OrderEvent} (hf : ∀ r, (f r).key = r.key) :
    Db.order? { db.updateOrder k f with orderEvents := events } k' =
      if k' = k then (db.order? k).map f else db.order? k' := find_modify hf

namespace Evolves

variable {P : BrokerOrder → TransitionRequest → Prop} {db db' db'' : Db}

/-- A statement that leaves both tables alone. -/
theorem of_eq (hi : db'.orderIntents = db.orderIntents)
    (hb : db'.brokerOrders = db.brokerOrders) : Evolves P db db' := by
  have hint : ∀ k, db'.intent? k = db.intent? k := fun k => by simp [Db.intent?,hi]
  have hord : ∀ k, db'.order? k = db.order? k := fun k => by simp [Db.order?,hb]
  refine ⟨fun k i h => by rw [hint,h],fun k r i h _ => ⟨r,by rw [hord,h],.refl⟩,?_,?_,
    fun h => by rw [hb]; exact h⟩
  · intro k r' hn hs
    rw [hord,hn] at hs
    cases hs
  · intro k i hn hs
    rw [hint,hn] at hs
    cases hs

theorem refl : Evolves P db db := of_eq rfl rfl

theorem trans (h₁ : Evolves P db db') (h₂ : Evolves P db' db'') : Evolves P db db'' := by
  refine ⟨fun k i h => h₂.intents k i (h₁.intents k i h),?_,?_,?_,
    fun h => h₂.unique (h₁.unique h)⟩
  · intro k r i hr hi
    obtain ⟨r₁,hr₁,hp₁⟩ := h₁.orders k r i hr hi
    obtain ⟨r₂,hr₂,hp₂⟩ := h₂.orders k r₁ i hr₁ (h₁.intents k i hi)
    exact ⟨r₂,hr₂,hp₁.trans hp₂⟩
  · intro k r' hn hr'
    cases hm : db'.order? k with
    | none => exact h₂.born k r' hm hr'
    | some r₁ =>
      obtain ⟨i,r₀,hi,hb,hp⟩ := h₁.born k r₁ hn hm
      obtain ⟨r₂,hr₂,hp₂⟩ := h₂.orders k r₁ i hm hi
      have heq : r₂ = r' := by
        rw [hr₂] at hr'
        exact Option.some.inj hr'
      subst heq
      exact ⟨i,r₀,h₂.intents k i hi,hb,hp.trans hp₂⟩
  · intro k i hn hi
    cases hm : db'.intent? k with
    | none => exact h₂.quantities k i hm hi
    | some i₁ =>
      have heq : i₁ = i := Option.some.inj ((h₂.intents k i₁ hm).symm.trans hi)
      exact heq ▸ h₁.quantities k i₁ hn hm

theorem mono {Q : BrokerOrder → TransitionRequest → Prop} (h : Evolves P db db')
    (hpq : ∀ r req, P r req → Q r req) : Evolves Q db db' := by
  have hwrite : ∀ q a b, OrderWrite P q a b → OrderWrite Q q a b := by
    intro q a b hw
    cases hw with
    | transition req o filled hp hplan => exact .transition a req o filled (hpq _ _ hp) hplan
    | submit hs hf => exact .submit a hs hf
    | cancel hs hf => exact .cancel a hs hf
    | review res => exact .review a res
    | conflict rep filled hf => exact .conflict a rep filled hf
  refine ⟨h.intents,fun k r i hr hi => ?_,fun k r' hn hr' => ?_,h.quantities,h.unique⟩
  · obtain ⟨r',hr',hp⟩ := h.orders k r i hr hi
    exact ⟨r',hr',ReflTransGen.mono (hwrite _) _ _ hp⟩
  · obtain ⟨i,r,hi,hb,hp⟩ := h.born k r' hn hr'
    exact ⟨i,r,hi,hb,ReflTransGen.mono (hwrite _) _ _ hp⟩

/-- Statements on other tables before a change, and after it. -/
theorem after (h : Evolves P db' db'') (hi : db'.orderIntents = db.orderIntents)
    (hb : db'.brokerOrders = db.brokerOrders) : Evolves P db db'' := (of_eq hi hb).trans h

theorem before (h : Evolves P db db') (hi : db''.orderIntents = db'.orderIntents)
    (hb : db''.brokerOrders = db'.brokerOrders) : Evolves P db db'' := h.trans (of_eq hi hb)

/-- One `UPDATE` of one order, with the event that records it. -/
theorem update {k : OrderKey} {f : BrokerOrder → BrokerOrder} {r : BrokerOrder}
    {i : IntentColumns} {events : List OrderEvent} (hk : ∀ r, (f r).key = r.key)
    (hr : db.order? k = some r) (hi : db.intent? k = some i)
    (hw : OrderWrite P i.quantity r (f r)) :
    Evolves P db { db.updateOrder k f with orderEvents := events } := by
  have hord : ∀ k', Db.order? { db.updateOrder k f with orderEvents := events } k' =
      if k' = k then (db.order? k).map f else db.order? k' := fun k' => order?_update hk
  refine ⟨fun _ _ h => h,?_,?_,?_,fun h => ?_⟩
  · intro k' r' i' hr' hi'
    by_cases hkk : k' = k
    · subst hkk
      have hrr : r' = r := Option.some.inj (hr'.symm.trans hr)
      have hii : i' = i := Option.some.inj (hi'.symm.trans hi)
      subst hrr hii
      exact ⟨f r',by simp [hord,hr],.single hw⟩
    · exact ⟨r',by simp [hord,hkk,hr'],.refl⟩
  · intro k' r' hn hs
    by_cases hkk : k' = k
    · subst hkk
      rw [hr] at hn
      cases hn
    · rw [hord,if_neg hkk,hn] at hs
      cases hs
  · intro k' i' hn hs
    have hs' : db.intent? k' = some i' := hs
    rw [hn] at hs'
    cases hs'
  · change (List.map BrokerOrder.key (modify BrokerOrder.key k f db.brokerOrders)).Nodup
    rw [modify_keys hk]
    exact h

theorem insert_intent {row : IntentColumns} (hn : db.intent? row.key = none)
    (hq : 0 < row.quantity) :
    Evolves P db { db with orderIntents := db.orderIntents ++ [row] } := by
  have hint : ∀ k, Db.intent? { db with orderIntents := db.orderIntents ++ [row] } k =
      if k = row.key then some row else db.intent? k := fun k => find_append hn
  refine ⟨?_,fun k r i hr _ => ⟨r,hr,.refl⟩,?_,?_,fun h => h⟩
  · intro k i hi
    have hk : k ≠ row.key := by
      intro hk
      rw [hk,hn] at hi
      cases hi
    rw [hint,if_neg hk,hi]
  · intro k r' hn' hs
    simp only [Db.order?] at hn' hs
    rw [hn'] at hs
    cases hs
  · intro k i hn' hs
    rw [hint] at hs
    by_cases hk : k = row.key
    · rw [if_pos hk] at hs
      cases hs
      exact hq
    · rw [if_neg hk,hn'] at hs
      cases hs

theorem insert_order {row : BrokerOrder} (hi : (db.intent? row.key).isSome = true)
    (hn : db.order? row.key = none) (hb : Born row.key row) :
    Evolves P db { db with brokerOrders := db.brokerOrders ++ [row] } := by
  have hord : ∀ k, Db.order? { db with brokerOrders := db.brokerOrders ++ [row] } k =
      if k = row.key then some row else db.order? k := fun k => find_append hn
  obtain ⟨i,hi⟩ := Option.isSome_iff_exists.mp hi
  refine ⟨fun _ _ h => h,?_,?_,?_,fun h => ?_⟩
  · intro k r i' hr _
    have hk : k ≠ row.key := by
      intro hk
      rw [hk,hn] at hr
      cases hr
    exact ⟨r,by simp [hord,hk,hr],.refl⟩
  · intro k r' hn' hs
    rw [hord] at hs
    by_cases hk : k = row.key
    · subst hk
      rw [if_pos rfl] at hs
      cases hs
      exact ⟨i,_,hi,hb,.refl⟩
    · rw [if_neg hk,hn'] at hs
      cases hs
  · intro k i' hn' hs
    have hs' : db.intent? k = some i' := hs
    rw [hn'] at hs'
    cases hs'
  · simp only [List.map_append,List.map_cons,List.map_nil]
    refine List.nodup_append.mpr ⟨h,by simp,?_⟩
    intro a ha b hb
    obtain ⟨r,hr,rfl⟩ := List.mem_map.mp ha
    rw [List.mem_singleton.mp hb]
    exact find_eq_none_iff.mp hn r hr

end Evolves

section writers
variable {P : BrokerOrder → TransitionRequest → Prop} {db db' : Db} {k : OrderKey}

@[simp] theorem fetch_eq_ok {α : Type} {select : Db → Option α} {a : α} :
    fetch k select db = .ok (a,db') ↔ select db = some a ∧ db' = db := by
  unfold fetch
  cases h : select db with
  | none => simp
  | some b => simp [eq_comm]

theorem getStatusInTx_ok {s : OrderStatus} (h : getStatusInTx k db = .ok (s,db')) :
    ∃ r, db.order? k = some r ∧ s = r.status ∧ db' = db := by
  simp only [getStatusInTx,Tx.bind_eq_ok,fetch_eq_ok,Tx.pure_eq_ok] at h
  obtain ⟨r,t,⟨hr,rfl⟩,rfl,rfl⟩ := h
  exact ⟨r,hr,rfl,rfl⟩

theorem currentStatus_ok {s : OrderStatus} (h : currentStatus k db = .ok (s,db')) :
    ∃ r, db.order? k = some r ∧ s = r.status ∧ db' = db := by
  unfold currentStatus at h
  cases hr : db.order? k with
  | none => simp [hr] at h
  | some r =>
    simp only [hr,Except.ok.injEq,Prod.mk.injEq] at h
    exact ⟨r,rfl,h.1.symm,h.2.symm⟩

theorem context?_eq_some {ctx : OrderContext} (h : db.context? k = some ctx) :
    ∃ r i, db.order? k = some r ∧ db.intent? k = some i ∧ ctx = r.context i.quantity := by
  unfold Db.context? at h
  cases hr : db.order? k with
  | none => simp [hr] at h
  | some r =>
    cases hi : db.intent? k with
    | none => simp [hr,hi] at h
    | some i =>
      simp only [hr,hi,Option.some.injEq] at h
      exact ⟨r,i,rfl,rfl,h.symm⟩

theorem order?_key {r : BrokerOrder} (h : db.order? k = some r) : r.key = k := find_key h

theorem order?_updateOrder {r : BrokerOrder} {f : BrokerOrder → BrokerOrder}
    (hf : ∀ r, (f r).key = r.key) (hr : db.order? k = some r) :
    (db.updateOrder k f).order? k = some (f r) := by
  simp only [Db.order?] at hr
  simp only [Db.order?,Db.updateOrder,find_modify_self hf,hr,Option.map_some]

theorem transitionInTx_ok {req : TransitionRequest} {o : TransitionOutcome}
    (h : transitionInTx k req db = .ok (o,db')) :
    ∃ r i filled, db.order? k = some r ∧ db.intent? k = some i ∧
      planTransition k.clientOrderId (r.context i.quantity) req = .ok (o,filled) ∧
      db' = { db.updateOrder k (applyTransition req o filled) with
              orderEvents := db.orderEvents ++
                [⟨k,.named req.eventType,some r.status,o.current,o.disposition⟩] } := by
  simp only [transitionInTx,getOrderContextInTx,Tx.bind_eq_ok,fetch_eq_ok,Tx.ofExcept_eq_ok,
    Tx.writes_bind,insertEvent_eq_ok,Tx.pure_eq_ok] at h
  obtain ⟨ctx,_,⟨hctx,rfl⟩,p,_,⟨hp,rfl⟩,_,_,⟨-,rfl⟩,rfl,rfl⟩ := h
  obtain ⟨r,i,hr,hi,rfl⟩ := context?_eq_some hctx
  exact ⟨r,i,p.2,hr,hi,hp,rfl⟩

theorem transitionInTx_evolves {req : TransitionRequest} {o : TransitionOutcome}
    (hp : ∀ r, db.order? k = some r → P r req) (h : transitionInTx k req db = .ok (o,db')) :
    Evolves P db db' := by
  obtain ⟨r,i,filled,hr,hi,hplan,rfl⟩ := transitionInTx_ok h
  have hw : OrderWrite P i.quantity r (applyTransition req o filled r) :=
    .transition r req o filled (hp r hr) (by rw [order?_key hr]; exact hplan)
  exact .update (fun _ => rfl) hr hi hw

/-- A reservation needs the edge of the table, and the flag still down. -/
theorem reserveInTx_ok {target : OrderStatus} {eventType : OrderEventType} {already : PyError}
    {started : BrokerOrder → Bool} {reserve : BrokerOrder → BrokerOrder} {u : Unit}
    (h : reserveInTx k target eventType already started reserve db = .ok (u,db')) :
    ∃ r i o, db.order? k = some r ∧ db.intent? k = some i ∧ started r = false ∧
      transition r.status target = some o ∧ o.changed = true ∧
      db' = { db.updateOrder k reserve with
              orderEvents := db.orderEvents ++
                [⟨k,eventType,some r.status,target,o.disposition⟩] } := by
  simp only [reserveInTx,Tx.bind_eq_ok,fetch_eq_ok] at h
  obtain ⟨r,_,⟨hr,rfl⟩,h⟩ := h
  cases ho : transition r.status target with
  | none => simp [ho] at h
  | some o =>
    simp only [ho,Tx.bind_eq_ok,Tx.raiseIf_eq_ok,Tx.writes_bind,insertEvent_eq_ok] at h
    obtain ⟨_,_,⟨hc,rfl⟩,_,_,⟨hs,rfl⟩,hi,rfl⟩ := h
    obtain ⟨i,hi⟩ := Option.isSome_iff_exists.mp hi
    exact ⟨r,i,o,hr,hi,hs,ho,by simpa using hc,rfl⟩

theorem transition_submitting {c : OrderStatus} {o : TransitionOutcome}
    (h : transition c .submitting = some o) (hc : o.changed = true) : c = .riskAccepted := by
  obtain ⟨-,-,⟨hn,-⟩ | ⟨-,-,-,-,ha⟩⟩ := transition_cases h
  · rw [hc] at hn
    cases hn
  · cases c <;> simp_all [OrderStatus.allowed]

theorem transition_cancelPending {c : OrderStatus} {o : TransitionOutcome}
    (h : transition c .cancelPending = some o) (hc : o.changed = true) :
    c ∈ [OrderStatus.acknowledged,.partiallyFilled] := by
  obtain ⟨-,-,⟨hn,-⟩ | ⟨-,-,-,-,ha⟩⟩ := transition_cases h
  · rw [hc] at hn
    cases hn
  · cases c <;> simp_all [OrderStatus.allowed]

theorem prepareSubmitInTx_evolves {u : Unit} (h : prepareSubmitInTx k db = .ok (u,db')) :
    Evolves P db db' := by
  obtain ⟨r,i,o,hr,hi,hs,ho,hc,rfl⟩ := reserveInTx_ok h
  have hw : OrderWrite P i.quantity r (reserveSubmit r) :=
    .submit r (transition_submitting ho hc) hs
  exact .update (fun _ => rfl) hr hi hw

theorem prepareCancelInTx_evolves {u : Unit} (h : prepareCancelInTx k db = .ok (u,db')) :
    Evolves P db db' := by
  obtain ⟨r,i,o,hr,hi,hs,ho,hc,rfl⟩ := reserveInTx_ok h
  have hw : OrderWrite P i.quantity r (reserveCancel r) :=
    .cancel r (transition_cancelPending ho hc) hs
  exact .update (fun _ => rfl) hr hi hw

theorem markManualReviewInTx_ok {eventType : String} {resolved : Option Bool} {u : Unit}
    (h : markManualReviewInTx k eventType resolved db = .ok (u,db')) :
    ∃ r i, db.order? k = some r ∧ db.intent? k = some i ∧
      db' = { db.updateOrder k (markReview resolved) with
              orderEvents := db.orderEvents ++
                [⟨k,.named eventType,some r.status,.manualReview,.applied⟩] } := by
  simp only [markManualReviewInTx,getOrderContextInTx,Tx.bind_eq_ok,fetch_eq_ok,Tx.writes_bind,
    insertEvent_eq_ok] at h
  obtain ⟨ctx,_,⟨hctx,rfl⟩,-,rfl⟩ := h
  obtain ⟨r,i,hr,hi,rfl⟩ := context?_eq_some hctx
  exact ⟨r,i,hr,hi,rfl⟩

theorem markManualReviewInTx_evolves {eventType : String} {resolved : Option Bool} {u : Unit}
    (h : markManualReviewInTx k eventType resolved db = .ok (u,db')) : Evolves P db db' := by
  obtain ⟨r,i,hr,hi,rfl⟩ := markManualReviewInTx_ok h
  exact .update (fun _ => rfl) hr hi (.review r resolved)

theorem markConflictInTx_ok {reported : Option Int} {u : Unit}
    (h : markBrokerConflictManualReviewInTx k reported db = .ok (u,db')) :
    ∃ r i filled, db.order? k = some r ∧ db.intent? k = some i ∧
      conflictFill (r.context i.quantity) reported = .ok filled ∧
      db' = { db.updateOrder k (markConflict filled) with
              orderEvents := db.orderEvents ++
                [⟨k,.named "BROKER_EVIDENCE_CONFLICT_MANUAL_REVIEW",some r.status,.manualReview,
                  .applied⟩] } := by
  simp only [markBrokerConflictManualReviewInTx,getOrderContextInTx,Tx.bind_eq_ok,fetch_eq_ok,
    Tx.ofExcept_eq_ok,Tx.writes_bind,insertEvent_eq_ok] at h
  obtain ⟨ctx,_,⟨hctx,rfl⟩,filled,_,⟨hf,rfl⟩,-,rfl⟩ := h
  obtain ⟨r,i,hr,hi,rfl⟩ := context?_eq_some hctx
  exact ⟨r,i,filled,hr,hi,hf,rfl⟩

theorem markConflictInTx_evolves {reported : Option Int} {u : Unit}
    (h : markBrokerConflictManualReviewInTx k reported db = .ok (u,db')) : Evolves P db db' := by
  obtain ⟨r,i,filled,hr,hi,hf,rfl⟩ := markConflictInTx_ok h
  exact .update (fun _ => rfl) hr hi (.conflict r reported filled hf)

end writers
end BigQmt
