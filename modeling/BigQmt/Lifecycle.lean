import BigQmt.World
set_option autoImplicit false

/-!
What every write of an order keeps: the reservation flags, the absorbing
statuses, the fill and the broker id.
-/

namespace BigQmt

open Transact Keyed Relation Resumption

section plan
variable {c : String} {ctx : OrderContext} {req : TransitionRequest} {o : TransitionOutcome}
variable {filled : Int}

theorem effectiveFill_ok {target : OrderStatus} (h : effectiveFill ctx req = .ok (filled,target)) :
    (req.filledQuantity = none ∧ filled = ctx.filledQuantity ∧ target = req.target) ∨
      (∃ f, req.filledQuantity = some f ∧ 0 ≤ f ∧ f ≤ ctx.quantity ∧
        filled = max ctx.filledQuantity f ∧
        normalizeBrokerStatus req.target filled ctx.quantity = .ok target) := by
  unfold effectiveFill at h
  cases hf : req.filledQuantity with
  | none =>
    simp only [hf,Except.ok.injEq,Prod.mk.injEq] at h
    exact .inl ⟨rfl,h.1.symm,h.2.symm⟩
  | some f =>
    simp only [hf,refuse_eq_ok,Bool.or_eq_false_iff,decide_eq_false_iff_not] at h
    obtain ⟨⟨h0,hq⟩,h⟩ := h
    cases hn : normalizeBrokerStatus req.target (max ctx.filledQuantity f) ctx.quantity with
    | error e => simp [hn,Except.map] at h
    | ok t =>
      simp only [hn,Except.map,Except.ok.injEq,Prod.mk.injEq] at h
      obtain ⟨rfl,rfl⟩ := h
      exact .inr ⟨f,rfl,by omega,by omega,rfl,hn⟩

theorem nextStatus_ok {target : OrderStatus} (h : nextStatus ctx req filled target = .ok o) :
    (req.brokerFact = true ∧ o = aggregateBrokerStatus ctx.status target ∧
        terminalClash ctx.status target = false ∧
        ¬ (ctx.status ∈ [OrderStatus.cancelled,.rejected] ∧ ctx.filledQuantity < filled)) ∨
      (req.brokerFact = false ∧ transition ctx.status target = some o) := by
  unfold nextStatus at h
  cases hb : req.brokerFact with
  | true =>
    simp only [hb,if_true,refuse_eq_ok,Except.ok.injEq] at h
    obtain ⟨hc,hg,rfl⟩ := h
    refine .inl ⟨rfl,rfl,hc,fun hx => ?_⟩
    simp [hx.1,hx.2] at hg
  | false =>
    simp only [hb,Bool.false_eq_true,if_false] at h
    cases ht : transition ctx.status target with
    | none => simp [ht] at h
    | some o' =>
      simp only [ht,Except.ok.injEq] at h
      exact .inr ⟨rfl,by rw [h]⟩

theorem planTransition_ok (h : planTransition c ctx req = .ok (o,filled)) :
    idMismatch ctx.brokerOrderId req.brokerOrderId = false ∧
      (req.brokerFact && terminalClash ctx.status req.target) = false ∧
      ∃ target, effectiveFill ctx req = .ok (filled,target) ∧
        nextStatus ctx req filled target = .ok o := by
  simp only [planTransition,refuse_eq_ok] at h
  obtain ⟨hid,hclash,h⟩ := h
  refine ⟨hid,hclash,?_⟩
  cases he : effectiveFill ctx req with
  | error e => simp [he,bind,Except.bind] at h
  | ok r =>
    obtain ⟨f,target⟩ := r
    cases hn : nextStatus ctx req f target with
    | error e => simp [he,hn,bind,Except.bind] at h
    | ok o' =>
      simp only [he,hn,bind,Except.bind,pure,Except.pure,Except.ok.injEq,Prod.mk.injEq] at h
      obtain ⟨rfl,rfl⟩ := h
      exact ⟨target,rfl,hn⟩

/-- A step keeps the status it records, and never leaves an absorbing one. -/
theorem planTransition_status (h : planTransition c ctx req = .ok (o,filled)) :
    (o.changed = false → o.current = ctx.status) ∧
      (ctx.status.brokerTerminal = true ∨ ctx.status = .manualReview → o.changed = false) := by
  obtain ⟨-,-,target,-,hn⟩ := planTransition_ok h
  obtain ⟨-,rfl,-,-⟩ | ⟨-,ht⟩ := nextStatus_ok hn
  · constructor
    · intro hc
      simpa [aggregateBrokerStatus] using hc
    · rintro (hb | hm)
      · have hne : ctx.status ≠ .manualReview := by
          intro hm
          simp [hm,OrderStatus.brokerTerminal] at hb
        simp [aggregateBrokerStatus,brokerNext,hb,hne]
      · simp [aggregateBrokerStatus,brokerNext,hm]
  · obtain ⟨-,-,⟨hc,hcur,-⟩ | ⟨hc,-,-,hterm,-⟩⟩ := transition_cases ht
    · exact ⟨fun _ => hcur,fun _ => hc⟩
    · constructor
      · intro hf
        rw [hc] at hf
        cases hf
      · rintro (hb | hm)
        · cases hs : ctx.status <;> simp_all [OrderStatus.brokerTerminal,OrderStatus.terminal]
        · simp [hm,OrderStatus.terminal] at hterm

theorem applyTransition_status {row : BrokerOrder} {q : Int}
    (h : planTransition c (row.context q) req = .ok (o,filled)) :
    (applyTransition req o filled row).status = o.current := by
  obtain ⟨hsame,-⟩ := planTransition_status h
  cases hc : o.changed with
  | true => simp [applyTransition,hc]
  | false =>
    simp only [applyTransition,hc,Bool.false_eq_true,if_false]
    exact (hsame hc).symm

theorem planTransition_filled (h : planTransition c ctx req = .ok (o,filled)) :
    ctx.filledQuantity ≤ filled := by
  obtain ⟨-,-,target,he,-⟩ := planTransition_ok h
  obtain ⟨-,rfl,-⟩ | ⟨f,-,-,-,rfl,-⟩ := effectiveFill_ok he
  · exact le_refl _
  · exact le_max_left _ _

end plan

/-- What an order can become: the broker's terminal statuses are left only for
`MANUAL_REVIEW`, which is never left; fills only grow; a broker id stays. -/
structure Advances (r r' : BrokerOrder) : Prop where
  terminal : r.status.brokerTerminal = true → r'.status = r.status ∨ r'.status = .manualReview
  review : r.status = .manualReview → r'.status = .manualReview
  filled : r.filledQuantity ≤ r'.filledQuantity
  brokerId : ∀ b, r.brokerOrderId = some b → r'.brokerOrderId = some b
  submit : r.submitCallStarted = true → r'.submitCallStarted = true
  cancel : r.cancelCallStarted = true → r'.cancelCallStarted = true

theorem Advances.refl (r : BrokerOrder) : Advances r r :=
  ⟨fun _ => .inl rfl,id,le_refl _,fun _ h => h,id,id⟩

theorem Advances.trans {a b c : BrokerOrder} (h₁ : Advances a b) (h₂ : Advances b c) :
    Advances a c := by
  refine ⟨fun ht => ?_,fun hm => h₂.review (h₁.review hm),h₁.filled.trans h₂.filled,
    fun x hx => h₂.brokerId x (h₁.brokerId x hx),fun h => h₂.submit (h₁.submit h),
    fun h => h₂.cancel (h₁.cancel h)⟩
  obtain hs | hm := h₁.terminal ht
  · rw [← hs] at ht ⊢
    exact h₂.terminal ht
  · exact .inr (h₂.review hm)

theorem OrderWrite.advances {P : BrokerOrder → TransitionRequest → Prop} {q : Int}
    {r r' : BrokerOrder} (h : OrderWrite P q r r') : Advances r r' := by
  cases h with
  | transition req o filled _ hplan =>
    obtain ⟨-,habs⟩ := planTransition_status hplan
    have hfill := planTransition_filled hplan
    refine ⟨fun ht => .inl ?_,fun hm => ?_,hfill,fun b hb => ?_,id,id⟩
    · simp [applyTransition,habs (.inl ht)]
    · simp [applyTransition,habs (.inr hm),hm]
    · simp [applyTransition,hb]
  | submit hs _ =>
    refine ⟨fun ht => ?_,fun hm => ?_,le_refl _,fun _ hb => hb,fun _ => rfl,id⟩
    · simp [hs,OrderStatus.brokerTerminal] at ht
    · rw [hs] at hm
      cases hm
  | cancel hs _ =>
    refine ⟨fun ht => ?_,fun hm => ?_,le_refl _,fun _ hb => hb,id,fun _ => rfl⟩
    · cases hst : r.status <;> simp_all [OrderStatus.brokerTerminal]
    · simp [hm] at hs
  | review res => exact ⟨fun _ => .inr rfl,fun _ => rfl,le_refl _,fun _ hb => hb,id,id⟩
  | conflict rep filled hf =>
    refine ⟨fun _ => .inr rfl,fun _ => rfl,?_,fun _ hb => hb,id,id⟩
    unfold conflictFill at hf
    cases rep with
    | none =>
      simp only [Except.ok.injEq] at hf
      exact le_of_eq hf
    | some f =>
      simp only [refuse_eq_ok,Except.ok.injEq] at hf
      exact hf.2 ▸ le_max_left _ _

/-- What the constraints of the two tables leave behind. -/
structure Db.Wf (db : Db) : Prop where
  intent : ∀ k r, db.order? k = some r → ∃ i, db.intent? k = some i
  quantity : ∀ k i, db.intent? k = some i → 0 < i.quantity
  unique : (db.brokerOrders.map BrokerOrder.key).Nodup

theorem Db.Wf.empty : Db.empty.Wf := by
  refine ⟨fun k r hr => ?_,fun k i hi => ?_,by simp [Db.empty]⟩
  · simp [Db.empty,Db.order?,find] at hr
  · simp [Db.empty,Db.intent?,find] at hi

theorem Db.Wf.listed {db : Db} (h : db.Wf) {r : BrokerOrder} (hr : r ∈ db.brokerOrders) :
    db.order? r.key = some r := find_of_mem h.unique hr

/-- A property of every order together with its quantity. -/
def Db.OrdersHold (J : Int → BrokerOrder → Prop) (db : Db) : Prop :=
  ∀ k r i, db.order? k = some r → db.intent? k = some i → J i.quantity r

theorem Db.OrdersHold.empty (J : Int → BrokerOrder → Prop) : Db.empty.OrdersHold J := by
  intro k r i hr
  simp [Db.empty,Db.order?,find] at hr

namespace Evolves

variable {P : BrokerOrder → TransitionRequest → Prop} {db db' : Db}

theorem wf (h : Evolves P db db') (hw : db.Wf) : db'.Wf := by
  refine ⟨fun k r' hr' => ?_,fun k i hi => ?_,h.unique hw.unique⟩
  · cases hr : db.order? k with
    | none =>
      obtain ⟨i,r₀,hi,-,-⟩ := h.born k r' hr hr'
      exact ⟨i,hi⟩
    | some r =>
      obtain ⟨i,hi⟩ := hw.intent k r hr
      exact ⟨i,h.intents k i hi⟩
  · cases hn : db.intent? k with
    | none => exact h.quantities k i hn hi
    | some i₀ =>
      have heq : i₀ = i := Option.some.inj ((h.intents k i₀ hn).symm.trans hi)
      exact heq ▸ hw.quantity k i₀ hn

theorem order_advances (h : Evolves P db db') {k : OrderKey} {r : BrokerOrder}
    {i : IntentColumns} (hr : db.order? k = some r) (hi : db.intent? k = some i) :
    ∃ r', db'.order? k = some r' ∧ Advances r r' := by
  obtain ⟨r',hr',hp⟩ := h.orders k r i hr hi
  refine ⟨r',hr',?_⟩
  clear hr'
  induction hp with
  | refl => exact .refl r
  | tail _ hw ih => exact ih.trans hw.advances

theorem advances (h : Evolves P db db') (hw : db.Wf) {k : OrderKey} {r : BrokerOrder}
    (hr : db.order? k = some r) : ∃ r', db'.order? k = some r' ∧ Advances r r' := by
  obtain ⟨i,hi⟩ := hw.intent k r hr
  exact h.order_advances hr hi

/-- A property of orders that fresh rows have and every write keeps. -/
theorem ordersHold (h : Evolves P db db') {J : Int → BrokerOrder → Prop}
    (hborn : ∀ k r q, 0 < q → Born k r → J q r)
    (hwrite : ∀ q r r', 0 < q → J q r → OrderWrite P q r r' → J q r')
    (hw : db.Wf) (hdb : db.OrdersHold J) : db'.OrdersHold J := by
  have hpath : ∀ q r r', 0 < q → J q r → ReflTransGen (OrderWrite P q) r r' → J q r' := by
    intro q r r' hq hj hp
    induction hp with
    | refl => exact hj
    | tail _ hw ih => exact hwrite q _ _ hq ih hw
  have hpos := (h.wf hw).quantity
  intro k r' i' hr' hi'
  cases hr : db.order? k with
  | none =>
    obtain ⟨i,r₀,hi,hb,hp⟩ := h.born k r' hr hr'
    have heq : i = i' := Option.some.inj (hi.symm.trans hi')
    subst heq
    exact hpath _ _ _ (hpos k i hi') (hborn k r₀ _ (hpos k i hi') hb) hp
  | some r =>
    obtain ⟨i,hi⟩ := hw.intent k r hr
    obtain ⟨r₁,hr₁,hp⟩ := h.orders k r i hr hi
    have heq : i = i' := Option.some.inj ((h.intents k i hi).symm.trans hi')
    have heq' : r₁ = r' := Option.some.inj (hr₁.symm.trans hr')
    subst heq heq'
    exact hpath _ _ _ (hpos k i hi') (hdb k r i hr hi) hp

end Evolves
end BigQmt
