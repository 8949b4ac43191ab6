import BigQmt.Ingress
import BigQmt.MapperRows
set_option autoImplicit false

/-!
What the rows of callbacks and snapshots do to the mapper of `qmt/guojin_evidence.py`:
the ledger of trades, the broker order ids and the evidence, over all its calls.
-/

namespace BigQmt

open Keyed

namespace Mapper

theorem textAt_oneOf {payload : Fields} {key : String} {values : List String}
    (h : (payload.get key).any (oneOf values) = true) :
    ∃ t, t ∈ values ∧ payload.textAt key = some t := by
  unfold Fields.textAt
  cases hv : payload.get key with
  | none => simp [hv] at h
  | some v =>
    cases v with
    | text t =>
      refine ⟨t,?_,rfl⟩
      simpa [hv,oneOf,Json.str] using h
    | null => simp [hv,oneOf,Json.str] at h
    | bool b => simp [hv,oneOf,Json.str] at h
    | int n => simp [hv,oneOf,Json.str] at h
    | real d => simp [hv,oneOf,Json.str] at h
    | array l => simp [hv,oneOf,Json.str] at h
    | object f => simp [hv,oneOf,Json.str] at h

/-- What `_identity` has checked of a row that it lets through. -/
structure Identified (m : Mapper) (event : QmtEvent) (payload : Fields) (o : RegisteredOrder) :
    Prop where
  account : event.accountFingerprint = m.accountFingerprint
  remark : payload.textAt "remark" = some o.brokerToken
  shape : isBrokerToken o.brokerToken = true
  registered : m.order? o.brokerToken = some o
  route : event.source = "active_query" → ∃ accountType fingerprint,
    accountType ∈ ["STOCK","HUGANGTONG","SHENGANGTONG"] ∧ isSha256 fingerprint = true ∧
    payload.textAt "route_account_type" = some accountType ∧
    payload.textAt "route_account_fingerprint" = some fingerprint

variable {m m' : Mapper} {src : RowSource} {payload : Fields} {o : RegisteredOrder} {fact : RowFact}
  {event : QmtEvent}

theorem identity_ok (h : m.identity event payload = .ok o) : m.Identified event payload o := by
  unfold identity at h
  simp only [refuse_eq_ok] at h
  obtain ⟨-,haccount,-,h⟩ := h
  cases htoken : (payload.textAt "remark").filter isBrokerToken with
  | none => simp [htoken] at h
  | some token =>
    cases horder : m.order? token with
    | none => simp [htoken,horder] at h
    | some found =>
      simp only [htoken,horder,refuse_eq_ok,Except.ok.injEq] at h
      obtain ⟨-,-,-,htype,hfingerprint,rfl⟩ := h
      have hkey : found.brokerToken = token := find_key horder
      subst hkey
      obtain ⟨hremark,hshape⟩ := Option.filter_eq_some_iff.mp htoken
      refine ⟨by simpa using haccount,hremark,hshape,horder,?_⟩
      intro hquery
      simp only [hquery,decide_true,Bool.true_and,Bool.not_eq_false'] at htype hfingerprint
      obtain ⟨accountType,haccountType,htext⟩ := textAt_oneOf htype
      cases hvalue : payload.textAt "route_account_fingerprint" with
      | none => simp [hvalue] at hfingerprint
      | some fingerprint =>
        have hsha : isSha256 fingerprint = true := by simpa [hvalue] using hfingerprint
        exact ⟨accountType,fingerprint,haccountType,hsha,htext,rfl⟩

/-- A bound id stays; an order without one takes the row's. -/
theorem bind_cases {b : Option String} (h : m.bindBrokerOrderId o b = some m') :
    (m' = m ∧ ∀ x, b = some x → o.brokerOrderId = some x) ∨
    ∃ x, b = some x ∧ o.brokerOrderId = none ∧ m' = { m with
      ordersByToken := modify RegisteredOrder.brokerToken o.brokerToken
        (fun o => { o with brokerOrderId := some x }) m.ordersByToken } := by
  unfold bindBrokerOrderId at h
  cases b with
  | none =>
    simp only [Option.some.injEq] at h
    exact .inl ⟨h.symm,fun x hx => by cases hx⟩
  | some x =>
    cases hbound : o.brokerOrderId with
    | none =>
      simp only [hbound,Option.some.injEq] at h
      exact .inr ⟨x,rfl,rfl,h.symm⟩
    | some bound =>
      simp only [hbound] at h
      split_ifs at h with heq
      cases h
      refine .inl ⟨rfl,?_⟩
      intro y hy
      cases hy
      rw [heq]

/-- The ledger of a mapper goes on from that of another: the same orders, and the ids that
were bound. -/
structure Keeps (m m' : Mapper) : Prop where
  orders : ∀ t o, m.order? t = some o → ∃ o', m'.order? t = some o' ∧ o'.quantity = o.quantity ∧
    o'.clientOrderId = o.clientOrderId ∧ ∀ b, o.brokerOrderId = some b → o'.brokerOrderId = some b
  profile : m'.profile = m.profile

theorem Keeps.refl (m : Mapper) : Keeps m m :=
  ⟨fun _ o ho => ⟨o,ho,rfl,rfl,fun _ hb => hb⟩,rfl⟩

theorem Keeps.trans {m₁ m₂ m₃ : Mapper} (h : Keeps m₁ m₂) (h' : Keeps m₂ m₃) : Keeps m₁ m₃ := by
  refine ⟨?_,h'.profile.trans h.profile⟩
  intro t o ho
  obtain ⟨o₂,ho₂,hq₂,hc₂,hb₂⟩ := h.orders t o ho
  obtain ⟨o₃,ho₃,hq₃,hc₃,hb₃⟩ := h'.orders t o₂ ho₂
  exact ⟨o₃,ho₃,hq₃.trans hq₂,hc₃.trans hc₂,fun b hb => hb₃ b (hb₂ b hb)⟩

theorem bind_isSome {b : Option String} (h : m.bindBrokerOrderId o b = some m') (t : String) :
    (m.order? t).isSome = (m'.order? t).isSome := by
  obtain ⟨rfl,-⟩ | ⟨x,-,-,rfl⟩ := bind_cases h
  · rfl
  · have hkey : ∀ r : RegisteredOrder, RegisteredOrder.brokerToken
        { r with brokerOrderId := some x } = r.brokerToken := fun _ => rfl
    unfold order?
    rw [find_modify hkey]
    split_ifs with ht
    · rw [ht,Option.isSome_map]
    · rfl

/-- What binding leaves: the trades as they are, and the order with the row's id. -/
theorem bind_keeps {b : Option String} (ho : m.order? o.brokerToken = some o)
    (h : m.bindBrokerOrderId o b = some m') :
    Keeps m m' ∧ m'.trades = m.trades ∧
      ∃ o', m'.order? o.brokerToken = some o' ∧ o'.quantity = o.quantity ∧
        ∀ x, b = some x → o'.brokerOrderId = some x := by
  obtain ⟨rfl,hbound⟩ | ⟨x,rfl,hnone,rfl⟩ := bind_cases h
  · exact ⟨.refl m',rfl,o,ho,rfl,hbound⟩
  · have hkey : ∀ r : RegisteredOrder, RegisteredOrder.brokerToken
        { r with brokerOrderId := some x } = r.brokerToken := fun _ => rfl
    refine ⟨⟨?_,rfl⟩,rfl,{ o with brokerOrderId := some x },?_,rfl,?_⟩
    · intro t p hp
      unfold order? at hp ho ⊢
      rw [find_modify hkey]
      by_cases ht : t = o.brokerToken
      · subst ht
        rw [ho] at hp
        cases hp
        refine ⟨{ o with brokerOrderId := some x },by simp [ho],rfl,rfl,?_⟩
        intro b hb
        rw [hnone] at hb
        cases hb
      · exact ⟨p,by simp [ht,hp],rfl,rfl,fun b hb => hb⟩
    · unfold order? at ho ⊢
      rw [find_modify_self hkey,ho]
      rfl
    · intro y hy
      cases hy
      rfl

/-- The trades as they are, or with one more at the end. -/
theorem recordTrade_trades (m : Mapper) (token tradeId : String) (quantity : Int) :
    (m.recordTrade token tradeId quantity).trades =
      if (m.trade? token tradeId).isSome then m.trades else m.trades ++ [⟨token,tradeId,quantity⟩] := by
  unfold recordTrade
  split_ifs <;> rfl

theorem recordTrade_order? (m : Mapper) (token tradeId : String) (quantity : Int) (t : String) :
    (m.recordTrade token tradeId quantity).order? t = m.order? t := by
  unfold recordTrade order?
  split_ifs <;> rfl

theorem recordTrade_profile (m : Mapper) (token tradeId : String) (quantity : Int) :
    (m.recordTrade token tradeId quantity).profile = m.profile := by
  unfold recordTrade
  split_ifs <;> rfl

theorem keeps_recordTrade (m : Mapper) (token tradeId : String) (quantity : Int) :
    Keeps m (m.recordTrade token tradeId quantity) := by
  refine ⟨?_,recordTrade_profile m token tradeId quantity⟩
  intro t o ho
  exact ⟨o,by rw [recordTrade_order?,ho],rfl,rfl,fun _ hb => hb⟩

theorem cumulative_congr (h : m'.trades = m.trades) (t : String) :
    m'.cumulative t = m.cumulative t := by
  unfold cumulative
  rw [h]

theorem recordTrade_congr (h : m'.trades = m.trades) (token tradeId : String) (quantity : Int) :
    (m'.recordTrade token tradeId quantity).trades =
      (m.recordTrade token tradeId quantity).trades := by
  rw [recordTrade_trades,recordTrade_trades]
  unfold trade?
  rw [h]

/-- A trade counts for its own token only. -/
theorem cumulative_other {token t : String} (ht : t ≠ token) (m : Mapper) (tradeId : String)
    (quantity : Int) : (m.recordTrade token tradeId quantity).cumulative t = m.cumulative t := by
  unfold cumulative
  rw [recordTrade_trades]
  split_ifs
  · rfl
  · simp [Ne.symm ht]

/-- A trade of the ledger is found by its token and id. -/
theorem trade?_none {token tradeId : String} (h : ¬(m.trade? token tradeId).isSome) :
    ∀ t ∈ m.trades, (t.brokerToken,t.tradeId) ≠ (token,tradeId) := by
  intro t ht heq
  have hother : ∀ t ∈ m.trades, t.brokerToken = token → ¬t.tradeId = tradeId := by
    simpa [trade?] using h
  simp only [Prod.mk.injEq] at heq
  exact hother t ht heq.1 heq.2

/-- The ledger of a mapper: each trade once, of an order that is registered, and never more
than the order is for. -/
structure Within (m : Mapper) : Prop where
  apart : (m.trades.map (fun t => (t.brokerToken,t.tradeId))).Nodup
  positive : ∀ t ∈ m.trades, 0 < t.quantity
  registered : ∀ t ∈ m.trades, (m.order? t.brokerToken).isSome = true
  bounded : ∀ token o, m.order? token = some o → m.cumulative token ≤ o.quantity
  sized : ∀ token o, m.order? token = some o → 0 < o.quantity ∧ o.clientOrderId ≠ ""

theorem within_fresh (account : String) : Within (fresh account) := by
  constructor <;> simp [fresh,order?,find,cumulative]

/-- What a deal says once it has passed the checks. -/
theorem dealFact_ok {tradeId : String} {quantity : Int}
    (h : m.dealFact o payload = .ok (fact,tradeId,quantity)) :
    text payload "trade_id" = some tradeId ∧ payload.numAt "quantity" = some quantity ∧
      0 < quantity ∧ fact.brokerOrderId = text payload "broker_order_id" ∧
      fact.tradeId = some tradeId ∧
      fact.filledQuantity = (m.recordTrade o.brokerToken tradeId quantity).cumulative o.brokerToken ∧
      fact.filledQuantity ≤ o.quantity ∧
      fact.evidenceType = (if fact.filledQuantity = o.quantity then .fullFill else .partialFill) ∧
      fact.brokerOrderId.isSome = true := by
  unfold dealFact at h
  split at h
  · rename_i brokerOrderId found number hbroker htrade hquantity
    simp only [refuse_eq_ok,Except.ok.injEq,Prod.mk.injEq,decide_eq_false_iff_not] at h
    obtain ⟨hpositive,-,hbound,rfl,rfl,rfl⟩ := h
    exact ⟨htrade,hquantity,by omega,hbroker.symm,rfl,rfl,by dsimp only; omega,rfl,rfl⟩
  · cases h

/-- An order keeps its size along with the ledger. -/
theorem Keeps.back (h : Keeps m m') (hsame : ∀ t, (m.order? t).isSome = (m'.order? t).isSome)
    {t : String} (ho : m'.order? t = some o) :
    ∃ p, m.order? t = some p ∧ o.quantity = p.quantity ∧ o.clientOrderId = p.clientOrderId := by
  have hsome := hsame t
  rw [ho] at hsome
  obtain ⟨p,hp⟩ := Option.isSome_iff_exists.mp hsome
  obtain ⟨o',ho',hq,hc,-⟩ := h.orders t p hp
  rw [ho] at ho'
  cases ho'
  exact ⟨p,hp,hq,hc⟩

/-- Binding an id keeps the ledger in bounds. -/
theorem Within.bind {b : Option String} (hm : Within m) (ho : m.order? o.brokerToken = some o)
    (h : m.bindBrokerOrderId o b = some m') : Within m' := by
  obtain ⟨hkeeps,htrades,-⟩ := bind_keeps ho h
  have hsame := bind_isSome h
  refine ⟨by rw [htrades]; exact hm.apart,by rw [htrades]; exact hm.positive,?_,?_,?_⟩
  · intro t ht
    rw [htrades] at ht
    rw [← hsame]
    exact hm.registered t ht
  · intro token p hp
    obtain ⟨q,hq,hsize,-⟩ := hkeeps.back hsame hp
    rw [cumulative_congr htrades,hsize]
    exact hm.bounded token q hq
  · intro token p hp
    obtain ⟨q,hq,hsize,hclient⟩ := hkeeps.back hsame hp
    rw [hsize,hclient]
    exact hm.sized token q hq

/-- Recording a trade that fits keeps the ledger in bounds. -/
theorem Within.recordTrade {token tradeId : String} {quantity : Int} (hm : Within m)
    (ho : m.order? token = some o) (hpositive : 0 < quantity)
    (hfits : (m.recordTrade token tradeId quantity).cumulative token ≤ o.quantity) :
    Within (m.recordTrade token tradeId quantity) := by
  by_cases hknown : (m.trade? token tradeId).isSome
  · have hsame : m.recordTrade token tradeId quantity = m := by simp [Mapper.recordTrade,hknown]
    rwa [hsame]
  · have htrades : (m.recordTrade token tradeId quantity).trades =
        m.trades ++ [⟨token,tradeId,quantity⟩] := by simp [recordTrade_trades,hknown]
    refine ⟨?_,?_,?_,?_,?_⟩
    · rw [htrades,List.map_append,List.nodup_append]
      refine ⟨hm.apart,by simp,?_⟩
      intro key hkey key' hnew
      simp only [List.map_cons,List.map_nil,List.mem_singleton] at hnew
      subst hnew
      obtain ⟨t,ht,rfl⟩ := List.mem_map.mp hkey
      exact trade?_none hknown t ht
    · intro t ht
      rw [htrades] at ht
      obtain ht | ht := List.mem_append.mp ht
      · exact hm.positive t ht
      · cases List.mem_singleton.mp ht
        exact hpositive
    · intro t ht
      rw [htrades] at ht
      rw [recordTrade_order?]
      obtain ht | ht := List.mem_append.mp ht
      · exact hm.registered t ht
      · cases List.mem_singleton.mp ht
        simp [ho]
    · intro t p hp
      rw [recordTrade_order?] at hp
      by_cases ht : t = token
      · subst ht
        rw [ho] at hp
        cases hp
        exact hfits
      · rw [cumulative_other ht]
        exact hm.bounded t p hp
    · intro t p hp
      rw [recordTrade_order?] at hp
      exact hm.sized t p hp

/-- A row that is taken in leaves the ledger in bounds. -/
theorem Taken.within (hm : Within m) (h : Taken m src payload o fact m') : Within m' := by
  cases h with
  | order htype hidentity hfact hbound => exact hm.bind (identity_ok hidentity).registered hbound
  | deal htype hidentity hfact hbound =>
    have hregistered := (identity_ok hidentity).registered
    obtain ⟨-,-,hpositive,-,-,hfilled,hfits,-⟩ := dealFact_ok hfact
    obtain ⟨-,htrades,o',ho',hsize,-⟩ := bind_keeps hregistered hbound
    refine (hm.bind hregistered hbound).recordTrade ho' hpositive ?_
    rw [cumulative_congr (recordTrade_congr htrades _ _ _),← hfilled,hsize]
    exact hfits

section registration
variable {clientOrderId symbol token : String} {quantity : Int}

/-- A registered order is the one that holds its token, or is added. -/
theorem registerOrder_cases (h : m.registerOrder clientOrderId symbol quantity = .ok (token,m')) :
    brokerTokenFor m.accountFingerprint clientOrderId = .ok token ∧
      ((∃ o,m.order? token = some o ∧ o.clientOrderId = clientOrderId ∧ m' = m) ∨
        m.order? token = none ∧ m' = { m with
          ordersByToken := m.ordersByToken ++ [⟨clientOrderId,token,symbol,quantity,none⟩] }) := by
  simp only [registerOrder,refuse_eq_ok] at h
  obtain ⟨-,-,-,h⟩ := h
  obtain ⟨token',htoken,h⟩ := Except.ok_of_bind h
  cases hfound : m.order? token' with
  | none =>
    simp only [hfound,Except.ok.injEq,Prod.mk.injEq] at h
    obtain ⟨rfl,rfl⟩ := h
    exact ⟨htoken,.inr ⟨hfound,rfl⟩⟩
  | some o =>
    simp only [hfound,refuse_eq_ok,Except.ok.injEq,Prod.mk.injEq] at h
    obtain ⟨hsame,rfl,rfl⟩ := h
    have hclient : o.clientOrderId = clientOrderId := by
      by_contra hne
      simp [hne] at hsame
    exact ⟨htoken,.inl ⟨o,hfound,hclient,rfl⟩⟩

theorem registerOrder_new (h : m.order? token = none) :
    ({ m with ordersByToken := m.ordersByToken ++
      [⟨clientOrderId,token,symbol,quantity,none⟩] } : Mapper).order? token =
        some ⟨clientOrderId,token,symbol,quantity,none⟩ := by
  have hnone : find RegisteredOrder.brokerToken (RegisteredOrder.brokerToken
      ⟨clientOrderId,token,symbol,quantity,none⟩) m.ordersByToken = none := h
  exact find_append_self hnone

/-- The other tokens keep their orders. -/
theorem registerOrder_other (h : m.registerOrder clientOrderId symbol quantity = .ok (token,m'))
    {other : String} (hne : other ≠ token) : m'.order? other = m.order? other := by
  obtain ⟨-,⟨_,-,-,rfl⟩ | ⟨-,rfl⟩⟩ := registerOrder_cases h
  · rfl
  · exact find_append_ne hne

theorem registerOrder_sized (h : m.registerOrder clientOrderId symbol quantity = .ok (token,m')) :
    0 < quantity ∧ clientOrderId ≠ "" := by
  simp only [registerOrder,refuse_eq_ok,decide_eq_false_iff_not] at h
  obtain ⟨hclient,hquantity,-⟩ := h
  exact ⟨by omega,by simpa using hclient⟩

theorem keeps_register (h : m.registerOrder clientOrderId symbol quantity = .ok (token,m')) :
    Keeps m m' := by
  have hprofile : m'.profile = m.profile := by
    obtain ⟨-,⟨_,-,-,rfl⟩ | ⟨-,rfl⟩⟩ := registerOrder_cases h <;> rfl
  refine ⟨?_,hprofile⟩
  intro t o ho
  have hsame : m'.order? t = some o := by
    by_cases ht : t = token
    · subst ht
      obtain ⟨-,⟨_,-,-,rfl⟩ | ⟨hnone,-⟩⟩ := registerOrder_cases h
      · exact ho
      · rw [hnone] at ho
        cases ho
    · rw [registerOrder_other h ht,ho]
  exact ⟨o,hsame,rfl,rfl,fun _ hb => hb⟩

/-- An order that is new has no trades yet. -/
theorem Within.register (hm : Within m)
    (h : m.registerOrder clientOrderId symbol quantity = .ok (token,m')) : Within m' := by
  obtain ⟨hpositive,hclient⟩ := registerOrder_sized h
  have hkeeps := keeps_register h
  obtain ⟨-,⟨_,-,-,rfl⟩ | ⟨hnone,hm'⟩⟩ := registerOrder_cases h
  · exact hm
  · have htrades : m'.trades = m.trades := by rw [hm']
    have hnew : m'.order? token = some ⟨clientOrderId,token,symbol,quantity,none⟩ := by
      rw [hm']
      exact registerOrder_new hnone
    refine ⟨by rw [htrades]; exact hm.apart,by rw [htrades]; exact hm.positive,?_,?_,?_⟩
    · intro t ht
      rw [htrades] at ht
      obtain ⟨o,ho⟩ := Option.isSome_iff_exists.mp (hm.registered t ht)
      obtain ⟨o',ho',-⟩ := hkeeps.orders _ o ho
      simp [ho']
    · intro t p hp
      rw [cumulative_congr htrades]
      by_cases ht : t = token
      · subst ht
        rw [hnew] at hp
        cases hp
        have hempty : m.trades.filter (fun r => r.brokerToken = t) = [] := by
          simp only [List.filter_eq_nil_iff,decide_eq_true_eq]
          intro r hr hrt
          have hregistered := hm.registered r hr
          simp [hrt,hnone] at hregistered
        simp [cumulative,hempty]
        omega
      · rw [registerOrder_other h ht] at hp
        exact hm.bounded t p hp
    · intro t p hp
      by_cases ht : t = token
      · subst ht
        rw [hnew] at hp
        cases hp
        exact ⟨hpositive,hclient⟩
      · rw [registerOrder_other h ht] at hp
        exact hm.sized t p hp

end registration

theorem Taken.keeps (h : Taken m src payload o fact m') : Keeps m m' := by
  cases h with
  | order htype hidentity hfact hbound => exact (bind_keeps (identity_ok hidentity).registered hbound).1
  | deal htype hidentity hfact hbound =>
    have hkeeps := (bind_keeps (identity_ok hidentity).registered hbound).1
    exact hkeeps.trans (keeps_recordTrade _ _ _ _)

theorem keeps_reject (m : Mapper) (src : RowSource) (eventType : EventType) (reason : String) :
    Keeps m (m.reject src eventType reason) :=
  ⟨fun _ o ho => ⟨o,ho,rfl,rfl,fun _ hb => hb⟩,rfl⟩

theorem Within.reject (hm : Within m) (src : RowSource) (eventType : EventType) (reason : String) :
    Within (m.reject src eventType reason) := ⟨hm.1,hm.2,hm.3,hm.4,hm.5⟩

theorem Move.keeps (h : Move m m') : Keeps m m' := by
  cases h with
  | register h => exact keeps_register h
  | reject src eventType reason => exact keeps_reject m src eventType reason
  | row src payload =>
    obtain ⟨_,_,h⟩ | ⟨_,_,-,-,h⟩ | ⟨_,_,_,m',-,-,htaken,h⟩ := mapRow_cases m src payload
    · rw [h]
      exact keeps_reject m src _ _
    · rw [h]
      exact .refl m
    · rw [h]
      exact htaken.keeps

theorem Move.within (h : Move m m') (hm : Within m) : Within m' := by
  cases h with
  | register h => exact hm.register h
  | reject src eventType reason => exact hm.reject src eventType reason
  | row src payload =>
    obtain ⟨_,_,h⟩ | ⟨_,_,-,-,h⟩ | ⟨_,_,_,m',-,-,htaken,h⟩ := mapRow_cases m src payload
    · rw [h]
      exact hm.reject src _ _
    · rw [h]
      exact hm
    · rw [h]
      exact htaken.within hm

theorem Reach.keeps (h : Reach m m') : Keeps m m' := by
  induction h with
  | refl => exact .refl m
  | tail _ hmove ih => exact ih.trans hmove.keeps

theorem Reach.within (h : Reach m m') (hm : Within m) : Within m' := by
  induction h with
  | refl => exact hm
  | tail _ hmove ih => exact hmove.within ih

theorem build_cases (m : Mapper) (src : RowSource) (o : RegisteredOrder) (payload : Fields)
    (fact : RowFact) :
    (∃ e, m.build src o payload fact = .ok (some e) ∧
      e.toEvidenceFields = m.evidenceFields src o payload fact) ∨
    ∃ message, (m.evidenceFields src o payload fact).postInit = .error message ∧
      m.build src o payload fact = .error (.valueError message) := by
  unfold build
  cases hbuild : BrokerEvidenceV1.build (m.evidenceFields src o payload fact) with
  | ok e => exact .inl ⟨e,rfl,BrokerEvidenceV1.build_fields hbuild⟩
  | error message =>
    refine .inr ⟨message,?_,rfl⟩
    unfold BrokerEvidenceV1.build at hbuild
    split at hbuild
    · cases hbuild
    · rename_i hpost
      cases hbuild
      exact hpost

namespace RowStep
variable {s : RowStep} {e : BrokerEvidenceV1}

/-- Evidence comes of a row that is taken in, and says what the row says. -/
theorem result_some (h : s.result = .ok (some e)) :
    ∃ fields o fact, s.payload = some fields ∧ s.before.Taken s.src fields o fact s.after ∧
      e.toEvidenceFields = s.after.evidenceFields s.src o fields fact := by
  unfold result at h
  obtain ⟨_,_,hrow⟩ | ⟨_,_,-,-,hrow⟩ | ⟨fields,o,fact,m',hpayload,-,htaken,hrow⟩ :=
    mapRow_cases s.before s.src s.payload
  · rw [hrow] at h
    cases h
  · rw [hrow] at h
    cases h
  · have hafter : s.after = m' := by
      unfold after
      rw [hrow]
    rw [hrow] at h
    obtain ⟨e',hbuild,hfields⟩ | ⟨message,-,hbuild⟩ := build_cases m' s.src o fields fact
    · rw [hbuild] at h
      cases h
      rw [hafter]
      exact ⟨fields,o,fact,hpayload,htaken,hfields⟩
    · rw [hbuild] at h
      cases h

/-- A row that is rejected leaves the ledger and the ids as they were. -/
theorem result_none (h : s.result = .ok none) :
    s.after.trades = s.before.trades ∧ s.after.ordersByToken = s.before.ordersByToken ∧
      ∃ r, s.after.rejections = s.before.rejections ++ [r] := by
  unfold result at h
  unfold after
  obtain ⟨_,_,hrow⟩ | ⟨_,_,-,-,hrow⟩ | ⟨fields,o,fact,m',-,-,-,hrow⟩ :=
    mapRow_cases s.before s.src s.payload
  · rw [hrow]
    exact ⟨rfl,rfl,_,rfl⟩
  · rw [hrow] at h
    cases h
  · rw [hrow] at h
    obtain ⟨e,hbuild,-⟩ | ⟨message,-,hbuild⟩ := build_cases m' s.src o fields fact
    · rw [hbuild] at h
      cases h
    · rw [hbuild] at h
      cases h

/-- The id of the evidence is the id bound to the order. -/
theorem evidence_bound {b : String} (h : s.result = .ok (some e)) (hb : e.brokerOrderId = some b) :
    ∃ token o, e.brokerToken = some token ∧ s.after.order? token = some o ∧
      o.brokerOrderId = some b := by
  obtain ⟨fields,o,fact,-,htaken,hfields⟩ := result_some h
  have htoken : e.brokerToken = some o.brokerToken := by rw [hfields]; rfl
  have hfact : fact.brokerOrderId = some b := by
    rw [← hb,hfields]
    rfl
  generalize s.after = m' at htaken ⊢
  cases htaken with
  | order htype hidentity hfound hbound =>
    obtain ⟨-,-,o',ho',-,hx⟩ := bind_keeps (identity_ok hidentity).registered hbound
    exact ⟨_,o',htoken,ho',hx b hfact⟩
  | deal htype hidentity hfound hbound =>
    obtain ⟨-,-,o',ho',-,hx⟩ := bind_keeps (identity_ok hidentity).registered hbound
    exact ⟨_,o',htoken,by rw [recordTrade_order?,ho'],hx b hfact⟩

/-- A deal reports the sum of the ledger, and the full fill when that is the whole order. -/
theorem deal_evidence (h : s.result = .ok (some e)) (htype : s.src.eventType ≠ .order) :
    ∃ token o, e.brokerToken = some token ∧ s.after.order? token = some o ∧
      e.filledQuantity = s.after.cumulative token ∧
      (e.evidenceType = .fullFill ↔ e.filledQuantity = o.quantity) := by
  obtain ⟨fields,o,fact,-,htaken,hfields⟩ := result_some h
  have htoken : e.brokerToken = some o.brokerToken := by rw [hfields]; rfl
  have hfilled : e.filledQuantity = fact.filledQuantity := by rw [hfields]; rfl
  have hkind : e.evidenceType = fact.evidenceType := by rw [hfields]; rfl
  rw [hfilled,hkind]
  generalize hafter : s.after = m' at htaken ⊢
  cases htaken with
  | order hsame => exact absurd hsame htype
  | deal _ hidentity hfact hbound =>
    obtain ⟨-,-,-,-,-,hsum,-,hevidence,-⟩ := dealFact_ok hfact
    obtain ⟨-,htrades,o',ho',hsize,-⟩ := bind_keeps (identity_ok hidentity).registered hbound
    refine ⟨_,o',htoken,by rw [recordTrade_order?,ho'],?_,?_⟩
    · rw [hsum,cumulative_congr (recordTrade_congr htrades _ _ _)]
    · rw [hevidence,hsize]
      split_ifs with hfull <;> simp [hfull]

/-- A trade that is known leaves the ledger as it was. -/
theorem known_trade {fields : Fields} {token tradeId : String} (hpayload : s.payload = some fields)
    (htoken : fields.textAt "remark" = some token)
    (htrade : fields.textAt "trade_id" = some tradeId)
    (hknown : (s.before.trade? token tradeId).isSome = true) :
    s.after.trades = s.before.trades := by
  unfold after
  obtain ⟨_,_,hrow⟩ | ⟨_,_,-,-,hrow⟩ | ⟨fields',o,fact,m',hfields,-,htaken,hrow⟩ :=
    mapRow_cases s.before s.src s.payload
  · rw [hrow]
    rfl
  · rw [hrow]
  · rw [hrow]
    rw [hpayload] at hfields
    cases hfields
    cases htaken with
    | order htype hidentity hfact hbound =>
      exact (bind_keeps (identity_ok hidentity).registered hbound).2.1
    | deal htype hidentity hfact hbound =>
      have hid := identity_ok hidentity
      obtain ⟨htext,-⟩ := dealFact_ok hfact
      obtain ⟨-,htrades,-⟩ := bind_keeps hid.registered hbound
      have hremark := hid.remark
      rw [htoken] at hremark
      cases hremark
      simp only [text,htrade,Option.filter_some,decide_not] at htext
      split_ifs at htext
      cases htext
      rw [recordTrade_congr htrades,recordTrade_trades,if_pos hknown]

end RowStep

/-- The ledger over every sequence of calls: it stays within the orders, deals report its
sums, a known trade and a rejected row leave it alone, and an order has one broker order id. -/
theorem ledger_over_calls (account : String) (calls : List Call) :
    (∀ e ∈ (fresh account).emitted calls,
      ∃ s ∈ (fresh account).history calls, s.result = .ok (some e)) ∧
    Within ((fresh account).run calls) ∧
    ∀ s ∈ (fresh account).history calls,
      Within s.before ∧ Within s.after ∧
      (∀ e, s.result = .ok (some e) → s.src.eventType ≠ .order →
        ∃ token o, e.brokerToken = some token ∧ s.after.order? token = some o ∧
          e.filledQuantity = s.after.cumulative token ∧
          (e.evidenceType = .fullFill ↔ e.filledQuantity = o.quantity)) ∧
      (∀ fields token tradeId, s.payload = some fields → fields.textAt "remark" = some token →
        fields.textAt "trade_id" = some tradeId →
        (s.before.trade? token tradeId).isSome = true → s.after.trades = s.before.trades) ∧
      (∀ s' ∈ (fresh account).history calls, ∀ e e' b b', s.result = .ok (some e) →
        s'.result = .ok (some e') → e.brokerToken = e'.brokerToken →
        e.brokerOrderId = some b → e'.brokerOrderId = some b' → b = b') ∧
      (s.result = .ok none → s.after.trades = s.before.trades ∧
        s.after.ordersByToken = s.before.ordersByToken) := by
  obtain ⟨hreach,hsteps⟩ := history_reach (fresh account) calls
  have hstart := within_fresh account
  refine ⟨emitted_history _ calls,hreach.within hstart,?_⟩
  intro s hs
  obtain ⟨hbefore,hafter⟩ := hsteps s hs
  have hto : Reach (fresh account) s.after := hbefore.tail (.row s.before s.src s.payload)
  have hs' : Within s.after := hto.within hstart
  refine ⟨hbefore.within hstart,hs',fun e he htype => s.deal_evidence he htype,?_,?_,?_⟩
  · intro fields token tradeId hpayload htoken htrade hknown
    exact s.known_trade hpayload htoken htrade hknown
  · intro t ht e e' b b' he he' htoken hb hb'
    obtain ⟨token,o,hetoken,ho,hob⟩ := s.evidence_bound he hb
    obtain ⟨token',o',hetoken',ho',hob'⟩ := t.evidence_bound he' hb'
    rw [hetoken,hetoken'] at htoken
    cases htoken
    obtain ⟨p,hp,-,-,hpb⟩ := hafter.keeps.orders _ o ho
    obtain ⟨p',hp',-,-,hpb'⟩ := (hsteps t ht).2.keeps.orders _ o' ho'
    rw [hp] at hp'
    cases hp'
    have hsame := (hpb b hob).symm.trans (hpb' b' hob')
    cases hsame
    rfl
  · intro hnone
    obtain ⟨htrades,horders,-⟩ := s.result_none hnone
    exact ⟨htrades,horders⟩

end Mapper
end BigQmt
