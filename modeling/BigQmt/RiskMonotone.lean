import BigQmt.RiskEngine
set_option autoImplicit false

/-!
What `evaluate_risk` accepts it also accepts under a more permissive policy, and in a smaller
size.
-/

namespace BigQmt.Risk

open Checklist

/-- The same identities, and every limit at least as permissive. -/
structure RiskPolicy.Loosened (p p' : RiskPolicy) : Prop where
  account : p'.expectedAccountFingerprint = p.expectedAccountFingerprint
  strategyId : p'.strategy.strategyId = p.strategy.strategyId
  modes : p.permittedExecutionModes ⊆ p'.permittedExecutionModes
  qmt : p'.requireQmtHealthy = true → p.requireQmtHealthy = true
  accountAge : p.accountMaxAgeSeconds ≤ p'.accountMaxAgeSeconds
  strategyAge : p.strategyMaxAgeSeconds ≤ p'.strategyMaxAgeSeconds
  marketAge : p.marketMaxAgeSeconds ≤ p'.marketMaxAgeSeconds
  cashBuffer : p'.minCashBuffer ≤ p.minCashBuffer
  feeBuffer : p'.feeBufferRate ≤ p.feeBufferRate
  accountExposure : p.maxAccountGrossExposure ≤ p'.maxAccountGrossExposure
  dailyLoss : p.maxDailyLossAbs ≤ p'.maxDailyLossAbs
  dailyTurnover : p.maxDailyTurnover ≤ p'.maxDailyTurnover
  dailyOrders : p.maxDailyOrders ≤ p'.maxDailyOrders
  dailyCancels : p.maxDailyCancels ≤ p'.maxDailyCancels
  orderNotional : p.maxOrderNotional ≤ p'.maxOrderNotional
  securityExposure : p.maxSecurityGrossExposure ≤ p'.maxSecurityGrossExposure
  deviation : p.maxPriceDeviationRate ≤ p'.maxPriceDeviationRate
  versions : p.strategy.allowedVersions ⊆ p'.strategy.allowedVersions
  symbols : p.strategy.allowedSymbols ⊆ p'.strategy.allowedSymbols
  strategyExposure : p.strategy.maxGrossExposure ≤ p'.strategy.maxGrossExposure
  strategyTurnover : p.strategy.maxDailyTurnover ≤ p'.strategy.maxDailyTurnover
  positionCount : p.strategy.maxPositionCount ≤ p'.strategy.maxPositionCount

/-- The three ages reach back no further than the clock of `now`. -/
def RiskPolicy.AgesOnClock (policy : RiskPolicy) (now : AwareTime) : Prop :=
  policy.accountMaxAgeSeconds * 1000000 ≤ now.wall ∧
    policy.strategyMaxAgeSeconds * 1000000 ≤ now.wall ∧
    policy.marketMaxAgeSeconds * 1000000 ≤ now.wall

theorem OrderIntent.quantity_pos (intent : OrderIntent) : 0 < intent.quantity := by
  have h := intent.checked
  simp only [OrderIntentFields.postInit,bind_eq_ok,requirePositiveInt_eq_ok] at h
  obtain ⟨_,_,_,_,_,_,_,_,_,hq,_⟩ := h
  exact hq

theorem OrderIntent.limitPrice_pos (intent : OrderIntent) : 0 < intent.limitPrice := by
  have h := intent.checked
  simp only [OrderIntentFields.postInit,bind_eq_ok,require_eq_ok,decide_eq_true_eq] at h
  obtain ⟨_,_,_,_,_,_,_,_,_,_,hp⟩ := h
  exact hp

theorem OrderIntent.notional_pos (intent : OrderIntent) : 0 < intent.notional := by
  have hq : (0 : ℚ) < intent.quantity := by exact_mod_cast intent.quantity_pos
  exact mul_pos intent.limitPrice_pos hq

theorem RiskPolicy.feeBufferRate_nonneg (policy : RiskPolicy) : 0 ≤ policy.feeBufferRate := by
  have h := policy.checked
  simp only [RiskPolicyFields.postInit,bind_eq_ok,requireDecimal_eq_ok] at h
  obtain ⟨_,_,_,_,_,_,_,_,_,_,_,_,_,_,_,_,_,hfee,_⟩ := h
  exact hfee

section loosened
variable {intent : OrderIntent} {snapshot : RiskSnapshot} {p p' : RiskPolicy} {now : AwareTime}

theorem globalRules_loosened (h : p.Loosened p') :
    Milder (globalRules intent snapshot p') (globalRules intent snapshot p) := by
  simp only [Milder,globalRules,List.forall₂_cons,reject_violated,decide_eq_true_eq,
    Bool.and_eq_true]
  refine ⟨id,id,id,id,?_,?_,id,id,?_,?_,?_,?_,.nil⟩
  · intro hmode hmem
    exact hmode (h.modes hmem)
  · rintro ⟨hqmt,hhealth⟩
    exact ⟨h.qmt hqmt,hhealth⟩
  · intro hloss
    linarith [h.dailyLoss]
  · intro hturnover
    linarith [h.dailyTurnover]
  · intro horders
    linarith [h.dailyOrders]
  · intro hcancels
    linarith [h.dailyCancels]

theorem accountIdentityRules_loosened (h : p.Loosened p') :
    Milder (accountIdentityRules intent snapshot p' false)
      (accountIdentityRules intent snapshot p false) := by
  simp only [Milder,accountIdentityRules,List.forall₂_cons,reject_violated,h.account]
  exact ⟨id,id,.nil⟩

theorem accountLimitRules_loosened (h : p.Loosened p') :
    Milder (accountLimitRules intent snapshot p') (accountLimitRules intent snapshot p) := by
  simp only [Milder,accountLimitRules,List.forall₂_cons,reject_violated,decide_eq_true_eq]
  refine ⟨?_,?_,.nil⟩
  · intro hcash
    linarith [h.cashBuffer]
  · intro hexposure
    linarith [h.accountExposure]

theorem strategyRules_loosened (h : p.Loosened p') :
    Milder (strategyRules intent snapshot p' false) (strategyRules intent snapshot p false) := by
  simp only [Milder,strategyRules,List.forall₂_cons,reject_violated,decide_eq_true_eq,
    Bool.or_eq_true,h.strategyId]
  refine ⟨?_,id,?_,?_,?_,?_,.nil⟩
  · rintro ((hid | hversion) | hsame)
    · exact .inl (.inl hid)
    · exact .inl (.inr (fun hmem => hversion (h.versions hmem)))
    · exact .inr hsame
  · intro hsymbol hmem
    exact hsymbol (h.symbols hmem)
  · intro hexposure
    linarith [h.strategyExposure]
  · intro hturnover
    linarith [h.strategyTurnover]
  · intro hcount
    linarith [h.positionCount]

theorem orderFactRules_loosened (h : p.Loosened p') :
    Milder (orderFactRules intent snapshot p' now false)
      (orderFactRules intent snapshot p now false) := by
  simp only [Milder,orderFactRules,List.forall₂_cons,reject_violated]
  refine ⟨id,id,id,id,id,id,?_,.nil⟩
  simp only [decide_eq_true_eq]
  intro hdeviation
  linarith [h.deviation]

theorem orderSizeRules_loosened (h : p.Loosened p') :
    Milder (orderSizeRules intent snapshot p') (orderSizeRules intent snapshot p) := by
  simp only [Milder,orderSizeRules,List.forall₂_cons,reject_violated]
  refine ⟨id,?_,?_,?_,.nil⟩
  · simp only [decide_eq_true_eq]
    intro hnotional
    linarith [h.orderNotional]
  · simp only [decide_eq_true_eq]
    intro hexposure
    linarith [h.securityExposure]
  · cases hside : intent.side with
    | sell => exact id
    | buy =>
      simp only [reject_violated,decide_eq_true_eq]
      intro hcash
      -- the smaller fee and the smaller reserve both leave more
      have hfee : intent.notional * (1 + p'.feeBufferRate) ≤
          intent.notional * (1 + p.feeBufferRate) :=
        mul_le_mul_of_nonneg_left (by linarith [h.feeBuffer]) (le_of_lt intent.notional_pos)
      linarith [h.cashBuffer]

theorem riskRules_loosened (h : p.Loosened p') :
    Milder (riskRules intent snapshot p' now ⟨false,false,false⟩)
      (riskRules intent snapshot p now ⟨false,false,false⟩) := by
  have hconsistency : Milder (consistencyRules snapshot) (consistencyRules snapshot) := by
    simp only [Milder,consistencyRules,List.forall₂_cons]
    exact ⟨id,id,.nil⟩
  exact .append (.append (.append (.append (.append (.append (globalRules_loosened h)
    (accountIdentityRules_loosened h)) hconsistency) (accountLimitRules_loosened h))
    (strategyRules_loosened h)) (orderFactRules_loosened h)) (orderSizeRules_loosened h)

/-- A fact that is fresh stays so for a larger age, as long as the clock tells it. -/
theorem isStale_loosened {t : AwareTime} {age age' : Int} (h : age ≤ age')
    (hfresh : isStale t now age = .ok false) :
    isStale t now age' = .ok false ↔ age' * 1000000 ≤ now.wall := by
  rw [isStale_eq_false] at hfresh ⊢
  obtain ⟨hpast,-,hage⟩ := hfresh
  constructor
  · rintro ⟨-,hclock,-⟩
    exact hclock
  · intro hclock
    exact ⟨hpast,hclock,by omega⟩

theorem accepts_loosened (h : p.Loosened p') (haccepts : accepts intent snapshot p now = true) :
    accepts intent snapshot p' now = true ↔ p'.AgesOnClock now := by
  obtain ⟨stale,hstale,hhash,hpass⟩ := accepts_iff.mp haccepts
  obtain rfl := stale_of_passes hpass
  obtain ⟨haccount,hstrategy,hsecurity⟩ := staleness_eq_ok.mp hstale
  have hclock : staleness snapshot p' now = .ok ⟨false,false,false⟩ ↔ p'.AgesOnClock now := by
    rw [staleness_eq_ok,isStale_loosened h.accountAge haccount,
      isStale_loosened h.strategyAge hstrategy,isStale_loosened h.marketAge hsecurity]
    rfl
  rw [← hclock,accepts_iff]
  constructor
  · rintro ⟨stale',hstale',-,hpass'⟩
    rw [hstale',stale_of_passes hpass']
  · intro hfresh
    exact ⟨_,hfresh,hhash,(riskRules_loosened h).passes hpass⟩

end loosened

/-- The same intent in a smaller size. -/
structure OrderIntent.Reduced (intent intent' : OrderIntent) : Prop where
  same : intent'.toOrderIntentFields = { intent.toOrderIntentFields with quantity := intent'.quantity }
  le : intent'.quantity ≤ intent.quantity

section reduced
variable {intent intent' : OrderIntent} {snapshot : RiskSnapshot} {policy : RiskPolicy}
  {now : AwareTime}

theorem OrderIntent.Reduced.notional_le (h : intent.Reduced intent') :
    intent'.notional ≤ intent.notional := by
  have hprice : intent'.limitPrice = intent.limitPrice := by rw [h.same]
  have hle : (intent'.quantity : ℚ) ≤ intent.quantity := by exact_mod_cast h.le
  rw [OrderIntent.notional,OrderIntent.notional,hprice]
  exact mul_le_mul_of_nonneg_left hle (le_of_lt intent.limitPrice_pos)

/-- A smaller buy adds less exposure. -/
theorem projectedLongExposure_reduced (h : intent.Reduced intent') (hside : intent.side = .buy)
    (currentTotal currentSymbol : ℚ) :
    projectedLongExposure intent'.side currentTotal currentSymbol intent'.notional ≤
      projectedLongExposure intent.side currentTotal currentSymbol intent.notional := by
  have hside' : intent'.side = .buy := by rw [h.same,hside]
  rw [hside,hside']
  simp only [projectedLongExposure]
  linarith [h.notional_le]

theorem globalRules_reduced (h : intent.Reduced intent') :
    Milder (globalRules intent' snapshot policy) (globalRules intent snapshot policy) := by
  simp only [Milder,globalRules,List.forall₂_cons,reject_violated]
  refine ⟨id,id,id,id,id,id,id,id,id,?_,id,id,.nil⟩
  simp only [decide_eq_true_eq]
  intro hturnover
  linarith [h.notional_le]

theorem accountLimitRules_reduced (h : intent.Reduced intent') (hside : intent.side = .buy) :
    Milder (accountLimitRules intent' snapshot policy)
      (accountLimitRules intent snapshot policy) := by
  simp only [Milder,accountLimitRules,List.forall₂_cons,reject_violated,decide_eq_true_eq]
  refine ⟨id,?_,.nil⟩
  intro hexposure
  exact lt_of_lt_of_le hexposure (projectedLongExposure_reduced h hside _ _)

theorem strategyRules_reduced (h : intent.Reduced intent') (hside : intent.side = .buy) :
    Milder (strategyRules intent' snapshot policy false)
      (strategyRules intent snapshot policy false) := by
  have hside' : intent'.side = .buy := by rw [h.same,hside]
  have hid : intent'.strategyId = intent.strategyId := by rw [h.same]
  have hversion : intent'.strategyVersion = intent.strategyVersion := by rw [h.same]
  have hsymbol : intent'.symbol = intent.symbol := by rw [h.same]
  have hcount : projectedPositionCount intent' snapshot.strategy =
      projectedPositionCount intent snapshot.strategy := by
    simp only [projectedPositionCount,hside,hside',true_and,reduceCtorEq,false_and,if_false]
  simp only [Milder,strategyRules,List.forall₂_cons,reject_violated,hid,hversion,hsymbol,hcount]
  refine ⟨id,id,id,?_,?_,id,.nil⟩
  · simp only [decide_eq_true_eq]
    intro hexposure
    exact lt_of_lt_of_le hexposure (projectedLongExposure_reduced h hside _ _)
  · simp only [decide_eq_true_eq]
    intro hturnover
    linarith [h.notional_le]

theorem orderFactRules_reduced (h : intent.Reduced intent') :
    orderFactRules intent' snapshot policy now false =
      orderFactRules intent snapshot policy now false := by
  have hsymbol : intent'.symbol = intent.symbol := by rw [h.same]
  have hprice : intent'.limitPrice = intent.limitPrice := by rw [h.same]
  have hexpiry : intent'.expiresAt = intent.expiresAt := by rw [h.same]
  simp only [orderFactRules,OrderIntent.isExpired,hsymbol,hprice,hexpiry]

theorem orderSizeRules_reduced (h : intent.Reduced intent') (hside : intent.side = .buy)
    (hlot : snapshot.security.buyLotSize ∣ intent'.quantity) :
    Milder (orderSizeRules intent' snapshot policy) (orderSizeRules intent snapshot policy) := by
  have hside' : intent'.side = .buy := by rw [h.same,hside]
  have hwhole : intent'.quantity % snapshot.security.buyLotSize = 0 := Int.emod_eq_zero_of_dvd hlot
  simp only [Milder,orderSizeRules,List.forall₂_cons,reject_violated]
  refine ⟨by simp [hside',hwhole],?_,?_,?_,.nil⟩
  · simp only [decide_eq_true_eq]
    intro hnotional
    linarith [h.notional_le]
  · simp only [decide_eq_true_eq]
    intro hexposure
    exact lt_of_lt_of_le hexposure (projectedLongExposure_reduced h hside _ _)
  · simp only [hside,hside',reject_violated,decide_eq_true_eq]
    intro hcash
    have hcost : intent'.notional * (1 + policy.feeBufferRate) ≤
        intent.notional * (1 + policy.feeBufferRate) :=
      mul_le_mul_of_nonneg_right h.notional_le (by linarith [policy.feeBufferRate_nonneg])
    linarith

theorem accepts_reduced (h : intent.Reduced intent') (hside : intent.side = .buy)
    (hlot : snapshot.security.buyLotSize ∣ intent'.quantity)
    (haccepts : accepts intent snapshot policy now = true) :
    accepts intent' snapshot policy now = true := by
  obtain ⟨stale,hstale,hhash,hpass⟩ := accepts_iff.mp haccepts
  obtain rfl := stale_of_passes hpass
  have hidentity : Milder (accountIdentityRules intent' snapshot policy false)
      (accountIdentityRules intent snapshot policy false) := by
    have haccount : intent'.accountFingerprint = intent.accountFingerprint := by rw [h.same]
    simp only [Milder,accountIdentityRules,List.forall₂_cons,haccount]
    exact ⟨id,id,.nil⟩
  have hconsistency : Milder (consistencyRules snapshot) (consistencyRules snapshot) := by
    simp only [Milder,consistencyRules,List.forall₂_cons]
    exact ⟨id,id,.nil⟩
  have hfacts : Milder (orderFactRules intent' snapshot policy now false)
      (orderFactRules intent snapshot policy now false) := by
    rw [orderFactRules_reduced h]
    simp only [Milder,orderFactRules,List.forall₂_cons]
    exact ⟨id,id,id,id,id,id,id,.nil⟩
  have hrules : Milder (riskRules intent' snapshot policy now ⟨false,false,false⟩)
      (riskRules intent snapshot policy now ⟨false,false,false⟩) :=
    .append (.append (.append (.append (.append (.append (globalRules_reduced h)
      hidentity) hconsistency) (accountLimitRules_reduced h hside))
      (strategyRules_reduced h hside)) hfacts) (orderSizeRules_reduced h hside hlot)
  exact accepts_iff.mpr ⟨_,hstale,hhash,hrules.passes hpass⟩

end reduced

/-- The sample policy with an age that reaches back to a time before year 1. -/
def longAgePolicy : RiskPolicy :=
  { samplePolicy with
    accountMaxAgeSeconds := 100000000000
    checked := by decide +kernel }

def smallerOrder : OrderIntent :=
  { sampleOrder with
    quantity := 100
    checked := by decide +kernel }

theorem longAgePolicy_loosened : samplePolicy.Loosened longAgePolicy := by
  constructor <;> decide +kernel

theorem smallerOrder_reduced : sampleOrder.Reduced smallerOrder := by
  constructor <;> decide +kernel

end BigQmt.Risk
