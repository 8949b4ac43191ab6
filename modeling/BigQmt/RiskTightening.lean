import Mathlib.Data.Finset.Lattice.Lemmas
import BigQmt.RiskRuntime
set_option autoImplicit false

/-!
What one more external order changes: the snapshot it is assembled into, and what becomes of a
rejection.
-/

namespace BigQmt.Risk

open Checklist

/-- The exposure that an order adds to the account, and to a security. -/
def ActiveBrokerOrderFact.accountExposure (fact : ActiveBrokerOrderFact) : ℚ :=
  if fact.side = .buy then fact.remainingNotional else 0

def ActiveBrokerOrderFact.securityExposure (fact : ActiveBrokerOrderFact) (symbol : String) : ℚ :=
  if fact.side = .buy ∧ fact.symbol = symbol then fact.remainingNotional else 0

theorem ActiveBrokerOrderFact.accountExposure_nonneg (fact : ActiveBrokerOrderFact) :
    0 ≤ fact.accountExposure := by
  unfold accountExposure
  split
  · exact le_of_lt fact.remainingNotional_pos
  · exact le_refl _

theorem ActiveBrokerOrderFact.securityExposure_nonneg (fact : ActiveBrokerOrderFact)
    (symbol : String) : 0 ≤ fact.securityExposure symbol := by
  unfold securityExposure
  split
  · exact le_of_lt fact.remainingNotional_pos
  · exact le_refl _

/-- The second snapshot is the first with one more external order. -/
structure OneMore (fact : ActiveBrokerOrderFact) (s s' : RiskSnapshot) : Prop where
  facts : s'.toRiskSnapshotFields = { s.toRiskSnapshotFields with
    blockedSymbols := insert fact.symbol s.blockedSymbols
    account := s'.account
    security := s'.security }
  account : s'.account.toAccountRiskFields = { s.account.toAccountRiskFields with
    grossExposure := s.account.grossExposure + fact.accountExposure }
  security : s'.security.toSecurityRiskFields = { s.security.toSecurityRiskFields with
    grossExposure := s.security.grossExposure + fact.securityExposure s.security.symbol }

/-- The summary gains the order. -/
structure SummaryOneMore (fact : ActiveBrokerOrderFact) (e e' : ExternalOrderRiskSummary) : Prop where
  blocked : e'.blockedSymbols = insert fact.symbol e.blockedSymbols
  pending : e'.pendingBuyNotional = e.pendingBuyNotional + fact.accountExposure
  pendingFor : ∀ symbol, e'.pendingBuyNotionalFor symbol =
    e.pendingBuyNotionalFor symbol + fact.securityExposure symbol

theorem AccountRiskFields.postInit_more {f : AccountRiskFields} {x : ℚ} (hx : 0 ≤ x)
    (h : f.postInit = .ok ()) :
    ({ f with grossExposure := f.grossExposure + x } : AccountRiskFields).postInit = .ok () := by
  simp only [AccountRiskFields.postInit,bind_eq_ok,requireNonempty_eq_ok,requireDecimal_eq_ok,
    requireNonnegativeInt_eq_ok] at h ⊢
  obtain ⟨u₁,h₁,u₂,h₂,u₃,h₃,hrest⟩ := h
  exact ⟨u₁,h₁,u₂,h₂,u₃,add_nonneg h₃ hx,hrest⟩

theorem SecurityRiskFields.postInit_more {f : SecurityRiskFields} {x : ℚ} (hx : 0 ≤ x)
    (h : f.postInit = .ok ()) :
    ({ f with grossExposure := f.grossExposure + x } : SecurityRiskFields).postInit = .ok () := by
  simp only [SecurityRiskFields.postInit,bind_eq_ok,requireDecimal_eq_ok] at h ⊢
  obtain ⟨u₁,h₁,u₂,h₂,u₃,h₃,u₄,h₄,u₅,h₅,u₆,h₆,u₇,h₇,u₈,h₈,u₉,h₉,hgross⟩ := h
  exact ⟨u₁,h₁,u₂,h₂,u₃,h₃,u₄,h₄,u₅,h₅,u₆,h₆,u₇,h₇,u₈,h₈,u₉,h₉,add_nonneg hgross hx⟩

section
variable {assembler : RuntimeRiskAssembler} {policy : RiskPolicy} {now : AwareTime}
  {facts : RuntimeFacts} {fact : ActiveBrokerOrderFact} {e e' : ExternalOrderRiskSummary}
  {snapshot : RiskSnapshot}

theorem blocked_more (h : SummaryOneMore fact e e') :
    facts.blockedSymbols ∪ e'.blockedSymbols =
      insert fact.symbol (facts.blockedSymbols ∪ e.blockedSymbols) := by
  rw [h.blocked,Finset.union_insert]

/-- With one more order the same services give a snapshot again, unless the symbol is blank. -/
theorem build_one_more (h : SummaryOneMore fact e e') (hsymbol : nonblank fact.symbol = true)
    (hbuild : assembler.build policy now facts e = .ok snapshot) :
    ∃ snapshot', assembler.build policy now facts e' = .ok snapshot' ∧
      OneMore fact snapshot snapshot' := by
  obtain ⟨service,hservice,haccount,hstrategy,hsecurity,hsnapshot,rfl⟩ := build_eq_ok.mp hbuild
  have haccountFields : accountFields facts service.totals e' =
      { accountFields facts service.totals e with
        grossExposure := (accountFields facts service.totals e).grossExposure +
          fact.accountExposure } := by
    simp only [accountFields,h.pending,add_assoc]
  have hsecurityFields : securityFields (securityForRisk facts e') service.quote =
      { securityFields (securityForRisk facts e) service.quote with
        grossExposure := (securityFields (securityForRisk facts e) service.quote).grossExposure +
          fact.securityExposure facts.security.symbol } := by
    simp only [securityFields,securityForRisk,h.pendingFor,add_assoc]
  have haccount' : (accountFields facts service.totals e').postInit = .ok () := by
    rw [haccountFields]
    exact AccountRiskFields.postInit_more fact.accountExposure_nonneg haccount
  have hsecurity' : (securityFields (securityForRisk facts e') service.quote).postInit = .ok () := by
    rw [hsecurityFields]
    exact SecurityRiskFields.postInit_more (fact.securityExposure_nonneg _) hsecurity
  have hsnapshot' : (snapshotFields facts (facts.blockedSymbols ∪ e'.blockedSymbols)
      ⟨_,haccount'⟩ ⟨_,hstrategy⟩ ⟨_,hsecurity'⟩).postInit = .ok () := by
    simp only [RiskSnapshotFields.postInit,snapshotFields,requireItems_eq_ok,blocked_more h,
      Finset.forall_mem_insert] at hsnapshot ⊢
    exact ⟨hsymbol,hsnapshot⟩
  refine ⟨_,build_eq_ok.mpr ⟨service,hservice,haccount',hstrategy,hsecurity',hsnapshot',rfl⟩,?_⟩
  refine ⟨?_,haccountFields,hsecurityFields⟩
  simp only [snapshotFields,blocked_more h]

theorem build_blank (h : SummaryOneMore fact e e') (hsymbol : nonblank fact.symbol = false) :
    assembler.build policy now facts e' ≠ .ok snapshot := by
  intro hbuild
  obtain ⟨service,-,_,_,_,hsnapshot,-⟩ := build_eq_ok.mp hbuild
  simp only [RiskSnapshotFields.postInit,snapshotFields,requireItems_eq_ok,blocked_more h,
    Finset.forall_mem_insert,hsymbol] at hsnapshot
  exact absurd hsnapshot.1 (by decide)

end

/-- All rules but the two that compare the exposures of a snapshot with each other. -/
def plainRules (intent : OrderIntent) (snapshot : RiskSnapshot) (policy : RiskPolicy)
    (now : AwareTime) (stale : Staleness) : List RiskRule :=
  globalRules intent snapshot policy ++
    accountIdentityRules intent snapshot policy stale.account ++
    accountLimitRules intent snapshot policy ++
    strategyRules intent snapshot policy stale.strategy ++
    orderFactRules intent snapshot policy now stale.security ++
    orderSizeRules intent snapshot policy

theorem riskRules_passes {intent : OrderIntent} {snapshot : RiskSnapshot} {policy : RiskPolicy}
    {now : AwareTime} {stale : Staleness} :
    Passes (riskRules intent snapshot policy now stale) ↔
      Passes (plainRules intent snapshot policy now stale) ∧ Passes (consistencyRules snapshot) := by
  simp only [riskRules,plainRules,passes_append]
  constructor
  · rintro ⟨⟨⟨⟨⟨⟨h₁,h₂⟩,hc⟩,h₃⟩,h₄⟩,h₅⟩,h₆⟩
    exact ⟨⟨⟨⟨⟨⟨h₁,h₂⟩,h₃⟩,h₄⟩,h₅⟩,h₆⟩,hc⟩
  · rintro ⟨⟨⟨⟨⟨⟨h₁,h₂⟩,h₃⟩,h₄⟩,h₅⟩,h₆⟩,hc⟩
    exact ⟨⟨⟨⟨⟨⟨h₁,h₂⟩,hc⟩,h₃⟩,h₄⟩,h₅⟩,h₆⟩

/-- The order hides that the exposures of the snapshot contradict each other: it is a buy of
another symbol that covers what the account's exposure lacks, and no other rule is violated. -/
structure Masks (fact : ActiveBrokerOrderFact) (intent : OrderIntent) (snapshot : RiskSnapshot)
    (policy : RiskPolicy) (now : AwareTime) : Prop where
  buy : fact.side = .buy
  elsewhere : fact.symbol ≠ intent.symbol
  plain : ∃ stale, staleness snapshot policy now = .ok stale ∧
    Passes (plainRules intent snapshot policy now stale)
  security : snapshot.security.grossExposure ≤
    snapshot.account.grossExposure + fact.remainingNotional
  strategy : snapshot.strategy.grossExposure ≤
    snapshot.account.grossExposure + fact.remainingNotional
  limit : projectedLongExposure intent.side
    (snapshot.account.grossExposure + fact.remainingNotional) snapshot.security.grossExposure
    intent.notional ≤ policy.maxAccountGrossExposure

/-- More exposure of the account projects to more. -/
theorem projectedLongExposure_more (side : Side) {total total' : ℚ} (h : total ≤ total')
    (symbol notional : ℚ) :
    projectedLongExposure side total symbol notional ≤
      projectedLongExposure side total' symbol notional := by
  cases side with
  | buy =>
    simp only [projectedLongExposure]
    linarith
  | sell => exact max_le_max (le_refl 0) (by linarith)

section
variable {fact : ActiveBrokerOrderFact} {intent : OrderIntent} {s s' : RiskSnapshot}
  {policy : RiskPolicy} {now : AwareTime} {stale : Staleness}

theorem OneMore.staleness_eq (h : OneMore fact s s') :
    staleness s' policy now = staleness s policy now := by
  have haccount : s'.account.observedAt = s.account.observedAt := by rw [h.account]
  have hstrategy : s'.strategy = s.strategy := by rw [h.facts]
  have hsecurity : s'.security.observedAt = s.security.observedAt := by rw [h.security]
  simp only [staleness,haccount,hstrategy,hsecurity]

theorem OneMore.snapshotHash_ok (h : OneMore fact s s') (hhash : snapshotHash s = .ok s) :
    snapshotHash s' = .ok s' := by
  have haccount : s'.account.observedAt = s.account.observedAt := by rw [h.account]
  have hstrategy : s'.strategy = s.strategy := by rw [h.facts]
  have hsecurity : s'.security.observedAt = s.security.observedAt := by rw [h.security]
  rw [snapshotHash_eq_ok] at hhash ⊢
  rw [haccount,hstrategy,hsecurity]
  exact ⟨rfl,hhash.2⟩

theorem OneMore.globalRules_eq (h : OneMore fact s s') :
    globalRules intent s' policy = globalRules intent s policy := by
  have hpnl : s'.account.dailyPnl = s.account.dailyPnl := by rw [h.account]
  have hturnover : s'.account.dailyTurnover = s.account.dailyTurnover := by rw [h.account]
  have horders : s'.account.dailyOrderCount = s.account.dailyOrderCount := by rw [h.account]
  have hcancels : s'.account.dailyCancelCount = s.account.dailyCancelCount := by rw [h.account]
  have hdatabase : s'.databaseHealthy = s.databaseHealthy := by rw [h.facts]
  have homs : s'.omsHealthy = s.omsHealthy := by rw [h.facts]
  have hleader : s'.leaderHeld = s.leaderHeld := by rw [h.facts]
  have hreconciled : s'.reconciliationComplete = s.reconciliationComplete := by rw [h.facts]
  have hmode : s'.mode = s.mode := by rw [h.facts]
  have hqmt : s'.qmtHealthy = s.qmtHealthy := by rw [h.facts]
  have hblock : s'.globalAmbiguityBlock = s.globalAmbiguityBlock := by rw [h.facts]
  have hopen : s'.marketOpen = s.marketOpen := by rw [h.facts]
  simp only [globalRules,hpnl,hturnover,horders,hcancels,hdatabase,homs,hleader,hreconciled,hmode,
    hqmt,hblock,hopen]

theorem OneMore.accountIdentityRules_eq (h : OneMore fact s s') (old : Bool) :
    accountIdentityRules intent s' policy old = accountIdentityRules intent s policy old := by
  have haccount : s'.account.accountFingerprint = s.account.accountFingerprint := by rw [h.account]
  simp only [accountIdentityRules,haccount]

theorem OneMore.strategyRules_eq (h : OneMore fact s s') (old : Bool) :
    strategyRules intent s' policy old = strategyRules intent s policy old := by
  have hstrategy : s'.strategy = s.strategy := by rw [h.facts]
  simp only [strategyRules,hstrategy]

/-- An order of another symbol leaves the security as it is. -/
theorem OneMore.security_eq (h : OneMore fact s s') (hsymbol : fact.symbol ≠ s.security.symbol) :
    s'.security.toSecurityRiskFields = s.security.toSecurityRiskFields := by
  have hnone : fact.securityExposure s.security.symbol = 0 := by
    simp [ActiveBrokerOrderFact.securityExposure,hsymbol]
  rw [h.security,hnone,add_zero]

theorem OneMore.orderFactRules_milder (h : OneMore fact s s')
    (hsymbol : fact.symbol ≠ s.security.symbol) (old : Bool) :
    Milder (orderFactRules intent s policy now old) (orderFactRules intent s' policy now old) := by
  have hsecurity := h.security_eq hsymbol
  have hblocked : s'.blockedSymbols = insert fact.symbol s.blockedSymbols := by rw [h.facts]
  simp only [Milder,orderFactRules,List.forall₂_cons,reject_violated,hsecurity,hblocked]
  refine ⟨id,id,id,?_,id,id,id,.nil⟩
  simp only [decide_eq_true_eq]
  exact fun hmem => Finset.mem_insert_of_mem hmem

theorem OneMore.orderSizeRules_eq (h : OneMore fact s s')
    (hsymbol : fact.symbol ≠ s.security.symbol) :
    orderSizeRules intent s' policy = orderSizeRules intent s policy := by
  have hsecurity := h.security_eq hsymbol
  have hcash : s'.account.availableCash = s.account.availableCash := by rw [h.account]
  simp only [orderSizeRules,hsecurity,hcash]

theorem OneMore.accountLimitRules_milder (h : OneMore fact s s')
    (hsymbol : fact.symbol ≠ s.security.symbol) :
    Milder (accountLimitRules intent s policy) (accountLimitRules intent s' policy) := by
  have hsecurity := h.security_eq hsymbol
  have hcash : s'.account.availableCash = s.account.availableCash := by rw [h.account]
  have hgross : s.account.grossExposure ≤ s'.account.grossExposure := by
    rw [h.account]
    simpa using fact.accountExposure_nonneg
  simp only [Milder,accountLimitRules,List.forall₂_cons,reject_violated,hcash,hsecurity]
  refine ⟨id,?_,.nil⟩
  simp only [decide_eq_true_eq]
  intro hexposure
  exact lt_of_lt_of_le hexposure (projectedLongExposure_more _ hgross _ _)

/-- What passes with one more order of another symbol passes without it, but for the comparison of
the exposures. -/
theorem OneMore.plainRules_milder (h : OneMore fact s s')
    (hsymbol : fact.symbol ≠ s.security.symbol) :
    Milder (plainRules intent s policy now stale) (plainRules intent s' policy now stale) := by
  have hrefl : ∀ rules : List RiskRule, Milder rules rules :=
    fun rules => List.forall₂_same.mpr fun _ _ hv => hv
  simp only [plainRules,h.globalRules_eq,h.accountIdentityRules_eq,h.strategyRules_eq,
    h.orderSizeRules_eq hsymbol]
  exact .append (.append (.append (.append (.append (hrefl _) (hrefl _))
    (h.accountLimitRules_milder hsymbol)) (hrefl _)) (h.orderFactRules_milder hsymbol _)) (hrefl _)

/-- The order's symbol is looked at, and not blocked, where the rules pass. -/
theorem symbol_of_passes (h : Passes (plainRules intent s policy now stale)) :
    s.security.symbol = intent.symbol ∧ intent.symbol ∉ s.blockedSymbols := by
  simp only [plainRules,passes_append] at h
  obtain ⟨⟨-,hfacts⟩,-⟩ := h
  simp only [orderFactRules,passes_cons,reject_violated,Bool.or_eq_false_iff,
    decide_eq_false_iff_not,not_not] at hfacts
  exact ⟨hfacts.2.1.1,hfacts.2.2.2.1⟩

theorem consistencyRules_passes : Passes (consistencyRules s) ↔
    s.security.grossExposure ≤ s.account.grossExposure ∧
      s.strategy.grossExposure ≤ s.account.grossExposure := by
  simp only [consistencyRules,passes_cons,passes_nil,reject_violated,decide_eq_false_iff_not,
    not_lt,and_true]

/-- The rules pass with one more order of another symbol when they pass without it and the
account may carry the exposure. -/
theorem OneMore.plainRules_passes (h : OneMore fact s s') (helsewhere : fact.symbol ≠ intent.symbol)
    (hplain : Passes (plainRules intent s policy now stale))
    (hlimit : projectedLongExposure intent.side s'.account.grossExposure s.security.grossExposure
      intent.notional ≤ policy.maxAccountGrossExposure) :
    Passes (plainRules intent s' policy now stale) := by
  obtain ⟨hsame,hfree⟩ := symbol_of_passes hplain
  have hsymbol : fact.symbol ≠ s.security.symbol := by rwa [hsame]
  have hsecurity := h.security_eq hsymbol
  have hcash : s'.account.availableCash = s.account.availableCash := by rw [h.account]
  have hblocked : s'.blockedSymbols = insert fact.symbol s.blockedSymbols := by rw [h.facts]
  simp only [plainRules,passes_append,h.globalRules_eq,h.accountIdentityRules_eq,
    h.strategyRules_eq,h.orderSizeRules_eq hsymbol] at hplain ⊢
  obtain ⟨⟨⟨⟨⟨hglobal,hidentity⟩,hlimits⟩,hstrategy⟩,hfacts⟩,hsize⟩ := hplain
  refine ⟨⟨⟨⟨⟨hglobal,hidentity⟩,?_⟩,hstrategy⟩,?_⟩,hsize⟩
  · simp only [accountLimitRules,passes_cons,passes_nil,reject_violated,decide_eq_false_iff_not,
      not_lt,and_true,hcash,hsecurity] at hlimits ⊢
    exact ⟨hlimits.1,hlimit⟩
  · simp only [orderFactRules,passes_cons,reject_violated,hsecurity,hblocked] at hfacts ⊢
    obtain ⟨h₁,h₂,h₃,-,hrest⟩ := hfacts
    refine ⟨h₁,h₂,h₃,?_,hrest⟩
    simp only [decide_eq_false_iff_not,Finset.mem_insert,not_or]
    exact ⟨helsewhere.symm,hfree⟩

/-- A rejected intent is accepted with one more order exactly when that order masks. -/
theorem OneMore.accepts_iff_masks (h : OneMore fact s s')
    (hrejects : rejects intent s policy now = true) :
    accepts intent s' policy now = true ↔ Masks fact intent s policy now := by
  obtain ⟨⟨stale,hstale⟩,hhash,hrefused⟩ := rejects_iff.mp hrejects
  have hstrategy : s'.strategy = s.strategy := by rw [h.facts]
  rw [accepts_iff]
  constructor
  · rintro ⟨stale',hstale',-,hpass⟩
    rw [h.staleness_eq] at hstale'
    obtain ⟨hplain',hconsistent⟩ := riskRules_passes.mp hpass
    rw [consistencyRules_passes] at hconsistent
    obtain ⟨hsame,hfree⟩ := symbol_of_passes hplain'
    have helsewhere : fact.symbol ≠ intent.symbol := by
      intro heq
      refine hfree ?_
      rw [h.facts,← heq]
      exact Finset.mem_insert_self _ _
    have hsecuritySymbol : s'.security.symbol = s.security.symbol := by rw [h.security]
    have hsymbol : fact.symbol ≠ s.security.symbol := by rwa [← hsecuritySymbol,hsame]
    have hsecurity := h.security_eq hsymbol
    have hplain := (h.plainRules_milder hsymbol).passes hplain'
    have hgross : s'.account.grossExposure = s.account.grossExposure + fact.accountExposure := by
      rw [h.account]
    have hbuy : fact.side = .buy := by
      by_contra hsell
      -- the exposures are then as they were, and the intent was accepted before
      have hnone : fact.accountExposure = 0 := by
        simp [ActiveBrokerOrderFact.accountExposure,hsell]
      rw [hgross,hnone,add_zero,hsecurity,hstrategy] at hconsistent
      have haccepted : accepts intent s policy now = true := accepts_iff.mpr
        ⟨stale',hstale',hhash,riskRules_passes.mpr
          ⟨hplain,consistencyRules_passes.mpr hconsistent⟩⟩
      rw [hrefused] at haccepted
      cases haccepted
    have hnotional : fact.accountExposure = fact.remainingNotional := by
      simp [ActiveBrokerOrderFact.accountExposure,hbuy]
    rw [hgross,hnotional,hsecurity,hstrategy] at hconsistent
    have hlimit : projectedLongExposure intent.side
        (s.account.grossExposure + fact.remainingNotional) s.security.grossExposure
        intent.notional ≤ policy.maxAccountGrossExposure := by
      simp only [plainRules,passes_append] at hplain'
      obtain ⟨⟨⟨⟨-,hlimits⟩,-⟩,-⟩,-⟩ := hplain'
      simp only [accountLimitRules,passes_cons,passes_nil,reject_violated,
        decide_eq_false_iff_not,not_lt,and_true,hsecurity,hgross,hnotional] at hlimits
      exact hlimits.2
    exact ⟨hbuy,helsewhere,⟨stale',hstale',hplain⟩,hconsistent.1,hconsistent.2,hlimit⟩
  · intro hmasks
    obtain ⟨stale',hstale',hplain⟩ := hmasks.plain
    have hgross : s'.account.grossExposure = s.account.grossExposure + fact.remainingNotional := by
      rw [h.account]
      simp [ActiveBrokerOrderFact.accountExposure,hmasks.buy]
    have hsymbol : fact.symbol ≠ s.security.symbol := by
      rw [(symbol_of_passes hplain).1]
      exact hmasks.elsewhere
    have hsecurity := h.security_eq hsymbol
    refine ⟨stale',by rw [h.staleness_eq,hstale'],h.snapshotHash_ok hhash,
      riskRules_passes.mpr ⟨?_,?_⟩⟩
    · exact h.plainRules_passes hmasks.elsewhere hplain (by rw [hgross]; exact hmasks.limit)
    · rw [consistencyRules_passes,hgross,hsecurity,hstrategy]
      exact ⟨hmasks.security,hmasks.strategy⟩

end

/-- `build` and then `evaluate_risk`: the decision, where both return. -/
def RuntimeRiskAssembler.decision (assembler : RuntimeRiskAssembler) (policy : RiskPolicy)
    (builtAt evaluatedAt : AwareTime) (facts : RuntimeFacts) (intent : OrderIntent)
    (externalOrders : ExternalOrderRiskSummary) : Option Bool :=
  match assembler.build policy builtAt facts externalOrders with
  | .error _ => none
  | .ok snapshot =>
    match evaluateRisk intent snapshot policy evaluatedAt with
    | .error _ => none
    | .ok evaluation => some evaluation.decision.accepted

theorem RuntimeRiskAssembler.decision_eq_false {assembler : RuntimeRiskAssembler}
    {policy : RiskPolicy} {builtAt evaluatedAt : AwareTime} {facts : RuntimeFacts}
    {intent : OrderIntent} {externalOrders : ExternalOrderRiskSummary} :
    assembler.decision policy builtAt evaluatedAt facts intent externalOrders = some false ↔
      ∃ snapshot, assembler.build policy builtAt facts externalOrders = .ok snapshot ∧
        rejects intent snapshot policy evaluatedAt = true := by
  unfold decision
  cases hbuild : assembler.build policy builtAt facts externalOrders with
  | error err => simp
  | ok snapshot =>
    cases hrun : evaluateRisk intent snapshot policy evaluatedAt <;> simp [rejects,hrun]

/-- An intent that is rejected with the summary of some orders is rejected with one external
order more exactly when the symbol of that order is not blank and the order does not mask that
the exposures contradict each other. -/
theorem external_order_tightens (assembler : RuntimeRiskAssembler) (policy : RiskPolicy)
    (builtAt evaluatedAt : AwareTime) (facts : RuntimeFacts) (intent : OrderIntent)
    (tokens : Finset String) (orders orders' : List ActiveBrokerOrderFact)
    (fact : ActiveBrokerOrderFact) (summary : ExternalOrderRiskSummary) (snapshot : RiskSnapshot)
    (hmem : ∀ f, f ∈ orders' ↔ f = fact ∨ f ∈ orders)
    (hfresh : ∀ f ∈ orders, f.sourceEventId ≠ fact.sourceEventId)
    (hexternal : fact.ownership tokens = .external)
    (hsummary : classify tokens orders = .ok summary)
    (hbuild : assembler.build policy builtAt facts summary = .ok snapshot)
    (hrejects : rejects intent snapshot policy evaluatedAt = true) :
    ∃ summary', classify tokens orders' = .ok summary' ∧
      (assembler.decision policy builtAt evaluatedAt facts intent summary' = some false ↔
        nonblank fact.symbol = true ∧ ¬Masks fact intent snapshot policy evaluatedAt) := by
  obtain ⟨summary',hsummary',hblocked,hpending,hpendingFor⟩ :=
    classify_one_more hmem hfresh hexternal hsummary
  have hmore : SummaryOneMore fact summary summary' := ⟨hblocked,hpending,hpendingFor⟩
  refine ⟨summary',hsummary',?_⟩
  rw [RuntimeRiskAssembler.decision_eq_false]
  cases hsymbol : nonblank fact.symbol with
  | false =>
    simp only [Bool.false_eq_true,false_and,iff_false]
    rintro ⟨snapshot',hbuild',-⟩
    exact build_blank hmore hsymbol hbuild'
  | true =>
    obtain ⟨snapshot',hbuild',honeMore⟩ := build_one_more hmore hsymbol hbuild
    rw [← honeMore.accepts_iff_masks hrejects]
    simp only [true_and,Bool.not_eq_true]
    obtain ⟨⟨stale,hstale⟩,hhash,-⟩ := rejects_iff.mp hrejects
    have hdecides : rejects intent snapshot' policy evaluatedAt = true ↔
        accepts intent snapshot' policy evaluatedAt = false := by
      rw [rejects_iff,honeMore.staleness_eq]
      constructor
      · rintro ⟨-,-,hrefused⟩
        exact hrefused
      · intro hrefused
        exact ⟨⟨stale,hstale⟩,honeMore.snapshotHash_ok hhash,hrefused⟩
    rw [← hdecides]
    constructor
    · rintro ⟨other,hother,hrefused⟩
      rw [hbuild'] at hother
      cases hother
      exact hrefused
    · intro hrefused
      exact ⟨snapshot',hbuild',hrefused⟩

def sampleAssembler : RuntimeRiskAssembler where
  quotes := [⟨"600000.SH",10,sampleNow,sampleNow⟩]
  dailyRisk := ⟨[],[⟨"pnl-1","account-1","2026-06-30",0,sampleNow.instant⟩]⟩
  heartbeats := [⟨"manual","1",sampleNow⟩]

/-- The security's exposure exceeds that of the account, so one of the two is not current. -/
def contradictingFacts : RuntimeFacts where
  tradingDate := "2026-06-30"
  mode := .simulation
  health := ⟨true,true,true,true,true,true,true⟩
  marketOpen := true
  globalAmbiguityBlock := false
  blockedSymbols := ∅
  account := ⟨"account-1",50000,20000,sampleNow⟩
  strategy := ⟨"manual","1",10000,0,1⟩
  security := ⟨"600000.SH",1 / 100,9,11,100,1,0,30000⟩

def externalBuy (symbol : String) (h : symbol ≠ "") : ActiveBrokerOrderFact where
  sourceEventId := "session-a:1"
  symbol := symbol
  side := .buy
  quantity := 2000
  filledQuantity := 0
  limitPrice := 10
  brokerToken := none
  observedAt := 0
  checked := by
    simp only [ActiveBrokerOrderFields.postInit,bind_eq_ok,require_eq_ok]
    simp [h]

/-- An external buy of the intent's own symbol leaves the rejection. -/
theorem external_order_tightens_same : ∃ summary',
    classify ∅ [externalBuy "600000.SH" (by decide)] = .ok summary' ∧
      sampleAssembler.decision samplePolicy sampleNow sampleNow contradictingFacts sampleOrder
        summary' = some false := by
  obtain ⟨snapshot,hbuild,hrejects⟩ := RuntimeRiskAssembler.decision_eq_false.mp
    (show sampleAssembler.decision samplePolicy sampleNow sampleNow contradictingFacts sampleOrder
      .empty = some false by decide +kernel)
  obtain ⟨summary',hsummary',hiff⟩ := external_order_tightens sampleAssembler samplePolicy sampleNow
    sampleNow contradictingFacts sampleOrder ∅ [] [externalBuy "600000.SH" (by decide)]
    (externalBuy "600000.SH" (by decide)) .empty snapshot (by simp) (by simp) rfl rfl hbuild hrejects
  refine ⟨summary',hsummary',hiff.mpr ⟨by decide,fun hmasks => ?_⟩⟩
  exact hmasks.elsewhere rfl

/-- An external buy of another symbol turns the rejection into an acceptance. -/
theorem external_order_masks : ∃ summary',
    classify ∅ [externalBuy "000001.SZ" (by decide)] = .ok summary' ∧
      sampleAssembler.decision samplePolicy sampleNow sampleNow contradictingFacts sampleOrder
        .empty = some false ∧
      sampleAssembler.decision samplePolicy sampleNow sampleNow contradictingFacts sampleOrder
        summary' = some true :=
  ⟨_,rfl,by decide +kernel,by decide +kernel⟩

end BigQmt.Risk
