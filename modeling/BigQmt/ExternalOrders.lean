import Mathlib.Algebra.BigOperators.Group.List.Basic
import BigQmt.RiskModels
set_option autoImplicit false

/-!
Active broker orders by ownership, and the summary of those that are not the system's:
`risk/external_orders.py`.
-/

namespace BigQmt.Risk

inductive BrokerOrderOwnership where
  | system | external
  deriving DecidableEq, Repr

/-- An aware `observed_at` is the instant it names. -/
structure ActiveBrokerOrderFields where
  sourceEventId : String
  symbol : String
  side : Side
  quantity : Int
  filledQuantity : Int
  limitPrice : ℚ
  brokerToken : Option String
  observedAt : Int
  deriving DecidableEq

def ActiveBrokerOrderFields.postInit (f : ActiveBrokerOrderFields) : Except RiskError Unit := do
  require (f.sourceEventId ≠ "") "source_event_id must be non-empty"
  require (f.symbol ≠ "") "symbol must be non-empty"
  require (0 < f.quantity) "quantity must be a positive integer"
  require (0 ≤ f.filledQuantity && f.filledQuantity < f.quantity)
    "active order filled_quantity must be in [0, quantity)"
  require (0 < f.limitPrice) "limit_price must be finite and > 0"
  require (f.brokerToken ≠ some "") "broker_token must be non-empty when supplied"

structure ActiveBrokerOrderFact extends ActiveBrokerOrderFields where
  checked : toActiveBrokerOrderFields.postInit = .ok ()
  deriving DecidableEq

namespace ActiveBrokerOrderFact

def remainingQuantity (fact : ActiveBrokerOrderFact) : Int := fact.quantity - fact.filledQuantity

def remainingNotional (fact : ActiveBrokerOrderFact) : ℚ := fact.limitPrice * fact.remainingQuantity

/-- The ownership of an order, by the tokens the system has registered. -/
def ownership (tokens : Finset String) (fact : ActiveBrokerOrderFact) : BrokerOrderOwnership :=
  match fact.brokerToken with
  | some token => if token ∈ tokens then .system else .external
  | none => .external

theorem remainingNotional_pos (fact : ActiveBrokerOrderFact) : 0 < fact.remainingNotional := by
  have h := fact.checked
  simp only [ActiveBrokerOrderFields.postInit,bind_eq_ok,require_eq_ok,decide_eq_true_eq,
    Bool.and_eq_true] at h
  obtain ⟨_,-,_,-,_,-,_,⟨-,hfilled⟩,_,hprice,-⟩ := h
  have hrest : (0 : ℚ) < fact.remainingQuantity := by
    have : 0 < fact.remainingQuantity := by
      unfold remainingQuantity
      omega
    exact_mod_cast this
  exact mul_pos hprice hrest

end ActiveBrokerOrderFact

structure ClassifiedActiveOrder where
  fact : ActiveBrokerOrderFact
  ownership : BrokerOrderOwnership
  deriving DecidableEq

structure ExternalOrderRiskSummary where
  blockedSymbols : Finset String
  pendingBuyNotional : ℚ
  externalOrderCount : Nat
  classified : List ClassifiedActiveOrder
  deriving DecidableEq

namespace ExternalOrderRiskSummary

def empty : ExternalOrderRiskSummary := ⟨∅,0,0,[]⟩

def pendingBuyNotionalFor (summary : ExternalOrderRiskSummary) (symbol : String) : ℚ :=
  ((summary.classified.filter (fun item => item.ownership = .external && item.fact.side = .buy &&
    item.fact.symbol = symbol)).map (fun item => item.fact.remainingNotional)).sum

/-- `classify` on a fact that was not seen: what it adds. -/
def add (tokens : Finset String) (summary : ExternalOrderRiskSummary)
    (fact : ActiveBrokerOrderFact) : ExternalOrderRiskSummary :=
  let classified := summary.classified ++ [⟨fact,fact.ownership tokens⟩]
  match fact.ownership tokens with
  | .system => { summary with classified := classified }
  | .external =>
    ⟨insert fact.symbol summary.blockedSymbols,
      if fact.side = .buy then summary.pendingBuyNotional + fact.remainingNotional
      else summary.pendingBuyNotional,
      summary.externalOrderCount + 1,classified⟩

end ExternalOrderRiskSummary

/-- The loop of `classify`, with the facts seen so far. -/
def classifyLoop (tokens : Finset String) (seen : List ActiveBrokerOrderFact)
    (summary : ExternalOrderRiskSummary) :
    List ActiveBrokerOrderFact → Except RiskError ExternalOrderRiskSummary
  | [] => .ok summary
  | fact :: facts =>
    match seen.find? (fun previous => previous.sourceEventId = fact.sourceEventId) with
    | some previous =>
      if previous ≠ fact then .error (.externalOrderFactConflict
        "source_event_id reused for conflicting active order fact")
      else classifyLoop tokens seen summary facts
    | none => classifyLoop tokens (seen ++ [fact]) (summary.add tokens fact) facts

def classify (tokens : Finset String) (facts : List ActiveBrokerOrderFact) :
    Except RiskError ExternalOrderRiskSummary :=
  classifyLoop tokens [] .empty facts

/-- Facts of one source event are one fact. -/
def Coherent (facts : List ActiveBrokerOrderFact) : Prop :=
  ∀ f ∈ facts, ∀ g ∈ facts, f.sourceEventId = g.sourceEventId → f = g

/-- The external buy orders among the facts. -/
def externalBuys (tokens : Finset String) (facts : List ActiveBrokerOrderFact) :
    List ActiveBrokerOrderFact :=
  facts.filter (fun f => f.ownership tokens = .external && f.side = .buy)

/-- The summary of different facts. -/
def summarize (tokens : Finset String) (facts : List ActiveBrokerOrderFact) :
    ExternalOrderRiskSummary :=
  facts.foldl (fun summary fact => summary.add tokens fact) .empty

section
variable {tokens : Finset String} {seen facts : List ActiveBrokerOrderFact}

/-- What the loop has seen are different facts, and what it returns is their summary. -/
theorem classifyLoop_spec {summary summary' : ExternalOrderRiskSummary}
    (h : classifyLoop tokens seen summary facts = .ok summary') (hsum : summary = summarize tokens seen)
    (hnodup : seen.Nodup) (hcoherent : Coherent seen) :
    ∃ kept, summary' = summarize tokens kept ∧ kept.Nodup ∧ Coherent kept ∧
      ∀ f, f ∈ kept ↔ f ∈ seen ∨ f ∈ facts := by
  induction facts generalizing seen summary with
  | nil =>
    simp only [classifyLoop,Except.ok.injEq] at h
    exact ⟨seen,h ▸ hsum,hnodup,hcoherent,by simp⟩
  | cons fact facts ih =>
    unfold classifyLoop at h
    cases hfind : seen.find? (fun previous => previous.sourceEventId = fact.sourceEventId) with
    | some previous =>
      have hmem := List.mem_of_find?_eq_some hfind
      simp only [hfind] at h
      by_cases hsame : previous = fact
      · subst hsame
        simp only [ne_eq,not_true_eq_false,if_false] at h
        obtain ⟨kept,hkept,hnodup',hcoherent',hiff⟩ := ih h hsum hnodup hcoherent
        refine ⟨kept,hkept,hnodup',hcoherent',fun f => (hiff f).trans ?_⟩
        rw [List.mem_cons]
        constructor
        · rintro (hold | hnew)
          · exact .inl hold
          · exact .inr (.inr hnew)
        · rintro (hold | rfl | hnew)
          · exact .inl hold
          · exact .inl hmem
          · exact .inr hnew
      · simp [hsame] at h
    | none =>
      have hnew : ∀ g ∈ seen, g.sourceEventId ≠ fact.sourceEventId := by
        simpa [List.find?_eq_none] using hfind
      simp only [hfind] at h
      have hsum' : summary.add tokens fact = summarize tokens (seen ++ [fact]) := by
        simp [summarize,List.foldl_append,hsum]
      have hnodup' : (seen ++ [fact]).Nodup := by
        rw [List.nodup_append]
        refine ⟨hnodup,List.nodup_singleton _,fun a ha b hb => ?_⟩
        rw [List.mem_singleton.mp hb]
        rintro rfl
        exact hnew a ha rfl
      have hcoherent' : Coherent (seen ++ [fact]) := by
        intro f hf g hg heq
        obtain hf | hf := List.mem_append.mp hf
        · obtain hg | hg := List.mem_append.mp hg
          · exact hcoherent f hf g hg heq
          · rw [List.mem_singleton.mp hg] at heq
            exact absurd heq (hnew f hf)
        · obtain hg | hg := List.mem_append.mp hg
          · rw [List.mem_singleton.mp hf] at heq
            exact absurd heq.symm (hnew g hg)
          · rw [List.mem_singleton.mp hf,List.mem_singleton.mp hg]
      obtain ⟨kept,hkept,hnd,hco,hiff⟩ := ih h hsum' hnodup' hcoherent'
      refine ⟨kept,hkept,hnd,hco,fun f => (hiff f).trans ?_⟩
      simp [or_assoc]

theorem classifyLoop_coherent {summary : ExternalOrderRiskSummary}
    (h : Coherent (seen ++ facts)) : ∃ summary', classifyLoop tokens seen summary facts = .ok summary' := by
  induction facts generalizing seen summary with
  | nil => exact ⟨summary,rfl⟩
  | cons fact facts ih =>
    unfold classifyLoop
    cases hfind : seen.find? (fun previous => previous.sourceEventId = fact.sourceEventId) with
    | some previous =>
      have hmem := List.mem_of_find?_eq_some hfind
      have hid : previous.sourceEventId = fact.sourceEventId := by
        simpa using List.find?_some hfind
      have hsame : previous = fact := h previous (by simp [hmem]) fact (by simp) hid
      simp only [hsame,ne_eq,not_true_eq_false,if_false]
      refine ih fun f hf g hg => h f ?_ g ?_
      · obtain hf | hf := List.mem_append.mp hf
        · exact List.mem_append_left _ hf
        · exact List.mem_append_right _ (List.mem_cons_of_mem _ hf)
      · obtain hg | hg := List.mem_append.mp hg
        · exact List.mem_append_left _ hg
        · exact List.mem_append_right _ (List.mem_cons_of_mem _ hg)
    | none =>
      refine ih ?_
      rwa [List.append_assoc,List.singleton_append]

theorem summarize_append (fact : ActiveBrokerOrderFact) :
    summarize tokens (facts ++ [fact]) = (summarize tokens facts).add tokens fact := by
  simp [summarize,List.foldl_append]

theorem summarize_blocked {symbol : String} : symbol ∈ (summarize tokens facts).blockedSymbols ↔
    ∃ f ∈ facts, f.ownership tokens = .external ∧ f.symbol = symbol := by
  induction facts using List.reverseRecOn with
  | nil => simp [summarize,ExternalOrderRiskSummary.empty]
  | append_singleton facts fact ih =>
    rw [summarize_append,ExternalOrderRiskSummary.add]
    cases howner : fact.ownership tokens with
    | system => simp [ih,howner,or_and_right,exists_or]
    | external =>
      simp only [Finset.mem_insert,ih,List.mem_append,List.mem_singleton,or_and_right,exists_or,
        exists_eq_left,howner,true_and]
      rw [or_comm,eq_comm]

theorem summarize_classified : (summarize tokens facts).classified =
    facts.map (fun f => ⟨f,f.ownership tokens⟩) := by
  induction facts using List.reverseRecOn with
  | nil => rfl
  | append_singleton facts fact ih =>
    rw [summarize_append,ExternalOrderRiskSummary.add]
    cases howner : fact.ownership tokens <;> simp [ih,howner]

theorem summarize_pending : (summarize tokens facts).pendingBuyNotional =
    ((externalBuys tokens facts).map ActiveBrokerOrderFact.remainingNotional).sum := by
  induction facts using List.reverseRecOn with
  | nil => rfl
  | append_singleton facts fact ih =>
    rw [summarize_append,ExternalOrderRiskSummary.add]
    cases howner : fact.ownership tokens with
    | system => simp [externalBuys,ih,howner]
    | external =>
      by_cases hside : fact.side = .buy <;> simp [externalBuys,ih,howner,hside]

theorem summarize_pendingFor (symbol : String) :
    (summarize tokens facts).pendingBuyNotionalFor symbol =
      (((externalBuys tokens facts).filter (fun f => f.symbol = symbol)).map
        ActiveBrokerOrderFact.remainingNotional).sum := by
  rw [ExternalOrderRiskSummary.pendingBuyNotionalFor,summarize_classified,List.filter_map,
    List.map_map,externalBuys,List.filter_filter]
  congr 2
  refine List.filter_congr fun f _ => ?_
  simp only [Function.comp_apply]
  rw [Bool.and_comm (decide (f.symbol = symbol))]

end

/-- A fact of one more external order, with a source event of its own, in whatever order the
facts are listed: the summary gains its symbol and, for a buy, its notional. -/
theorem classify_one_more {tokens : Finset String} {facts facts' : List ActiveBrokerOrderFact}
    {fact : ActiveBrokerOrderFact} {summary : ExternalOrderRiskSummary}
    (hmem : ∀ f, f ∈ facts' ↔ f = fact ∨ f ∈ facts)
    (hfresh : ∀ f ∈ facts, f.sourceEventId ≠ fact.sourceEventId)
    (hexternal : fact.ownership tokens = .external)
    (hsummary : classify tokens facts = .ok summary) :
    ∃ summary', classify tokens facts' = .ok summary' ∧
      summary'.blockedSymbols = insert fact.symbol summary.blockedSymbols ∧
      summary'.pendingBuyNotional = summary.pendingBuyNotional +
        (if fact.side = .buy then fact.remainingNotional else 0) ∧
      ∀ symbol, summary'.pendingBuyNotionalFor symbol = summary.pendingBuyNotionalFor symbol +
        (if fact.side = .buy ∧ fact.symbol = symbol then fact.remainingNotional else 0) := by
  obtain ⟨kept,rfl,hnodup,hcoherent,hkept⟩ :=
    classifyLoop_spec hsummary rfl List.nodup_nil (by simp [Coherent])
  have hcoherent' : Coherent ([] ++ facts') := by
    intro f hf g hg heq
    rw [List.nil_append,hmem] at hf hg
    obtain rfl | hf := hf
    · obtain rfl | hg := hg
      · rfl
      · exact absurd heq.symm (hfresh g hg)
    · obtain rfl | hg := hg
      · exact absurd heq (hfresh f hf)
      · exact hcoherent f ((hkept f).mpr (.inr hf)) g ((hkept g).mpr (.inr hg)) heq
  obtain ⟨summary',hsummary'⟩ := @classifyLoop_coherent tokens [] facts' .empty hcoherent'
  obtain ⟨kept',rfl,hnodup',-,hkept'⟩ :=
    classifyLoop_spec hsummary' rfl List.nodup_nil (by simp [Coherent])
  -- what was kept of the larger list is the new fact and what was kept of the smaller one
  have hnew : fact ∉ kept := by
    intro h
    exact hfresh fact (by simpa using (hkept fact).mp h) rfl
  have hperm : kept'.Perm (fact :: kept) := by
    rw [List.perm_ext_iff_of_nodup hnodup' (List.nodup_cons.mpr ⟨hnew,hnodup⟩)]
    intro f
    rw [hkept',hmem,List.mem_cons,hkept]
    simp
  have hbuys : (externalBuys tokens kept').Perm (if fact.side = .buy then
      fact :: externalBuys tokens kept else externalBuys tokens kept) := by
    refine (hperm.filter _).trans ?_
    by_cases hside : fact.side = .buy <;> simp [externalBuys,hexternal,hside]
  refine ⟨_,hsummary',?_,?_,fun symbol => ?_⟩
  · ext symbol
    rw [Finset.mem_insert,summarize_blocked,summarize_blocked]
    simp only [hperm.mem_iff,List.mem_cons,or_and_right,exists_or,exists_eq_left,hexternal,
      true_and]
    rw [eq_comm]
  · rw [summarize_pending,summarize_pending,(hbuys.map _).sum_eq]
    by_cases hside : fact.side = .buy
    · simp only [hside,if_true,List.map_cons,List.sum_cons]
      exact add_comm _ _
    · simp only [hside,if_false,add_zero]
  · rw [summarize_pendingFor,summarize_pendingFor,((hbuys.filter _).map _).sum_eq]
    by_cases hside : fact.side = .buy
    · by_cases hsymbol : fact.symbol = symbol
      · simp only [hside,hsymbol,if_true,and_self,List.filter_cons_of_pos,decide_true,
          List.map_cons,List.sum_cons]
        exact add_comm _ _
      · simp [hside,hsymbol]
    · simp [hside]

end BigQmt.Risk
