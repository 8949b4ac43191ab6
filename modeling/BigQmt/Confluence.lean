import BigQmt.Arrival
set_option autoImplicit false

/-!
Facts that do not contradict each other, in any order: the row of the order is a fold
over the facts, and the fold does not depend on their order.
-/

namespace BigQmt

open Transact Keyed Resumption

/-- How far a status is in the life of a broker order. -/
def OrderStatus.progress : OrderStatus → Nat
  | .acknowledged => 1
  | .partiallyFilled => 2
  | .rejected => 3
  | .cancelled => 4
  | .filled => 5
  | _ => 0

def OrderStatus.further (st st' : OrderStatus) : OrderStatus :=
  if st.progress < st'.progress then st' else st

/-- The facts of a row together with one more fact that fits them. -/
def absorb (x : OrderStatus × Int × Option String) (e : BrokerEvidenceV1) :
    OrderStatus × Int × Option String :=
  (x.1.further e.requestedStatus,max x.2.1 e.filledQuantity,x.2.2.or e.brokerOrderId)

/-- Facts about one broker order of this quantity that do not contradict each other. -/
structure Consistent (q : Int) (es : List BrokerEvidenceV1) : Prop where
  ids : ∃ b, ∀ e ∈ es, e.brokerOrderId = none ∨ e.brokerOrderId = some b
  partly : ∀ e ∈ es, e.requestedStatus = .partiallyFilled → e.filledQuantity < q
  full : ∀ e ∈ es, e.requestedStatus = .filled → e.filledQuantity = q
  terminal : ∀ e ∈ es, ∀ e' ∈ es, e.requestedStatus.brokerTerminal = true →
    e'.requestedStatus.brokerTerminal = true → e.requestedStatus = e'.requestedStatus
  cancelled : ∀ e ∈ es, e.requestedStatus = .cancelled → e.filledQuantity < q ∧
    ∀ e' ∈ es, (e'.requestedStatus = .cancelled → e'.filledQuantity = e.filledQuantity) ∧
      (e'.requestedStatus = .partiallyFilled → e'.filledQuantity ≤ e.filledQuantity)
  rejected : ∀ e ∈ es, e.requestedStatus = .rejected → ∀ e' ∈ es, e'.filledQuantity ≤ 0

section
variable {q f : Int} {e : BrokerEvidenceV1} {es es' : List BrokerEvidenceV1} {st : OrderStatus}

theorem Consistent.subset (h : Consistent q es) (hsub : ∀ e ∈ es', e ∈ es) : Consistent q es' where
  ids := h.ids.imp fun _ hb e he => hb e (hsub e he)
  partly e he := h.partly e (hsub e he)
  full e he := h.full e (hsub e he)
  terminal e he e' he' := h.terminal e (hsub e he) e' (hsub e' he')
  cancelled e he hs :=
    ⟨(h.cancelled e (hsub e he) hs).1,fun e' he' => (h.cancelled e (hsub e he) hs).2 e' (hsub e' he')⟩
  rejected e he hs e' he' := h.rejected e (hsub e he) hs e' (hsub e' he')

/-- A row that was built from some of the facts, as the facts still to come see it. -/
inductive Stage (q : Int) (es : List BrokerEvidenceV1) : OrderStatus → Int → Prop
  | waiting (st : OrderStatus) (fresh : st ∈ [OrderStatus.unknown,.reconciling]) : Stage q es st 0
  | accepted : Stage q es .acknowledged 0
  | partly (f : Int) (pos : 0 < f) (below : f < q)
      (live : ∀ e ∈ es, e.requestedStatus ≠ .rejected)
      (cap : ∀ e ∈ es, e.requestedStatus = .cancelled → f ≤ e.filledQuantity) :
      Stage q es .partiallyFilled f
  | filled (only : ∀ e ∈ es, e.requestedStatus ∉ [OrderStatus.cancelled,.rejected]) :
      Stage q es .filled q
  | cancelled (f : Int) (below : f < q)
      (only : ∀ e ∈ es, e.requestedStatus ∉ [OrderStatus.filled,.rejected])
      (cap : ∀ e ∈ es, e.filledQuantity ≤ f) : Stage q es .cancelled f
  | rejected (only : ∀ e ∈ es, e.requestedStatus ∈ [OrderStatus.acknowledged,.rejected]) :
      Stage q es .rejected 0

/-- The fact merges with the row, and the row that it leaves fits what is to come. -/
structure Absorbs (q : Int) (e : BrokerEvidenceV1) (es : List BrokerEvidenceV1) (st : OrderStatus)
    (f : Int) : Prop where
  range : e.filledQuantity ≤ q
  clash : terminalClash st e.requestedStatus = false
  merge : ∃ target, normalizeBrokerStatus e.requestedStatus (max f e.filledQuantity) q = .ok target ∧
    terminalClash st target = false ∧ brokerNext st target = st.further e.requestedStatus
  gain : ¬ (st ∈ [OrderStatus.cancelled,.rejected] ∧ f < max f e.filledQuantity)
  rest : Stage q es (st.further e.requestedStatus) (max f e.filledQuantity)

theorem Stage.tail (h : Stage q (e :: es) st f) : Stage q es st f := by
  have hmem : ∀ {e'}, e' ∈ es → e' ∈ e :: es := List.mem_cons_of_mem e
  cases h with
  | waiting st hst => exact .waiting st hst
  | accepted => exact .accepted
  | partly f hpos hbelow hlive hcap =>
    exact .partly f hpos hbelow (fun e' he' => hlive e' (hmem he')) fun e' he' => hcap e' (hmem he')
  | filled honly => exact .filled fun e' he' => honly e' (hmem he')
  | cancelled f hbelow honly hcap =>
    exact .cancelled f hbelow (fun e' he' => honly e' (hmem he')) fun e' he' => hcap e' (hmem he')
  | rejected honly => exact .rejected fun e' he' => honly e' (hmem he')

theorem rejected_fill (hs : e.requestedStatus = .rejected) : e.filledQuantity = 0 := by
  have hcheck := e.typeCheck_ok
  rw [e.requestedStatus_eq] at hs
  unfold EvidenceFields.typeCheck at hcheck
  cases ht : e.evidenceType <;> simp_all [BrokerEvidenceType.status]

/-- Next to a terminal fact there are only live facts and facts of its kind. -/
theorem Consistent.beside_terminal {e' : BrokerEvidenceV1} (hc : Consistent q (e :: es))
    (ht : e.requestedStatus.brokerTerminal = true) (he' : e' ∈ es) :
    e'.requestedStatus = .acknowledged ∨ e'.requestedStatus = .partiallyFilled ∨
      e'.requestedStatus = e.requestedStatus := by
  have hcases := requestedStatus_cases e'
  have hsame := hc.terminal e List.mem_cons_self e' (List.mem_cons_of_mem e he') ht
  simp only [List.mem_cons,List.not_mem_nil,or_false] at hcases
  rcases hcases with hs | hs | hs | hs | hs
  · exact .inl hs
  · exact .inr (.inl hs)
  · exact .inr (.inr (hsame (by simp [hs,OrderStatus.brokerTerminal])).symm)
  · exact .inr (.inr (hsame (by simp [hs,OrderStatus.brokerTerminal])).symm)
  · exact .inr (.inr (hsame (by simp [hs,OrderStatus.brokerTerminal])).symm)

section
variable (hc : Consistent q (e :: es))
include hc

theorem Stage.enter_partly (hs : e.requestedStatus = .partiallyFilled) {m : Int}
    (hge : e.filledQuantity ≤ m) (hlt : m < q)
    (hcap : ∀ e' ∈ es, e'.requestedStatus = .cancelled → m ≤ e'.filledQuantity) :
    Stage q es .partiallyFilled m := by
  have hpos := partialFill_pos hs
  have hlive : ∀ e' ∈ es, e'.requestedStatus ≠ .rejected := by
    intro e' he' hs'
    have hzero := hc.rejected e' (List.mem_cons_of_mem e he') hs' e List.mem_cons_self
    omega
  exact .partly m (by omega) hlt hlive hcap

theorem Stage.enter_filled (hs : e.requestedStatus = .filled) : Stage q es .filled q := by
  apply Stage.filled
  intro e' he'
  have hbeside := hc.beside_terminal (by simp [hs,OrderStatus.brokerTerminal]) he'
  rw [hs] at hbeside
  rcases hbeside with hs' | hs' | hs' <;> simp [hs']

theorem Stage.enter_cancelled (hs : e.requestedStatus = .cancelled) :
    Stage q es .cancelled e.filledQuantity := by
  obtain ⟨hbelow,hall⟩ := hc.cancelled e List.mem_cons_self hs
  have hbeside : ∀ e' ∈ es, e'.requestedStatus = .acknowledged ∨
      e'.requestedStatus = .partiallyFilled ∨ e'.requestedStatus = .cancelled := by
    intro e' he'
    rw [← hs]
    exact hc.beside_terminal (by simp [hs,OrderStatus.brokerTerminal]) he'
  refine .cancelled _ hbelow (fun e' he' => ?_) fun e' he' => ?_
  · rcases hbeside e' he' with hs' | hs' | hs' <;> simp [hs']
  · rcases hbeside e' he' with hs' | hs' | hs'
    · rw [accepted_fill hs']
      exact e.filledQuantity_nonneg
    · exact (hall e' (List.mem_cons_of_mem e he')).2 hs'
    · exact ((hall e' (List.mem_cons_of_mem e he')).1 hs').le

theorem Stage.enter_rejected (hs : e.requestedStatus = .rejected) : Stage q es .rejected 0 := by
  apply Stage.rejected
  intro e' he'
  have hle := hc.rejected e List.mem_cons_self hs e' (List.mem_cons_of_mem e he')
  have hbeside := hc.beside_terminal (by simp [hs,OrderStatus.brokerTerminal]) he'
  rw [hs] at hbeside
  rcases hbeside with hs' | hs' | hs'
  · simp [hs']
  · have hpos := partialFill_pos hs'
    omega
  · simp [hs']

/-- The stage that an order enters with a fact, when its fill is then that of the fact. -/
theorem Stage.enter (hq : 0 < q) :
    normalizeBrokerStatus e.requestedStatus e.filledQuantity q = .ok e.requestedStatus ∧
      Stage q es e.requestedStatus e.filledQuantity := by
  have hself : e ∈ e :: es := List.mem_cons_self
  have hcases := requestedStatus_cases e
  simp only [List.mem_cons,List.not_mem_nil,or_false] at hcases
  rcases hcases with hs | hs | hs | hs | hs
  · have hne : ¬ (0 : Int) = q := by omega
    rw [hs,accepted_fill hs]
    exact ⟨by simp [normalizeBrokerStatus,refuse,hne],.accepted⟩
  · have hpos := partialFill_pos hs
    have hlt := hc.partly e hself hs
    rw [hs,normalize_live (by simp) hlt.ne fun _ => hpos,if_pos hpos]
    refine ⟨rfl,Stage.enter_partly hc hs le_rfl hlt fun e' he' hs' => ?_⟩
    exact ((hc.cancelled e' (List.mem_cons_of_mem e he') hs').2 e hself).2 hs
  · rw [hs,hc.full e hself hs]
    exact ⟨by simp [normalizeBrokerStatus,refuse],Stage.enter_filled hc hs⟩
  · have hlt := (hc.cancelled e hself hs).1
    rw [hs]
    exact ⟨by simp [normalizeBrokerStatus,refuse,hlt.ne],Stage.enter_cancelled hc hs⟩
  · rw [hs,rejected_fill hs]
    exact ⟨by simp [normalizeBrokerStatus,refuse],Stage.enter_rejected hc hs⟩

theorem Consistent.range (hq : 0 < q) : e.filledQuantity ≤ q := by
  have hself : e ∈ e :: es := List.mem_cons_self
  have hcases := requestedStatus_cases e
  simp only [List.mem_cons,List.not_mem_nil,or_false] at hcases
  rcases hcases with hs | hs | hs | hs | hs
  · rw [accepted_fill hs]
    exact hq.le
  · exact (hc.partly e hself hs).le
  · exact (hc.full e hself hs).le
  · exact (hc.cancelled e hself hs).1.le
  · rw [rejected_fill hs]
    exact hq.le

end

/-- A fact that tells the row nothing new. -/
theorem Stage.keep (target : OrderStatus) (h : Stage q (e :: es) st f) (hle : e.filledQuantity ≤ f)
    (hrange : e.filledQuantity ≤ q) (hprogress : e.requestedStatus.progress ≤ st.progress)
    (hclash : terminalClash st e.requestedStatus = false)
    (hnorm : normalizeBrokerStatus e.requestedStatus f q = .ok target)
    (hclash' : terminalClash st target = false) (hnext : brokerNext st target = st) :
    Absorbs q e es st f := by
  have hmax : max f e.filledQuantity = f := max_eq_left hle
  have hfurther : st.further e.requestedStatus = st := if_neg (not_lt.mpr hprogress)
  refine ⟨hrange,hclash,⟨target,?_,hclash',hnext.trans hfurther.symm⟩,?_,?_⟩
  · rw [hmax]
    exact hnorm
  · rw [hmax]
    exact fun hgain => lt_irrefl f hgain.2
  · rw [hmax,hfurther]
    exact h.tail

/-- A fact that takes a live order further. -/
theorem Stage.move (hst : st ∈ [OrderStatus.unknown,.reconciling,.acknowledged,.partiallyFilled])
    (hrange : e.filledQuantity ≤ q) (hfurther : st.further e.requestedStatus = e.requestedStatus)
    (hnorm : normalizeBrokerStatus e.requestedStatus (max f e.filledQuantity) q =
      .ok e.requestedStatus)
    (hrest : Stage q es e.requestedStatus (max f e.filledQuantity)) : Absorbs q e es st f := by
  have hlive : st.brokerTerminal = false := by
    simp only [List.mem_cons,List.not_mem_nil,or_false] at hst
    rcases hst with rfl | rfl | rfl | rfl <;> rfl
  have hclash : terminalClash st e.requestedStatus = false := by simp [terminalClash,hlive]
  have hnext : brokerNext st e.requestedStatus = e.requestedStatus := by
    simp only [List.mem_cons,List.not_mem_nil,or_false] at hst
    rcases hst with rfl | rfl | rfl | rfl
    · simp [brokerNext,OrderStatus.brokerTerminal]
    · simp [brokerNext,OrderStatus.brokerTerminal]
    · simp [brokerNext,OrderStatus.brokerTerminal]
    · have hne : e.requestedStatus ≠ .acknowledged := by
        intro heq
        simp [heq,OrderStatus.further,OrderStatus.progress] at hfurther
      simp [brokerNext,OrderStatus.brokerTerminal,hne]
  refine ⟨hrange,hclash,⟨_,hnorm,hclash,hnext.trans hfurther.symm⟩,?_,?_⟩
  · simp only [List.mem_cons,List.not_mem_nil,or_false] at hst
    rcases hst with rfl | rfl | rfl | rfl <;> simp
  · rw [hfurther]
    exact hrest

section
variable (hq : 0 < q) (hc : Consistent q (e :: es))
include hq hc

theorem Stage.absorbs_fresh (hst : st ∈ [OrderStatus.unknown,.reconciling,.acknowledged]) :
    Absorbs q e es st 0 := by
  obtain ⟨hnorm,hrest⟩ := Stage.enter hc hq
  have hmax : max 0 e.filledQuantity = e.filledQuantity := max_eq_right e.filledQuantity_nonneg
  have hcases := requestedStatus_cases e
  simp only [List.mem_cons,List.not_mem_nil,or_false] at hcases hst
  refine Stage.move ?_ (hc.range hq) ?_ (by rwa [hmax]) (by rwa [hmax])
  · simp only [List.mem_cons,List.not_mem_nil,or_false]
    tauto
  · rcases hst with rfl | rfl | rfl <;> rcases hcases with hs | hs | hs | hs | hs <;>
      simp [hs,OrderStatus.further,OrderStatus.progress]

theorem Stage.absorbs_partly (hpos : 0 < f) (hbelow : f < q)
    (hlive : ∀ e' ∈ e :: es, e'.requestedStatus ≠ .rejected)
    (hcap : ∀ e' ∈ e :: es, e'.requestedStatus = .cancelled → f ≤ e'.filledQuantity) :
    Absorbs q e es .partiallyFilled f := by
  have hself : e ∈ e :: es := List.mem_cons_self
  have hrange := hc.range hq
  obtain ⟨hnorm,hrest⟩ := Stage.enter hc hq
  have hcases := requestedStatus_cases e
  simp only [List.mem_cons,List.not_mem_nil,or_false] at hcases
  rcases hcases with hs | hs | hs | hs | hs
  · have hle : e.filledQuantity ≤ f := by
      rw [accepted_fill hs]
      exact hpos.le
    refine Stage.keep .partiallyFilled (.partly f hpos hbelow hlive hcap) hle hrange ?_ ?_ ?_ rfl rfl
    · simp [hs,OrderStatus.progress]
    · simp [hs,terminalClash,OrderStatus.brokerTerminal]
    · rw [hs,normalize_live (by simp) hbelow.ne (by simp),if_pos hpos]
  · have hlt : max f e.filledQuantity < q := max_lt hbelow (hc.partly e hself hs)
    have hmax : 0 < max f e.filledQuantity := hpos.trans_le (le_max_left _ _)
    refine Stage.move (by simp) hrange ?_ ?_ ?_
    · simp [hs,OrderStatus.further,OrderStatus.progress]
    · rw [hs,normalize_live (by simp) hlt.ne fun _ => hmax,if_pos hmax]
    · rw [hs]
      refine Stage.enter_partly hc hs (le_max_right _ _) hlt fun e' he' hs' => max_le ?_ ?_
      · exact hcap e' (List.mem_cons_of_mem e he') hs'
      · exact ((hc.cancelled e' (List.mem_cons_of_mem e he') hs').2 e hself).2 hs
  · have hmax : max f e.filledQuantity = e.filledQuantity := by
      rw [hc.full e hself hs]
      exact max_eq_right hbelow.le
    refine Stage.move (by simp) hrange ?_ (by rwa [hmax]) (by rwa [hmax])
    simp [hs,OrderStatus.further,OrderStatus.progress]
  · have hmax : max f e.filledQuantity = e.filledQuantity := max_eq_right (hcap e hself hs)
    refine Stage.move (by simp) hrange ?_ (by rwa [hmax]) (by rwa [hmax])
    simp [hs,OrderStatus.further,OrderStatus.progress]
  · exact absurd hs (hlive e hself)

theorem Stage.absorbs_filled
    (honly : ∀ e' ∈ e :: es, e'.requestedStatus ∉ [OrderStatus.cancelled,.rejected]) :
    Absorbs q e es .filled q := by
  have hcases := requestedStatus_cases e
  have hnot := honly e List.mem_cons_self
  simp only [List.mem_cons,List.not_mem_nil,or_false,not_or] at hcases hnot
  have hkind : e.requestedStatus = .acknowledged ∨ e.requestedStatus = .partiallyFilled ∨
      e.requestedStatus = .filled := by tauto
  refine Stage.keep .filled (.filled honly) (hc.range hq) (hc.range hq) ?_ ?_ ?_ rfl rfl
  · rcases hkind with hs | hs | hs <;> simp [hs,OrderStatus.progress]
  · rcases hkind with hs | hs | hs <;> simp [hs,terminalClash,OrderStatus.brokerTerminal]
  · rcases hkind with hs | hs | hs <;> simp [hs,normalizeBrokerStatus,refuse]

theorem Stage.absorbs_cancelled (hbelow : f < q)
    (honly : ∀ e' ∈ e :: es, e'.requestedStatus ∉ [OrderStatus.filled,.rejected])
    (hcap : ∀ e' ∈ e :: es, e'.filledQuantity ≤ f) : Absorbs q e es .cancelled f := by
  have hcases := requestedStatus_cases e
  have hnot := honly e List.mem_cons_self
  have hle := hcap e List.mem_cons_self
  simp only [List.mem_cons,List.not_mem_nil,or_false,not_or] at hcases hnot
  have hkind : e.requestedStatus = .acknowledged ∨ e.requestedStatus = .partiallyFilled ∨
      e.requestedStatus = .cancelled := by tauto
  have htarget : ∃ target, normalizeBrokerStatus e.requestedStatus f q = .ok target ∧
      terminalClash .cancelled target = false := by
    rcases hkind with hs | hs | hs
    · rw [hs,normalize_live (by simp) hbelow.ne (by simp)]
      refine ⟨_,rfl,terminalClash_of_live ?_⟩
      split <;> rfl
    · have hpos := partialFill_pos hs
      rw [hs,normalize_live (by simp) hbelow.ne fun _ => by omega]
      refine ⟨_,rfl,terminalClash_of_live ?_⟩
      split <;> rfl
    · rw [hs]
      exact ⟨.cancelled,by simp [normalizeBrokerStatus,refuse,hbelow.ne],rfl⟩
  obtain ⟨target,htarget,hclash⟩ := htarget
  refine Stage.keep target (.cancelled f hbelow honly hcap) hle (hc.range hq) ?_ ?_ htarget hclash rfl
  · rcases hkind with hs | hs | hs <;> simp [hs,OrderStatus.progress]
  · rcases hkind with hs | hs | hs <;> simp [hs,terminalClash,OrderStatus.brokerTerminal]

theorem Stage.absorbs_rejected
    (honly : ∀ e' ∈ e :: es, e'.requestedStatus ∈ [OrderStatus.acknowledged,.rejected]) :
    Absorbs q e es .rejected 0 := by
  have hrange := hc.range hq
  have hkind := honly e List.mem_cons_self
  simp only [List.mem_cons,List.not_mem_nil,or_false] at hkind
  rcases hkind with hs | hs
  · have hne : ¬ (0 : Int) = q := by omega
    refine Stage.keep .acknowledged (.rejected honly) (accepted_fill hs).le hrange ?_ ?_ ?_ rfl rfl
    · simp [hs,OrderStatus.progress]
    · simp [hs,terminalClash,OrderStatus.brokerTerminal]
    · simp [hs,normalizeBrokerStatus,refuse,hne]
  · refine Stage.keep .rejected (.rejected honly) (rejected_fill hs).le hrange ?_ ?_ ?_ rfl rfl
    · simp [hs,OrderStatus.progress]
    · simp [hs,terminalClash,OrderStatus.brokerTerminal]
    · simp [hs,normalizeBrokerStatus,refuse]

/-- Consistent facts merge one after the other. -/
theorem Stage.absorbs (h : Stage q (e :: es) st f) : Absorbs q e es st f := by
  cases h with
  | waiting st hst =>
    apply Stage.absorbs_fresh hq hc
    simp only [List.mem_cons,List.not_mem_nil,or_false] at hst ⊢
    tauto
  | accepted => exact Stage.absorbs_fresh hq hc (by simp)
  | partly f hpos hbelow hlive hcap => exact Stage.absorbs_partly hq hc hpos hbelow hlive hcap
  | filled honly => exact Stage.absorbs_filled hq hc honly
  | cancelled f hbelow honly hcap => exact Stage.absorbs_cancelled hq hc hbelow honly hcap
  | rejected honly => exact Stage.absorbs_rejected hq hc honly

end

end

section
variable {g : Guard} {c : Choice} {k : OrderKey} {i : IntentColumns} {db : Db}
variable {e : BrokerEvidenceV1} {es : List BrokerEvidenceV1} {r : BrokerOrder}

theorem Absorbs.mergeFacts_eq {q : Int} (h : Absorbs q e es r.status r.filledQuantity)
    (hid : idMismatch r.brokerOrderId e.brokerOrderId = false) :
    (∃ p, planTransition e.key.clientOrderId (r.context q) (mergeRequest e) = .ok p) ∧
      mergeFacts e q r = absorb r.facts e := by
  obtain ⟨target,hnorm,hclash,hnext⟩ := h.merge
  have hplan : ∃ p, planTransition e.key.clientOrderId (r.context q) (mergeRequest e) = .ok p :=
    planTransition_ok_iff.mpr ⟨hid,h.clash,h.range,target,hnorm,hclash,h.gain⟩
  refine ⟨hplan,?_⟩
  obtain ⟨⟨o,filled⟩,hplan⟩ := hplan
  obtain ⟨target',hm⟩ := planTransition_merged hplan
  have hfill := hm.fill
  subst hfill
  obtain rfl : target = target' := Except.ok.inj (hnorm.symm.trans hm.normal)
  have hcurrent : o.current = r.status.further e.requestedStatus := hm.current.trans hnext
  simp [mergeFacts,hplan,hcurrent,absorb,BrokerOrder.facts]

/-- A suppressed fact would have changed nothing. -/
theorem Stage.suppressed {q : Int} (h : Stage q es r.status r.filledQuantity)
    (hbound : FillBounded q r) (hatt : Attested q e.semanticDigest r)
    (hquiet : Quiet r.status e.requestedStatus) : mergeFacts e q r = r.facts := by
  by_cases hterm : e.requestedStatus.brokerTerminal = true
  · exact mergeFacts_terminal hbound hatt hterm
  · have hreq : e.requestedStatus ∈ [OrderStatus.acknowledged,.partiallyFilled] := by
      have hcases := requestedStatus_cases e
      cases hs : e.requestedStatus <;> simp_all [OrderStatus.brokerTerminal]
    rw [mergeFacts_live hbound hatt hreq hquiet]
    rintro ⟨-,hpos,hst⟩
    generalize r.status = st at h hst
    generalize r.filledQuantity = f at h hpos
    cases h <;> simp_all

/-- A consistent fact with a new source identity is accepted and absorbed. -/
theorem Ready.absorb (h : Ready e.key i db) (hr : db.order? e.key = some r)
    (hfresh : identityRow e db = none) (hstage : Stage i.quantity (e :: es) r.status r.filledQuantity)
    (hc : Consistent i.quantity (e :: es))
    (hid : idMismatch r.brokerOrderId e.brokerOrderId = false) :
    ∃ a db' r', ingestInTx e db = .ok (.ok a,db') ∧ db'.order? e.key = some r' ∧
      r'.facts = BigQmt.absorb r.facts e := by
  have hbound := h.journal.bounded e.key r i hr h.intent
  have habsorbs := hstage.absorbs (h.wf.quantity _ _ h.intent) hc
  obtain ⟨⟨p,hplan⟩,hfacts⟩ := habsorbs.mergeFacts_eq hid
  obtain ⟨res,db',hin,hpass⟩ := ingest_fresh hr h.intent hfresh habsorbs.range
  cases hpass with
  | known a _ hrec _ _ => exact absurd hfresh hrec
  | suppressed a _ hquiet hseen hord =>
    obtain ⟨r',i',hr',hi',hatt⟩ := h.journal.suppressed hseen
    obtain rfl : r = r' := Option.some.inj (hr.symm.trans hr')
    obtain rfl : i = i' := Option.some.inj (h.intent.symm.trans hi')
    exact ⟨a,db',r,hin,hord,(hstage.suppressed hbound hatt hquiet).symm.trans hfacts⟩
  | applied a _ o filled hplan' hord =>
    refine ⟨a,db',_,hin,hord,?_⟩
    rw [← hfacts,mergeFacts,hplan']
    simp only [BrokerOrder.facts,applyTransition_status hplan']
    rfl
  | refused reason _ err hplan' hreview =>
    rw [hplan'] at hplan
    cases hplan

end

/-- One `ingest` after the other, each with its own clock. -/
def ingestAll (g : Guard) : List (Choice × BrokerEvidenceV1) → Db →
    List (Except PyError EvidenceIngestResult) × Db
  | [],db => ([],db)
  | p :: ps,db =>
    let (res,db₁) := EvidenceJournal.ingest g p.2 p.1 db
    let (rest,db₂) := ingestAll g ps db₁
    (res :: rest,db₂)

/-- What the facts still to come need of the database and of the order's row. -/
structure Coming (g : Guard) (k : OrderKey) (i : IntentColumns) (b : String)
    (ps : List (Choice × BrokerEvidenceV1)) (db : Db) (r : BrokerOrder) : Prop where
  ready : Ready k i db
  order : db.order? k = some r
  admits : ∀ p ∈ ps, g.Admits db p.1
  keys : ∀ p ∈ ps, p.2.key = k
  sources : (ps.map fun p => p.2.sourceEventId).Nodup
  fresh : ∀ p ∈ ps, identityRow p.2 db = none
  consistent : Consistent i.quantity (ps.map Prod.snd)
  stage : Stage i.quantity (ps.map Prod.snd) r.status r.filledQuantity
  id : r.brokerOrderId = none ∨ r.brokerOrderId = some b
  ids : ∀ p ∈ ps, p.2.brokerOrderId = none ∨ p.2.brokerOrderId = some b

section
variable {g : Guard} {k : OrderKey} {i : IntentColumns} {b : String} {db : Db} {r : BrokerOrder}
variable {p : Choice × BrokerEvidenceV1} {ps : List (Choice × BrokerEvidenceV1)}

theorem Coming.step (h : Coming g k i b (p :: ps) db r) : ∃ a db' r',
    EvidenceJournal.ingest g p.2 p.1 db = (.ok a,db') ∧ r'.facts = absorb r.facts p.2 ∧
      Coming g k i b ps db' r' := by
  have hself : p ∈ p :: ps := List.mem_cons_self
  have hmem : ∀ {p'}, p' ∈ ps → p' ∈ p :: ps := List.mem_cons_of_mem p
  obtain rfl := h.keys p hself
  have hid : idMismatch r.brokerOrderId p.2.brokerOrderId = false := by
    rcases h.id with hs | hs <;> rcases h.ids p hself with hs' | hs' <;> simp [hs,hs',idMismatch]
  have hc : Consistent i.quantity (p.2 :: ps.map Prod.snd) := h.consistent
  have hstage : Stage i.quantity (p.2 :: ps.map Prod.snd) r.status r.filledQuantity := h.stage
  obtain ⟨a,db',r',hin,hord,hfacts⟩ := h.ready.absorb h.order (h.fresh p hself) hstage hc hid
  obtain ⟨hnew,hsources⟩ := List.nodup_cons.mp h.sources
  have hst : r'.status = r.status.further p.2.requestedStatus := congrArg Prod.fst hfacts
  have hfill : r'.filledQuantity = max r.filledQuantity p.2.filledQuantity :=
    congrArg (fun x => x.2.1) hfacts
  have hb : r'.brokerOrderId = r.brokerOrderId.or p.2.brokerOrderId :=
    congrArg (fun x => x.2.2) hfacts
  refine ⟨a,db',r',(h.admits p hself).ingest_eq hin,hfacts,h.ready.after hin,hord,?_,?_,hsources,
    ?_,?_,?_,?_,?_⟩
  · exact fun p' hp' => (h.admits p' (hmem hp')).after hin
  · exact fun p' hp' => h.keys p' (hmem hp')
  · intro p' hp'
    have hne : p'.2.sourceEventId ≠ p.2.sourceEventId := by
      intro heq
      exact hnew (List.mem_map.mpr ⟨p',hp',heq⟩)
    rw [identityRow_kept hin (identity_ne hne)]
    exact h.fresh p' (hmem hp')
  · exact hc.subset fun e he => List.mem_cons_of_mem _ he
  · rw [hst,hfill]
    exact (hstage.absorbs (h.ready.wf.quantity _ _ h.ready.intent) hc).rest
  · rw [hb]
    rcases h.id with hs | hs <;> rcases h.ids p hself with hs' | hs' <;> simp [hs,hs']
  · exact fun p' hp' => h.ids p' (hmem hp')

/-- The row after a list of consistent facts is the fold over them. -/
theorem Coming.ingestAll (h : Coming g k i b ps db r) :
    (∀ res ∈ (ingestAll g ps db).1, ∃ a, res = .ok a) ∧
      (BigQmt.ingestAll g ps db).2.facts k = some ((ps.map Prod.snd).foldl absorb r.facts) := by
  induction ps generalizing db r with
  | nil => simp [BigQmt.ingestAll,Db.facts,h.order,BrokerOrder.facts]
  | cons p ps ih =>
    obtain ⟨a,db',r',hin,hfacts,hcoming⟩ := h.step
    obtain ⟨hok,hfinal⟩ := ih hcoming
    simp only [BigQmt.ingestAll,hin,List.map_cons,List.foldl_cons,← hfacts]
    refine ⟨?_,hfinal⟩
    intro res hres
    rcases List.mem_cons.mp hres with rfl | hres
    · exact ⟨a,rfl⟩
    · exact hok res hres

end

theorem OrderStatus.further_comm {st a b : OrderStatus} (h : a.progress = b.progress → a = b) :
    (st.further a).further b = (st.further b).further a := by
  unfold OrderStatus.further
  split_ifs <;> first | rfl | omega | exact h (by omega)

theorem progress_injective (e e' : BrokerEvidenceV1)
    (h : e.requestedStatus.progress = e'.requestedStatus.progress) :
    e.requestedStatus = e'.requestedStatus := by
  have hcases := requestedStatus_cases e
  have hcases' := requestedStatus_cases e'
  simp only [List.mem_cons,List.not_mem_nil,or_false] at hcases hcases'
  rcases hcases with hs | hs | hs | hs | hs <;> rcases hcases' with hs' | hs' | hs' | hs' | hs' <;>
    simp [hs,hs',OrderStatus.progress] at h ⊢

theorem absorb_comm {es : List BrokerEvidenceV1} {b : String}
    (hids : ∀ e ∈ es, e.brokerOrderId = none ∨ e.brokerOrderId = some b) :
    ∀ e ∈ es, ∀ e' ∈ es, ∀ x, absorb (absorb x e) e' = absorb (absorb x e') e := by
  intro e he e' he' ⟨st,f,stored⟩
  have hid : (stored.or e.brokerOrderId).or e'.brokerOrderId =
      (stored.or e'.brokerOrderId).or e.brokerOrderId := by
    rcases hids e he with hs | hs <;> rcases hids e' he' with hs' | hs' <;>
      cases stored <;> simp [hs,hs']
  have hmax : max (max f e.filledQuantity) e'.filledQuantity =
      max (max f e'.filledQuantity) e.filledQuantity := by omega
  simp only [absorb,OrderStatus.further_comm (progress_injective e e'),hid,hmax]

/-- Consistent facts about a fresh order are all accepted, and leave the same row in
whatever order they come. -/
theorem consistent_evidence_confluent {ms : List (Move Choice Start)} {t : Sys Eff World}
    (h : (system fun _ _ => true).run (Machine.boots World.initial) ms = some t)
    {g : Guard} {k : OrderKey} {r : BrokerOrder} {i : IntentColumns}
    (hr : t.world.db.order? k = some r) (hi : t.world.db.intent? k = some i)
    (hst : r.status ∈ [.unknown,.reconciling]) (hfill : r.filledQuantity = 0)
    (hid : r.brokerOrderId = none) {es : List BrokerEvidenceV1} (hkeys : ∀ e ∈ es, e.key = k)
    (hsources : (es.map fun e => e.sourceEventId).Nodup)
    (hfresh : ∀ e ∈ es, identityRow e t.world.db = none) (hc : Consistent i.quantity es)
    {ps₁ ps₂ : List (Choice × BrokerEvidenceV1)} (hperm₁ : (ps₁.map Prod.snd).Perm es)
    (hperm₂ : (ps₂.map Prod.snd).Perm es) (hadmits₁ : ∀ p ∈ ps₁, g.Admits t.world.db p.1)
    (hadmits₂ : ∀ p ∈ ps₂, g.Admits t.world.db p.1) :
    (∀ res ∈ (ingestAll g ps₁ t.world.db).1 ++ (ingestAll g ps₂ t.world.db).1, ∃ a, res = .ok a) ∧
      (ingestAll g ps₁ t.world.db).2.facts k = (ingestAll g ps₂ t.world.db).2.facts k := by
  obtain ⟨hw,hdb⟩ := reach_attests h
  obtain ⟨b,hids⟩ := hc.ids
  have hcoming : ∀ {ps : List (Choice × BrokerEvidenceV1)}, (ps.map Prod.snd).Perm es →
      (∀ p ∈ ps, g.Admits t.world.db p.1) → Coming g k i b ps t.world.db r := by
    intro ps hperm hadmits
    have hmem : ∀ p ∈ ps, p.2 ∈ es := fun p hp =>
      hperm.mem_iff.mp (List.mem_map_of_mem hp)
    have hsources' : (ps.map fun p => p.2.sourceEventId).Nodup := by
      have hmap := (hperm.map fun e => e.sourceEventId).nodup_iff.mpr hsources
      rwa [List.map_map] at hmap
    refine ⟨⟨hw,hdb,hi⟩,hr,hadmits,fun p hp => hkeys _ (hmem p hp),hsources',
      fun p hp => hfresh _ (hmem p hp),hc.subset fun e he => hperm.mem_iff.mp he,?_,.inl hid,
      fun p hp => hids _ (hmem p hp)⟩
    rw [hfill]
    exact .waiting _ hst
  obtain ⟨hok₁,hfacts₁⟩ := (hcoming hperm₁ hadmits₁).ingestAll
  obtain ⟨hok₂,hfacts₂⟩ := (hcoming hperm₂ hadmits₂).ingestAll
  refine ⟨fun res hres => ?_,?_⟩
  · rcases List.mem_append.mp hres with hres | hres
    · exact hok₁ res hres
    · exact hok₂ res hres
  · have hcomm := absorb_comm hids
    rw [hfacts₁,hfacts₂,← hperm₁.symm.foldl_eq' hcomm r.facts,← hperm₂.symm.foldl_eq' hcomm r.facts]

theorem confluent_fill_first : ∃ t,
    (system fun _ _ => true).run (Machine.boots World.initial) (partlyFilledRun 28) = some t ∧
      (ingestAll sampleGuard [({},sampleFill),({},sampleAccepted),({},samplePartialFill)]
          t.world.db).2.facts sampleIntent.key =
        (ingestAll sampleGuard [({},sampleAccepted),({},samplePartialFill),({},sampleFill)]
          t.world.db).2.facts sampleIntent.key := by
  have hrun : ((system fun _ _ => true).run (Machine.boots World.initial)
      (partlyFilledRun 28)).map (fun t => ((sampleGuard.check ({} : Choice).now t.world.db).isOk,
        t.world.db.order? sampleIntent.key,
        decide (t.world.db.intent? sampleIntent.key = some sampleIntent.toIntentColumns),
        t.world.db.evidenceKeys.isEmpty)) =
      some (true,some ⟨sampleIntent.key,.reconciling,none,0,true,false,false⟩,true,true) := by
    decide +kernel
  obtain ⟨t,ht,hdb⟩ := Option.map_eq_some_iff.mp hrun
  simp only [Prod.mk.injEq,decide_eq_true_eq,List.isEmpty_iff] at hdb
  obtain ⟨hguard,hr,hi,hkeys⟩ := hdb
  obtain ⟨⟨⟩,hguard⟩ := exists_ok_of_isOk hguard
  have hadmits : sampleGuard.Admits t.world.db {} := ⟨rfl,hguard⟩
  have hc : Consistent sampleIntent.quantity [sampleAccepted,samplePartialFill,sampleFill] := by
    constructor
    · exact ⟨"b-1",by decide⟩
    all_goals decide
  have hsource : ∀ e ∈ [sampleAccepted,samplePartialFill,sampleFill],
      e.key = sampleIntent.key := by decide
  exact ⟨t,ht,(consistent_evidence_confluent ht hr hi (by simp) rfl rfl hsource (by decide)
    (fun e _ => by simp [identityRow,hkeys]) hc (by decide) (by decide) (by simpa using hadmits)
    (by simpa using hadmits)).2⟩

end BigQmt
