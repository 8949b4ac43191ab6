import BigQmt.EventFrames
import BigQmt.MapperLedger
import Mathlib.Algebra.Order.BigOperators.Group.List
import Mathlib.Algebra.Order.Group.Int
set_option autoImplicit false

/-!
When a row raises: `BrokerEvidenceV1` has limits of its own, which the mapper of
`qmt/guojin_evidence.py` meets only after it has written to its ledger.
-/

namespace BigQmt
namespace Mapper

variable {m m' : Mapper} {src : RowSource} {fields : Fields} {o : RegisteredOrder} {fact : RowFact}

/-- The texts of a row are no longer than the evidence takes them. -/
structure Fits (src : RowSource) (fields : Fields) (o : RegisteredOrder) : Prop where
  sourceEventId :
    (src.event.sessionId ++ ":" ++ toString src.event.sequence ++ rowSuffix src).length ≤ 256
  clientOrderId : o.clientOrderId.length ≤ 128
  brokerOrderId : ∀ t, text fields "broker_order_id" = some t → t.length ≤ 128
  orderRef : ∀ t, text fields "order_ref" = some t → t.length ≤ 128
  tradeId : src.eventType ≠ .order → ∀ t, text fields "trade_id" = some t → t.length ≤ 128

theorem text_ne {key t : String} (h : text fields key = some t) : t ≠ "" := by
  obtain ⟨-,hne⟩ := Option.filter_eq_some_iff.mp h
  simpa using hne

theorem optionalText_iff {key : String} :
    optionalText (text fields key) = true ↔ ∀ t, text fields key = some t → t.length ≤ 128 := by
  cases htext : text fields key with
  | none => simp [optionalText]
  | some t =>
    have hne := text_ne htext
    simp [optionalText,boundedText,hne]

theorem hexDigit_alphanum {c : Char} (h : hexDigit c = true) : c.isAlphanum = true := by
  simp only [hexDigit,Bool.or_eq_true,Bool.and_eq_true,decide_eq_true_eq,Char.le_def,
    UInt32.le_iff_toNat_le] at h
  have hranges : c.isAlphanum = (((decide (c.val ≥ 65 ∧ c.val ≤ 90)) ||
      (c.val ≥ 97 && c.val ≤ 122)) || (c.val ≥ 48 && c.val ≤ 57)) := rfl
  simp only [hranges,Bool.or_eq_true,Bool.and_eq_true,decide_eq_true_eq,ge_iff_le,
    UInt32.le_iff_toNat_le]
  obtain ⟨hlow,hhigh⟩ | ⟨hlow,hhigh⟩ := h
  · exact .inr ⟨hlow,hhigh⟩
  · exact .inl (.inr ⟨hlow,Nat.le_trans hhigh (by decide)⟩)

/-- The token of an order is one that evidence takes. -/
theorem token_fits {token : String} (h : isBrokerToken token = true) :
    (boundedText token 64 && isToken token) = true := by
  unfold isBrokerToken at h
  split at h
  · rename_i cs hlist
    simp only [Bool.and_eq_true,beq_iff_eq] at h
    obtain ⟨hlength,hhex⟩ := h
    have hsize : token.length = 22 := by
      rw [← String.length_toList,hlist]
      simp [hlength]
    have hne : token ≠ "" := by
      intro hempty
      rw [hempty] at hsize
      cases hsize
    have hall : ∀ c ∈ cs, c.isAlphanum = true := by
      intro c hc
      exact hexDigit_alphanum (List.all_eq_true.mp hhex c hc)
    have hchars : cs.all (fun c => c.isAlphanum || c ∈ ['.','_',':','-']) = true := by
      simp only [List.all_eq_true,Bool.or_eq_true]
      exact fun c hc => .inl (hall c hc)
    have hB : Char.isAlphanum 'B' = true := by decide
    have hQ : Char.isAlphanum 'Q' = true := by decide
    simp only [boundedText,isToken,hlist,hsize,List.all_cons,hchars,hB,hQ]
    simp [hne]
  · cases h

/-- What the calibrated shapes of an order row let through. -/
theorem orderFact_ok (h : orderFact o fields = .ok fact) :
    fact.brokerOrderId = text fields "broker_order_id" ∧ fact.tradeId = none ∧
      ((fact.evidenceType = .orderAccepted ∧ fact.brokerOrderId.isSome = true ∧
          fact.filledQuantity = 0) ∨
        (fact.evidenceType = .orderCancelled ∧ fact.brokerOrderId.isSome = true ∧
          fact.filledQuantity = 0) ∨
        (fact.evidenceType = .fullFill ∧ fact.brokerOrderId.isSome = true ∧
          fact.filledQuantity = o.quantity) ∨
        fact.evidenceType = .orderRejected ∧ fact.filledQuantity = 0) := by
  unfold orderFact at h
  split at h
  · cases h
  · rename_i filled hfilled
    simp only [refuse_eq_ok] at h
    obtain ⟨-,h⟩ := h
    split at h
    · simp only [refuse_eq_ok,Except.ok.injEq] at h
      obtain ⟨hshape,rfl⟩ := h
      refine ⟨rfl,rfl,.inl ⟨rfl,?_,?_⟩⟩
      · cases hid : text fields "broker_order_id" <;> simp [hid] at hshape ⊢
      · simp only [Bool.or_eq_false_iff,decide_eq_false_iff_not,not_not] at hshape
        exact hshape.1.2
    · simp only [refuse_eq_ok,Except.ok.injEq] at h
      obtain ⟨hshape,rfl⟩ := h
      refine ⟨rfl,rfl,.inr (.inl ⟨rfl,?_,?_⟩)⟩
      · cases hid : text fields "broker_order_id" <;> simp [hid] at hshape ⊢
      · simp only [Bool.or_eq_false_iff,decide_eq_false_iff_not,not_not] at hshape
        exact hshape.1.2
    · simp only [refuse_eq_ok,Except.ok.injEq] at h
      obtain ⟨hshape,rfl⟩ := h
      refine ⟨rfl,rfl,.inr (.inr (.inl ⟨rfl,?_,?_⟩))⟩
      · cases hid : text fields "broker_order_id" <;> simp [hid] at hshape ⊢
      · simp only [Bool.or_eq_false_iff,decide_eq_false_iff_not,not_not] at hshape
        exact hshape.2
    · simp only [refuse_eq_ok,Except.ok.injEq,decide_eq_false_iff_not,not_not] at h
      obtain ⟨hshape,rfl⟩ := h
      exact ⟨rfl,rfl,.inr (.inr (.inr ⟨rfl,hshape⟩))⟩
    · cases h

/-- A recorded trade counts. -/
theorem Within.cumulative_pos {token tradeId : String} {quantity : Int} (hm : Within m)
    (hpositive : 0 < quantity) : 0 < (m.recordTrade token tradeId quantity).cumulative token := by
  have hall : ∀ t ∈ (m.recordTrade token tradeId quantity).trades, 0 < t.quantity := by
    intro t ht
    rw [recordTrade_trades] at ht
    split_ifs at ht
    · exact hm.positive t ht
    · obtain ht | ht := List.mem_append.mp ht
      · exact hm.positive t ht
      · cases List.mem_singleton.mp ht
        exact hpositive
  have hthere : ∃ t ∈ (m.recordTrade token tradeId quantity).trades, t.brokerToken = token := by
    rw [recordTrade_trades]
    split_ifs with hknown
    · simp only [trade?,Option.isSome_map,List.find?_isSome,decide_eq_true_eq] at hknown
      obtain ⟨t,ht,htoken,-⟩ := hknown
      exact ⟨t,ht,htoken⟩
    · exact ⟨_,List.mem_append_right _ (List.mem_singleton_self _),rfl⟩
  obtain ⟨t,ht,htoken⟩ := hthere
  unfold cumulative
  have hnonneg : ∀ q ∈ ((m.recordTrade token tradeId quantity).trades.filter
      (fun t => t.brokerToken = token)).map Trade.quantity, 0 ≤ q := by
    intro q hq
    obtain ⟨r,hr,rfl⟩ := List.mem_map.mp hq
    have hr' := hall r (List.mem_filter.mp hr).1
    omega
  have hle := List.single_le_sum hnonneg t.quantity
    (List.mem_map_of_mem (List.mem_filter.mpr ⟨ht,by simpa using htoken⟩))
  have hq := hall t ht
  omega

/-- The row of a source is of the kind the source is for. -/
def Kinded (src : RowSource) : Prop :=
  (src.eventType = .order ∧ src.sourceKind ∈ [.orderCallback,.activeOrderQuery]) ∨
    (src.eventType ≠ .order ∧ src.sourceKind ∈ [.dealCallback,.activeDealQuery])

/-- What the evidence of a row that is taken in needs of it, but for the limits. -/
structure Sound (src : RowSource) (fields : Fields) (fact : RowFact) : Prop where
  brokerOrderId : fact.brokerOrderId = text fields "broker_order_id"
  tradeId : fact.tradeId = if src.eventType = .order then none else text fields "trade_id"
  nonneg : 0 ≤ fact.filledQuantity
  fills : src.sourceKind ∈ [.dealCallback,.activeDealQuery] →
    fact.evidenceType ∈ [.partialFill,.fullFill] ∧ fact.tradeId.isSome = true
  accepted : fact.evidenceType = .orderAccepted →
    fact.brokerOrderId.isSome = true ∧ fact.filledQuantity = 0
  filled : fact.evidenceType ∈ [.partialFill,.fullFill] →
    fact.brokerOrderId.isSome = true ∧ 0 < fact.filledQuantity
  cancelled : fact.evidenceType = .orderCancelled → fact.brokerOrderId.isSome = true
  rejected : fact.evidenceType = .orderRejected → fact.filledQuantity = 0

theorem Taken.sound (hm : Within m) (hk : Kinded src) (h : m.Taken src fields o fact m') :
    Sound src fields fact := by
  cases h with
  | order htype hidentity hfact hbound =>
    obtain ⟨hbroker,htrade,hkinds⟩ := orderFact_ok hfact
    obtain ⟨hsize,-⟩ := hm.sized _ o (identity_ok hidentity).registered
    have hkind : src.sourceKind ∉ [.dealCallback,.activeDealQuery] := by
      obtain ⟨-,hkind⟩ | ⟨hne,-⟩ := hk
      · intro hdeal
        cases hsource : src.sourceKind <;> simp [hsource] at hkind hdeal
      · exact absurd htype hne
    obtain ⟨ht,hb,hf⟩ | ⟨ht,hb,hf⟩ | ⟨ht,hb,hf⟩ | ⟨ht,hf⟩ := hkinds
    · exact ⟨hbroker,by simp [htype,htrade],by omega,fun hd => absurd hd hkind,
        fun _ => ⟨hb,hf⟩,by simp [ht],by simp [ht],by simp [ht]⟩
    · exact ⟨hbroker,by simp [htype,htrade],by omega,fun hd => absurd hd hkind,
        by simp [ht],by simp [ht],fun _ => hb,by simp [ht]⟩
    · exact ⟨hbroker,by simp [htype,htrade],by omega,fun hd => absurd hd hkind,
        by simp [ht],fun _ => ⟨hb,by omega⟩,by simp [ht],by simp [ht]⟩
    · exact ⟨hbroker,by simp [htype,htrade],by omega,fun hd => absurd hd hkind,
        by simp [ht],by simp [ht],by simp [ht],fun _ => hf⟩
  | deal htype hidentity hfact hbound =>
    obtain ⟨htrade,-,hpositive,hbroker,hid,hsum,-,hevidence,hb⟩ := dealFact_ok hfact
    have hsize : 0 < fact.filledQuantity := by
      rw [hsum]
      exact hm.cumulative_pos hpositive
    have hmem : fact.evidenceType ∈ [.partialFill,.fullFill] := by
      rw [hevidence]
      split_ifs <;> simp
    refine ⟨hbroker,by simp [htype,hid,htrade],by omega,fun _ => ⟨hmem,by simp [hid]⟩,?_,
      fun _ => ⟨hb,hsize⟩,?_,?_⟩
    · intro h
      simp [h] at hmem
    · intro h
      simp [h] at hmem
    · intro h
      simp [h] at hmem

theorem sourceEventId_fits (session sequence suffix : String) :
    boundedText (session ++ ":" ++ sequence ++ suffix) 256 = true ↔
      (session ++ ":" ++ sequence ++ suffix).length ≤ 256 := by
  have hcolon : (":" : String).length = 1 := rfl
  have hne : session ++ ":" ++ sequence ++ suffix ≠ "" := by
    intro h
    have hlength := congrArg String.length h
    have hnone : ("" : String).length = 0 := rfl
    simp only [String.length_append] at hlength
    omega
  simp [boundedText,hne]

/-- A source event id that fits leaves room for the reference. -/
theorem rawPayloadRef_fits {session sequence suffix : String}
    (h : (session ++ ":" ++ sequence ++ suffix).length ≤ 256) :
    boundedText ("qmt://" ++ "guojin_sim" ++ "/" ++ session ++ "/" ++ sequence ++ suffix) 512 =
      true := by
  have hscheme : ("qmt://" : String).length = 6 := rfl
  have hterminal : ("guojin_sim" : String).length = 10 := rfl
  have hslash : ("/" : String).length = 1 := rfl
  have hcolon : (":" : String).length = 1 := rfl
  have hsize : ("qmt://" ++ "guojin_sim" ++ "/" ++ session ++ "/" ++ sequence ++ suffix).length ≤
      512 := by
    simp only [String.length_append] at h ⊢
    omega
  have hne : "qmt://" ++ "guojin_sim" ++ "/" ++ session ++ "/" ++ sequence ++ suffix ≠ "" := by
    intro hempty
    have hlength := congrArg String.length hempty
    have hnone : ("" : String).length = 0 := rfl
    simp only [String.length_append] at hlength
    omega
  simp only [boundedText,Bool.and_eq_true,decide_eq_true_eq]
  exact ⟨bne_iff_ne.mpr hne,hsize⟩

/-- The route of a row that has passed `_identity` is complete. -/
theorem routeFields_fit {event : QmtEvent}
    (h : event.source = "active_query" → ∃ accountType fingerprint,
      accountType ∈ ["STOCK","HUGANGTONG","SHENGANGTONG"] ∧ isSha256 fingerprint = true ∧
      fields.textAt "route_account_type" = some accountType ∧
      fields.textAt "route_account_fingerprint" = some fingerprint) :
    let accountType := if event.source = "active_query" then text fields "route_account_type" else none
    let fingerprint :=
      if event.source = "active_query" then text fields "route_account_fingerprint" else none
    (accountType.isNone != fingerprint.isNone) = false ∧
      accountType.all (· ∈ ["STOCK","HUGANGTONG","SHENGANGTONG"]) = true ∧
      fingerprint.all isSha256 = true := by
  by_cases hquery : event.source = "active_query"
  · obtain ⟨accountType,fingerprint,hmem,hsha,htype,hprint⟩ := h hquery
    have hne : accountType ≠ "" := by
      intro hempty
      subst hempty
      simp at hmem
    have hne' : fingerprint ≠ "" := by
      intro hempty
      subst hempty
      exact absurd hsha (by decide)
    simp only [hquery,if_true,text,htype,hprint]
    simp [hne,hne',hsha]
    simpa using hmem
  · simp [hquery]

/-- The evidence of a row that is taken in is valid exactly when the texts fit. -/
theorem postInit_iff (hm : Within m) (hprofile : m.profile = guojinSimProfile)
    (he : src.event.Valid) (hk : Kinded src) (h : m.Taken src fields o fact m') :
    (m'.evidenceFields src o fields fact).postInit = .ok () ↔ Fits src fields o := by
  have hsound := h.sound hm hk
  have hid : m.Identified src.event fields o := by
    cases h with
    | order _ hidentity => exact identity_ok hidentity
    | deal _ hidentity => exact identity_ok hidentity
  have hprofile' : m'.profile = guojinSimProfile := h.keeps.profile.trans hprofile
  obtain ⟨-,hclient⟩ := hm.sized _ o hid.registered
  have hclientFits : boundedText o.clientOrderId 128 = true ↔ o.clientOrderId.length ≤ 128 := by
    simp [boundedText,hclient]
  have htradeFits : optionalText fact.tradeId = true ↔
      (src.eventType ≠ .order → ∀ t, text fields "trade_id" = some t → t.length ≤ 128) := by
    rw [hsound.tradeId]
    split_ifs with htype
    · simp [optionalText,htype]
    · rw [optionalText_iff]
      simp [htype]
  simp only [EvidenceFields.postInit,refuse_eq_ok,Bool.not_eq_false',evidenceFields,hprofile',
    guojinSimProfile,sourceEventId_fits,hclientFits,hsound.brokerOrderId,optionalText_iff,htradeFits]
  constructor
  · rintro ⟨-,hevent,-,hlength,-,-,-,hbroker,href,htrade,-⟩
    exact ⟨hevent,hlength,hbroker,href,htrade⟩
  · intro hfits
    have hroute := routeFields_fit hid.route
    refine ⟨by decide,hfits.sourceEventId,by decide,hfits.clientOrderId,
      rawPayloadRef_fits hfits.sourceEventId,he.accountFingerprint,?_,hfits.brokerOrderId,
      hfits.orderRef,hfits.tradeId,?_,?_,hroute.1,hroute.2.1,hroute.2.2,?_,?_,?_,?_⟩
    · exact token_fits hid.shape
    · have hnonneg := hsound.nonneg
      simp only [decide_eq_false_iff_not]
      omega
    · have htime := he.timestampMs
      simp only [decide_eq_false_iff_not]
      omega
    · simp
    · by_cases hdeal : src.sourceKind ∈ [.dealCallback,.activeDealQuery]
      · simp [(hsound.fills hdeal).1]
      · simp [hdeal]
    · by_cases hdeal : src.sourceKind = .dealCallback
      · have htrade := (hsound.fills (by simp [hdeal])).2
        simp [Option.isNone_eq_false_iff.mpr htrade]
      · simp [hdeal]
    · rw [← hsound.brokerOrderId]
      cases htype : fact.evidenceType with
      | orderAccepted =>
        obtain ⟨hbroker,hzero⟩ := hsound.accepted htype
        simp [EvidenceFields.typeCheck,refuse,Option.isNone_eq_false_iff.mpr hbroker,hzero]
      | partialFill =>
        obtain ⟨hbroker,hfilled⟩ := hsound.filled (by simp [htype])
        have hpositive : ¬fact.filledQuantity ≤ 0 := by omega
        simp [EvidenceFields.typeCheck,refuse,Option.isNone_eq_false_iff.mpr hbroker,hpositive]
      | fullFill =>
        obtain ⟨hbroker,hfilled⟩ := hsound.filled (by simp [htype])
        have hpositive : ¬fact.filledQuantity ≤ 0 := by omega
        simp [EvidenceFields.typeCheck,refuse,Option.isNone_eq_false_iff.mpr hbroker,hpositive]
      | orderCancelled =>
        have hbroker := hsound.cancelled htype
        simp [EvidenceFields.typeCheck,refuse,Option.isNone_eq_false_iff.mpr hbroker]
      | orderRejected =>
        have hzero := hsound.rejected htype
        simp [EvidenceFields.typeCheck,refuse,hzero]

namespace RowStep

/-- A row gives evidence, or it is rejected once and leaves the ledger and the ids alone. -/
def Atomic (s : RowStep) : Prop :=
  (∃ e, s.result = .ok (some e)) ∨
    (s.result = .ok none ∧ (∃ r, s.after.rejections = s.before.rejections ++ [r]) ∧
      s.after.trades = s.before.trades ∧ s.after.ordersByToken = s.before.ordersByToken)

/-- The route of the row can be looked up, and if the mapper has nothing against the row its
texts fit the evidence. -/
def Admissible (s : RowStep) : Prop :=
  ∀ fields, s.payload = some fields →
    (∀ e, s.before.identity s.src.event fields ≠ .error (.raised e)) ∧
      ∀ o fact m', s.before.Taken s.src fields o fact m' → Fits s.src fields o

variable {s : RowStep}

/-- A row is atomic unless it raises. -/
theorem atomic_iff : s.Atomic ↔ ∀ e, s.result ≠ .error e := by
  unfold Atomic
  constructor
  · rintro (⟨e,h⟩ | ⟨h,-⟩) e' he
    · rw [h] at he
      cases he
    · rw [h] at he
      cases he
  · intro hfine
    cases hresult : s.result with
    | error e => exact absurd hresult (hfine e)
    | ok found =>
      cases found with
      | some e => exact .inl ⟨e,rfl⟩
      | none =>
        obtain ⟨htrades,horders,r,hr⟩ := s.result_none hresult
        exact .inr ⟨rfl,⟨r,hr⟩,htrades,horders⟩

theorem atomic_iff_admissible (hm : Within s.before) (hprofile : s.before.profile = guojinSimProfile)
    (he : s.src.event.Valid) (hk : Kinded s.src) : s.Atomic ↔ s.Admissible := by
  rw [atomic_iff]
  have henabled : s.before.profile.evidenceEnabled = true := by
    rw [hprofile]
    rfl
  constructor
  · intro hfine fields hpayload
    refine ⟨?_,?_⟩
    · intro e hraised
      apply hfine e
      unfold result
      rw [hpayload,mapRow_raised hraised]
    · intro o fact m' htaken
      rw [← postInit_iff hm hprofile he hk htaken]
      have hrow := htaken.mapRow henabled
      obtain ⟨e,-,hfields⟩ | ⟨message,-,hbuild⟩ := build_cases m' s.src o fields fact
      · rw [← hfields]
        exact e.valid
      · refine absurd ?_ (hfine (.valueError message))
        unfold result
        rw [hpayload,hrow,hbuild]
  · intro hadmissible e he'
    unfold result at he'
    obtain ⟨_,_,hrow⟩ | ⟨fields,_,hpayload,hraised,-⟩ | ⟨fields,o,fact,m',hpayload,-,htaken,hrow⟩ :=
      mapRow_cases s.before s.src s.payload
    · rw [hrow] at he'
      cases he'
    · exact (hadmissible fields hpayload).1 _ hraised
    · have hfits := (hadmissible fields hpayload).2 o fact m' htaken
      rw [← postInit_iff hm hprofile he hk htaken] at hfits
      rw [hrow] at he'
      obtain ⟨_,hbuild,-⟩ | ⟨message,hpost,-⟩ := build_cases m' s.src o fields fact
      · rw [hbuild] at he'
        cases he'
      · rw [hfits] at hpost
        cases hpost

end RowStep

/-- The rows of a list are about its event, and of the kind of the list. -/
theorem listSteps_src (m : Mapper) (event : QmtEvent) {eventType : EventType}
    {kind : BrokerEvidenceSourceKind} (hk : ∀ i, Kinded ⟨event,eventType,i,kind⟩) (i : Nat)
    (rows : List Json) :
    ∀ s ∈ m.listSteps event eventType kind i rows, s.src.event = event ∧ Kinded s.src := by
  induction rows generalizing m i with
  | nil => simp [listSteps]
  | cons row rows ih =>
    intro s hs
    simp only [listSteps] at hs
    split at hs
    · cases List.mem_singleton.mp hs
      exact ⟨rfl,hk _⟩
    · obtain rfl | hs := List.mem_cons.mp hs
      · exact ⟨rfl,hk _⟩
      · exact ih _ _ s hs

theorem snapshotSteps_src (m : Mapper) (event : QmtEvent) {eventType : EventType} (key : String)
    {kind : BrokerEvidenceSourceKind} (hk : ∀ i, Kinded ⟨event,eventType,i,kind⟩) :
    ∀ s ∈ m.snapshotSteps event eventType key kind, s.src.event = event ∧ Kinded s.src := by
  unfold snapshotSteps
  cases event.payload.listAt key with
  | none => simp
  | some rows => exact listSteps_src m event hk 0 rows

theorem steps_src (m : Mapper) {c : Call} {event : QmtEvent}
    (hc : c = .callback event ∨ c = .snapshot event) :
    ∀ s ∈ m.steps c, s.src.event = event ∧ Kinded s.src := by
  have horder : ∀ i, Kinded ⟨event,.order,i,.activeOrderQuery⟩ := fun i => .inl ⟨rfl,by simp⟩
  have hdeal : ∀ i, Kinded ⟨event,.deal,i,.activeDealQuery⟩ := fun i => .inr ⟨by simp,by simp⟩
  intro s hs
  obtain rfl | rfl := hc
  · simp only [steps] at hs
    split at hs
    · cases List.mem_singleton.mp hs
      exact ⟨rfl,.inl ⟨rfl,by simp⟩⟩
    · cases List.mem_singleton.mp hs
      exact ⟨rfl,.inr ⟨by simp,by simp⟩⟩
    · cases hs
  · simp only [steps] at hs
    split_ifs at hs
    · cases hs
    · split at hs
      · exact snapshotSteps_src m event _ horder s hs
      · obtain hs | hs := List.mem_append.mp hs
        · exact snapshotSteps_src m event _ horder s hs
        · exact snapshotSteps_src _ event _ hdeal s hs

theorem hexDigitOf_hex (n : Nat) : hexDigit (Sha256.hexDigitOf n) = true := by
  unfold Sha256.hexDigitOf
  rw [List.getD_eq_getElem?_getD]
  cases hn : "0123456789abcdef".toList[n]? with
  | none => decide
  | some c =>
    have hall : ∀ c ∈ "0123456789abcdef".toList, hexDigit c = true := by
      simp [hexDigit]
    exact hall c (List.mem_of_getElem? hn)

/-- The text QMT carries for an order is a broker token. -/
theorem isBrokerToken_tokenText (account clientOrderId : String) :
    isBrokerToken (tokenText account clientOrderId) = true := by
  have hlength : ∀ s, (Sha256.hexdigest s).length = 64 := by
    intro s
    simp [Sha256.hexdigest,Sha256.digest,Sha256.bigEndian,Function.comp_def]
  have hhex : ∀ s, (Sha256.hexdigest s).all hexDigit = true := by
    intro s
    simp [Sha256.hexdigest,hexDigitOf_hex]
  generalize hs : account ++ "\x00" ++ clientOrderId = s
  have hall : ∀ c ∈ (Sha256.hexdigest s).take 20, hexDigit c = true := by
    intro c hc
    exact List.all_eq_true.mp (hhex s) c (List.mem_of_mem_take hc)
  have hlist : (tokenText account clientOrderId).toList =
      'B' :: 'Q' :: (Sha256.hexdigest s).take 20 := by
    simp [tokenText,hs]
  simp only [isBrokerToken,hlist,List.length_take,hlength]
  simpa using hall

/-- A deal of the sample order. -/
def sampleDeal (tradeId : String) : QmtEvent where
  sessionId := "s"
  sequence := 1
  timestampMs := 1
  eventType := .deal
  source := "callback"
  accountFingerprint := sampleIntent.key.accountFingerprint
  accountType := some "STOCK"
  terminalInstanceId := some "guojin_sim"
  payload :=
    .cons "remark" (.text (tokenText sampleIntent.key.accountFingerprint "order-1")) <|
    .cons "symbol" (.text "510300.SH") <|
    .cons "broker_order_id" (.text "b-1") <|
    .cons "trade_id" (.text tradeId) <|
    .cons "quantity" (.int 40) .nil

theorem sampleDeal_valid (tradeId : String) : (sampleDeal tradeId).Valid where
  sessionId := by simp [sampleDeal]
  sequence := by simp [sampleDeal]
  timestampMs := by simp [sampleDeal]
  source := by simp [sampleDeal]
  accountFingerprint := by
    have h : isSha256 sampleIntent.key.accountFingerprint = true := by decide
    exact h
  terminalInstanceId := by
    have h : isInstanceId "guojin_sim" = true := by decide
    exact h
  payload := rfl

def sampleCalls : List Call := [.register "order-1" "510300.SH" 100]

theorem sampleCalls_run :
    (fresh sampleIntent.key.accountFingerprint).run sampleCalls =
      { fresh sampleIntent.key.accountFingerprint with ordersByToken :=
        [⟨"order-1",tokenText sampleIntent.key.accountFingerprint "order-1","510300.SH",100,none⟩] } := by
  have hsha : isSha256 sampleIntent.key.accountFingerprint = true := by decide
  simp [sampleCalls,run,call,registerOrder,brokerTokenFor,hsha,fresh,order?,Keyed.find,refuse,bind,
    Except.bind]

/-- The mapper has nothing against a deal of the sample order. -/
theorem sampleDeal_taken {tradeId : String} (h : tradeId ≠ "") :
    ∃ o fact m', o.clientOrderId = "order-1" ∧
      ((fresh sampleIntent.key.accountFingerprint).run sampleCalls).Taken
        ⟨sampleDeal tradeId,.deal,none,.dealCallback⟩ (sampleDeal tradeId).payload o fact m' ∧
      m'.trades = [⟨o.brokerToken,tradeId,40⟩] := by
  have hshape := isBrokerToken_tokenText sampleIntent.key.accountFingerprint "order-1"
  have hnum : (sampleDeal tradeId).payload.numAt "quantity" = some 40 := rfl
  have hidentity : ((fresh sampleIntent.key.accountFingerprint).run sampleCalls).identity
      (sampleDeal tradeId) (sampleDeal tradeId).payload =
        .ok ⟨"order-1",tokenText sampleIntent.key.accountFingerprint "order-1","510300.SH",100,none⟩ := by
    rw [sampleCalls_run]
    simp [identity,sampleDeal,fresh,guojinSimProfile,Fields.textAt,Fields.get,Json.str,order?,
      Keyed.find,refuse,Option.filter,hshape]
  have hfact : ((fresh sampleIntent.key.accountFingerprint).run sampleCalls).dealFact
      ⟨"order-1",tokenText sampleIntent.key.accountFingerprint "order-1","510300.SH",100,none⟩
      (sampleDeal tradeId).payload =
        .ok (⟨some "b-1",some tradeId,.partialFill,40,none⟩,tradeId,40) := by
    rw [sampleCalls_run]
    simp [dealFact,sampleDeal,fresh,text,Fields.textAt,Fields.numAt,Fields.get,Json.str,Json.num,
      trade?,recordTrade,cumulative,refuse,Option.filter,h]
  refine ⟨_,_,_,rfl,.deal (by simp) hidentity hfact rfl,?_⟩
  rw [sampleCalls_run]
  rfl

end Mapper
end BigQmt
