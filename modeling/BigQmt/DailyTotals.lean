import BigQmt.FactTotals
set_option autoImplicit false

/-!
What `totals` and `strategy_turnover` answer, in terms of the set of the accepted facts.
-/

namespace BigQmt.Risk

open Decimals Gregorian

/-- The events of one type of an account and day. -/
def eventsOf (events : Finset EventFact) (account : String) (date : TradingDate)
    (eventType : DailyRiskEventType) : Finset EventFact :=
  events.filter (fun f =>
    f.accountFingerprint = account ∧ f.tradingDate = date ∧ f.eventType = eventType)

def snapshotsOf (snapshots : Finset SnapshotFact) (account : String) (date : TradingDate) :
    Finset SnapshotFact :=
  snapshots.filter (fun f => f.accountFingerprint = account ∧ f.tradingDate = date)

def notionals (events : Finset EventFact) : Multiset Dec := events.val.map EventFact.notional

/-- Amounts that are multiples of one power of ten and whose sum has 28 digits there. -/
def Exact (ds : Multiset Dec) : Prop :=
  ∃ e : Int,-1000026 ≤ e ∧ e ≤ 999972 ∧ (∀ d ∈ ds,∃ n : Nat,d.value = n * (10 : ℚ) ^ e) ∧
    (ds.map Dec.value).sum < (10 : ℚ) ^ (28 + e)

/-- The sum of amounts in the default context, one after the other; `none` is an overflow. -/
structure SumOf (ds : Multiset Dec) (total : Option Dec) : Prop where
  rounded : ∃ order : List Dec,(order : Multiset Dec) = ds ∧ total = defaultContext.sum order
  exact : Exact ds → ∃ d,total = some d ∧ d.value = (ds.map Dec.value).sum

/-- The totals of an account and day that sets of facts have. -/
structure TotalsOf (events : Finset EventFact) (snapshots : Finset SnapshotFact)
    (account : String) (date : TradingDate) (totals : DailyTotals) : Prop where
  ofAccount : totals.accountFingerprint = account
  ofDate : totals.tradingDate = date
  orders : totals.dailyOrderCount = (eventsOf events account date .orderSubmit).card
  cancels : totals.dailyCancelCount = (eventsOf events account date .cancelRequest).card
  turnover : SumOf (notionals (eventsOf events account date .trade)) (some totals.dailyTurnover)
  /-- One snapshot is later than all others. -/
  latest : ∃ p ∈ snapshotsOf snapshots account date,totals.dailyPnl = p.dailyPnl ∧
    totals.pnlObservedAt = p.observedAt.micros ∧
    ∀ q ∈ snapshotsOf snapshots account date,q ≠ p → q.observedAt.micros < p.observedAt.micros

inductive TotalsAnswer (events : Finset EventFact) (snapshots : Finset SnapshotFact)
    (account : String) (date : TradingDate) : Except LedgerError DailyTotals → Prop where
  | blank : nonblank account = false → TotalsAnswer events snapshots account date
      (.error (.risk (.valueError "account_fingerprint must be a non-empty string")))
  | overflow : SumOf (notionals (eventsOf events account date .trade)) none →
      TotalsAnswer events snapshots account date (.error .overflow)
  | unavailable {turnover : Dec} :
      SumOf (notionals (eventsOf events account date .trade)) (some turnover) →
      snapshotsOf snapshots account date = ∅ → TotalsAnswer events snapshots account date
        (.error (.risk (.dailyRiskSnapshotUnavailable
          ("no daily PnL snapshot for " ++ account ++ " on " ++ isoDate date.date))))
  | answered {totals : DailyTotals} : TotalsOf events snapshots account date totals →
      TotalsAnswer events snapshots account date (.ok totals)

inductive TurnoverAnswer (events : Finset EventFact) (account strategy : String)
    (date : TradingDate) : Except LedgerError Dec → Prop where
  | blank {name : String} : nonblank account = false ∨ nonblank strategy = false →
      TurnoverAnswer events account strategy date
        (.error (.risk (.valueError (name ++ " must be a non-empty string"))))
  | overflow : SumOf (notionals ((eventsOf events account date .trade).filter
      (fun f => f.strategyId = strategy))) none →
      TurnoverAnswer events account strategy date (.error .overflow)
  | answered {turnover : Dec} : SumOf (notionals ((eventsOf events account date .trade).filter
      (fun f => f.strategyId = strategy))) (some turnover) →
      TurnoverAnswer events account strategy date (.ok turnover)

/-- The call tells of another fact under an identity that an accepted fact has. -/
def LedgerCall.Reuses (c : LedgerCall) (events : Finset EventFact)
    (snapshots : Finset SnapshotFact) : Prop :=
  (∃ f,c.eventFact = some f ∧ ∃ g ∈ events,g.eventKey = f.eventKey ∧ g ≠ f) ∨
  ∃ f,c.snapshotFact = some f ∧ ∃ g ∈ snapshots,(g.snapshotKey = f.snapshotKey ∨
    g.accountFingerprint = f.accountFingerprint ∧ g.tradingDate = f.tradingDate ∧
      g.observedAt = f.observedAt) ∧ g ≠ f

section Sums

/-- A sum of stored amounts is one of the amounts. -/
theorem sumNotionals_rows (fs : List EventFact) : sumNotionals (fs.map EventFact.row) =
    match defaultContext.sum (fs.map EventFact.notional) with
    | some d => .ok d
    | none => .error .overflow := by
  unfold sumNotionals Context.sum
  generalize (⟨false,0,0⟩ : Dec) = total
  induction fs generalizing total with
  | nil => rfl
  | cons f fs ih =>
    have hread : readDecimal f.row.notional = .ok f.notional := by
      simp [readDecimal,EventFact.row,read_text]
    have hadd : (readDecimal f.row.notional >>= addDecimal total) =
        addDecimal total f.notional := by
      rw [hread]
      rfl
    rw [List.map_cons,List.map_cons,List.foldlM_cons,List.foldlM_cons,hadd]
    unfold addDecimal
    cases hsum : defaultContext.add total f.notional with
    | none => rfl
    | some d => exact ih d

theorem sumOf_coe (ds : List Dec) : SumOf (ds : Multiset Dec) (defaultContext.sum ds) where
  rounded := ⟨ds,rfl,rfl⟩
  exact := by
    rintro ⟨e,hlow,hhigh,hds,hsum⟩
    rw [Multiset.map_coe,Multiset.sum_coe] at hsum ⊢
    exact sum_exact (c := defaultContext) (by simpa [Context.etiny,defaultContext] using hlow)
      (by simpa [Context.etop,defaultContext] using hhigh) (by decide)
      (fun d hd => hds d (Multiset.mem_coe.2 hd)) (by simpa [defaultContext] using hsum)

end Sums

section Answers

variable {t : DailyRiskTables} {events : Finset EventFact} {snapshots : Finset SnapshotFact}

theorem requireNonempty_cases (name value : String) :
    requireNonempty name value = .ok () ∨ nonblank value = false ∧
      requireNonempty name value =
        .error (.valueError (name ++ " must be a non-empty string")) := by
  unfold requireNonempty require
  cases h : nonblank value <;> simp

theorem date_row (f : EventFact) (date : TradingDate) :
    f.row.tradingDate = isoDate date.date ↔ f.tradingDate = date :=
  TradingDate.text_injective.eq_iff

theorem eventType_row (f : EventFact) (eventType : DailyRiskEventType) :
    f.row.eventType = eventType.value ↔ f.eventType = eventType :=
  DailyRiskEventType.value_injective.eq_iff

/-- Selected rows are the rows of selected facts. -/
theorem select_rows (fs : List EventFact) (account : String) (date : TradingDate)
    (eventType : DailyRiskEventType) :
    ((fs.map EventFact.row).filter (fun row => row.accountFingerprint = account &&
      row.tradingDate = isoDate date.date)).filter (fun row => row.eventType = eventType.value) =
    (fs.filter (fun f => f.accountFingerprint = account ∧ f.tradingDate = date ∧
      f.eventType = eventType)).map EventFact.row := by
  rw [List.filter_filter,List.filter_map]
  congr 1
  apply List.filter_congr
  intro f hf
  have haccount : f.row.accountFingerprint = f.accountFingerprint := rfl
  simp [date_row,eventType_row,haccount,Bool.and_comm,Bool.and_left_comm]

theorem eventsOf_val {fs : List EventFact} (h : (fs : Multiset EventFact) = events.val)
    (account : String) (date : TradingDate) (eventType : DailyRiskEventType) :
    (eventsOf events account date eventType).val =
      (fs.filter (fun f => f.accountFingerprint = account ∧ f.tradingDate = date ∧
        f.eventType = eventType) : Multiset EventFact) := by
  unfold eventsOf
  rw [Finset.filter_val,← h,Multiset.filter_coe]

/-- The latest row is that of the latest fact. -/
theorem latestRow_facts (h : Stores sameSnapshot SnapshotFact.row t.snapshots snapshots)
    (account : String) (date : TradingDate) :
    match latestRow (t.snapshots.filter (fun row => row.accountFingerprint = account &&
      row.tradingDate = isoDate date.date)) with
    | none => snapshotsOf snapshots account date = ∅
    | some row => ∃ p ∈ snapshotsOf snapshots account date,row = p.row ∧
        ∀ q ∈ snapshotsOf snapshots account date,q ≠ p →
          q.observedAt.micros < p.observedAt.micros := by
  have hselect : ∀ f : SnapshotFact,f.row ∈ t.snapshots.filter (fun row =>
      row.accountFingerprint = account && row.tradingDate = isoDate date.date) ↔
      f.row ∈ t.snapshots ∧ f.accountFingerprint = account ∧ f.tradingDate = date := by
    intro f
    have hdate : f.row.tradingDate = isoDate date.date ↔ f.tradingDate = date :=
      TradingDate.text_injective.eq_iff
    have haccount : f.row.accountFingerprint = f.accountFingerprint := rfl
    simp [hdate,haccount]
  have hmem : ∀ f : SnapshotFact,f ∈ snapshotsOf snapshots account date →
      f.row ∈ t.snapshots.filter (fun row =>
        row.accountFingerprint = account && row.tradingDate = isoDate date.date) := by
    intro f hf
    obtain ⟨hf,hon⟩ := Finset.mem_filter.1 hf
    exact (hselect f).2 ⟨(h.mem f.row).2 ⟨f,hf,rfl⟩,hon⟩
  unfold latestRow
  split
  next hnone =>
    rw [EarlyStop.largest_eq_none] at hnone
    apply Finset.eq_empty_of_forall_notMem
    intro f hf
    have hrow := hmem f hf
    rw [hnone] at hrow
    cases hrow
  next row hrow =>
    obtain ⟨hin,hlargest⟩ := EarlyStop.largest_spec hrow
    obtain ⟨p,hp,rfl⟩ := (h.mem row).1 (List.mem_of_mem_filter hin)
    have hpOn := ((hselect p).1 hin).2
    have hpIn : p ∈ snapshotsOf snapshots account date := Finset.mem_filter.2 ⟨hp,hpOn⟩
    refine ⟨p,hpIn,rfl,?_⟩
    intro q hq hne
    have hle := hlargest q.row (hmem q hq)
    obtain ⟨hqIn,hqOn⟩ := Finset.mem_filter.1 hq
    -- Two snapshots of one day have different instants.
    have hdiffer : q.observedAt ≠ p.observedAt := by
      intro heq
      have hclash : sameSnapshot p.row q.row = true :=
        sameSnapshot_row.2 (.inr ⟨hqOn.1.trans hpOn.1.symm,hqOn.2.trans hpOn.2.symm,heq⟩)
      have hrows := h.apart.eq_of_clash sameSnapshot_clashes ((h.mem _).2 ⟨p,hp,rfl⟩)
        ((h.mem _).2 ⟨q,hqIn,rfl⟩) hclash
      exact hne (SnapshotFact.row_injective hrows).symm
    rw [Prod.Lex.toLex_le_toLex] at hle
    obtain hlt | ⟨heq,-⟩ := hle
    · exact (Instant.text_lt_iff _ _).1 hlt
    · exact absurd (Instant.text_injective heq) hdiffer

theorem Holds.totals (h : Holds t events snapshots) {rows : List EventRow}
    (hrows : rows.Perm t.events) (account : String) (date : TradingDate) :
    TotalsAnswer events snapshots account date
      (DailyRiskTables.totals ⟨rows,t.snapshots⟩ account date) := by
  obtain ⟨fs,rfl,hfs⟩ := h.events.facts_of_perm EventFact.row_injective sameEvent_clashes hrows
  have hlatest := latestRow_facts h.snapshots account date
  have htrades := sumOf_coe ((fs.filter (fun f => f.accountFingerprint = account ∧
    f.tradingDate = date ∧ f.eventType = .trade)).map EventFact.notional)
  rw [← Multiset.map_coe,← eventsOf_val hfs] at htrades
  unfold DailyRiskTables.totals
  obtain haccount | ⟨hblank,haccount⟩ := requireNonempty_cases "account_fingerprint" account
  · simp only [haccount,liftRisk,select_rows,sumNotionals_rows,List.length_map]
    cases hsum : defaultContext.sum ((fs.filter (fun f => f.accountFingerprint = account ∧
        f.tradingDate = date ∧ f.eventType = .trade)).map EventFact.notional) with
    | none =>
      rw [hsum] at htrades
      exact .overflow htrades
    | some turnover =>
      rw [hsum] at htrades
      simp only [bind,Except.bind]
      cases hrow : latestRow (t.snapshots.filter (fun row =>
          row.accountFingerprint = account && row.tradingDate = isoDate date.date)) with
      | none =>
        rw [hrow] at hlatest
        exact .unavailable htrades hlatest
      | some row =>
        rw [hrow] at hlatest
        obtain ⟨p,hp,rfl,hlater⟩ := hlatest
        have hpnl : readDecimal p.row.dailyPnl = .ok p.dailyPnl := by
          simp [readDecimal,SnapshotFact.row,read_text]
        have hobserved : readUtc p.row.observedAt = some p.observedAt.micros :=
          readUtc_text p.observedAt.micros_lt
        simp only [hpnl,hobserved,pure,Except.pure]
        refine .answered ⟨rfl,rfl,?_,?_,htrades,p,hp,rfl,rfl,hlater⟩
        · rw [Finset.card_def,eventsOf_val hfs,Multiset.coe_card]
        · rw [Finset.card_def,eventsOf_val hfs,Multiset.coe_card]
  · rw [haccount]
    exact .blank hblank

theorem Holds.strategyTurnover (h : Holds t events snapshots) {rows : List EventRow}
    (hrows : rows.Perm t.events) (account strategy : String) (date : TradingDate) :
    TurnoverAnswer events account strategy date
      (DailyRiskTables.strategyTurnover ⟨rows,t.snapshots⟩ account strategy date) := by
  obtain ⟨fs,rfl,hfs⟩ := h.events.facts_of_perm EventFact.row_injective sameEvent_clashes hrows
  have hselect : (fs.map EventFact.row).filter (fun row => row.accountFingerprint = account &&
      row.strategyId = strategy && row.tradingDate = isoDate date.date &&
      row.eventType = "TRADE") =
      ((fs.filter (fun f => f.accountFingerprint = account ∧ f.tradingDate = date ∧
        f.eventType = .trade)).filter (fun f => f.strategyId = strategy)).map EventFact.row := by
    rw [List.filter_map,List.filter_filter]
    congr 1
    apply List.filter_congr
    intro f hf
    have haccount : f.row.accountFingerprint = f.accountFingerprint := rfl
    have hstrategy : f.row.strategyId = f.strategyId := rfl
    have htype : f.row.eventType = "TRADE" ↔ f.eventType = .trade := eventType_row f .trade
    simp [date_row,htype,haccount,hstrategy,Bool.and_comm,Bool.and_left_comm,Bool.and_assoc]
  have htrades := sumOf_coe (((fs.filter (fun f => f.accountFingerprint = account ∧
    f.tradingDate = date ∧ f.eventType = .trade)).filter
      (fun f => f.strategyId = strategy)).map EventFact.notional)
  rw [← Multiset.map_coe,← Multiset.filter_coe,← eventsOf_val hfs,← Finset.filter_val] at htrades
  unfold DailyRiskTables.strategyTurnover
  obtain haccount | ⟨hblank,haccount⟩ := requireNonempty_cases "account_fingerprint" account
  · obtain hstrategy | ⟨hblank,hstrategy⟩ := requireNonempty_cases "strategy_id" strategy
    · simp only [haccount,hstrategy,liftRisk,hselect,sumNotionals_rows,bind,Except.bind]
      split
      next turnover hsum =>
        rw [hsum] at htrades
        exact .answered htrades
      next hsum =>
        rw [hsum] at htrades
        exact .overflow htrades
    · rw [haccount,hstrategy]
      exact .blank (.inr hblank)
  · rw [haccount]
    exact .blank (.inl hblank)

/-- A call that its checks let pass is refused exactly if it reuses an identity. -/
theorem Holds.conflict_iff (h : Holds t events snapshots) {w : LedgerWrite}
    (hguard : w.guardOk = true) (hvalid : ∀ e,(w.apply t).1 ≠ .error (.risk e)) :
    (∃ m,(w.apply t).1 = .error (.dailyRiskFactConflict m)) ↔
      w.call.Reuses events snapshots := by
  unfold LedgerWrite.apply at hvalid ⊢
  unfold LedgerCall.Reuses
  cases hrow : w.call.row with
  | inl row =>
    obtain ⟨hnone,hfact⟩ := LedgerCall.row_event hrow
    simp only [hrow,hguard] at hvalid ⊢
    cases row with
    | error e => exact absurd rfl (hvalid e)
    | ok r =>
      obtain ⟨f,hf,rfl⟩ := hfact r rfl
      rw [h.events.conflict_iff EventFact.row_injective sameEvent_clashes f]
      simp [hf,hnone,sameEvent_row]
  | inr row =>
    obtain ⟨hnone,hfact⟩ := LedgerCall.row_snapshot hrow
    simp only [hrow,hguard] at hvalid ⊢
    cases row with
    | error e => exact absurd rfl (hvalid e)
    | ok r =>
      obtain ⟨f,hf,rfl⟩ := hfact r rfl
      rw [h.snapshots.conflict_iff SnapshotFact.row_injective sameSnapshot_clashes f]
      simp [hf,hnone,sameSnapshot_row]

end Answers

section Sequences

/-- The tables after a sequence of calls, from the empty ones. -/
def afterWrites (ws : List LedgerWrite) : DailyRiskTables := (runWrites ⟨[],[]⟩ ws).2

def acceptedEvents (ws : List LedgerWrite) : Finset EventFact :=
  eventFacts (runWrites ⟨[],[]⟩ ws).1

def acceptedSnapshots (ws : List LedgerWrite) : Finset SnapshotFact :=
  snapshotFacts (runWrites ⟨[],[]⟩ ws).1

theorem afterWrites_holds (ws : List LedgerWrite) :
    Holds (afterWrites ws) (acceptedEvents ws) (acceptedSnapshots ws) := by
  have hempty : Holds ⟨[],[]⟩ ∅ ∅ :=
    ⟨⟨by simp,List.Pairwise.nil⟩,⟨by simp,List.Pairwise.nil⟩⟩
  simpa [afterWrites,acceptedEvents,acceptedSnapshots] using hempty.run ws

/-- After any sequence of calls the totals are those of the set of facts whose calls returned,
in whatever order the rows come; what raises changes nothing, and a call that passes the checks
is refused exactly if it reuses an identity for another fact. -/
theorem totals_of_fact_set (ws : List LedgerWrite) {rows : List EventRow}
    (hrows : rows.Perm (afterWrites ws).events) :
    (∀ account date,TotalsAnswer (acceptedEvents ws) (acceptedSnapshots ws) account date
      (DailyRiskTables.totals ⟨rows,(afterWrites ws).snapshots⟩ account date)) ∧
    (∀ account strategy date,TurnoverAnswer (acceptedEvents ws) account strategy date
      (DailyRiskTables.strategyTurnover ⟨rows,(afterWrites ws).snapshots⟩ account strategy date)) ∧
    ∀ w : LedgerWrite,
      (∀ e,(w.apply (afterWrites ws)).1 = .error e →
        (w.apply (afterWrites ws)).2 = afterWrites ws) ∧
      (w.guardOk = true → (∀ e,(w.apply (afterWrites ws)).1 ≠ .error (.risk e)) →
        ((∃ m,(w.apply (afterWrites ws)).1 = .error (.dailyRiskFactConflict m)) ↔
          w.call.Reuses (acceptedEvents ws) (acceptedSnapshots ws))) := by
  have hholds := afterWrites_holds ws
  refine ⟨hholds.totals hrows,hholds.strategyTurnover hrows,?_⟩
  intro w
  constructor
  · intro e he
    exact LedgerWrite.apply_error he
  · intro hguard hvalid
    exact hholds.conflict_iff hguard hvalid

def firstOfJuly : TradingDate := ⟨⟨2026,7,1⟩,⟨by decide,by decide,by decide⟩,by decide⟩

theorem noon_lt : 63918504000000000 < 315537897600000000 := by decide

theorem chinaOffset_lt : (28800000000 : Int).natAbs < 86400000000 := by decide

/-- A day with two trades. -/
def tradesOf (first second : Dec) : List LedgerWrite :=
  let noon : AwareTime := ⟨63918504000000000,28800000000,noon_lt,chinaOffset_lt⟩
  [⟨.recordTrade ⟨"trade-1","acct","alpha",firstOfJuly,some noon,"qmt"⟩ (some first),true,0⟩,
    ⟨.recordTrade ⟨"trade-2","acct","alpha",firstOfJuly,some noon,"qmt"⟩ (some second),true,0⟩,
    ⟨.recordPnlSnapshot "pnl-1" "acct" firstOfJuly (some ⟨true,125,-1⟩) (some noon) "qmt",true,0⟩]

/-- The same trades, each told of twice. -/
def repeatedTrades : List LedgerWrite :=
  tradesOf ⟨false,150,-2⟩ ⟨false,25,-1⟩ ++ tradesOf ⟨false,150,-2⟩ ⟨false,25,-1⟩

/-- What is told of twice counts once. -/
theorem totals_of_fact_set_replay : ∃ totals,
    DailyRiskTables.totals
      ⟨(afterWrites repeatedTrades).events.reverse,(afterWrites repeatedTrades).snapshots⟩ "acct"
      firstOfJuly = .ok totals ∧ totals.dailyTurnover = ⟨false,400,-2⟩ ∧
    TotalsOf (acceptedEvents repeatedTrades) (acceptedSnapshots repeatedTrades) "acct" firstOfJuly
      totals := by
  have hanswer := (totals_of_fact_set repeatedTrades (List.reverse_perm _)).1 "acct" firstOfJuly
  have hread : DailyRiskTables.totals
      ⟨(afterWrites repeatedTrades).events.reverse,(afterWrites repeatedTrades).snapshots⟩ "acct"
      firstOfJuly =
        .ok ⟨"acct",firstOfJuly,⟨true,125,-1⟩,⟨false,400,-2⟩,0,0,63918475200000000⟩ := by
    decide +kernel
  rw [hread] at hanswer
  cases hanswer with
  | answered htotals => exact ⟨_,hread,rfl,htotals⟩

/-- Beyond 28 digits the sum is rounded. -/
theorem turnover_not_exact : ∃ ws account date totals,
    (afterWrites ws).totals account date = .ok totals ∧ totals.dailyTurnover.value ≠
      ((notionals (eventsOf (acceptedEvents ws) account date .trade)).map Dec.value).sum := by
  have hamounts : notionals (eventsOf (acceptedEvents (tradesOf ⟨false,1,28⟩ ⟨false,1,0⟩)) "acct"
      firstOfJuly .trade) = {⟨false,1,28⟩,⟨false,1,0⟩} := by decide +kernel
  refine ⟨tradesOf ⟨false,1,28⟩ ⟨false,1,0⟩,"acct",firstOfJuly,⟨"acct",firstOfJuly,⟨true,125,-1⟩,
    ⟨false,10 ^ 27,1⟩,0,0,63918475200000000⟩,by decide +kernel,?_⟩
  rw [hamounts]
  norm_num [Dec.value,Dec.signed]

end Sequences

end BigQmt.Risk
