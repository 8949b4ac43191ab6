import BigQmt.DailyFacts
import Mathlib.Data.Finset.Image
import Mathlib.Data.Multiset.MapFold
import Mathlib.Data.Set.List
set_option autoImplicit false

/-!
The daily totals are those of the set of facts whose calls returned: replays add nothing, and
the texts of the tables stand for the dates, decimals and instants that they were made of.
-/

namespace BigQmt.Risk

open Decimals Gregorian

structure EventFact where
  eventKey : String
  accountFingerprint : String
  strategyId : String
  tradingDate : TradingDate
  eventType : DailyRiskEventType
  notional : Dec
  observedAt : Instant
  sourceRef : String
  deriving DecidableEq

structure SnapshotFact where
  snapshotKey : String
  accountFingerprint : String
  tradingDate : TradingDate
  dailyPnl : Dec
  observedAt : Instant
  source : String
  deriving DecidableEq

def Instant.text (t : Instant) : String := String.ofList (utcText t.micros)

def EventFact.row (f : EventFact) : EventRow where
  eventKey := f.eventKey
  accountFingerprint := f.accountFingerprint
  strategyId := f.strategyId
  tradingDate := isoDate f.tradingDate.date
  eventType := f.eventType.value
  notional := String.ofList f.notional.text
  observedAt := f.observedAt.text
  sourceRef := f.sourceRef

def SnapshotFact.row (f : SnapshotFact) : SnapshotRow where
  snapshotKey := f.snapshotKey
  accountFingerprint := f.accountFingerprint
  tradingDate := isoDate f.tradingDate.date
  dailyPnl := String.ofList f.dailyPnl.text
  observedAt := f.observedAt.text
  source := f.source

/-- The instant of an aware time, if it has a UTC text. -/
def AwareTime.utc (t : AwareTime) : Option Instant :=
  if h : t.instant.toNat < 315537897600000000 ∧ 0 ≤ t.instant then some ⟨t.instant.toNat,h.1⟩
  else none

def EventArgs.fact (args : EventArgs) (eventType : DailyRiskEventType) (notional : Option Dec) :
    Option EventFact :=
  match notional,args.observedAt.bind AwareTime.utc with
  | some notional,some observedAt => some {
      eventKey := args.eventKey
      accountFingerprint := args.accountFingerprint
      strategyId := args.strategyId
      tradingDate := args.tradingDate
      eventType := eventType
      notional := notional
      observedAt := observedAt
      sourceRef := args.sourceRef }
  | _,_ => none

namespace LedgerCall

/-- The event that a call tells of. -/
def eventFact : LedgerCall → Option EventFact
  | .recordOrderSubmit args => args.fact .orderSubmit (some ⟨false,0,0⟩)
  | .recordCancelRequest args => args.fact .cancelRequest (some ⟨false,0,0⟩)
  | .recordTrade args notional => args.fact .trade notional
  | .recordPnlSnapshot .. => none

/-- The snapshot that a call tells of. -/
def snapshotFact : LedgerCall → Option SnapshotFact
  | .recordPnlSnapshot snapshotKey accountFingerprint tradingDate dailyPnl observedAt source =>
    match dailyPnl,observedAt.bind AwareTime.utc with
    | some dailyPnl,some observedAt =>
      some { snapshotKey,accountFingerprint,tradingDate,dailyPnl,observedAt,source }
    | _,_ => none
  | _ => none

end LedgerCall

section Texts

theorem Instant.text_injective : Function.Injective Instant.text := by
  intro s t h
  have hmicros := utcText_injective s.micros_lt t.micros_lt (String.ofList_injective h)
  cases s
  cases t
  simpa using hmicros

theorem Instant.text_lt_iff (s t : Instant) : s.text < t.text ↔ s.micros < t.micros := by
  unfold Instant.text
  rw [String.lt_iff_toList_lt,String.toList_ofList,String.toList_ofList,
    utcText_lt_iff s.micros_lt t.micros_lt]

theorem TradingDate.text_injective :
    Function.Injective (fun date : TradingDate => isoDate date.date) := by
  intro d e h
  have hdate := isoDate_injective d.valid d.year_lt e.valid e.year_lt h
  cases d
  cases e
  simpa using hdate

theorem DailyRiskEventType.value_injective : Function.Injective DailyRiskEventType.value := by
  intro a b h
  cases a <;> cases b <;> first | rfl | exact absurd h (by decide)

theorem decimalText_injective : Function.Injective (fun d : Dec => String.ofList d.text) := by
  intro c d h
  exact text_injective (String.ofList_injective h)

theorem EventFact.row_injective : Function.Injective EventFact.row := by
  intro f g h
  cases f
  cases g
  simp only [EventFact.row,EventRow.mk.injEq] at h
  obtain ⟨hkey,haccount,hstrategy,hdate,htype,hnotional,hobserved,hsource⟩ := h
  have hdate := TradingDate.text_injective hdate
  have htype := DailyRiskEventType.value_injective htype
  have hnotional := decimalText_injective hnotional
  have hobserved := Instant.text_injective hobserved
  subst hkey haccount hstrategy hdate htype hnotional hobserved hsource
  rfl

theorem SnapshotFact.row_injective : Function.Injective SnapshotFact.row := by
  intro f g h
  cases f
  cases g
  simp only [SnapshotFact.row,SnapshotRow.mk.injEq] at h
  obtain ⟨hkey,haccount,hdate,hpnl,hobserved,hsource⟩ := h
  have hdate := TradingDate.text_injective hdate
  have hpnl := decimalText_injective hpnl
  have hobserved := Instant.text_injective hobserved
  subst hkey haccount hdate hpnl hobserved hsource
  rfl

theorem utcIso_utc {t : AwareTime} {x : String} (h : utcIso t = .ok x) :
    ∃ u,t.utc = some u ∧ x = u.text := by
  obtain ⟨hutc,rfl⟩ := utcIso_eq_ok.1 h
  simp only [AwareTime.hasUtc,Bool.and_eq_true,decide_eq_true_eq] at hutc
  unfold AwareTime.utc
  rw [dif_pos (by omega)]
  exact ⟨_,rfl,rfl⟩

theorem requireAware_eq_ok {name : String} {value : Option AwareTime} {t : AwareTime} :
    requireAware name value = .ok t ↔ value = some t := by
  cases value <;> simp [requireAware]

theorem requireFinite_eq_ok {name : String} {value : Option Dec} {d : Dec} :
    requireFinite name value = .ok d ↔ value = some d := by
  cases value <;> simp [requireFinite]

/-- The row of an event that passes the checks is that of its fact. -/
theorem eventRow_fact {args : EventArgs} {eventType : DailyRiskEventType} {notional : Option Dec}
    {row : EventRow} (h : eventRow args eventType notional = .ok row) :
    ∃ f,args.fact eventType notional = some f ∧ row = f.row := by
  unfold eventRow at h
  obtain ⟨-,-,h⟩ := bind_eq_ok.1 h
  obtain ⟨-,-,h⟩ := bind_eq_ok.1 h
  obtain ⟨-,-,h⟩ := bind_eq_ok.1 h
  obtain ⟨d,hd,h⟩ := bind_eq_ok.1 h
  obtain ⟨t,ht,h⟩ := bind_eq_ok.1 h
  obtain ⟨-,-,h⟩ := bind_eq_ok.1 h
  obtain ⟨x,hx,h⟩ := bind_eq_ok.1 h
  obtain rfl := requireFinite_eq_ok.1 hd
  obtain ⟨u,hu,rfl⟩ := utcIso_utc hx
  cases h
  simp [EventArgs.fact,requireAware_eq_ok.1 ht,hu,EventFact.row]

theorem snapshotRow_fact {snapshotKey account : String} {date : TradingDate}
    {dailyPnl : Option Dec} {observedAt : Option AwareTime} {source : String} {row : SnapshotRow}
    (h : snapshotRow snapshotKey account date dailyPnl observedAt source = .ok row) :
    ∃ f,(LedgerCall.recordPnlSnapshot snapshotKey account date dailyPnl observedAt
      source).snapshotFact = some f ∧ row = f.row := by
  unfold snapshotRow at h
  obtain ⟨-,-,h⟩ := bind_eq_ok.1 h
  obtain ⟨-,-,h⟩ := bind_eq_ok.1 h
  obtain ⟨d,hd,h⟩ := bind_eq_ok.1 h
  obtain ⟨t,ht,h⟩ := bind_eq_ok.1 h
  obtain ⟨-,-,h⟩ := bind_eq_ok.1 h
  obtain ⟨x,hx,h⟩ := bind_eq_ok.1 h
  obtain rfl := requireFinite_eq_ok.1 hd
  obtain ⟨u,hu,rfl⟩ := utcIso_utc hx
  cases h
  simp [LedgerCall.snapshotFact,requireAware_eq_ok.1 ht,hu,SnapshotFact.row]

namespace LedgerCall

/-- A call writes into the table of the fact it tells of. -/
theorem row_event {c : LedgerCall} {row : Except RiskError EventRow} (h : c.row = .inl row) :
    c.snapshotFact = none ∧ ∀ r,row = .ok r → ∃ f,c.eventFact = some f ∧ r = f.row := by
  cases c with
  | recordOrderSubmit args =>
    cases h
    exact ⟨rfl,fun r hr => eventRow_fact hr⟩
  | recordCancelRequest args =>
    cases h
    exact ⟨rfl,fun r hr => eventRow_fact hr⟩
  | recordTrade args notional =>
    cases h
    refine ⟨rfl,fun r hr => ?_⟩
    obtain ⟨-,-,hr⟩ := bind_eq_ok.1 hr
    exact eventRow_fact hr
  | recordPnlSnapshot => cases h

theorem row_snapshot {c : LedgerCall} {row : Except RiskError SnapshotRow}
    (h : c.row = .inr row) :
    c.eventFact = none ∧ ∀ r,row = .ok r → ∃ f,c.snapshotFact = some f ∧ r = f.row := by
  cases c with
  | recordPnlSnapshot =>
    cases h
    exact ⟨rfl,fun r hr => snapshotRow_fact hr⟩
  | _ => cases h

end LedgerCall

end Texts

section Store

variable {φ ρ : Type} [DecidableEq φ] [DecidableEq ρ] {clash : ρ → ρ → Bool} {row : φ → ρ}
variable {log : List ρ} {facts : Finset φ} {message : String} {guardOk : Bool} {choice : Nat}

/-- A table holds the rows of a set of facts, no two of which clash. -/
structure Stores (clash : ρ → ρ → Bool) (row : φ → ρ) (log : List ρ) (facts : Finset φ) : Prop where
  mem : ∀ r,r ∈ log ↔ ∃ f ∈ facts,row f = r
  apart : FactJournal.Apart clash log

omit [DecidableEq φ] in
theorem commitFact_error {e : LedgerError} {made : Except RiskError ρ}
    (h : (commitFact clash message guardOk choice log made).1 = .error e) :
    (commitFact clash message guardOk choice log made).2 = log := by
  unfold commitFact at h ⊢
  cases made with
  | error e => rfl
  | ok r =>
    have hkeep : (FactJournal.record clash choice log r).1 ≠ .added →
        (FactJournal.record clash choice log r).2 = log := FactJournal.record_unchanged
    cases hr : FactJournal.record clash choice log r with
    | mk outcome log' =>
      rw [hr] at hkeep
      cases guardOk with
      | false => rfl
      | true =>
        cases outcome with
        | added => simp [hr] at h
        | replayed => simp [hr] at h
        | conflict => simpa [hr] using hkeep

/-- A call that returns leaves its fact in the table. -/
theorem Stores.commit (hclash : FactJournal.Clashes clash) (h : Stores clash row log facts)
    {f : φ} (hok : (commitFact clash message guardOk choice log (.ok (row f))).1.isOk = true) :
    Stores clash row (commitFact clash message guardOk choice log (.ok (row f))).2
      (insert f facts) := by
  have hmem : ∀ r,r ∈ (FactJournal.record clash choice log (row f)).2 ↔ r ∈ log ∨ r = row f ∧
      (FactJournal.record clash choice log (row f)).1 ≠ .conflict :=
    fun r => FactJournal.mem_record
  have hapart : FactJournal.Apart clash (FactJournal.record clash choice log (row f)).2 :=
    FactJournal.record_apart hclash h.apart
  unfold commitFact at hok ⊢
  cases hr : FactJournal.record clash choice log (row f) with
  | mk outcome log' =>
    rw [hr] at hmem hapart
    have hstores : outcome ≠ .conflict → Stores clash row log' (insert f facts) := by
      intro hne
      refine ⟨fun r => ?_,hapart⟩
      simp only [hmem r,h.mem,hne,ne_eq,not_false_eq_true,and_true,Finset.mem_insert,
        exists_eq_or_imp]
      rw [or_comm,eq_comm (a := r)]
    cases guardOk with
    | false => simp [Except.isOk,Except.toBool] at hok
    | true =>
      cases outcome with
      | added => simpa [hr] using hstores (by simp)
      | replayed => simpa [hr] using hstores (by simp)
      | conflict => simp [hr,Except.isOk,Except.toBool] at hok

omit [DecidableEq φ] in
/-- A valid call is refused exactly if it reuses an identity for another fact. -/
theorem Stores.conflict_iff (hrow : Function.Injective row) (hclash : FactJournal.Clashes clash)
    (h : Stores clash row log facts) (f : φ) :
    (∃ m,(commitFact clash message true choice log (.ok (row f))).1 =
      .error (.dailyRiskFactConflict m)) ↔ ∃ g ∈ facts,clash (row f) (row g) = true ∧ g ≠ f := by
  have hiff : (FactJournal.record clash choice log (row f)).1 = .conflict ↔
      ∃ r ∈ log,clash (row f) r = true ∧ r ≠ row f :=
    FactJournal.record_conflict_iff hclash h.apart
  have hfacts : (∃ r ∈ log,clash (row f) r = true ∧ r ≠ row f) ↔
      ∃ g ∈ facts,clash (row f) (row g) = true ∧ g ≠ f := by
    simp only [h.mem]
    constructor
    · rintro ⟨_,⟨g,hg,rfl⟩,hc,hne⟩
      exact ⟨g,hg,hc,fun heq => hne (congrArg row heq)⟩
    · rintro ⟨g,hg,hc,hne⟩
      exact ⟨row g,⟨g,hg,rfl⟩,hc,fun heq => hne (hrow heq)⟩
  rw [← hfacts,← hiff]
  unfold commitFact
  cases hr : FactJournal.record clash choice log (row f) with
  | mk outcome log' => cases outcome <;> simp [hr]

omit [DecidableEq φ] [DecidableEq ρ] in
/-- The rows of a table, in any order, are those of its facts. -/
theorem Stores.facts_of_perm (hrow : Function.Injective row)
    (hclash : FactJournal.Clashes clash) (h : Stores clash row log facts) {rows : List ρ}
    (hrows : rows.Perm log) : ∃ fs : List φ,rows = fs.map row ∧ (fs : Multiset φ) = facts.val := by
  have hmem : ∀ r ∈ rows,∃ f,row f = r := by
    intro r hr
    obtain ⟨f,-,hf⟩ := (h.mem r).1 (hrows.mem_iff.1 hr)
    exact ⟨f,hf⟩
  have hrange : rows ∈ Set.range (List.map row) := by
    rw [Set.range_list_map]
    exact hmem
  obtain ⟨fs,rfl⟩ := hrange
  have hnodup := (hrows.nodup_iff.2 (h.apart.nodup hclash)).of_map
  refine ⟨fs,rfl,?_⟩
  apply (Multiset.Nodup.ext (Multiset.coe_nodup.2 hnodup) facts.nodup).2
  intro f
  have hiff := hrows.mem_iff (a := row f)
  rw [List.mem_map_of_injective hrow,h.mem] at hiff
  rw [Multiset.mem_coe,hiff]
  constructor
  · rintro ⟨g,hg,heq⟩
    rwa [← hrow heq]
  · intro hf
    exact ⟨f,hf,rfl⟩

end Store

section Runs

theorem sameEvent_clashes : FactJournal.Clashes sameEvent where
  refl := by simp [sameEvent]
  symm := by
    intro a b
    simp only [sameEvent,eq_comm (a := a.eventKey)]

theorem sameSnapshot_clashes : FactJournal.Clashes sameSnapshot where
  refl := by simp [sameSnapshot]
  symm := by
    intro a b
    simp only [sameSnapshot,eq_comm (a := a.snapshotKey),eq_comm (a := a.accountFingerprint),
      eq_comm (a := a.tradingDate),eq_comm (a := a.observedAt)]

theorem sameEvent_row {f g : EventFact} :
    sameEvent f.row g.row = true ↔ g.eventKey = f.eventKey := by
  simp [sameEvent,EventFact.row,eq_comm (a := f.eventKey)]

/-- Facts of one account, day and instant have one text for each. -/
theorem sameSnapshot_row {f g : SnapshotFact} : sameSnapshot f.row g.row = true ↔
    g.snapshotKey = f.snapshotKey ∨ g.accountFingerprint = f.accountFingerprint ∧
      g.tradingDate = f.tradingDate ∧ g.observedAt = f.observedAt := by
  have hdate : isoDate f.tradingDate.date = isoDate g.tradingDate.date ↔
      f.tradingDate = g.tradingDate := TradingDate.text_injective.eq_iff
  simp only [sameSnapshot,SnapshotFact.row,Bool.or_eq_true,Bool.and_eq_true,decide_eq_true_eq,
    hdate,Instant.text_injective.eq_iff,and_assoc,eq_comm (a := f.snapshotKey),
    eq_comm (a := f.accountFingerprint),eq_comm (a := f.tradingDate),
    eq_comm (a := f.observedAt)]

/-- The tables of the facts that were accepted. -/
structure Holds (t : DailyRiskTables) (events : Finset EventFact)
    (snapshots : Finset SnapshotFact) : Prop where
  events : Stores sameEvent EventFact.row t.events events
  snapshots : Stores sameSnapshot SnapshotFact.row t.snapshots snapshots

/-- The facts of calls. -/
def eventFacts (calls : List LedgerCall) : Finset EventFact :=
  (calls.filterMap LedgerCall.eventFact).toFinset

def snapshotFacts (calls : List LedgerCall) : Finset SnapshotFact :=
  (calls.filterMap LedgerCall.snapshotFact).toFinset

variable {t : DailyRiskTables} {events : Finset EventFact} {snapshots : Finset SnapshotFact}

/-- A call that raises changes no table. -/
theorem LedgerWrite.apply_error {w : LedgerWrite} {e : LedgerError}
    (h : (w.apply t).1 = .error e) : (w.apply t).2 = t := by
  unfold LedgerWrite.apply at h ⊢
  cases hrow : w.call.row with
  | inl row =>
    simp only [hrow] at h ⊢
    rw [commitFact_error h]
  | inr row =>
    simp only [hrow] at h ⊢
    rw [commitFact_error h]

theorem isOk_ok {ρ : Type} [DecidableEq ρ] {clash : ρ → ρ → Bool} {message : String}
    {guardOk : Bool} {choice : Nat} {log : List ρ} {made : Except RiskError ρ}
    (h : (commitFact clash message guardOk choice log made).1.isOk = true) : ∃ r,made = .ok r := by
  cases made with
  | error e => simp [commitFact,Except.isOk,Except.toBool] at h
  | ok r => exact ⟨r,rfl⟩

/-- A call that returns adds its fact to those that the tables hold. -/
theorem Holds.apply (h : Holds t events snapshots) {w : LedgerWrite}
    (hok : (w.apply t).1.isOk = true) : Holds (w.apply t).2
      (eventFacts [w.call] ∪ events) (snapshotFacts [w.call] ∪ snapshots) := by
  unfold LedgerWrite.apply at hok ⊢
  cases hrow : w.call.row with
  | inl row =>
    obtain ⟨hnone,hfact⟩ := LedgerCall.row_event hrow
    simp only [hrow] at hok ⊢
    obtain ⟨r,rfl⟩ := isOk_ok hok
    obtain ⟨f,hf,rfl⟩ := hfact r rfl
    have hcommit := h.events.commit sameEvent_clashes hok
    simp only [eventFacts,snapshotFacts,List.filterMap_cons,hf,hnone,List.filterMap_nil,
      List.toFinset_cons,List.toFinset_nil,Finset.empty_union,insert_empty_eq,
      Finset.singleton_union]
    exact ⟨hcommit,h.snapshots⟩
  | inr row =>
    obtain ⟨hnone,hfact⟩ := LedgerCall.row_snapshot hrow
    simp only [hrow] at hok ⊢
    obtain ⟨r,rfl⟩ := isOk_ok hok
    obtain ⟨f,hf,rfl⟩ := hfact r rfl
    have hcommit := h.snapshots.commit sameSnapshot_clashes hok
    simp only [eventFacts,snapshotFacts,List.filterMap_cons,hf,hnone,List.filterMap_nil,
      List.toFinset_cons,List.toFinset_nil,Finset.empty_union,insert_empty_eq,
      Finset.singleton_union]
    exact ⟨h.events,hcommit⟩

theorem eventFacts_cons (c : LedgerCall) (cs : List LedgerCall) :
    eventFacts (c :: cs) = eventFacts [c] ∪ eventFacts cs := by
  cases hc : c.eventFact <;> simp [eventFacts,hc]

theorem snapshotFacts_cons (c : LedgerCall) (cs : List LedgerCall) :
    snapshotFacts (c :: cs) = snapshotFacts [c] ∪ snapshotFacts cs := by
  cases hc : c.snapshotFact <;> simp [snapshotFacts,hc]

/-- After any sequence of calls the tables hold the facts of those that returned. -/
theorem Holds.run (h : Holds t events snapshots) (ws : List LedgerWrite) :
    Holds (runWrites t ws).2 (eventFacts (runWrites t ws).1 ∪ events)
      (snapshotFacts (runWrites t ws).1 ∪ snapshots) := by
  induction ws generalizing t events snapshots with
  | nil => simpa [runWrites,eventFacts,snapshotFacts] using h
  | cons w ws ih =>
    simp only [runWrites]
    cases hr : (w.apply t).1 with
    | error e =>
      have hsame := LedgerWrite.apply_error hr
      rw [hsame]
      simpa [Except.isOk,Except.toBool] using ih h
    | ok added =>
      have hstep := ih (h.apply (w := w) (by rw [hr]; rfl))
      simp only [Except.isOk,Except.toBool,if_true]
      rw [eventFacts_cons,snapshotFacts_cons,Finset.union_comm (eventFacts [w.call]),
        Finset.union_comm (snapshotFacts [w.call]),Finset.union_assoc,Finset.union_assoc]
      exact hstep

end Runs

end BigQmt.Risk
