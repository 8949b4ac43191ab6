import BigQmt.JsonText
import BigQmt.RiskModels
import BigQmt.Sha256
import BigQmt.UtcText
import Mathlib.Data.List.Sort
set_option autoImplicit false

/-!
`risk/canonical.py`: the canonical text of a risk snapshot and its hash, against the equality of
the dataclasses. Here a decimal has its exponent, an aware datetime its time zone, and a frozenset
the order it is iterated in.
-/

namespace BigQmt.Risk

open Decimals

/-- What the `tzinfo` objects say: the offset of a clock time and its fold, in microseconds. -/
structure Zones (ι : Type) where
  utcoffset : ι → Nat → Bool → Int
  utcoffset_lt : ∀ zone wall fold,(utcoffset zone wall fold).natAbs < 86400000000

/-- An aware `datetime`: its `tzinfo` object, the microseconds on its clock, and `fold`. -/
structure ZonedTime (ι : Type) where
  zone : ι
  wall : Nat
  fold : Bool
  wall_lt : wall < 315537897600000000

structure FrozenSet where
  items : List String
  nodup : items.Nodup

structure AccountObject (ι : Type) where
  accountFingerprint : String
  availableCash : Dec
  grossExposure : Dec
  dailyPnl : Dec
  dailyTurnover : Dec
  dailyOrderCount : Int
  dailyCancelCount : Int
  observedAt : ZonedTime ι

structure StrategyObject (ι : Type) where
  strategyId : String
  strategyVersion : String
  grossExposure : Dec
  securityGrossExposure : Dec
  dailyTurnover : Dec
  positionCount : Int
  heartbeatAt : ZonedTime ι

structure SecurityObject (ι : Type) where
  symbol : String
  tickSize : Dec
  lowerPriceLimit : Dec
  upperPriceLimit : Dec
  referencePrice : Dec
  buyLotSize : Int
  sellLotSize : Int
  sellableQuantity : Int
  grossExposure : Dec
  observedAt : ZonedTime ι

structure SnapshotObject (ι : Type) where
  mode : RuntimeMode
  databaseHealthy : Bool
  omsHealthy : Bool
  leaderHeld : Bool
  reconciliationComplete : Bool
  qmtHealthy : Bool
  marketOpen : Bool
  globalAmbiguityBlock : Bool
  blockedSymbols : FrozenSet
  account : AccountObject ι
  strategy : StrategyObject ι
  security : SecurityObject ι

section Values

variable {ι : Type} (z : Zones ι)

/-- A time at the offset that its zone tells. -/
def ZonedTime.aware (t : ZonedTime ι) : AwareTime :=
  ⟨t.wall,z.utcoffset t.zone t.wall t.fold,t.wall_lt,z.utcoffset_lt _ _ _⟩

/-- The offset depends on the fold. -/
def ZonedTime.problematic (t : ZonedTime ι) : Bool :=
  z.utcoffset t.zone t.wall (!t.fold) ≠ z.utcoffset t.zone t.wall t.fold

/-- `==` of aware datetimes: by the clock in one zone, else by the instant, where the offsets do
not depend on the fold. -/
def ZonedTime.eq [DecidableEq ι] (s t : ZonedTime ι) : Bool :=
  if s.zone = t.zone then s.wall = t.wall
  else (s.aware z).instant = (t.aware z).instant && !s.problematic z && !t.problematic z

def AccountObject.fields (a : AccountObject ι) : AccountRiskFields where
  accountFingerprint := a.accountFingerprint
  availableCash := a.availableCash.value
  grossExposure := a.grossExposure.value
  dailyPnl := a.dailyPnl.value
  dailyTurnover := a.dailyTurnover.value
  dailyOrderCount := a.dailyOrderCount
  dailyCancelCount := a.dailyCancelCount
  observedAt := a.observedAt.aware z

def StrategyObject.fields (a : StrategyObject ι) : StrategyRiskFields where
  strategyId := a.strategyId
  strategyVersion := a.strategyVersion
  grossExposure := a.grossExposure.value
  securityGrossExposure := a.securityGrossExposure.value
  dailyTurnover := a.dailyTurnover.value
  positionCount := a.positionCount
  heartbeatAt := a.heartbeatAt.aware z

def SecurityObject.fields (a : SecurityObject ι) : SecurityRiskFields where
  symbol := a.symbol
  tickSize := a.tickSize.value
  lowerPriceLimit := a.lowerPriceLimit.value
  upperPriceLimit := a.upperPriceLimit.value
  referencePrice := a.referencePrice.value
  buyLotSize := a.buyLotSize
  sellLotSize := a.sellLotSize
  sellableQuantity := a.sellableQuantity
  grossExposure := a.grossExposure.value
  observedAt := a.observedAt.aware z

/-- Every `__post_init__` has returned. -/
structure SnapshotObject.Valid (s : SnapshotObject ι) : Prop where
  blockedSymbols : requireItems "blocked_symbols" s.blockedSymbols.items.toFinset = .ok ()
  account : (s.account.fields z).postInit = .ok ()
  strategy : (s.strategy.fields z).postInit = .ok ()
  security : (s.security.fields z).postInit = .ok ()

end Values

section Agreement

variable {ι : Type} (D : Dec → Dec → Prop) (T : ZonedTime ι → ZonedTime ι → Prop)

/-- Equal in all fields, where decimals and times are compared as given. -/
def AccountObject.Agree (a b : AccountObject ι) : Prop :=
  a.accountFingerprint = b.accountFingerprint ∧ D a.availableCash b.availableCash ∧
  D a.grossExposure b.grossExposure ∧ D a.dailyPnl b.dailyPnl ∧
  D a.dailyTurnover b.dailyTurnover ∧ a.dailyOrderCount = b.dailyOrderCount ∧
  a.dailyCancelCount = b.dailyCancelCount ∧ T a.observedAt b.observedAt

def StrategyObject.Agree (a b : StrategyObject ι) : Prop :=
  a.strategyId = b.strategyId ∧ a.strategyVersion = b.strategyVersion ∧
  D a.grossExposure b.grossExposure ∧ D a.securityGrossExposure b.securityGrossExposure ∧
  D a.dailyTurnover b.dailyTurnover ∧ a.positionCount = b.positionCount ∧
  T a.heartbeatAt b.heartbeatAt

def SecurityObject.Agree (a b : SecurityObject ι) : Prop :=
  a.symbol = b.symbol ∧ D a.tickSize b.tickSize ∧ D a.lowerPriceLimit b.lowerPriceLimit ∧
  D a.upperPriceLimit b.upperPriceLimit ∧ D a.referencePrice b.referencePrice ∧
  a.buyLotSize = b.buyLotSize ∧ a.sellLotSize = b.sellLotSize ∧
  a.sellableQuantity = b.sellableQuantity ∧ D a.grossExposure b.grossExposure ∧
  T a.observedAt b.observedAt

def SnapshotObject.Agree (a b : SnapshotObject ι) : Prop :=
  a.mode = b.mode ∧ a.databaseHealthy = b.databaseHealthy ∧ a.omsHealthy = b.omsHealthy ∧
  a.leaderHeld = b.leaderHeld ∧ a.reconciliationComplete = b.reconciliationComplete ∧
  a.qmtHealthy = b.qmtHealthy ∧ a.marketOpen = b.marketOpen ∧
  a.globalAmbiguityBlock = b.globalAmbiguityBlock ∧
  (∀ s,s ∈ a.blockedSymbols.items ↔ s ∈ b.blockedSymbols.items) ∧
  a.account.Agree D T b.account ∧ a.strategy.Agree D T b.strategy ∧
  a.security.Agree D T b.security

/-- `==` of the dataclasses. -/
def SnapshotObject.Equal [DecidableEq ι] (z : Zones ι) (a b : SnapshotObject ι) : Prop :=
  a.Agree (fun d e => d.value = e.value) (fun s t => s.eq z t = true) b

/-- Decimals of the same exact text, times of the same instant. -/
def SnapshotObject.SameText (z : Zones ι) (a b : SnapshotObject ι) : Prop :=
  a.Agree (fun d e => d.text = e.text) (fun s t => (s.aware z).instant = (t.aware z).instant) b

end Agreement

section Canonical

variable {ι : Type} (z : Zones ι)

def decimalValue (d : Dec) : Json :=
  .object (.ofList [("$decimal",.text (String.ofList d.text))])

def timeValue (t : ZonedTime ι) : Except RiskError Json := do
  let text ← utcIso (t.aware z)
  return .object (.ofList [("$datetime",.text text)])

/-- `json.dumps(item, sort_keys=True, separators=(",", ":"))` of a symbol. -/
def symbolKey (symbol : String) : String := String.ofList (quoted true symbol.toList)

def symbolsValue (symbols : FrozenSet) : Json :=
  .array (.ofList ((symbols.items.insertionSort (fun a b => symbolKey a ≤ symbolKey b)).map
    Json.text))

def accountValue (a : AccountObject ι) : Except RiskError Json := do
  let observedAt ← timeValue z a.observedAt
  return .object (.ofList [
    ("account_fingerprint",.text a.accountFingerprint),
    ("available_cash",decimalValue a.availableCash),
    ("gross_exposure",decimalValue a.grossExposure),
    ("daily_pnl",decimalValue a.dailyPnl),
    ("daily_turnover",decimalValue a.dailyTurnover),
    ("daily_order_count",.int a.dailyOrderCount),
    ("daily_cancel_count",.int a.dailyCancelCount),
    ("observed_at",observedAt)])

def strategyValue (a : StrategyObject ι) : Except RiskError Json := do
  let heartbeatAt ← timeValue z a.heartbeatAt
  return .object (.ofList [
    ("strategy_id",.text a.strategyId),
    ("strategy_version",.text a.strategyVersion),
    ("gross_exposure",decimalValue a.grossExposure),
    ("security_gross_exposure",decimalValue a.securityGrossExposure),
    ("daily_turnover",decimalValue a.dailyTurnover),
    ("position_count",.int a.positionCount),
    ("heartbeat_at",heartbeatAt)])

def securityValue (a : SecurityObject ι) : Except RiskError Json := do
  let observedAt ← timeValue z a.observedAt
  return .object (.ofList [
    ("symbol",.text a.symbol),
    ("tick_size",decimalValue a.tickSize),
    ("lower_price_limit",decimalValue a.lowerPriceLimit),
    ("upper_price_limit",decimalValue a.upperPriceLimit),
    ("reference_price",decimalValue a.referencePrice),
    ("buy_lot_size",.int a.buyLotSize),
    ("sell_lot_size",.int a.sellLotSize),
    ("sellable_quantity",.int a.sellableQuantity),
    ("gross_exposure",decimalValue a.grossExposure),
    ("observed_at",observedAt)])

/-- `_canonical_value` of a snapshot. -/
def canonicalValue (s : SnapshotObject ι) : Except RiskError Json := do
  let account ← accountValue z s.account
  let strategy ← strategyValue z s.strategy
  let security ← securityValue z s.security
  return .object (.ofList [
    ("mode",.text s.mode.value),
    ("database_healthy",.bool s.databaseHealthy),
    ("oms_healthy",.bool s.omsHealthy),
    ("leader_held",.bool s.leaderHeld),
    ("reconciliation_complete",.bool s.reconciliationComplete),
    ("qmt_healthy",.bool s.qmtHealthy),
    ("market_open",.bool s.marketOpen),
    ("global_ambiguity_block",.bool s.globalAmbiguityBlock),
    ("blocked_symbols",symbolsValue s.blockedSymbols),
    ("account",account),
    ("strategy",strategy),
    ("security",security)])

def canonicalJson (s : SnapshotObject ι) : Except RiskError String := do
  let value ← canonicalValue z s
  match value.dumps with
  | some text => .ok text
  | none => .error (.valueError ("Exceeds the limit (4300 digits) for integer string conversion; "
      ++ "use sys.set_int_max_str_digits() to increase the limit"))

def SnapshotObject.snapshotHash (s : SnapshotObject ι) : Except RiskError String := do
  let payload ← canonicalJson z s
  return "sha256:" ++ String.ofList (Sha256.hexdigest payload)

end Canonical

section Leaves

theorem decimalValue_sortKeys {d e : Dec} :
    (decimalValue d).sortKeys = (decimalValue e).sortKeys ↔ d.text = e.text := by
  simp [decimalValue,Json.sortKeys,Fields.ofList,Fields.sortKeys,Fields.insertKey,
    String.ofList_inj]

theorem symbolKey_injective : Function.Injective symbolKey := by
  intro a b h
  exact String.toList_injective (quoted_injective true (String.ofList_injective h))

theorem sortedSymbols_pairwise (symbols : List String) :
    (symbols.insertionSort (fun a b => symbolKey a ≤ symbolKey b)).Pairwise
      (fun a b => symbolKey a ≤ symbolKey b) := by
  have htotal : Std.Total (fun a b : String => symbolKey a ≤ symbolKey b) :=
    ⟨fun a b => le_total _ _⟩
  have htrans : IsTrans String (fun a b => symbolKey a ≤ symbolKey b) :=
    ⟨fun _ _ _ hab hbc => hab.trans hbc⟩
  exact List.pairwise_insertionSort _ _

/-- The order of iteration does not show. -/
theorem sortedSymbols_eq {a b : FrozenSet} (h : ∀ s,s ∈ a.items ↔ s ∈ b.items) :
    a.items.insertionSort (fun a b => symbolKey a ≤ symbolKey b) =
      b.items.insertionSort (fun a b => symbolKey a ≤ symbolKey b) := by
  have hantisymm : Std.Antisymm (fun a b : String => symbolKey a ≤ symbolKey b) :=
    ⟨fun _ _ hab hba => symbolKey_injective (le_antisymm hab hba)⟩
  have hperm := (List.perm_ext_iff_of_nodup a.nodup b.nodup).2 h
  have hsorted := ((List.perm_insertionSort (fun a b => symbolKey a ≤ symbolKey b) a.items).trans
    hperm).trans (List.perm_insertionSort (fun a b => symbolKey a ≤ symbolKey b) b.items).symm
  exact hsorted.eq_of_pairwise' (sortedSymbols_pairwise _) (sortedSymbols_pairwise _)

theorem texts_sortKeys (symbols : List String) :
    (Items.ofList (symbols.map Json.text)).sortKeys = Items.ofList (symbols.map Json.text) := by
  induction symbols with
  | nil => rfl
  | cons s symbols ih => simp [Items.ofList,Items.sortKeys,Json.sortKeys,ih]

theorem texts_exact (symbols : List String) :
    (Items.ofList (symbols.map Json.text)).exact = true := by
  induction symbols with
  | nil => rfl
  | cons s symbols ih => simp [Items.ofList,Items.exact,Json.exact,ih]

theorem texts_injective {xs ys : List String}
    (h : Items.ofList (xs.map Json.text) = Items.ofList (ys.map Json.text)) : xs = ys := by
  induction xs generalizing ys with
  | nil => cases ys <;> simp [Items.ofList] at h ⊢
  | cons x xs ih =>
    cases ys with
    | nil => simp [Items.ofList] at h
    | cons y ys =>
      simp only [List.map_cons,Items.ofList,Items.cons.injEq,Json.text.injEq] at h
      rw [h.1,ih h.2]

theorem symbolsValue_sortKeys {a b : FrozenSet} :
    (symbolsValue a).sortKeys = (symbolsValue b).sortKeys ↔ ∀ s,s ∈ a.items ↔ s ∈ b.items := by
  unfold symbolsValue
  simp only [Json.sortKeys,texts_sortKeys,Json.array.injEq]
  constructor
  · intro h s
    rw [← List.mem_insertionSort (fun a b => symbolKey a ≤ symbolKey b),texts_injective h,
      List.mem_insertionSort]
  · intro h
    rw [sortedSymbols_eq h]

theorem mode_value_injective : Function.Injective RuntimeMode.value := by
  intro a b h
  cases a <;> cases b <;> first | rfl | exact absurd h (by decide)

end Leaves

section Agreement

variable {ι : Type} {z : Zones ι}

theorem timeValue_exact {t : ZonedTime ι} {v : Json} (h : timeValue z t = .ok v) :
    v.exact = true := by
  obtain ⟨x,-,h⟩ := bind_eq_ok.1 h
  cases h
  rfl

/-- Times have one canonical value exactly if they are one instant. -/
theorem timeValue_sortKeys {s t : ZonedTime ι} {v w : Json} (hs : timeValue z s = .ok v)
    (ht : timeValue z t = .ok w) :
    v.sortKeys = w.sortKeys ↔ (s.aware z).instant = (t.aware z).instant := by
  obtain ⟨x,hx,hv⟩ := bind_eq_ok.1 hs
  obtain ⟨y,hy,hw⟩ := bind_eq_ok.1 ht
  cases hv
  cases hw
  rw [← (utcIso_order hx hy).2]
  simp [Json.sortKeys,Fields.ofList,Fields.sortKeys,Fields.insertKey]

theorem timeValue_congr {s t : ZonedTime ι} (h : (s.aware z).instant = (t.aware z).instant) :
    timeValue z s = timeValue z t := by
  unfold timeValue utcIso AwareTime.hasUtc
  rw [h]

theorem accountValue_exact {a : AccountObject ι} {v : Json} (h : accountValue z a = .ok v) :
    v.exact = true := by
  obtain ⟨w,hw,h⟩ := bind_eq_ok.1 h
  cases h
  simp [Json.exact,Fields.ofList,Fields.exact,decimalValue,timeValue_exact hw]

theorem strategyValue_exact {a : StrategyObject ι} {v : Json} (h : strategyValue z a = .ok v) :
    v.exact = true := by
  obtain ⟨w,hw,h⟩ := bind_eq_ok.1 h
  cases h
  simp [Json.exact,Fields.ofList,Fields.exact,decimalValue,timeValue_exact hw]

theorem securityValue_exact {a : SecurityObject ι} {v : Json} (h : securityValue z a = .ok v) :
    v.exact = true := by
  obtain ⟨w,hw,h⟩ := bind_eq_ok.1 h
  cases h
  simp [Json.exact,Fields.ofList,Fields.exact,decimalValue,timeValue_exact hw]

theorem canonicalValue_exact {a : SnapshotObject ι} {v : Json} (h : canonicalValue z a = .ok v) :
    v.exact = true := by
  obtain ⟨account,haccount,h⟩ := bind_eq_ok.1 h
  obtain ⟨strategy,hstrategy,h⟩ := bind_eq_ok.1 h
  obtain ⟨security,hsecurity,h⟩ := bind_eq_ok.1 h
  cases h
  simp [Json.exact,Fields.ofList,Fields.exact,symbolsValue,texts_exact,
    accountValue_exact haccount,strategyValue_exact hstrategy,securityValue_exact hsecurity]

/-- The relations that a canonical value tells. -/
abbrev AccountObject.SameText (z : Zones ι) (a b : AccountObject ι) : Prop :=
  a.Agree (fun d e => d.text = e.text) (fun s t => (s.aware z).instant = (t.aware z).instant) b

theorem accountValue_sortKeys {a b : AccountObject ι} {v w : Json}
    (ha : accountValue z a = .ok v) (hb : accountValue z b = .ok w)
    (h : v.sortKeys = w.sortKeys) : a.SameText z b := by
  obtain ⟨s,hs,hv⟩ := bind_eq_ok.1 ha
  obtain ⟨t,ht,hw⟩ := bind_eq_ok.1 hb
  cases hv
  cases hw
  simp only [Json.sortKeys,Json.object.injEq] at h
  have hvalues := Fields.values_of_sortKeys (by rfl) (by simp) h
  simp only [List.forall₂_cons,List.forall₂_nil_left_iff,decimalValue_sortKeys,
    timeValue_sortKeys hs ht] at hvalues
  simpa [AccountObject.SameText,AccountObject.Agree,Json.sortKeys] using hvalues

abbrev StrategyObject.SameText (z : Zones ι) (a b : StrategyObject ι) : Prop :=
  a.Agree (fun d e => d.text = e.text) (fun s t => (s.aware z).instant = (t.aware z).instant) b

abbrev SecurityObject.SameText (z : Zones ι) (a b : SecurityObject ι) : Prop :=
  a.Agree (fun d e => d.text = e.text) (fun s t => (s.aware z).instant = (t.aware z).instant) b

theorem strategyValue_sortKeys {a b : StrategyObject ι} {v w : Json}
    (ha : strategyValue z a = .ok v) (hb : strategyValue z b = .ok w)
    (h : v.sortKeys = w.sortKeys) : a.SameText z b := by
  obtain ⟨s,hs,hv⟩ := bind_eq_ok.1 ha
  obtain ⟨t,ht,hw⟩ := bind_eq_ok.1 hb
  cases hv
  cases hw
  simp only [Json.sortKeys,Json.object.injEq] at h
  have hvalues := Fields.values_of_sortKeys (by rfl) (by simp) h
  simp only [List.forall₂_cons,List.forall₂_nil_left_iff,decimalValue_sortKeys,
    timeValue_sortKeys hs ht] at hvalues
  simpa [StrategyObject.Agree,Json.sortKeys] using hvalues

theorem securityValue_sortKeys {a b : SecurityObject ι} {v w : Json}
    (ha : securityValue z a = .ok v) (hb : securityValue z b = .ok w)
    (h : v.sortKeys = w.sortKeys) : a.SameText z b := by
  obtain ⟨s,hs,hv⟩ := bind_eq_ok.1 ha
  obtain ⟨t,ht,hw⟩ := bind_eq_ok.1 hb
  cases hv
  cases hw
  simp only [Json.sortKeys,Json.object.injEq] at h
  have hvalues := Fields.values_of_sortKeys (by rfl) (by simp) h
  simp only [List.forall₂_cons,List.forall₂_nil_left_iff,decimalValue_sortKeys,
    timeValue_sortKeys hs ht] at hvalues
  simpa [SecurityObject.Agree,Json.sortKeys] using hvalues

/-- What a canonical value tells of a snapshot. -/
theorem canonicalValue_sortKeys {a b : SnapshotObject ι} {v w : Json}
    (ha : canonicalValue z a = .ok v) (hb : canonicalValue z b = .ok w)
    (h : v.sortKeys = w.sortKeys) : a.SameText z b := by
  obtain ⟨account,haccount,ha⟩ := bind_eq_ok.1 ha
  obtain ⟨strategy,hstrategy,ha⟩ := bind_eq_ok.1 ha
  obtain ⟨security,hsecurity,ha⟩ := bind_eq_ok.1 ha
  obtain ⟨account',haccount',hb⟩ := bind_eq_ok.1 hb
  obtain ⟨strategy',hstrategy',hb⟩ := bind_eq_ok.1 hb
  obtain ⟨security',hsecurity',hb⟩ := bind_eq_ok.1 hb
  cases ha
  cases hb
  simp only [Json.sortKeys,Json.object.injEq] at h
  have hvalues := Fields.values_of_sortKeys (by rfl) (by simp) h
  simp only [List.forall₂_cons,List.forall₂_nil_left_iff,symbolsValue_sortKeys] at hvalues
  simp only [Json.sortKeys,Json.text.injEq,Json.bool.injEq,mode_value_injective.eq_iff] at hvalues
  obtain ⟨hmode,h1,h2,h3,h4,h5,h6,h7,hsymbols,haccounts,hstrategies,hsecurities,-⟩ := hvalues
  exact ⟨hmode,h1,h2,h3,h4,h5,h6,h7,hsymbols,accountValue_sortKeys haccount haccount' haccounts,
    strategyValue_sortKeys hstrategy hstrategy' hstrategies,
    securityValue_sortKeys hsecurity hsecurity' hsecurities⟩

theorem decimalValue_congr {d e : Dec} (h : d.text = e.text) : decimalValue d = decimalValue e := by
  unfold decimalValue
  rw [h]

theorem accountValue_congr {a b : AccountObject ι} (h : a.SameText z b) :
    accountValue z a = accountValue z b := by
  obtain ⟨hfingerprint,hcash,hexposure,hpnl,hturnover,horders,hcancels,htime⟩ := h
  unfold accountValue
  rw [timeValue_congr htime,hfingerprint,decimalValue_congr hcash,decimalValue_congr hexposure,
    decimalValue_congr hpnl,decimalValue_congr hturnover,horders,hcancels]

theorem strategyValue_congr {a b : StrategyObject ι} (h : a.SameText z b) :
    strategyValue z a = strategyValue z b := by
  obtain ⟨hid,hversion,hexposure,hsecurity,hturnover,hpositions,htime⟩ := h
  unfold strategyValue
  rw [timeValue_congr htime,hid,hversion,decimalValue_congr hexposure,
    decimalValue_congr hsecurity,decimalValue_congr hturnover,hpositions]

theorem securityValue_congr {a b : SecurityObject ι} (h : a.SameText z b) :
    securityValue z a = securityValue z b := by
  obtain ⟨hsymbol,htick,hlower,hupper,hreference,hbuy,hsell,hsellable,hexposure,htime⟩ := h
  unfold securityValue
  rw [timeValue_congr htime,hsymbol,decimalValue_congr htick,decimalValue_congr hlower,
    decimalValue_congr hupper,decimalValue_congr hreference,hbuy,hsell,hsellable,
    decimalValue_congr hexposure]

/-- Snapshots that agree in texts and instants have one canonical value, or raise alike. -/
theorem canonicalValue_congr {a b : SnapshotObject ι} (h : a.SameText z b) :
    canonicalValue z a = canonicalValue z b := by
  obtain ⟨hmode,h1,h2,h3,h4,h5,h6,h7,hsymbols,haccount,hstrategy,hsecurity⟩ := h
  unfold canonicalValue symbolsValue
  rw [accountValue_congr haccount,strategyValue_congr hstrategy,securityValue_congr hsecurity,
    hmode,h1,h2,h3,h4,h5,h6,h7,sortedSymbols_eq hsymbols]

theorem canonicalJson_eq_ok {a : SnapshotObject ι} {x : String} :
    canonicalJson z a = .ok x ↔ ∃ v,canonicalValue z a = .ok v ∧ v.dumps = some x := by
  unfold canonicalJson
  rw [bind_eq_ok]
  constructor
  · rintro ⟨v,hv,h⟩
    cases hd : v.dumps with
    | none => simp [hd] at h
    | some y =>
      rw [hd] at h
      cases h
      exact ⟨v,hv,hd⟩
  · rintro ⟨v,hv,hd⟩
    exact ⟨v,hv,by rw [hd]⟩

/-- One text tells one snapshot, up to the time zones and the order of the symbols. -/
theorem sameText_of_canonicalJson {a b : SnapshotObject ι} {x : String}
    (ha : canonicalJson z a = .ok x) (hb : canonicalJson z b = .ok x) : a.SameText z b := by
  obtain ⟨v,hv,hvText⟩ := canonicalJson_eq_ok.1 ha
  obtain ⟨w,hw,hwText⟩ := canonicalJson_eq_ok.1 hb
  exact canonicalValue_sortKeys hv hw
    (Json.dumps_inj (canonicalValue_exact hv) (canonicalValue_exact hw) hvText hwText)

end Agreement

section Returns

variable {ι : Type} {z : Zones ι}

def SnapshotObject.times (s : SnapshotObject ι) : List (ZonedTime ι) :=
  [s.account.observedAt,s.strategy.heartbeatAt,s.security.observedAt]

def SnapshotObject.counts (s : SnapshotObject ι) : List Int :=
  [s.account.dailyOrderCount,s.account.dailyCancelCount,s.strategy.positionCount,
    s.security.buyLotSize,s.security.sellLotSize,s.security.sellableQuantity]

/-- What is made of a time exists where the time has a UTC. -/
theorem returns_of_time {t : ZonedTime ι} {make : Json → Json} :
    (∃ v,(timeValue z t >>= fun w => (.ok (make w) : Except RiskError Json)) = .ok v) ↔
      (t.aware z).hasUtc = true := by
  unfold timeValue utcIso
  split_ifs with h <;> simp [bind,Except.bind,pure,Except.pure,h]

theorem timeValue_printable {t : ZonedTime ι} {v : Json} (h : timeValue z t = .ok v) :
    v.printable = true := by
  obtain ⟨x,-,h⟩ := bind_eq_ok.1 h
  cases h
  rfl

theorem texts_printable (symbols : List String) :
    (Items.ofList (symbols.map Json.text)).printable = true := by
  induction symbols with
  | nil => rfl
  | cons s symbols ih => simp [Items.ofList,Items.printable,Json.printable,ih]

def Short (n : Int) : Prop := (Nat.toDigits 10 n.natAbs).length ≤ 4300

instance (n : Int) : Decidable (Short n) :=
  inferInstanceAs (Decidable ((Nat.toDigits 10 n.natAbs).length ≤ 4300))

theorem accountValue_printable {a : AccountObject ι} {v : Json} (h : accountValue z a = .ok v) :
    v.printable = true ↔ Short a.dailyOrderCount ∧ Short a.dailyCancelCount := by
  obtain ⟨w,hw,h⟩ := bind_eq_ok.1 h
  cases h
  simp [Json.printable,Fields.ofList,Fields.printable,decimalValue,timeValue_printable hw,Short]

theorem strategyValue_printable {a : StrategyObject ι} {v : Json}
    (h : strategyValue z a = .ok v) : v.printable = true ↔ Short a.positionCount := by
  obtain ⟨w,hw,h⟩ := bind_eq_ok.1 h
  cases h
  simp [Json.printable,Fields.ofList,Fields.printable,decimalValue,timeValue_printable hw,Short]

theorem securityValue_printable {a : SecurityObject ι} {v : Json}
    (h : securityValue z a = .ok v) : v.printable = true ↔
      Short a.buyLotSize ∧ Short a.sellLotSize ∧ Short a.sellableQuantity := by
  obtain ⟨w,hw,h⟩ := bind_eq_ok.1 h
  cases h
  simp [Json.printable,Fields.ofList,Fields.printable,decimalValue,timeValue_printable hw,Short]

theorem canonicalValue_printable {a : SnapshotObject ι} {v : Json}
    (h : canonicalValue z a = .ok v) : v.printable = true ↔ ∀ n ∈ a.counts,Short n := by
  obtain ⟨account,haccount,h⟩ := bind_eq_ok.1 h
  obtain ⟨strategy,hstrategy,h⟩ := bind_eq_ok.1 h
  obtain ⟨security,hsecurity,h⟩ := bind_eq_ok.1 h
  cases h
  simp [Json.printable,Fields.ofList,Fields.printable,symbolsValue,texts_printable,
    accountValue_printable haccount,strategyValue_printable hstrategy,
    securityValue_printable hsecurity,SnapshotObject.counts,and_assoc]

/-- The canonical text exists where every time has a UTC and every count can be printed. -/
theorem canonicalJson_returns (a : SnapshotObject ι) : (∃ x,canonicalJson z a = .ok x) ↔
    (∀ t ∈ a.times,(t.aware z).hasUtc = true) ∧ ∀ n ∈ a.counts,Short n := by
  have haccount : (∃ v,accountValue z a.account = .ok v) ↔ _ := returns_of_time
  have hstrategy : (∃ v,strategyValue z a.strategy = .ok v) ↔ _ := returns_of_time
  have hsecurity : (∃ v,securityValue z a.security = .ok v) ↔ _ := returns_of_time
  have hvalue : (∃ v,canonicalValue z a = .ok v) ↔ ∀ t ∈ a.times,(t.aware z).hasUtc = true := by
    simp only [SnapshotObject.times,List.forall_mem_cons,List.not_mem_nil,false_implies,
      implies_true,and_true,← haccount,← hstrategy,← hsecurity]
    unfold canonicalValue
    constructor
    · rintro ⟨v,hv⟩
      obtain ⟨account,haccount,hv⟩ := bind_eq_ok.1 hv
      obtain ⟨strategy,hstrategy,hv⟩ := bind_eq_ok.1 hv
      obtain ⟨security,hsecurity,hv⟩ := bind_eq_ok.1 hv
      exact ⟨⟨account,haccount⟩,⟨strategy,hstrategy⟩,security,hsecurity⟩
    · rintro ⟨⟨account,haccount⟩,⟨strategy,hstrategy⟩,security,hsecurity⟩
      rw [haccount,hstrategy,hsecurity]
      exact ⟨_,rfl⟩
  rw [← hvalue]
  simp only [canonicalJson_eq_ok,Json.dumps]
  constructor
  · rintro ⟨x,v,hv,hx⟩
    split_ifs at hx with hprint
    exact ⟨⟨v,hv⟩,(canonicalValue_printable hv).1 hprint⟩
  · rintro ⟨⟨v,hv⟩,hcounts⟩
    exact ⟨_,v,hv,by rw [if_pos ((canonicalValue_printable hv).2 hcounts)]⟩

end Returns

section Equality

variable {ι : Type} [DecidableEq ι] {z : Zones ι}

/-- A zone of one offset. -/
def Zones.Fixed (z : Zones ι) (zone : ι) : Prop :=
  ∃ offset,∀ wall fold,z.utcoffset zone wall fold = offset

def SnapshotObject.SameDecimals (a b : SnapshotObject ι) : Prop :=
  a.Agree (fun d e => d.text = e.text) (fun _ _ => True) b

/-- In zones of one offset, times are equal as their instants are. -/
theorem ZonedTime.eq_iff {s t : ZonedTime ι} (hs : z.Fixed s.zone) (ht : z.Fixed t.zone) :
    s.eq z t = true ↔ (s.aware z).instant = (t.aware z).instant := by
  obtain ⟨offset,hs⟩ := hs
  obtain ⟨offset',ht⟩ := ht
  unfold ZonedTime.eq
  split_ifs with hzone
  · have hsame : offset = offset' := by rw [← hs 0 false,← ht 0 false,hzone]
    simp only [AwareTime.instant,ZonedTime.aware,hs,ht,decide_eq_true_eq]
    omega
  · simp [ZonedTime.problematic,hs,ht]

theorem sameText_iff {a b : SnapshotObject ι} (h : ∀ t ∈ a.times ++ b.times,z.Fixed t.zone) :
    a.SameText z b ↔ a.Equal z b ∧ a.SameDecimals b := by
  have haccount := ZonedTime.eq_iff (h a.account.observedAt (by simp [SnapshotObject.times]))
    (h b.account.observedAt (by simp [SnapshotObject.times]))
  have hstrategy := ZonedTime.eq_iff (h a.strategy.heartbeatAt (by simp [SnapshotObject.times]))
    (h b.strategy.heartbeatAt (by simp [SnapshotObject.times]))
  have hsecurity := ZonedTime.eq_iff (h a.security.observedAt (by simp [SnapshotObject.times]))
    (h b.security.observedAt (by simp [SnapshotObject.times]))
  have htext : ∀ d e : Dec,d.text = e.text ↔ d = e := fun d e =>
    ⟨text_injective,congrArg Dec.text⟩
  simp only [SnapshotObject.SameText,SnapshotObject.Equal,SnapshotObject.SameDecimals,
    SnapshotObject.Agree,AccountObject.Agree,StrategyObject.Agree,SecurityObject.Agree,haccount,
    hstrategy,hsecurity,htext,and_true]
  constructor
  · intro h
    simp_all
  · intro h
    simp_all

/-- A canonical text exists where every time has a UTC and every count can be printed. It is that
of another snapshot exactly if the two agree in every field, decimals by their exact texts and
times by their instants; in zones of one offset that is: if they are equal as dataclasses and
their decimals have the same exact texts. -/
theorem canonicalJson_eq_iff (z : Zones ι) (a b : SnapshotObject ι) :
    ((∃ x,canonicalJson z a = .ok x) ↔
      (∀ t ∈ a.times,(t.aware z).hasUtc = true) ∧ ∀ n ∈ a.counts,Short n) ∧
    (∀ x,canonicalJson z a = .ok x → (canonicalJson z b = .ok x ↔ a.SameText z b)) ∧
    ((∀ t ∈ a.times ++ b.times,z.Fixed t.zone) →
      (a.SameText z b ↔ a.Equal z b ∧ a.SameDecimals b)) ∧
    (a.SameText z b → a.snapshotHash z = b.snapshotHash z) := by
  have hcongr : a.SameText z b → canonicalJson z a = canonicalJson z b := by
    intro h
    unfold canonicalJson
    rw [canonicalValue_congr h]
  refine ⟨canonicalJson_returns a,?_,sameText_iff,?_⟩
  · intro x hx
    constructor
    · intro hy
      exact sameText_of_canonicalJson hx hy
    · intro h
      rw [← hcongr h]
      exact hx
  · intro h
    unfold SnapshotObject.snapshotHash
    rw [hcongr h]

/-- One zone of one offset, and one where the offset depends on the fold. -/
def twoZones : Zones Bool where
  utcoffset zone _ fold := if zone && fold then 3600000000 else 0
  utcoffset_lt := by
    intro zone wall fold
    split_ifs <;> decide

def sampleSnapshot (cash : Dec) (zone : Bool) (symbols : FrozenSet) : SnapshotObject Bool :=
  let time : ZonedTime Bool := ⟨zone,63918504000000000,false,by decide⟩
  { mode := .simulation
    databaseHealthy := true
    omsHealthy := true
    leaderHeld := true
    reconciliationComplete := true
    qmtHealthy := true
    marketOpen := true
    globalAmbiguityBlock := false
    blockedSymbols := symbols
    account := ⟨"acct",cash,⟨false,0,0⟩,⟨true,5,-1⟩,⟨false,0,0⟩,0,0,time⟩
    strategy := ⟨"alpha","1",⟨false,0,0⟩,⟨false,0,0⟩,⟨false,0,0⟩,0,time⟩
    security := ⟨"600000.SH",⟨false,1,-2⟩,⟨false,9,0⟩,⟨false,11,0⟩,⟨false,10,0⟩,100,100,0,
      ⟨false,0,0⟩,time⟩ }

/-- Symbols in another order have the same text. -/
theorem canonicalJson_eq_iff_order : ∃ x,
    canonicalJson twoZones (sampleSnapshot ⟨false,10,-1⟩ false ⟨["600000.SH","000333.SZ"],by decide⟩)
      = .ok x ∧
    canonicalJson twoZones (sampleSnapshot ⟨false,10,-1⟩ false ⟨["000333.SZ","600000.SH"],by decide⟩)
      = .ok x := by
  obtain ⟨hreturns,hsame,-⟩ := canonicalJson_eq_iff twoZones
    (sampleSnapshot ⟨false,10,-1⟩ false ⟨["600000.SH","000333.SZ"],by decide⟩)
    (sampleSnapshot ⟨false,10,-1⟩ false ⟨["000333.SZ","600000.SH"],by decide⟩)
  obtain ⟨x,hx⟩ := hreturns.2 ⟨by decide,by decide⟩
  refine ⟨x,hx,(hsame x hx).2 ?_⟩
  simp [SnapshotObject.SameText,SnapshotObject.Agree,AccountObject.Agree,StrategyObject.Agree,
    SecurityObject.Agree,sampleSnapshot,or_comm]

theorem sampleSnapshot_valid {cash : Dec} (zone : Bool) (h : 0 ≤ cash.value) :
    (sampleSnapshot cash zone ⟨[],by decide⟩).Valid twoZones := by
  have hnonblank : nonblank "acct" = true ∧ nonblank "alpha" = true ∧ nonblank "1" = true ∧
      nonblank "600000.SH" = true := by decide
  have hzero : (⟨false,0,0⟩ : Dec).value = 0 := by simp [Dec.value,Dec.signed]
  constructor
  · simp [sampleSnapshot]
  · simp [sampleSnapshot,AccountObject.fields,AccountRiskFields.postInit,bind_eq_ok,hnonblank,h,
      hzero]
  · simp [sampleSnapshot,StrategyObject.fields,StrategyRiskFields.postInit,bind_eq_ok,hnonblank,
      require_eq_ok,hzero]
  · simp [sampleSnapshot,SecurityObject.fields,SecurityRiskFields.postInit,bind_eq_ok,hnonblank,
      require_eq_ok,Dec.value,Dec.signed]
    norm_num

theorem sampleSnapshot_returns (cash : Dec) (zone : Bool) :
    ∃ x,canonicalJson twoZones (sampleSnapshot cash zone ⟨[],by decide⟩) = .ok x := by
  have htimes : (sampleSnapshot cash zone ⟨[],by decide⟩).times =
      (sampleSnapshot ⟨false,0,0⟩ zone ⟨[],by decide⟩).times := rfl
  have hcounts : (sampleSnapshot cash zone ⟨[],by decide⟩).counts =
      (sampleSnapshot ⟨false,0,0⟩ false ⟨[],by decide⟩).counts := rfl
  rw [canonicalJson_returns,htimes,hcounts]
  cases zone <;> exact ⟨by decide,by decide⟩

/-- Equal snapshots of two texts, and unequal ones of one text. -/
theorem canonicalJson_not_equality :
    (∃ a b,a.Valid twoZones ∧ b.Valid twoZones ∧ a.Equal twoZones b ∧
      ∃ x y,canonicalJson twoZones a = .ok x ∧ canonicalJson twoZones b = .ok y ∧ x ≠ y) ∧
    ∃ a b,a.Valid twoZones ∧ b.Valid twoZones ∧ ¬a.Equal twoZones b ∧
      ∃ x,canonicalJson twoZones a = .ok x ∧ canonicalJson twoZones b = .ok x := by
  constructor
  · refine ⟨sampleSnapshot ⟨false,10,-1⟩ false ⟨[],by decide⟩,
      sampleSnapshot ⟨false,100,-2⟩ false ⟨[],by decide⟩,sampleSnapshot_valid _ ?_,
      sampleSnapshot_valid _ ?_,?_,?_⟩
    · norm_num [Dec.value,Dec.signed]
    · norm_num [Dec.value,Dec.signed]
    · have hcash : (⟨false,10,-1⟩ : Dec).value = (⟨false,100,-2⟩ : Dec).value := by
        norm_num [Dec.value,Dec.signed]
      simp [SnapshotObject.Equal,SnapshotObject.Agree,AccountObject.Agree,StrategyObject.Agree,
        SecurityObject.Agree,sampleSnapshot,hcash,ZonedTime.eq]
    · obtain ⟨x,hx⟩ := sampleSnapshot_returns ⟨false,10,-1⟩ false
      obtain ⟨y,hy⟩ := sampleSnapshot_returns ⟨false,100,-2⟩ false
      refine ⟨x,y,hx,hy,?_⟩
      rintro rfl
      obtain ⟨-,-,-,-,-,-,-,-,-,haccount,-⟩ := sameText_of_canonicalJson hx hy
      have hcash : (⟨false,10,-1⟩ : Dec).text = (⟨false,100,-2⟩ : Dec).text := haccount.2.1
      exact absurd hcash (by decide)
  · refine ⟨sampleSnapshot ⟨false,10,-1⟩ false ⟨[],by decide⟩,
      sampleSnapshot ⟨false,10,-1⟩ true ⟨[],by decide⟩,sampleSnapshot_valid _ ?_,
      sampleSnapshot_valid _ ?_,?_,?_⟩
    · norm_num [Dec.value,Dec.signed]
    · norm_num [Dec.value,Dec.signed]
    · rintro ⟨-,-,-,-,-,-,-,-,-,haccount,-⟩
      exact absurd haccount.2.2.2.2.2.2.2 (by decide)
    · have hsame : (sampleSnapshot ⟨false,10,-1⟩ false ⟨[],by decide⟩).SameText twoZones
          (sampleSnapshot ⟨false,10,-1⟩ true ⟨[],by decide⟩) := by
        simp [SnapshotObject.SameText,SnapshotObject.Agree,AccountObject.Agree,
          StrategyObject.Agree,SecurityObject.Agree,sampleSnapshot,AwareTime.instant,
          ZonedTime.aware,twoZones]
      obtain ⟨x,hx⟩ := sampleSnapshot_returns ⟨false,10,-1⟩ false
      have hcongr := canonicalValue_congr hsame
      unfold canonicalJson at hx ⊢
      exact ⟨x,hx,by rw [← hcongr]; exact hx⟩

end Equality

end BigQmt.Risk
