import Mathlib.Data.List.Basic
set_option autoImplicit false

/-!
`domain/states.py`, `domain/state_machine.py` and the identities of
`domain/models.py`.
-/

namespace BigQmt

inductive Side where
  | buy | sell
  deriving DecidableEq, Repr

def Side.value : Side → String
  | .buy => "BUY"
  | .sell => "SELL"

inductive OrderStatus where
  | created | riskRejected | riskAccepted | aborted | submitting | acknowledged
  | partiallyFilled | filled | cancelPending | cancelled | rejected | unknown
  | reconciling | manualReview
  deriving DecidableEq, Repr

namespace OrderStatus

def value : OrderStatus → String
  | .created => "CREATED"
  | .riskRejected => "RISK_REJECTED"
  | .riskAccepted => "RISK_ACCEPTED"
  | .aborted => "ABORTED"
  | .submitting => "SUBMITTING"
  | .acknowledged => "ACKNOWLEDGED"
  | .partiallyFilled => "PARTIALLY_FILLED"
  | .filled => "FILLED"
  | .cancelPending => "CANCEL_PENDING"
  | .cancelled => "CANCELLED"
  | .rejected => "REJECTED"
  | .unknown => "UNKNOWN"
  | .reconciling => "RECONCILING"
  | .manualReview => "MANUAL_REVIEW"

/-- `TERMINAL_STATUSES`. -/
def terminal : OrderStatus → Bool
  | .riskRejected | .aborted | .filled | .cancelled | .rejected | .manualReview => true
  | _ => false

/-- The set `broker_terminals` of the repository. -/
def brokerTerminal : OrderStatus → Bool
  | .filled | .cancelled | .rejected => true
  | _ => false

/-- The table `_ALLOWED`, keyed by the current status. -/
def allowed : OrderStatus → List OrderStatus
  | .created => [.riskRejected,.riskAccepted,.aborted]
  | .riskAccepted => [.submitting,.aborted]
  | .submitting => [.acknowledged,.rejected,.unknown]
  | .acknowledged => [.partiallyFilled,.filled,.cancelPending]
  | .partiallyFilled => [.filled,.cancelPending,.cancelled]
  | .cancelPending => [.cancelled,.partiallyFilled,.filled,.unknown]
  | .unknown => [.reconciling]
  | .reconciling => [.acknowledged,.partiallyFilled,.filled,.rejected,.cancelled,.manualReview]
  | _ => []

/-- The table `_STALE`: broker states older than the current one. -/
def stale : OrderStatus → List OrderStatus
  | .riskAccepted => [.created]
  | .submitting => [.created,.riskAccepted]
  | .acknowledged => [.created,.riskAccepted,.submitting]
  | .partiallyFilled => [.created,.riskAccepted,.submitting,.acknowledged]
  | .cancelPending => [.created,.riskAccepted,.submitting,.acknowledged]
  | _ => []

end OrderStatus

inductive TransitionDisposition where
  | applied | duplicateIgnored | staleIgnored
  deriving DecidableEq, Repr

structure TransitionOutcome where
  previous : OrderStatus
  current : OrderStatus
  requested : OrderStatus
  changed : Bool
  disposition : TransitionDisposition
  deriving DecidableEq, Repr

/-- `transition(current, requested)`; `none` is the raise of `InvalidTransition`. -/
def transition (current requested : OrderStatus) : Option TransitionOutcome :=
  if current = requested then
    some ⟨current,current,requested,false,.duplicateIgnored⟩
  else if current.terminal then
    some ⟨current,current,requested,false,.staleIgnored⟩
  else if requested ∈ current.allowed then
    some ⟨current,requested,requested,true,.applied⟩
  else if requested ∈ current.stale then
    some ⟨current,current,requested,false,.staleIgnored⟩
  else none

/-- A transition keeps the status, or takes one edge of the table to the
requested one out of a status that is not terminal. -/
theorem transition_cases {c r : OrderStatus} {o : TransitionOutcome}
    (h : transition c r = some o) :
    o.previous = c ∧ o.requested = r ∧
      ((o.changed = false ∧ o.current = c ∧ (c = r ∨ c.terminal = true ∨ r ∈ c.stale)) ∨
       (o.changed = true ∧ o.current = r ∧ c ≠ r ∧ c.terminal = false ∧ r ∈ c.allowed)) := by
  unfold transition at h
  split at h
  · rename_i hcr
    cases h
    exact ⟨rfl,rfl,.inl ⟨rfl,rfl,.inl hcr⟩⟩
  · rename_i hcr
    split at h
    · rename_i ht
      cases h
      exact ⟨rfl,rfl,.inl ⟨rfl,rfl,.inr (.inl ht)⟩⟩
    · rename_i ht
      split at h
      · rename_i ha
        cases h
        exact ⟨rfl,rfl,.inr ⟨rfl,rfl,hcr,by simpa using ht,ha⟩⟩
      · split at h
        · rename_i hs
          cases h
          exact ⟨rfl,rfl,.inl ⟨rfl,rfl,.inr (.inr hs)⟩⟩
        · cases h

theorem transition_self (c : OrderStatus) :
    transition c c = some ⟨c,c,c,false,.duplicateIgnored⟩ := by
  simp [transition]

/-- `str.isspace` on one character, by the White_Space and separator classes. -/
def pySpace (c : Char) : Bool :=
  let n := c.toNat
  (9 ≤ n && n ≤ 13) || (28 ≤ n && n ≤ 32) || n == 0x85 || n == 0xA0 || n == 0x1680 ||
    (0x2000 ≤ n && n ≤ 0x200A) || n == 0x2028 || n == 0x2029 || n == 0x202F ||
    n == 0x205F || n == 0x3000

/-- `_require_nonempty`: something is left after `strip()`. -/
def nonblank (s : String) : Bool := s.toList.any (fun c => !pySpace c)

/-- The durable identity of an order: `(account_fingerprint, client_order_id)`. -/
structure OrderKey where
  accountFingerprint : String
  clientOrderId : String
  deriving DecidableEq, Repr

/-- The columns of `order_intents`. A price is kept as its decimal text, and
times are microseconds since the epoch. -/
structure IntentColumns where
  key : OrderKey
  strategyId : String
  strategyVersion : String
  symbol : String
  side : Side
  quantity : Int
  limitPrice : String
  createdAt : Nat
  expiresAt : Nat
  signalId : String
  reasonCode : String
  deriving DecidableEq, Repr

/-- `OrderIntent.__post_init__`, apart from what the types already say. -/
structure OrderIntent extends IntentColumns where
  clientOrderId_nonblank : nonblank key.clientOrderId = true
  account_nonblank : nonblank key.accountFingerprint = true
  strategyId_nonblank : nonblank strategyId = true
  strategyVersion_nonblank : nonblank strategyVersion = true
  symbol_nonblank : nonblank symbol = true
  signalId_nonblank : nonblank signalId = true
  reasonCode_nonblank : nonblank reasonCode = true
  quantity_pos : 0 < quantity
  window : createdAt < expiresAt
  deriving DecidableEq

inductive RiskReasonCode where
  | ok | modeNotArmed | dataStale | unknownOrder | duplicateClientOrderId | accountMismatch
  | intentExpired | invalidOrder | limitExceeded | strategyNotAllowed | marketClosed
  | databaseUnhealthy | leaderNotHeld
  deriving DecidableEq, Repr

structure RiskDecision where
  accepted : Bool
  reasonCode : RiskReasonCode
  ruleVersion : String
  decidedAt : Nat
  deriving DecidableEq, Repr

/-- The order of the concrete runs. -/
def sampleIntent : OrderIntent where
  key := ⟨"sha256:ff266d673e28fbba5da4bfe2c68975f75b6a9fb5b89014503409b2b014ce0702","order-1"⟩
  strategyId := "manual"
  strategyVersion := "1"
  symbol := "600000.SH"
  side := .buy
  quantity := 100
  limitPrice := "10.5"
  createdAt := 0
  expiresAt := 60000000
  signalId := "signal-1"
  reasonCode := "TEST"
  clientOrderId_nonblank := by decide
  account_nonblank := by decide
  strategyId_nonblank := by decide
  strategyVersion_nonblank := by decide
  symbol_nonblank := by decide
  signalId_nonblank := by decide
  reasonCode_nonblank := by decide
  quantity_pos := by decide
  window := by decide

end BigQmt
