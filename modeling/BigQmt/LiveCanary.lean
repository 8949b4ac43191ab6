import BigQmt.Bridge
set_option autoImplicit false

/-!
`qmt_side/BIGQMT_EXECUTION_BRIDGE_V05_GUOJIN.py`: the command path of the live canary
Bridge. Command frames are read as in the simulation Bridge.
-/

namespace BigQmt

open Resumption Proc

/-- A number of a JSON document as Python compares it. -/
inductive PyNumber where
  | int (n : Int)
  | float (d : Bridge.Decimal)
  | nonfinite
  deriving DecidableEq, Repr

/-- `n / 2 ^ k` against `mantissa * 10 ^ exponent`. -/
def Bridge.Decimal.ge (d : Bridge.Decimal) (n k : Nat) : Bool :=
  !d.negative && n * 10 ^ (-d.exponent).toNat ≤ d.mantissa * 10 ^ d.exponent.toNat * 2 ^ k

/-- `float(d) == n`, for a small positive `n`: the number is within half a unit in the last
place of it, which below a power of two is half of what it is above. -/
def Bridge.Decimal.reads (d : Bridge.Decimal) (n : Nat) : Bool :=
  let above := 53 - n.log2
  let below := if n = 2 ^ n.log2 then above + 1 else above
  d.le (n * 2 ^ above + 1) above && d.ge (n * 2 ^ below - 1) below

def PyNumber.eqNat : PyNumber → Nat → Bool
  | .int m,n => m = n
  | .float d,n => d.reads n
  | .nonfinite,_ => false

def PyNumber.ofReading : Bridge.Decimal ⊕ Unit → PyNumber
  | .inl d => .float d
  | .inr _ => .nonfinite

/-- `float(value)`; `none` when it raises. -/
def pyFloat (value : Option Json) : Option PyNumber :=
  match value with
  | some (.text s) => (Bridge.floatText s).map .ofReading
  | some (.real digits) => (Bridge.floatText digits).map .ofReading
  -- an integer beyond the doubles overflows
  | some (.int n) =>
    if n.natAbs < 2 ^ 1024 - 2 ^ 970 then some (.float ⟨decide (n < 0),n.natAbs,0⟩) else none
  | some (.bool b) => some (.int (if b then 1 else 0))
  | _ => none

/-- The number a value is, to an `==` with a number. -/
def pyNumber (value : Option Json) : Option PyNumber :=
  match value with
  | some (.real digits) => (Bridge.floatText digits).map .ofReading
  | some (.int n) => some (.int n)
  | some (.bool b) => some (.int (if b then 1 else 0))
  | _ => none

-- The price that is compared with 1.0 is a double.
example : (pyFloat (some (.text "1.00000000000000001"))).any (·.eqNat 1) = true ∧
    (pyFloat (some (.text "1.0000000000000003"))).any (·.eqNat 1) = false := by decide +kernel

/-- `_STATE`, as far as commands use it. -/
structure LiveState where
  accountFingerprint : String
  accountType : String
  sessionId : String
  orphanRecoveryDone : Bool
  simulationSubmitCalls : Nat
  simulationCancelCalls : Nat
  liveCanaryHalted : Bool
  deriving DecidableEq, Repr

/-- What the preflight reads of `get_instrument_detail`. -/
structure InstrumentDetail where
  exchange : Option String
  instrument : Option String
  hsgtFlag : Option Int
  deriving DecidableEq, Repr

/-- A row of `get_trade_detail_data(..., "account")`: whether its available cash is a number. -/
structure AccountRow where
  availableCash : Bool
  deriving DecidableEq, Repr

structure LocalTime where
  weekday : Nat
  hour : Nat
  minute : Nat
  deriving DecidableEq, Repr

/-- The arguments of `passorder`, the command they come from and the session it is made in. -/
structure LiveOrder where
  opType : Nat
  symbol : String
  price : PyNumber
  quantity : PyNumber
  userOrderId : Option String
  command : Bridge.Command
  session : String
  deriving DecidableEq

inductive LiveApi : Type → Type
  | passorder (order : LiveOrder) : LiveApi Unit
  | cancel (brokerOrderId : String) : LiveApi Bool
  | canCancelOrder (brokerOrderId : String) : LiveApi Bool
  | instrumentDetail (symbol : String) : LiveApi (Option InstrumentDetail)
  | orderDetail : LiveApi (Option (List TradeRow))
  | accountDetail : LiveApi (Option (List AccountRow))

/-- What a broker API raises: any exception but the Bridge's own `CommandError`. -/
abbrev ApiError : Type := {e : PyError // Bridge.isCommandError e = false}

inductive LiveEff : Type → Type 1
  | uuid4 : LiveEff String
  | clock : LiveEff Nat
  | localtime : LiveEff LocalTime
  | detectedAccountTypes : LiveEff (List String)
  | isFile (dir : SpoolDir) (name : String) : LiveEff Bool
  | readFile (dir : SpoolDir) (name : String) : LiveEff (Except PyError Raw)
  | listDir (dir : SpoolDir) : LiveEff (Except PyError (List String))
  | move (source target : SpoolDir) (name : String) : LiveEff (Except PyError Unit)
  | commandResult (commandId resultStatus : String) (liveSideEffect : Bool) :
      LiveEff (Except PyError Unit)
  | readSnapshot : LiveEff (Except PyError Unit)
  | broker {α : Type} (api : LiveApi α) : LiveEff (Except ApiError α)

abbrev Live (α : Type) : Type 1 := Proc LiveEff PyError LiveState α

namespace LiveCanary

open Bridge (Command)

def authorizedAccountFingerprint : String :=
  "sha256:7cbd3cda92705081654ef838f9b93ab9f7928349ecf05fe97205c2d2948434e5"

def simulationMaxSubmitCalls : Nat := 1

def simulationMaxCancelCalls : Nat := 1

def mutationSymbols : List String := ["00700.HGT"]

def authorizedSide : String := "BUY"

def authorizedQuantity : Nat := 100

/-- `_LIVE_CANARY_AUTHORIZED_LIMIT_PRICE`, the double 1.0. -/
def authorizedLimitPrice : Nat := 1

def callApi {α : Type} (api : LiveApi α) : Live α := do
  let answer ← ask (.broker api)
  match answer with
  | .ok a => return a
  | .error e => throw e.1

/-- `_live_canary_instrument_preflight`. -/
def instrumentPreflight (symbol : String) : Live Unit := do
  let details ← callApi (.instrumentDetail symbol)
  match details with
  | none => throw (.commandError "live canary instrument preflight failed")
  | some details =>
    if symbol ≠ "00700.HGT" then
      throw (.commandError "live canary instrument identity mismatch")
    else if details.exchange ≠ some "HK" ∨ details.instrument ≠ some "00700" ∨
        details.hsgtFlag ∉ [some 3,some 5] then
      throw (.commandError "live canary Tencent HGT identity mismatch")
    else
      let detected ← ask .detectedAccountTypes
      if "HUGANGTONG" ∉ detected then
        throw (.commandError "live canary Shanghai Stock Connect account unavailable")
      else return ()

/-- `_live_canary_trade_window_open`. -/
def tradeWindowOpen (now : LocalTime) : Bool :=
  let minutes := now.hour * 60 + now.minute
  now.weekday < 5 && (570 ≤ minutes && minutes ≤ 710 || 780 ≤ minutes && minutes ≤ 950)

/-- `_live_canary_cash_preflight`. -/
def cashPreflight : Live Unit := do
  let rows ← callApi .accountDetail
  match rows with
  | none => throw (.commandError "live canary account query returned None")
  | some [row] =>
    if row.availableCash then return ()
    else throw (.commandError "live canary available cash unavailable")
  | some _ => throw (.commandError "live canary account query is not singular")

/-- The submit case of the payload is the one this build permits. -/
def authorizedCase (payload : Fields) (price : PyNumber) : Bool :=
  (payload.textAt "symbol").any (· ∈ mutationSymbols) &&
    payload.get "side" = some (.text authorizedSide) &&
    (pyNumber (payload.get "quantity")).any (fun q => q.eqNat authorizedQuantity) &&
    price.eqNat authorizedLimitPrice

def executeSubmit (command : Command) : Live (String × Bool) := do
  let s ← self
  let payload := command.payload
  if simulationMaxSubmitCalls ≤ s.simulationSubmitCalls then
    throw (.commandError "live canary submit session limit reached")
  else
    match pyFloat (payload.get "limit_price") with
    | none => throw (.commandError "invalid live canary limit price")
    | some price =>
      if !authorizedCase payload price then
        throw (.commandError
          "live canary permits exactly one submit case: 00700.HGT BUY 100 at 1.00 HKD")
      else
        let now ← ask .localtime
        if !tradeWindowOpen now then
          throw (.commandError "live canary trading window is closed")
        else
          let symbol := (payload.textAt "symbol").getD ""
          instrumentPreflight symbol
          cashPreflight
          -- the quota is reserved before the call
          update (fun s => { s with simulationSubmitCalls := s.simulationSubmitCalls + 1 })
          callApi (.passorder ⟨23,symbol,price,
            (pyNumber (payload.get "quantity")).getD .nonfinite,command.brokerToken,command,
            s.sessionId⟩)
          return ("LIVE_CANARY_SUBMIT_CALL_RETURNED",true)

/-- `_live_canary_cancel_target`. -/
def cancelTarget (command : Command) : Live String := do
  let rows ← callApi .orderDetail
  match rows with
  | none => throw (.commandError "order query returned None")
  | some rows =>
    let brokerOrderId := command.payload.textAt "broker_order_id"
    let matching := rows.filter (fun r =>
      r.orderSysId = brokerOrderId ∧ r.remark = command.brokerToken)
    if matching.length ≠ 1 then
      throw (.commandError "live canary cancel target is not one exact token-matched order")
    else return brokerOrderId.getD ""

def executeCancel (command : Command) : Live (String × Bool) := do
  let s ← self
  if simulationMaxCancelCalls ≤ s.simulationCancelCalls then
    throw (.commandError "live canary cancel session limit reached")
  else
    let brokerOrderId ← cancelTarget command
    let cancellable ← callApi (.canCancelOrder brokerOrderId)
    if !cancellable then return ("LIVE_CANARY_CANCEL_NOT_CANCELLABLE",false)
    else
      let sent ← callApi (.cancel brokerOrderId)
      update (fun s => { s with simulationCancelCalls := s.simulationCancelCalls + 1 })
      return (if sent then "LIVE_CANARY_CANCEL_SIGNAL_SENT" else "LIVE_CANARY_CANCEL_NOT_SENT",true)

/-- `_execute_order_command`. -/
def executeOrderCommand (command : Command) : Live (String × Bool) := do
  let s ← self
  if s.accountFingerprint ≠ authorizedAccountFingerprint ∨ s.accountType.toUpper ≠ "STOCK" then
    throw (.commandError "live canary deployment gate is closed")
  else if command.payload.get "live_canary" ≠ some (.bool true) ∨
      command.payload.get "simulation_calibration" = some (.bool true) ∨
      command.payload.get "expected_qmt_session_id" ≠ some (.text s.sessionId) then
    throw (.commandError "missing current-session live canary authorization")
  else if s.liveCanaryHalted then
    throw (.commandError "live canary session halted after unknown mutation")
  else
    match command.commandType with
    | .submitLimit => executeSubmit command
    | .cancelOrder => executeCancel command
    | .requestSnapshot => throw (.commandError "unsupported live canary mutation command")

def readClaimed (name : String) : Live Command := do
  let s ← self
  let raw ← call (.readFile .claimed name)
  Proc.ofExcept (Bridge.readCommandFrame s.accountFingerprint raw)

/-- The claimed file goes to `target`, and the result is reported. -/
def finish (command : Command) (name : String) (target : SpoolDir) (status : String)
    (liveSideEffect : Bool) : Live Unit := do
  call (.move .claimed target name)
  call (.commandResult command.commandId status liveSideEffect)

def rejectClaimed (name : String) : Live Unit := do
  let present ← ask (.isFile .claimed name)
  if present then call (.move .claimed .rejected name) else return ()

/-- What became of a command that was run: its result, or the exception. -/
def attempt {α : Type} (x : Live α) : Live (Except PyError α) :=
  tryCatch (do
    let a ← x
    return .ok a) (fun e => return .error e)

def processSnapshotRequest (command : Command) (name : String) : Live Unit := do
  let outcome ← attempt (call .readSnapshot)
  match outcome with
  | .error _ => call (.move .claimed .unknown name)
  | .ok _ => finish command name .processed "SNAPSHOT_EMITTED" false

def processOrderCommand (command : Command) (name : String) : Live Unit := do
  let outcome ← attempt (executeOrderCommand command)
  match outcome with
  | .ok (status,liveSideEffect) => finish command name .processed status liveSideEffect
  | .error e =>
    if Bridge.isCommandError e then finish command name .rejected "REJECTED_SAFETY_GATE" false
    else
      update (fun s => { s with liveCanaryHalted := true })
      finish command name .unknown "LIVE_CANARY_MUTATION_UNKNOWN" true

def processClaimed (name : String) : Live Unit := do
  let decoded ← attempt (readClaimed name)
  match decoded with
  | .error _ => rejectClaimed name
  | .ok command =>
    let now ← ask .clock
    if command.expiresMs ≤ ((now / 1000 : Nat) : Int) then
      finish command name .rejected "REJECTED_EXPIRED" false
    else if command.commandType = .requestSnapshot then
      processSnapshotRequest command name
    else processOrderCommand command name

/-- `if isfile(claimed): move to unknown`, errors ignored. -/
def abandon (name : String) : Live Unit := do
  let present ← ask (.isFile .claimed name)
  if present then discard (attempt (call (.move .claimed .unknown name))) else return ()

def recoverOrphan (name : String) : Live Unit :=
  tryCatch (do
    let command ← readClaimed name
    call (.move .claimed .unknown name)
    if command.commandType = .requestSnapshot then
      call (.commandResult command.commandId "UNKNOWN_ORPHANED" false)
    else call (.commandResult command.commandId "LIVE_CANARY_ORPHANED_UNKNOWN" true))
    (fun _ => abandon name)

def recoverOrphanedClaims : Live Unit := do
  let s ← self
  if s.orphanRecoveryDone then return ()
  else
    update (fun s => { s with orphanRecoveryDone := true })
    let names ← attempt (call (.listDir .claimed))
    match names with
    | .error _ => return ()
    | .ok names => each recoverOrphan names

def claim (name : String) : Live Unit :=
  tryCatch (do
    let taken ← ask (.isFile .claimed name)
    if taken then return ()
    else
      call (.move .inbox .claimed name)
      processClaimed name)
    (fun _ => abandon name)

def drainCommandInbox : Live Unit := do
  recoverOrphanedClaims
  let names ← attempt (call (.listDir .inbox))
  match names with
  | .error _ => return ()
  | .ok names => each claim (names.take Bridge.commandBatch)

/-- `mutation_gate_valid`, with the constants of this build. -/
def mutationGateValid (account : Bridge.Account) : Bool :=
  account.fingerprint = authorizedAccountFingerprint && account.accountType.toUpper = "STOCK"

/-- A session of the Bridge: module load, binding, and then command ticks. -/
def process (account : Bridge.Account) (ticks : Nat) : Prog LiveEff Unit :=
  .op .uuid4 fun sessionId =>
    if mutationGateValid account then
      (each (fun _ => drainCommandInbox) (List.range ticks)
        ⟨account.fingerprint,account.accountType,sessionId,false,0,0,false⟩).bind
          (fun _ => .pure ())
    else .pure ()

end LiveCanary
end BigQmt
