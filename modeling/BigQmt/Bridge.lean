import BigQmt.CommandSpool
import BigQmt.Protocol
set_option autoImplicit false

/-!
`qmt_side/BIGQMT_EXECUTION_BRIDGE_V05_GUOJIN_SIM.py`: the command path of the
Bridge, one effect at a time. A file is named by its stem.
-/

namespace BigQmt

open Resumption Proc

/-- `_STATE`, as far as commands use it. -/
structure BridgeState where
  accountFingerprint : String
  accountType : String
  sessionId : String
  orphanRecoveryDone : Bool
  simulationSubmitCalls : Nat
  simulationCancelCalls : Nat
  deriving DecidableEq, Repr

abbrev Bridge (α : Type) : Type 1 := Proc Eff PyError BridgeState α

namespace Bridge

def authorizedAccountFingerprint : String :=
  "sha256:ff266d673e28fbba5da4bfe2c68975f75b6a9fb5b89014503409b2b014ce0702"

def simulationMaxOrderQuantity : Int := 100

def simulationMaxSubmitCalls : Nat := 2000

def simulationMaxCancelCalls : Nat := 2000

def commandBatch : Nat := 16

/-- The members of the command object that are read after its validation. -/
structure Command where
  commandId : String
  commandType : QmtCommandType
  expiresMs : Int
  accountFingerprint : String
  brokerToken : Option String
  payload : Fields
  deriving DecidableEq

def commandError {α : Type} (message : String) : Except PyError α := .error (.commandError message)

/-- The `command` object of a frame of the supported versions. -/
def frameCommand (raw : Raw) : Except PyError Fields :=
  refuse (raw.size == 0 || maxCommandFrameBytes < raw.size)
    (.commandError "invalid command frame size") <|
  match raw.document with
  | none => commandError "invalid command JSON"
  | some document =>
    match document.dict with
    | none => commandError "unsupported command transport version"
    | some body =>
      refuse (body.get "command_transport_version" ≠ some (.text "1"))
        (.commandError "unsupported command transport version") <|
      match (body.get "command").bind Json.dict with
      | none => commandError "missing command object"
      | some command =>
        refuse (command.get "command_protocol_version" ≠ some (.text "0.1"))
          (.commandError "unsupported command protocol version") (.ok command)

/-- `command.get("broker_token")` of an order command, after its checks. -/
def orderToken (accountFingerprint : String) (command : Fields) : Except PyError String := do
  let clientOrderId ← member command "client_order_id" (fun v => v.str.filter (· ≠ ""))
    (.commandError "missing client_order_id")
  let token ← member command "broker_token" (fun v => v.str.filter (fun t => t ≠ "" && t.length < 24))
    (.commandError "invalid broker_token")
  refuse (token ≠ tokenText accountFingerprint clientOrderId)
    (.commandError "broker_token identity mismatch") (.ok token)

/-- `_read_command_frame`, on the bytes of the file. -/
def readCommandFrame (accountFingerprint : String) (raw : Raw) : Except PyError Command := do
  let command ← frameCommand raw
  let commandId ← member command "command_id" (fun v => v.str.filter (· ≠ ""))
    (.commandError "invalid command_id")
  let commandType ← member command "command_type" (fun v => v.str.bind QmtCommandType.ofValue)
    (.commandError "unsupported command_type")
  let createdMs ← member command "created_ms" Json.integral
    (.commandError "invalid command time window")
  let expiresMs ← member command "expires_ms" Json.integral
    (.commandError "invalid command time window")
  refuse (expiresMs ≤ createdMs) (.commandError "invalid command time window") (.ok ())
  refuse (command.get "account_fingerprint" ≠ some (.text accountFingerprint))
    (.commandError "account fingerprint mismatch") (.ok ())
  let payload ← member command "payload" Json.dict (.commandError "invalid command payload")
  if commandType = .requestSnapshot then
    return ⟨commandId,commandType,expiresMs,accountFingerprint,none,payload⟩
  else
    let token ← orderToken accountFingerprint command
    return ⟨commandId,commandType,expiresMs,accountFingerprint,some token,payload⟩

/-- `_simulation_order_symbol`: six digits with a mainland market, or five with
a Hong Kong one. -/
def simulationOrderSymbol (value : Option Json) : Option String :=
  (value.bind Json.str).filter (fun s =>
    match s.toList.splitOn '.' with
    | [code,market] => code.all Char.isDigit && (
        (String.ofList market ∈ ["SH","SZ"] && code.length = 6) ||
        (String.ofList market ∈ ["HK","HGT","SGT"] && code.length = 5))
    | _ => false)

/-- A decimal literal: `mantissa * 10 ^ exponent`, with its sign. -/
structure Decimal where
  negative : Bool
  mantissa : Nat
  exponent : Int
  deriving DecidableEq, Repr

/-- Digits in groups that single underscores separate, as `float` reads them. -/
def digitGroups (cs : List Char) : Option (List Char) :=
  let groups := cs.splitOn '_'
  if groups.all (fun g => g ≠ [] && g.all Char.isDigit) then some groups.flatten else none

def digitsNat (cs : List Char) : Nat := cs.foldl (fun n c => 10 * n + (c.toNat - '0'.toNat)) 0

def exponentOf (cs : List Char) : Option Int :=
  match cs with
  | [] => some 0
  | _ :: '-' :: ds => (digitGroups ds).map (fun ds => -(digitsNat ds : Int))
  | _ :: '+' :: ds => (digitGroups ds).map (fun ds => (digitsNat ds : Int))
  | _ :: ds => (digitGroups ds).map (fun ds => (digitsNat ds : Int))

/-- The digits before and after the point of an unsigned literal; one of the two
parts may be missing. -/
def unsignedDecimal (negative : Bool) (cs : List Char) : Option Decimal :=
  let isExponent := fun c => c = 'e' || c = 'E'
  let number := cs.takeWhile (fun c => !isExponent c)
  match exponentOf (cs.dropWhile (fun c => !isExponent c)),number.splitOn '.' with
  | some e,[whole] => (digitGroups whole).map (fun ds => ⟨negative,digitsNat ds,e⟩)
  | some e,[whole,fraction] =>
    match (if whole = [] then some [] else digitGroups whole),
        (if fraction = [] then some [] else digitGroups fraction) with
    | some ws,some fs =>
      if ws = [] ∧ fs = [] then none
      else some ⟨negative,digitsNat (ws ++ fs),e - fs.length⟩
    | _,_ => none
  | _,_ => none

/-- The reading of `float(text)`; `inr` is an infinity or a NaN. -/
def floatText (s : String) : Option (Decimal ⊕ Unit) :=
  let cs := ((s.toList.dropWhile pySpace).reverse.dropWhile pySpace).reverse
  let (negative,rest) := match cs with
    | '-' :: rest => (true,rest)
    | '+' :: rest => (false,rest)
    | _ => (false,cs)
  if String.ofList (rest.map Char.toLower) ∈ ["inf","infinity","nan"] then some (.inr ())
  else (unsignedDecimal negative rest).map .inl

/-- `mantissa * 10 ^ exponent` against `n / 2 ^ k`. -/
def Decimal.le (d : Decimal) (n k : Nat) : Bool :=
  d.negative || d.mantissa * 10 ^ d.exponent.toNat * 2 ^ k ≤ n * 10 ^ (-d.exponent).toNat

/-- `0.0 < float(d) <= 100000.0`. A double is positive when the number is above
half the least subnormal, and at most `100000.0` when the number is at most half
a unit in the last place above it. -/
def Decimal.inRange (d : Decimal) : Bool := !d.le 1 1075 && d.le (100000 * 2 ^ 37 + 1) 37

/-- Whether the limit price is in the safety range; `none` when `float` raises. -/
def priceInRange (value : Option Json) : Option Bool :=
  let ofText := fun s => (floatText s).map (fun r =>
    match r with
    | .inl d => d.inRange
    | .inr _ => false)
  match value with
  | some (.text s) => ofText s
  | some (.real digits) => ofText digits
  | some (.int n) => some (0 < n && n ≤ 100000)
  | some (.bool b) => some b
  | _ => none

/-- The call that a validated command makes, and what it was compared with. -/
def brokerCall (s : BridgeState) (command : Command) (checkedMs : Int) (api : BrokerApi) :
    BrokerCall :=
  ⟨api,command.commandId,command.expiresMs,command.accountFingerprint,
    command.payload.get "expected_qmt_session_id",s.accountFingerprint,s.sessionId,checkedMs⟩

def executeSubmit (command : Command) (checkedMs : Int) : Bridge (String × Bool) := do
  let s ← self
  let payload := command.payload
  if simulationMaxSubmitCalls ≤ s.simulationSubmitCalls then
    throw (.commandError "simulation submit session limit reached")
  else
    match priceInRange (payload.get "limit_price") with
    | none => throw (.commandError "invalid simulation limit price")
    | some inRange =>
      match simulationOrderSymbol (payload.get "symbol"),payload.textAt "side",
          payload.numAt "quantity" with
      | none,_,_ => throw (.commandError
          "simulation calibration requires a supported side and symbol")
      | some symbol,side,quantity =>
        if side ≠ some "BUY" ∧ side ≠ some "SELL" then
          throw (.commandError "simulation calibration requires a supported side and symbol")
        else if !quantity.any (fun q => 0 < q && q ≤ simulationMaxOrderQuantity) then
          throw (.commandError "simulation calibration quantity exceeds the bounded range")
        else if !inRange then
          throw (.commandError "simulation limit price is outside the safety range")
        else
          let _ ← call (.broker (brokerCall s command checkedMs (.passorder
            (if side = some "BUY" then 23 else 24) symbol
            ((payload.get "limit_price").getD .null) (quantity.getD 0)
            (command.brokerToken.getD ""))))
          update (fun s => { s with simulationSubmitCalls := s.simulationSubmitCalls + 1 })
          return ("SIMULATION_SUBMIT_CALL_RETURNED",true)

/-- `_simulation_cancel_target`. -/
def cancelTarget (command : Command) : Bridge String := do
  let rows ← call .tradeDetail
  match rows with
  | none => throw (.commandError "order query returned None")
  | some rows =>
    let brokerOrderId := command.payload.textAt "broker_order_id"
    let matching := rows.filter (fun r =>
      r.orderSysId = brokerOrderId ∧ r.remark = command.brokerToken)
    if matching.length ≠ 1 then
      throw (.commandError "cancel target is not one exact token-matched order")
    else
      return brokerOrderId.getD ""

def executeCancel (command : Command) (checkedMs : Int) : Bridge (String × Bool) := do
  let s ← self
  if simulationMaxCancelCalls ≤ s.simulationCancelCalls then
    throw (.commandError "simulation cancel session limit reached")
  else
    let brokerOrderId ← cancelTarget command
    let cancellable ← call (.canCancelOrder brokerOrderId)
    if !cancellable then
      return ("SIMULATION_CANCEL_NOT_CANCELLABLE",false)
    else
      let sent ← call (.broker (brokerCall s command checkedMs (.cancel brokerOrderId)))
      update (fun s => { s with simulationCancelCalls := s.simulationCancelCalls + 1 })
      return (if sent then "SIMULATION_CANCEL_SIGNAL_SENT" else "SIMULATION_CANCEL_NOT_SENT",true)

def executeOrderCommand (command : Command) (checkedMs : Int) : Bridge (String × Bool) := do
  let s ← self
  if s.accountFingerprint ≠ authorizedAccountFingerprint ∨ s.accountType.toUpper ≠ "STOCK" then
    throw (.commandError "simulation mutation deployment gate is closed")
  else if command.payload.get "simulation_calibration" ≠ some (.bool true) ∨
      command.payload.get "expected_qmt_session_id" ≠ some (.text s.sessionId) then
    throw (.commandError "missing current-session simulation authorization")
  else
    match command.commandType with
    | .submitLimit => executeSubmit command checkedMs
    | .cancelOrder => executeCancel command checkedMs
    | .requestSnapshot => throw (.commandError "unsupported simulation mutation command")

def commandResult (command : Command) (status : String) (liveSideEffect : Bool) : Bridge Unit :=
  call (.commandResult command.commandId status liveSideEffect)

def readClaimed (name : String) : Bridge Command := do
  let s ← self
  let raw ← call (.readFile .claimed name)
  Proc.ofExcept (readCommandFrame s.accountFingerprint raw)

/-- The claimed file goes to `target`, and the result is reported. -/
def finish (command : Command) (name : String) (target : SpoolDir) (status : String)
    (liveSideEffect : Bool) : Bridge Unit := do
  call (.move .claimed target name)
  commandResult command status liveSideEffect

def rejectClaimed (name : String) : Bridge Unit := do
  let present ← ask (.isFile .claimed name)
  if present then call (.move .claimed .rejected name) else return ()

/-- What became of a command that was run: its result, or the exception. -/
def attempt {α : Type} (x : Bridge α) : Bridge (Except PyError α) :=
  tryCatch (do
    let a ← x
    return .ok a) (fun e => return .error e)

def isCommandError : PyError → Bool
  | .commandError _ => true
  | _ => false

def processSnapshotRequest (command : Command) (name : String) : Bridge Unit := do
  let outcome ← attempt (call .readSnapshot)
  match outcome with
  | .error _ => call (.move .claimed .unknown name)
  | .ok _ => finish command name .processed "SNAPSHOT_EMITTED" false

def processOrderCommand (command : Command) (name : String) (checkedMs : Int) : Bridge Unit := do
  let outcome ← attempt (executeOrderCommand command checkedMs)
  match outcome with
  | .ok (status,liveSideEffect) => finish command name .processed status liveSideEffect
  | .error e =>
    if isCommandError e then finish command name .rejected "REJECTED_SAFETY_GATE" false
    else finish command name .unknown "SIMULATION_MUTATION_UNKNOWN" true

def processClaimed (name : String) : Bridge Unit := do
  let decoded ← attempt (readClaimed name)
  match decoded with
  | .error _ => rejectClaimed name
  | .ok command =>
    let nowMs ← nowMillis
    if command.expiresMs ≤ nowMs then
      finish command name .rejected "REJECTED_EXPIRED" false
    else if command.commandType = .requestSnapshot then
      processSnapshotRequest command name
    else
      processOrderCommand command name nowMs

/-- `if isfile(claimed): move to unknown`, errors ignored. -/
def abandon (name : String) : Bridge Unit := do
  let present ← ask (.isFile .claimed name)
  if present then discard (attempt (call (.move .claimed .unknown name))) else return ()

def recoverOrphan (name : String) : Bridge Unit :=
  tryCatch (do
    let command ← readClaimed name
    call (.move .claimed .unknown name)
    if command.commandType = .requestSnapshot then
      commandResult command "UNKNOWN_ORPHANED" false
    else
      commandResult command "SIMULATION_ORPHANED_UNKNOWN" true)
    (fun _ => abandon name)

def recoverOrphanedClaims : Bridge Unit := do
  let s ← self
  if s.orphanRecoveryDone then return ()
  else
    update (fun s => { s with orphanRecoveryDone := true })
    let names ← attempt (call (.listDir .claimed))
    match names with
    | .error _ => return ()
    | .ok names => each recoverOrphan names

def claim (name : String) : Bridge Unit :=
  tryCatch (do
    let taken ← ask (.isFile .claimed name)
    if taken then return ()
    else
      call (.move .inbox .claimed name)
      processClaimed name)
    (fun _ => abandon name)

def drainCommandInbox : Bridge Unit := do
  recoverOrphanedClaims
  let names ← attempt (call (.listDir .inbox))
  match names with
  | .error _ => return ()
  | .ok names => each claim (names.take commandBatch)

/-- The account the terminal is logged into, as `_bind_runtime` reads it. -/
structure Account where
  fingerprint : String
  accountType : String
  deriving DecidableEq, Repr

/-- `mutation_gate_valid`, with the constants of this build. -/
def mutationGateValid (account : Account) : Bool :=
  account.fingerprint = authorizedAccountFingerprint && account.accountType.toUpper = "STOCK"

/-- A Bridge process: module load, binding, and then command ticks. -/
def process (account : Account) (ticks : Nat) : Prog Eff Unit :=
  .op .uuid4 fun sessionId =>
    if mutationGateValid account then
      (each (fun _ => drainCommandInbox) (List.range ticks)
        ⟨account.fingerprint,account.accountType,sessionId,false,0,0⟩).bind (fun _ => .pure ())
    else .pure ()

end Bridge
end BigQmt
