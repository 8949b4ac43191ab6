import BigQmt.CommandResults
set_option autoImplicit false

/-!
`qmt/protocol.py`: the events of the Bridge and the frames that carry them.
-/

namespace BigQmt

inductive EventType where
  | snapshot | account | position | order | deal | bridgeReady | bridgeError | commandResult
  | accountCapabilities | instrumentCapabilities | instrumentTickCapabilities
  deriving DecidableEq, Repr

namespace EventType

def value : EventType → String
  | .snapshot => "snapshot"
  | .account => "account"
  | .position => "position"
  | .order => "order"
  | .deal => "deal"
  | .bridgeReady => "bridge_ready"
  | .bridgeError => "bridge_error"
  | .commandResult => "command_result"
  | .accountCapabilities => "account_capabilities"
  | .instrumentCapabilities => "instrument_capabilities"
  | .instrumentTickCapabilities => "instrument_tick_capabilities"

/-- `_ALLOWED_EVENT_TYPES`. -/
def all : List EventType :=
  [.snapshot,.account,.position,.order,.deal,.bridgeReady,.bridgeError,.commandResult,
    .accountCapabilities,.instrumentCapabilities,.instrumentTickCapabilities]

def ofValue (s : String) : Option EventType := all.find? (fun t => t.value = s)

end EventType

structure QmtEvent where
  sessionId : String
  sequence : Int
  timestampMs : Int
  eventType : EventType
  source : String
  accountFingerprint : String
  accountType : Option String
  terminalInstanceId : Option String
  payload : Fields
  deriving DecidableEq

def protocolError {α : Type} (message : String) : Except PyError α := .error (.valueError message)

def Fields.listAt (payload : Fields) (key : String) : Option (List Json) :=
  (payload.get key).bind Json.list

def Fields.numAt (payload : Fields) (key : String) : Option Int := (payload.get key).bind Json.num

def Fields.flagAt (payload : Fields) (key : String) : Option Bool :=
  match payload.get key with
  | some (.bool b) => some b
  | _ => none

def allObjects (rows : List Json) : Bool := rows.all (fun row => row.dict.isSome)

/-- A list or an object cannot be looked for in a set. -/
def unhashable : Json → Bool
  | .array _ | .object _ => true
  | _ => false

/-- The checks of a loop: the first that fails. -/
def firstError (checks : List (Except PyError Unit)) : Except PyError Unit :=
  match checks with
  | [] => .ok ()
  | c :: rest => c.bind (fun _ => firstError rest)

def validateSnapshotPayload (payload : Fields) : Except PyError Unit := do
  firstError (["account","positions","orders","deals","query_errors"].map (fun key =>
    refuse (payload.listAt key).isNone (.valueError ("snapshot " ++ key ++ " must be a list"))
      (.ok ())))
  firstError (["account","positions","orders","deals"].map (fun key =>
    refuse (!(payload.listAt key).all allObjects)
      (.valueError ("snapshot " ++ key ++ " rows must be objects")) (.ok ())))

def validateInstrumentCapabilitiesPayload (payload : Fields) : Except PyError Unit :=
  refuse (!(payload.listAt "candidates").any (· ≠ []))
    (.valueError "instrument_capabilities candidates must be non-empty") <|
  refuse (!(payload.listAt "candidates").all allObjects)
    (.valueError "instrument_capabilities candidates must be objects") <|
  refuse (!(payload.numAt "attempt").any (0 < ·))
    (.valueError "instrument_capabilities attempt must be positive") <|
  refuse (!(payload.numAt "max_attempts").any ((payload.numAt "attempt").getD 0 ≤ ·))
    (.valueError "instrument_capabilities max_attempts must cover attempt") (.ok ())

def validateTickCandidate (record : Fields) : Except PyError Unit :=
  refuse (!nonemptyText (record.textAt "symbol"))
    (.valueError "instrument_tick_capabilities symbol must be non-empty") <|
  refuse (record.flagAt "tick_observed").isNone
    (.valueError "instrument_tick_capabilities tick_observed must be boolean") <|
  refuse (!(record.numAt "callback_count").any (0 ≤ ·))
    (.valueError "instrument_tick_capabilities callback_count must be non-negative") (.ok ())

def validateInstrumentTickCapabilitiesPayload (payload : Fields) : Except PyError Unit := do
  let candidates := (payload.listAt "candidates").getD []
  let records := candidates.filterMap Json.dict
  refuse (candidates = [])
    (.valueError "instrument_tick_capabilities candidates must be non-empty") (.ok ())
  refuse (!allObjects candidates)
    (.valueError "instrument_tick_capabilities candidates must be objects") (.ok ())
  firstError (records.map validateTickCandidate)
  refuse (payload.numAt "observed_count" ≠
      some (records.countP (fun r => r.flagAt "tick_observed" = some true)))
    (.valueError "instrument_tick_capabilities observed_count mismatch") <|
    refuse (!(payload.numAt "window_seconds").any (0 < ·))
      (.valueError "instrument_tick_capabilities window_seconds must be positive") <|
    refuse (payload.flagAt "final").isNone
      (.valueError "instrument_tick_capabilities final must be boolean") (.ok ())

/-- One record of `accounts`, after the account types seen before it. -/
def validateAccountRecord (seen : List String) (row : Json) : Except PyError Unit :=
  match row.dict with
  | none => protocolError "account_capabilities account record must be an object"
  | some record =>
    refuse (!(record.textAt "account_type").any (fun t => t ≠ "" && t ∉ seen))
      (.valueError "account_capabilities account_type must be unique") <|
    refuse (!(record.textAt "account_fingerprint").any isSha256)
      (.valueError "account_capabilities invalid account_fingerprint") <|
    refuse ((record.get "status").any unhashable) (.typeError "unhashable type") <|
    refuse (!(record.get "status").any (oneOf ["DETECTED","DEGRADED","UNCONFIRMED"]))
      (.valueError "account_capabilities invalid status") <|
    firstError (["account","positions","query_errors"].map (fun key =>
      refuse (!(record.listAt key).any allObjects)
        (.valueError ("account_capabilities " ++ key ++ " must contain objects")) (.ok ())))

def accountTypes (rows : List Json) : List String :=
  rows.filterMap (fun row => row.dict.bind (fun r => r.textAt "account_type"))

def validateAccountRecords (seen : List String) : List Json → Except PyError Unit
  | [] => .ok ()
  | row :: rows => (validateAccountRecord seen row).bind
      (fun _ => validateAccountRecords (seen ++ accountTypes [row]) rows)

/-- The account types that the records report as detected. -/
def observedDetected (rows : List Json) : List String :=
  accountTypes (rows.filter (fun row => row.dict.any
    (fun r => (r.get "status").any (oneOf ["DETECTED","DEGRADED"]))))

/-- What `account_capabilities` may grant in its execution mode. -/
def validateAuthority (payload : Fields) : Except PyError Unit :=
  let submit := payload.get "live_submit"
  let cancel := payload.get "live_cancel"
  match (payload.get "execution_mode").getD (.text "SHADOW") with
  | .text "SHADOW" => refuse (submit ≠ some (.bool false) || cancel ≠ some (.bool false))
      (.valueError "SHADOW account_capabilities cannot grant live authority") (.ok ())
  | .text "SIMULATION_CALIBRATION" => refuse (submit ≠ some (.bool true) ||
        cancel ≠ some (.bool true) || payload.get "simulation_only" ≠ some (.bool true))
      (.valueError "invalid simulation account_capabilities authority") (.ok ())
  | .text "LIVE_CANARY" => refuse (submit ≠ some (.bool true) ||
        cancel ≠ some (.bool true) || payload.get "simulation_only" ≠ some (.bool false))
      (.valueError "invalid live canary account_capabilities authority") (.ok ())
  | _ => protocolError "account_capabilities execution_mode is unsupported"

def validateAccountCapabilitiesPayload (payload : Fields) : Except PyError Unit := do
  refuse (!nonemptyText (payload.textAt "selected_account_type"))
    (.valueError "account_capabilities selected_account_type must be non-empty") (.ok ())
  let detected := payload.listAt "detected_account_types"
  let names := (detected.getD []).filterMap Json.str
  refuse (detected.isNone || !(detected.getD []).all (fun v => nonemptyText v.str))
    (.valueError "account_capabilities detected_account_types must be strings") (.ok ())
  refuse (!names.Nodup)
    (.valueError "account_capabilities detected_account_types must be unique") (.ok ())
  let accounts := (payload.listAt "accounts").getD []
  refuse (accounts = []) (.valueError "account_capabilities accounts must be a non-empty list")
    (.ok ())
  validateAccountRecords [] accounts
  refuse (names ≠ observedDetected accounts)
    (.valueError "account_capabilities detected types do not match records")
    (validateAuthority payload)

/-- The results a mode admits for a command. -/
def allowedResults (mode : ExecutionMode) (command : QmtCommandType) : List ResultStatus :=
  match command,mode with
  | .requestSnapshot,_ => [.snapshotEmitted,.rejectedExpired,.unknownOrphaned]
  | _,.shadow => [.shadowAccepted,.rejectedExpired,.unknownOrphaned]
  | .submitLimit,.simulationCalibration => [.simulationSubmitCallReturned,
      .simulationMutationUnknown,.simulationOrphanedUnknown,.rejectedSafetyGate,.rejectedExpired]
  | .cancelOrder,.simulationCalibration => [.simulationCancelSignalSent,
      .simulationCancelNotCancellable,.simulationCancelNotSent,.simulationMutationUnknown,
      .simulationOrphanedUnknown,.rejectedSafetyGate,.rejectedExpired]
  | .submitLimit,.liveCanary => [.liveCanarySubmitCallReturned,
      .liveCanaryMutationUnknown,.liveCanaryOrphanedUnknown,.rejectedSafetyGate,.rejectedExpired]
  | .cancelOrder,.liveCanary => [.liveCanaryCancelSignalSent,
      .liveCanaryCancelNotCancellable,.liveCanaryCancelNotSent,.liveCanaryMutationUnknown,
      .liveCanaryOrphanedUnknown,.rejectedSafetyGate,.rejectedExpired]

def resultFlagMessage : ExecutionMode → String
  | .shadow => "SHADOW command_result cannot claim a live side effect"
  | .simulationCalibration => "simulation command_result side-effect flag is inconsistent"
  | .liveCanary => "live canary command_result side-effect flag is inconsistent"

/-- `^BQ[0-9a-f]{20}$`. -/
def isBrokerToken (s : String) : Bool :=
  match s.toList with
  | 'B' :: 'Q' :: cs => cs.length == 20 && cs.all hexDigit
  | _ => false

def validateResultIdentity (command : QmtCommandType) (payload : Fields) : Except PyError Unit :=
  if command = .requestSnapshot then
    refuse (!absentOrNull (payload.get "client_order_id") || !absentOrNull (payload.get "broker_token"))
      (.valueError "snapshot command_result cannot carry order identity") (.ok ())
  else
    refuse (!nonemptyText (payload.textAt "client_order_id"))
      (.valueError "order command_result requires client_order_id") <|
    refuse (!(payload.textAt "broker_token").any isBrokerToken)
      (.valueError "order command_result requires a 22-character broker_token") (.ok ())

def validateCommandResultPayload (payload : Fields) : Except PyError Unit :=
  refuse (!nonemptyText (payload.textAt "command_id"))
    (.valueError "command_result command_id must be non-empty text") <|
  refuse ((payload.get "command_type").any unhashable) (.typeError "unhashable type") <|
  match (payload.textAt "command_type").bind QmtCommandType.ofValue with
  | none => protocolError "command_result has unsupported command_type"
  | some command =>
    match (payload.textAt "execution_mode").bind ExecutionMode.ofValue with
    | none => protocolError "command_result execution_mode is unsupported"
    | some mode =>
      refuse ((payload.get "result_status").any unhashable) (.typeError "unhashable type") <|
      match (payload.textAt "result_status").bind ResultStatus.ofValue with
      | none => protocolError "command_result status is invalid for command_type"
      | some result =>
        refuse (result ∉ allowedResults mode command)
          (.valueError "command_result status is invalid for command_type") <|
        match payload.flagAt "live_side_effect" with
        | none => protocolError "command_result live_side_effect must be boolean"
        | some flag =>
          refuse (flag ≠ expectedSideEffect mode result) (.valueError (resultFlagMessage mode)) <|
          validateResultIdentity command payload

def EventType.validatePayload (t : EventType) (payload : Fields) : Except PyError Unit :=
  match t with
  | .snapshot => validateSnapshotPayload payload
  | .commandResult => validateCommandResultPayload payload
  | .accountCapabilities => validateAccountCapabilitiesPayload payload
  | .instrumentCapabilities => validateInstrumentCapabilitiesPayload payload
  | .instrumentTickCapabilities => validateInstrumentTickCapabilitiesPayload payload
  | _ => .ok ()

/-- `^[a-z0-9_-]{1,32}$`. -/
def isInstanceId (s : String) : Bool :=
  1 ≤ s.length && s.length ≤ 32 &&
    s.toList.all (fun c => c.isLower || c.isDigit || c ∈ ['_','-'])

/-- `QmtEvent.from_mapping`. -/
def QmtEvent.fromMapping (value : Fields) : Except PyError QmtEvent := do
  let fail := fun message => PyError.valueError message
  refuse (value.get "protocol_version" ≠ some (.text "0.2"))
    (fail "unsupported bridge protocol version") (.ok ())
  let sessionId ← member value "session_id" (fun v => v.str.filter (· ≠ ""))
    (fail "session_id must be a non-empty string")
  let sequence ← member value "sequence" (fun v => v.num.filter (0 < ·))
    (fail "sequence must be a positive integer")
  let timestampMs ← member value "timestamp_ms" (fun v => v.num.filter (0 < ·))
    (fail "timestamp_ms must be a positive integer")
  refuse ((value.get "event_type").any unhashable) (.typeError "unhashable type") (.ok ())
  let eventType ← member value "event_type" (fun v => v.str.bind EventType.ofValue)
    (fail "unsupported event_type")
  let source ← member value "source" (fun v => v.str.filter (· ≠ ""))
    (fail "source must be a non-empty string")
  let accountFingerprint ← member value "account_fingerprint" (fun v => v.str.filter isSha256)
    (fail "invalid account_fingerprint")
  let accountType ← optionalMember value "account_type"
    (fail "account_type must be a string or null")
  let terminalInstanceId ← optionalMember value "terminal_instance_id"
    (fail "invalid terminal_instance_id")
  refuse (!terminalInstanceId.all isInstanceId) (fail "invalid terminal_instance_id") (.ok ())
  let payload ← member value "payload" Json.dict (fail "payload must be an object")
  eventType.validatePayload payload
  return ⟨sessionId,sequence,timestampMs,eventType,source,accountFingerprint,accountType,
    terminalInstanceId,payload⟩

def maxFrameBytes : Nat := 1024 * 1024

def decodeTransportFrame (raw : Raw) : Except PyError QmtEvent :=
  refuse (raw.size == 0 || maxFrameBytes < raw.size) (.valueError "invalid transport frame size") <|
  refuse (!raw.oneLine) (.valueError "transport frame must contain exactly one JSON line") <|
  match raw.document with
  | none => protocolError "invalid JSON transport frame"
  | some document =>
    match document.dict with
    | none => protocolError "transport frame must be an object"
    | some body =>
      refuse (body.get "transport_version" ≠ some (.text "1"))
        (.valueError "unsupported transport version") <|
      match (body.get "event").bind Json.dict with
      | none => protocolError "transport frame event must be an object"
      | some event => QmtEvent.fromMapping event

/-- A snapshot without query errors. -/
def QmtEvent.cleanSnapshot (e : QmtEvent) : Bool :=
  e.eventType = .snapshot && !(e.payload.get "query_errors").any Json.truthy

end BigQmt
