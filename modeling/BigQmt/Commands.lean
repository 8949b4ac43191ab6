import BigQmt.BrokerEvidence
import BigQmt.Errors
import BigQmt.Json
import BigQmt.Sha256
set_option autoImplicit false

/-!
`qmt/commands.py`: commands and the frames that carry them through the spool.
-/

namespace BigQmt

inductive QmtCommandType where
  | submitLimit | cancelOrder | requestSnapshot
  deriving DecidableEq, Repr

def QmtCommandType.value : QmtCommandType → String
  | .submitLimit => "SUBMIT_LIMIT"
  | .cancelOrder => "CANCEL_ORDER"
  | .requestSnapshot => "REQUEST_SNAPSHOT"

def QmtCommandType.ofValue (s : String) : Option QmtCommandType :=
  if s = "SUBMIT_LIMIT" then some .submitLimit
  else if s = "CANCEL_ORDER" then some .cancelOrder
  else if s = "REQUEST_SNAPSHOT" then some .requestSnapshot
  else none

structure QmtCommand where
  commandId : String
  createdMs : Int
  expiresMs : Int
  accountFingerprint : String
  commandType : QmtCommandType
  clientOrderId : Option String
  brokerToken : Option String
  payload : Fields
  deriving DecidableEq

def maxCommandFrameBytes : Nat := 64 * 1024

/-- `"BQ" + sha256(account + "\0" + client)[:20]`, the text QMT carries for an order. -/
def tokenText (accountFingerprint clientOrderId : String) : String :=
  "BQ" ++ String.ofList
    ((Sha256.hexdigest (accountFingerprint ++ "\x00" ++ clientOrderId)).take 20)

def brokerTokenFor (accountFingerprint clientOrderId : String) : Except PyError String :=
  refuse (!isSha256 accountFingerprint) (.commandError "invalid account_fingerprint") <|
  refuse (clientOrderId == "") (.commandError "client_order_id must be a non-empty string") <|
  .ok (tokenText accountFingerprint clientOrderId)

/-- `^[A-Za-z0-9._-]{1,80}$`. -/
def isCommandId (s : String) : Bool :=
  1 ≤ s.length && s.length ≤ 80 &&
    s.toList.all (fun c => c.isAlphanum || c ∈ ['.','_','-'])

def Fields.textAt (payload : Fields) (key : String) : Option String :=
  (payload.get key).bind Json.str

/-- `payload.get(key)` is absent or `null`, or passes the check. -/
def Fields.optionalAt (payload : Fields) (key : String) (check : Json → Bool) : Bool :=
  match payload.get key with
  | none | some .null => true
  | some v => check v

def nonemptyText (v : Option String) : Bool := v.any (· ≠ "")

def oneOf (values : List String) (v : Json) : Bool := v.str.any (· ∈ values)

def validateSubmitPayload (payload : Fields) : Except PyError Unit :=
  refuse (!nonemptyText (payload.textAt "symbol")) (.commandError "submit requires symbol") <|
  refuse (!((payload.get "side").any (oneOf ["BUY","SELL"])))
    (.commandError "submit side must be BUY or SELL") <|
  refuse (!(((payload.get "quantity").bind Json.num).any (0 < ·)))
    (.commandError "submit quantity must be positive integer") <|
  refuse (!nonemptyText (payload.textAt "limit_price"))
    (.commandError "submit limit_price must be text") <|
  refuse (!payload.optionalAt "order_style" (oneOf ["LIMIT"]))
    (.commandError "submit order_style currently supports LIMIT only") <|
  refuse (!payload.optionalAt "market" (oneOf ["AUTO","CN","HK_CONNECT"]))
    (.commandError "unsupported submit market") <|
  refuse (!payload.optionalAt "route_hint" (oneOf ["AUTO","HGT","SGT"]))
    (.commandError "unsupported submit route_hint") <|
  refuse ((payload.get "route_hint").any (oneOf ["HGT","SGT"]) &&
    !payload.optionalAt "market" (oneOf ["HK_CONNECT"]))
    (.commandError "HGT/SGT route_hint requires HK_CONNECT market") (.ok ())

/-- The simulation clause that ends the validation of an order command. -/
def validateSession (payload : Fields) : Except PyError Unit :=
  refuse (payload.get "simulation_calibration" = some (.bool true) &&
    !nonemptyText (payload.textAt "expected_qmt_session_id"))
    (.commandError "simulation calibration requires expected_qmt_session_id") (.ok ())

def validateOrderPayload (command : QmtCommand) : Except PyError Unit :=
  match command.commandType with
  | .submitLimit => (validateSubmitPayload command.payload).bind
      (fun _ => validateSession command.payload)
  | .cancelOrder => refuse (!nonemptyText (command.payload.textAt "broker_order_id"))
      (.commandError "cancel requires broker_order_id") (validateSession command.payload)
  | .requestSnapshot => validateSession command.payload

/-- `_validate_command`, apart from what the types already say. -/
def validateCommand (command : QmtCommand) : Except PyError Unit :=
  refuse (!isCommandId command.commandId) (.commandError "invalid command_id") <|
  refuse (command.createdMs ≤ 0) (.commandError "created_ms must be a positive integer") <|
  refuse (command.expiresMs ≤ command.createdMs)
    (.commandError "expires_ms must be after created_ms") <|
  refuse (!isSha256 command.accountFingerprint) (.commandError "invalid account_fingerprint") <|
  if command.commandType = .requestSnapshot then
    refuse (command.clientOrderId.isSome || command.brokerToken.isSome)
      (.commandError "snapshot request must not carry order identity") (.ok ())
  else
    match command.clientOrderId with
    | none => .error (.commandError "order command requires client_order_id")
    | some clientOrderId =>
      refuse (clientOrderId == "") (.commandError "order command requires client_order_id") <| do
      let expectedToken ← brokerTokenFor command.accountFingerprint clientOrderId
      refuse (command.brokerToken ≠ some expectedToken || 24 ≤ expectedToken.length)
        (.commandError "invalid broker_token") (validateOrderPayload command)

def optionText : Option String → Json
  | none => .null
  | some s => .text s

/-- `as_mapping`, its keys in order. -/
def QmtCommand.asMapping (command : QmtCommand) : Json :=
  .object <|
    .cons "account_fingerprint" (.text command.accountFingerprint) <|
    .cons "broker_token" (optionText command.brokerToken) <|
    .cons "client_order_id" (optionText command.clientOrderId) <|
    .cons "command_id" (.text command.commandId) <|
    .cons "command_protocol_version" (.text "0.1") <|
    .cons "command_type" (.text command.commandType.value) <|
    .cons "created_ms" (.int command.createdMs) <|
    .cons "expires_ms" (.int command.expiresMs) <|
    .cons "payload" (.object command.payload) .nil

def QmtCommand.frame (command : QmtCommand) : Raw :=
  Raw.dumps <| .object <|
    .cons "command" command.asMapping <|
    .cons "command_transport_version" (.text "1") .nil

def encodeCommandFrame (command : QmtCommand) : Except PyError Raw := do
  validateCommand command
  refuse (maxCommandFrameBytes < command.frame.size)
    (.commandError "command frame exceeds maximum size") (.ok command.frame)

/-- `body["command"]` of a frame of the supported versions. -/
def commandObject (raw : Raw) : Except PyError Fields :=
  refuse (raw.size == 0 || maxCommandFrameBytes < raw.size)
    (.commandError "invalid command frame size") <|
  match raw.document with
  | none => .error (.commandError "invalid command frame JSON")
  | some document =>
    match document.dict with
    | none => .error (.commandError "unsupported command transport version")
    | some body =>
      refuse (body.get "command_transport_version" ≠ some (.text "1"))
        (.commandError "unsupported command transport version") <|
      match (body.get "command").bind Json.dict with
      | none => .error (.commandError "unsupported command protocol version")
      | some value =>
        refuse (value.get "command_protocol_version" ≠ some (.text "0.1"))
          (.commandError "unsupported command protocol version") (.ok value)

/-- A member of the command object, of the type that validation asks for. -/
def member {α : Type} (value : Fields) (key : String) (read : Json → Option α)
    (e : PyError) : Except PyError α :=
  match (value.get key).bind read with
  | none => .error e
  | some a => .ok a

/-- An optional text member: absent and `null` are both `None`. -/
def optionalMember (value : Fields) (key : String) (e : PyError) :
    Except PyError (Option String) :=
  match value.get key with
  | none | some .null => .ok none
  | some (.text s) => .ok (some s)
  | some _ => .error e

def requiredMembers : List String :=
  ["command_id","created_ms","expires_ms","account_fingerprint","command_type","payload"]

/-- The command of a command object, before its values are validated. -/
def readCommand (value : Fields) : Except PyError QmtCommand := do
  refuse (requiredMembers.any (fun key => (value.get key).isNone))
    (.commandError "invalid command frame fields") (.ok ())
  let commandType ← member value "command_type" (fun v => v.str.bind QmtCommandType.ofValue)
    (.commandError "invalid command frame fields")
  let commandId ← member value "command_id" Json.str (.typeError "command_id")
  let createdMs ← member value "created_ms" Json.num
    (.commandError "created_ms must be a positive integer")
  let expiresMs ← member value "expires_ms" Json.num
    (.commandError "expires_ms must be an integer")
  let accountFingerprint ← member value "account_fingerprint" Json.str
    (.commandError "invalid account_fingerprint")
  let clientOrderId ← optionalMember value "client_order_id"
    (.commandError "order command requires client_order_id")
  let brokerToken ← optionalMember value "broker_token" (.commandError "invalid broker_token")
  let payload ← member value "payload" Json.dict (.commandError "payload must be an object")
  return ⟨commandId,createdMs,expiresMs,accountFingerprint,commandType,clientOrderId,
    brokerToken,payload⟩

def decodeCommandFrame (raw : Raw) : Except PyError QmtCommand := do
  let value ← commandObject raw
  let command ← readCommand value
  validateCommand command
  return command

theorem ofValue_value (t : QmtCommandType) : QmtCommandType.ofValue t.value = some t := by
  cases t <;> decide

theorem frame_injective {a b : QmtCommand} (h : a.frame = b.frame) :
    a.commandId = b.commandId ∧ a.accountFingerprint = b.accountFingerprint ∧
      a.clientOrderId = b.clientOrderId ∧ a.commandType = b.commandType ∧
      a.expiresMs = b.expiresMs := by
  have hd := Raw.dumps_injective h
  simp only [QmtCommand.asMapping,Json.object.injEq,Fields.cons.injEq,Json.text.injEq,
    Json.int.injEq,and_true,true_and] at hd
  obtain ⟨hfp,-,hclient,hid,htype,-,hexp,-⟩ := hd
  have ht : a.commandType = b.commandType := by
    have := congrArg QmtCommandType.ofValue htype
    simpa [ofValue_value] using this
  have hc : a.clientOrderId = b.clientOrderId := by
    cases ha : a.clientOrderId <;> cases hb : b.clientOrderId <;>
      simp_all [optionText]
  exact ⟨hid,hfp,hc,ht,hexp⟩

theorem encodeCommandFrame_ok {c : QmtCommand} {raw : Raw} (h : encodeCommandFrame c = .ok raw) :
    validateCommand c = .ok () ∧ raw = c.frame ∧ c.frame.size ≤ maxCommandFrameBytes := by
  unfold encodeCommandFrame at h
  cases hv : validateCommand c with
  | error e => simp [hv,bind,Except.bind] at h
  | ok u =>
    simp only [hv,bind,Except.bind,refuse_eq_ok,Except.ok.injEq,decide_eq_false_iff_not,
      Nat.not_lt] at h
    exact ⟨rfl,h.2.symm,h.1⟩

/-- The members of a command object, in the order they are written. -/
def QmtCommand.members (c : QmtCommand) : Fields :=
  match c.asMapping with
  | .object fields => fields
  | _ => .nil

theorem commandObject_frame {c : QmtCommand} (h : c.frame.size ≤ maxCommandFrameBytes) :
    commandObject c.frame = .ok c.members := by
  have hpos : (c.frame.size == 0) = false := by simp [QmtCommand.frame,Raw.dumps]
  have hmax : decide (maxCommandFrameBytes < c.frame.size) = false := by simpa using h
  rw [commandObject,refuse_eq_ok,hpos,hmax]
  exact ⟨rfl,rfl⟩

theorem member_eq {α : Type} {value : Fields} {key : String} {read : Json → Option α}
    {e : PyError} {v : Json} {a : α} (hv : value.get key = some v) (ha : read v = some a) :
    member value key read e = .ok a := by
  simp [member,hv,ha]

theorem optionalMember_eq {value : Fields} {key : String} {e : PyError} {o : Option String}
    (h : value.get key = some (optionText o)) : optionalMember value key e = .ok o := by
  cases o <;> simp [optionalMember,h,optionText]

theorem requiredMembers_present (c : QmtCommand) :
    requiredMembers.any (fun key => (c.members.get key).isNone) = false := rfl

theorem readCommand_members (c : QmtCommand) : readCommand c.members = .ok c := by
  have htype : member c.members "command_type" (fun v => v.str.bind QmtCommandType.ofValue)
      (.commandError "invalid command frame fields") = .ok c.commandType :=
    member_eq (v := .text c.commandType.value) rfl (ofValue_value _)
  have hclient : ∀ e, optionalMember c.members "client_order_id" e = .ok c.clientOrderId :=
    fun e => optionalMember_eq rfl
  have htoken : ∀ e, optionalMember c.members "broker_token" e = .ok c.brokerToken :=
    fun e => optionalMember_eq rfl
  rw [readCommand,requiredMembers_present,htype,hclient,htoken]
  rfl

/-- A frame that was encoded decodes to the command it was encoded from. -/
theorem decode_encode {c : QmtCommand} {raw : Raw} (h : encodeCommandFrame c = .ok raw) :
    decodeCommandFrame raw = .ok c := by
  obtain ⟨hv,rfl,hs⟩ := encodeCommandFrame_ok h
  unfold decodeCommandFrame
  rw [commandObject_frame hs]
  simp [bind,Except.bind,readCommand_members,hv,pure,Except.pure]

end BigQmt
