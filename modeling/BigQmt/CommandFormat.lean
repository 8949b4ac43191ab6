import BigQmt.Bridge
import BigQmt.Ingress
set_option autoImplicit false

/-!
The two readings of a command frame: `decode_command_frame` on the Host and
`_read_command_frame` on the Bridge.
-/

namespace BigQmt

theorem tokenText_length (accountFingerprint clientOrderId : String) :
    (tokenText accountFingerprint clientOrderId).length < 24 := by
  have htake := List.length_take_le 20
    (Sha256.hexdigest (accountFingerprint ++ "\x00" ++ clientOrderId))
  have hhead : ("BQ" : String).length = 2 := rfl
  simp only [tokenText,String.length_append,String.length_ofList]
  omega

theorem tokenText_ne (accountFingerprint clientOrderId : String) :
    tokenText accountFingerprint clientOrderId ≠ "" := by
  intro h
  have hlength := congrArg String.length h
  have hhead : ("BQ" : String).length = 2 := rfl
  have hnone : ("" : String).length = 0 := rfl
  simp only [tokenText,String.length_append] at hlength
  omega

/-- What the validation has checked of the identity of a command. -/
structure QmtCommand.Identified (c : QmtCommand) : Prop where
  commandId : c.commandId ≠ ""
  window : c.createdMs < c.expiresMs
  snapshot : c.commandType = .requestSnapshot → c.clientOrderId = none ∧ c.brokerToken = none
  order : c.commandType ≠ .requestSnapshot → ∃ clientOrderId, c.clientOrderId = some clientOrderId ∧
    clientOrderId ≠ "" ∧ c.brokerToken = some (tokenText c.accountFingerprint clientOrderId)

theorem identified_of_validate {c : QmtCommand} (h : validateCommand c = .ok ()) :
    c.Identified := by
  unfold validateCommand at h
  simp only [refuse_eq_ok] at h
  obtain ⟨hid,-,hwindow,-,h⟩ := h
  have hcommandId : c.commandId ≠ "" := by
    intro heq
    rw [heq] at hid
    simp [isCommandId] at hid
  have hlt : c.createdMs < c.expiresMs := by simpa using hwindow
  by_cases htype : c.commandType = .requestSnapshot
  · rw [if_pos htype,refuse_eq_ok] at h
    refine ⟨hcommandId,hlt,fun _ => ?_,fun hnot => absurd htype hnot⟩
    simpa using h.1
  · rw [if_neg htype] at h
    refine ⟨hcommandId,hlt,fun hsnapshot => absurd hsnapshot htype,fun _ => ?_⟩
    cases hclient : c.clientOrderId with
    | none => simp [hclient] at h
    | some clientOrderId =>
      simp only [hclient,refuse_eq_ok,beq_eq_false_iff_ne,ne_eq] at h
      obtain ⟨hne,h⟩ := h
      obtain ⟨token,htoken,h⟩ := Except.ok_of_bind h
      have heq : isSha256 c.accountFingerprint = true ∧
          tokenText c.accountFingerprint clientOrderId = token := by
        simpa [brokerTokenFor,hne] using htoken
      rw [refuse_eq_ok,Bool.or_eq_false_iff] at h
      exact ⟨clientOrderId,rfl,hne,by rw [heq.2]; simpa using h.1.1⟩

namespace Bridge

variable {account : String} {raw : Raw} {command : Fields}

/-- The `command` object that `_read_command_frame` returns. -/
def readCommandObject (accountFingerprint : String) (raw : Raw) : Except PyError Fields := do
  let command ← frameCommand raw
  let _ ← readCommandFrame accountFingerprint raw
  return command

theorem orderToken_of_get {clientOrderId : String}
    (hclient : command.get "client_order_id" = some (.text clientOrderId))
    (hne : clientOrderId ≠ "")
    (htoken : command.get "broker_token" = some (.text (tokenText account clientOrderId))) :
    orderToken account command = .ok (tokenText account clientOrderId) := by
  have hlength := tokenText_length account clientOrderId
  have htext := tokenText_ne account clientOrderId
  generalize htok : tokenText account clientOrderId = token at hlength htext htoken ⊢
  have hid : member command "client_order_id" (fun v => v.str.filter (· ≠ ""))
      (.commandError "missing client_order_id") = .ok clientOrderId :=
    member_eq hclient (by simp [Json.str,hne])
  have hread : member command "broker_token" (fun v => v.str.filter (fun t => t ≠ "" && t.length < 24))
      (.commandError "invalid broker_token") = .ok token :=
    member_eq htoken (by simp [Json.str,htext,hlength])
  simp only [orderToken,bind,Except.bind,hid,hread,htok]
  simp [refuse]

/-- A frame is read by what its members are. -/
theorem readCommandFrame_of_get {commandId : String} {commandType : QmtCommandType}
    {createdMs expiresMs : Int} {payload : Fields} (hframe : frameCommand raw = .ok command)
    (hid : command.get "command_id" = some (.text commandId)) (hne : commandId ≠ "")
    (htype : command.get "command_type" = some (.text commandType.value))
    (hcreated : command.get "created_ms" = some (.int createdMs))
    (hexpires : command.get "expires_ms" = some (.int expiresMs)) (hwindow : createdMs < expiresMs)
    (haccount : command.get "account_fingerprint" = some (.text account))
    (hpayload : command.get "payload" = some (.object payload)) :
    readCommandFrame account raw =
      if commandType = .requestSnapshot then
        .ok ⟨commandId,commandType,expiresMs,account,none,payload⟩
      else (orderToken account command).map
        (fun token => ⟨commandId,commandType,expiresMs,account,some token,payload⟩) := by
  have hcommandId : member command "command_id" (fun v => v.str.filter (· ≠ ""))
      (.commandError "invalid command_id") = .ok commandId :=
    member_eq hid (by simp [Json.str,hne])
  have hcommandType : member command "command_type" (fun v => v.str.bind QmtCommandType.ofValue)
      (.commandError "unsupported command_type") = .ok commandType :=
    member_eq htype (ofValue_value _)
  have hcreatedMs : member command "created_ms" Json.integral
      (.commandError "invalid command time window") = .ok createdMs := member_eq hcreated rfl
  have hexpiresMs : member command "expires_ms" Json.integral
      (.commandError "invalid command time window") = .ok expiresMs := member_eq hexpires rfl
  have hbody : member command "payload" Json.dict (.commandError "invalid command payload") =
      .ok payload := member_eq hpayload rfl
  have hnot : ¬expiresMs ≤ createdMs := by omega
  simp only [readCommandFrame,bind,Except.bind,hframe,hcommandId,hcommandType,hcreatedMs,hexpiresMs,
    hbody,haccount]
  simp only [refuse,hnot,decide_false,ne_eq,not_true_eq_false,Bool.false_eq_true,if_false]
  split
  · rfl
  · cases orderToken account command <;> rfl

theorem frameCommand_frame {c : QmtCommand} (h : c.frame.size ≤ maxCommandFrameBytes) :
    frameCommand c.frame = .ok c.members := by
  have hpos : (c.frame.size == 0) = false := by simp [QmtCommand.frame,Raw.dumps]
  have hmax : decide (maxCommandFrameBytes < c.frame.size) = false := by simpa using h
  rw [frameCommand,refuse_eq_ok,hpos,hmax]
  exact ⟨rfl,rfl⟩

/-- The Bridge reads in a frame of the Host the command that was encoded. -/
theorem readCommandFrame_frame {c : QmtCommand} (h : c.frame.size ≤ maxCommandFrameBytes)
    (hc : c.Identified) : readCommandFrame c.accountFingerprint c.frame =
      .ok ⟨c.commandId,c.commandType,c.expiresMs,c.accountFingerprint,c.brokerToken,c.payload⟩ := by
  rw [readCommandFrame_of_get (frameCommand_frame h) rfl hc.commandId rfl rfl rfl hc.window rfl rfl]
  by_cases htype : c.commandType = .requestSnapshot
  · rw [if_pos htype,(hc.snapshot htype).2]
  · obtain ⟨clientOrderId,hclient,hne,htoken⟩ := hc.order htype
    have hgetClient : c.members.get "client_order_id" = some (.text clientOrderId) := by
      change some (optionText c.clientOrderId) = _
      rw [hclient]
      rfl
    have hgetToken : c.members.get "broker_token" =
        some (.text (tokenText c.accountFingerprint clientOrderId)) := by
      change some (optionText c.brokerToken) = _
      rw [htoken]
      rfl
    rw [if_neg htype,orderToken_of_get hgetClient hne hgetToken,htoken]
    rfl

/-- A command the Host encodes is the command that both sides read in its frame. -/
theorem command_format_agrees {c : QmtCommand} {raw : Raw} (h : encodeCommandFrame c = .ok raw) :
    decodeCommandFrame raw = .ok c ∧
      ∃ command, readCommandObject c.accountFingerprint raw = .ok command ∧
        command.get "command_id" = some (.text c.commandId) ∧
        command.get "command_type" = some (.text c.commandType.value) ∧
        command.get "created_ms" = some (.int c.createdMs) ∧
        command.get "expires_ms" = some (.int c.expiresMs) ∧
        command.get "client_order_id" = some (optionText c.clientOrderId) ∧
        command.get "broker_token" = some (optionText c.brokerToken) ∧
        command.get "payload" = some (.object c.payload) := by
  obtain ⟨hvalid,rfl,hsize⟩ := encodeCommandFrame_ok h
  refine ⟨decode_encode h,c.members,?_,rfl,rfl,rfl,rfl,rfl,rfl,rfl⟩
  have hread := readCommandFrame_frame hsize (identified_of_validate hvalid)
  simp only [readCommandObject,bind,Except.bind,frameCommand_frame hsize,hread]
  rfl

/-- A cancellation, with the token of its order. -/
def sampleCancelCommand : QmtCommand :=
  ⟨"cancel-1",1,2,authorizedAccountFingerprint,.cancelOrder,some "order-1",
    some (tokenText authorizedAccountFingerprint "order-1"),
    .cons "broker_order_id" (.text "42") .nil⟩

theorem command_format_cancel :
    decodeCommandFrame sampleCancelCommand.frame = .ok sampleCancelCommand := by
  have hencode : encodeCommandFrame sampleCancelCommand = .ok sampleCancelCommand.frame := by
    decide +kernel
  exact (command_format_agrees hencode).1

end Bridge
end BigQmt
