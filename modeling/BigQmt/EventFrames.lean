import BigQmt.Ingress
set_option autoImplicit false

/-!
The transport frame of an event, and that reading it gives the event back.
-/

namespace BigQmt

theorem EventType.ofValue_value (t : EventType) : EventType.ofValue t.value = some t := by
  cases t <;> decide

/-- The members of an event object, in the order they are written. -/
def QmtEvent.members (e : QmtEvent) : Fields :=
  .cons "protocol_version" (.text "0.2") <|
  .cons "session_id" (.text e.sessionId) <|
  .cons "sequence" (.int e.sequence) <|
  .cons "timestamp_ms" (.int e.timestampMs) <|
  .cons "event_type" (.text e.eventType.value) <|
  .cons "source" (.text e.source) <|
  .cons "account_fingerprint" (.text e.accountFingerprint) <|
  .cons "account_type" (optionText e.accountType) <|
  .cons "terminal_instance_id" (optionText e.terminalInstanceId) <|
  .cons "payload" (.object e.payload) .nil

/-- The bytes of `_transport_frame`. -/
def QmtEvent.frame (e : QmtEvent) : Raw :=
  Raw.dumps <| .object <|
    .cons "transport_version" (.text "1") <|
    .cons "event" (.object e.members) .nil

/-- `encode_transport_frame`, and `_transport_frame` of the Bridge. -/
def encodeTransportFrame (e : QmtEvent) : Except PyError Raw :=
  refuse (maxFrameBytes < e.frame.size) (.valueError "event frame too large") (.ok e.frame)

theorem encodeTransportFrame_ok {e : QmtEvent} {raw : Raw} (h : encodeTransportFrame e = .ok raw) :
    raw = e.frame ∧ e.frame.size ≤ maxFrameBytes := by
  simp only [encodeTransportFrame,refuse_eq_ok,Except.ok.injEq] at h
  exact ⟨h.2.symm,by simpa using h.1⟩

theorem decodeTransportFrame_frame {e : QmtEvent} (h : e.frame.size ≤ maxFrameBytes) :
    decodeTransportFrame e.frame = QmtEvent.fromMapping e.members := by
  have hpos : (e.frame.size == 0) = false := by simp [QmtEvent.frame,Raw.dumps]
  have hmax : decide (maxFrameBytes < e.frame.size) = false := by simpa using h
  simp only [decodeTransportFrame,hpos,hmax,Bool.or_self,refuse]
  rfl

theorem optionalMember_ok {value : Fields} {key : String} {e : PyError} {o o' : Option String}
    (hget : value.get key = some (optionText o)) (h : optionalMember value key e = .ok o') :
    o' = o := by
  rw [optionalMember_eq hget] at h
  exact (Except.ok.inj h).symm

theorem member_value {α : Type} {value : Fields} {key : String} {read : Json → Option α}
    {e : PyError} {v : Json} {a : α} (hv : value.get key = some v)
    (h : member value key read e = .ok a) : read v = some a := by
  obtain ⟨v',hv',hr⟩ := member_ok h
  rw [hv] at hv'
  cases hv'
  exact hr

/-- What is read from the members of an event is that event. -/
theorem fromMapping_members {e e' : QmtEvent} (h : QmtEvent.fromMapping e.members = .ok e') :
    e' = e := by
  unfold QmtEvent.fromMapping at h
  obtain ⟨_,-,h⟩ := Except.ok_of_bind h
  obtain ⟨sessionId,hsession,h⟩ := Except.ok_of_bind h
  obtain ⟨sequence,hsequence,h⟩ := Except.ok_of_bind h
  obtain ⟨timestampMs,htimestamp,h⟩ := Except.ok_of_bind h
  obtain ⟨_,-,h⟩ := Except.ok_of_bind h
  obtain ⟨eventType,htype,h⟩ := Except.ok_of_bind h
  obtain ⟨source,hsource,h⟩ := Except.ok_of_bind h
  obtain ⟨account,haccount,h⟩ := Except.ok_of_bind h
  obtain ⟨accountType,haccountType,h⟩ := Except.ok_of_bind h
  obtain ⟨terminal,hterminal,h⟩ := Except.ok_of_bind h
  obtain ⟨_,-,h⟩ := Except.ok_of_bind h
  obtain ⟨payload,hpayload,h⟩ := Except.ok_of_bind h
  obtain ⟨_,-,h⟩ := Except.ok_of_bind h
  have hs := member_value (v := .text e.sessionId) rfl hsession
  have hq := member_value (v := .int e.sequence) rfl hsequence
  have hm := member_value (v := .int e.timestampMs) rfl htimestamp
  have ht := member_value (v := .text e.eventType.value) rfl htype
  have ho := member_value (v := .text e.source) rfl hsource
  have ha := member_value (v := .text e.accountFingerprint) rfl haccount
  have hp := member_value (v := .object e.payload) rfl hpayload
  have hat := optionalMember_ok (o := e.accountType) rfl haccountType
  have htt := optionalMember_ok (o := e.terminalInstanceId) rfl hterminal
  simp only [Json.str,Json.num,Json.dict,Option.bind_some,EventType.ofValue_value,
    Option.filter_eq_some_iff,Option.some.injEq] at hs hq hm ht ho ha hp
  obtain ⟨⟨rfl,-⟩,⟨rfl,-⟩,⟨rfl,-⟩,⟨rfl,-⟩,⟨rfl,-⟩⟩ := And.intro hs (And.intro hq (And.intro hm
    (And.intro ho ha)))
  subst ht hp hat htt
  exact (Except.ok.inj h).symm

/-- The frame of an event reads back as that event, or not at all. -/
theorem decode_frame_eq {e e' : QmtEvent} (h : decodeTransportFrame e.frame = .ok e') : e' = e := by
  have hsize : e.frame.size ≤ maxFrameBytes := by
    by_contra hbig
    have hmax : decide (maxFrameBytes < e.frame.size) = true := by simpa using hbig
    simp [decodeTransportFrame,hmax,refuse] at h
  rw [decodeTransportFrame_frame hsize] at h
  exact fromMapping_members h

theorem member_filter_eq {α : Type} {value : Fields} {key : String} {read : Json → Option α}
    {p : α → Bool} {e : PyError} {v : Json} {a : α} (hv : value.get key = some v)
    (hr : read v = some a) (hp : p a = true) :
    member value key (fun v => (read v).filter p) e = .ok a :=
  member_eq hv (by simp [hr,hp])

/-- The members of a valid event are read as that event. -/
theorem fromMapping_valid {e : QmtEvent} (hv : e.Valid) : QmtEvent.fromMapping e.members = .ok e := by
  have hsession : ∀ err, member e.members "session_id"
      (fun v => v.str.filter (fun s => !decide (s = ""))) err = .ok e.sessionId :=
    fun err => member_filter_eq (v := .text e.sessionId) rfl rfl (by simpa using hv.sessionId)
  have hsequence : ∀ err, member e.members "sequence" (fun v => v.num.filter (0 < ·)) err =
      .ok e.sequence :=
    fun err => member_filter_eq (v := .int e.sequence) rfl rfl (by simpa using hv.sequence)
  have htimestamp : ∀ err, member e.members "timestamp_ms" (fun v => v.num.filter (0 < ·)) err =
      .ok e.timestampMs :=
    fun err => member_filter_eq (v := .int e.timestampMs) rfl rfl (by simpa using hv.timestampMs)
  have hhashed : (e.members.get "event_type").any unhashable = false := rfl
  have htype : ∀ err, member e.members "event_type" (fun v => v.str.bind EventType.ofValue) err =
      .ok e.eventType :=
    fun err => member_eq (v := .text e.eventType.value) rfl (EventType.ofValue_value _)
  have hsource : ∀ err, member e.members "source"
      (fun v => v.str.filter (fun s => !decide (s = ""))) err = .ok e.source :=
    fun err => member_filter_eq (v := .text e.source) rfl rfl (by simpa using hv.source)
  have haccount : ∀ err, member e.members "account_fingerprint" (fun v => v.str.filter isSha256)
      err = .ok e.accountFingerprint :=
    fun err => member_filter_eq (v := .text e.accountFingerprint) rfl rfl hv.accountFingerprint
  have haccountType : ∀ err, optionalMember e.members "account_type" err = .ok e.accountType :=
    fun err => optionalMember_eq rfl
  have hterminal : ∀ err, optionalMember e.members "terminal_instance_id" err =
      .ok e.terminalInstanceId := fun err => optionalMember_eq rfl
  have hpayload : ∀ err, member e.members "payload" Json.dict err = .ok e.payload :=
    fun err => member_eq (v := .object e.payload) rfl rfl
  have hversion : e.members.get "protocol_version" = some (.text "0.2") := rfl
  have hinstance := hv.terminalInstanceId
  have hvalid := hv.payload
  simp [QmtEvent.fromMapping,hversion,hsession,hsequence,htimestamp,hhashed,htype,hsource,
    haccount,haccountType,hterminal,hpayload,hinstance,hvalid,refuse,bind,Except.bind,pure,Except.pure]

/-- The frame of a valid event that fits reads back as that event. -/
theorem decode_frame {e : QmtEvent} (hv : e.Valid) (h : e.frame.size ≤ maxFrameBytes) :
    decodeTransportFrame e.frame = .ok e := by
  rw [decodeTransportFrame_frame h]
  exact fromMapping_valid hv

end BigQmt
