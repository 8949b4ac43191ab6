import BigQmt.Protocol
set_option autoImplicit false

/-!
`QmtIngressBuffer` of `qmt/receiver.py`: the cursor that gives each event its
disposition and says when the stream has to be resynchronised.
-/

namespace BigQmt

/-- What `from_mapping` has checked of an event. -/
structure QmtEvent.Valid (e : QmtEvent) : Prop where
  sessionId : e.sessionId ≠ ""
  sequence : 0 < e.sequence
  timestampMs : 0 < e.timestampMs
  source : e.source ≠ ""
  accountFingerprint : isSha256 e.accountFingerprint = true
  terminalInstanceId : e.terminalInstanceId.all isInstanceId = true
  payload : e.eventType.validatePayload e.payload = .ok ()

theorem member_ok {α : Type} {value : Fields} {key : String} {read : Json → Option α}
    {e : PyError} {a : α} (h : member value key read e = .ok a) :
    ∃ v, value.get key = some v ∧ read v = some a := by
  unfold member at h
  cases hv : value.get key with
  | none => simp [hv] at h
  | some v =>
    cases hr : read v with
    | none => simp [hv,hr] at h
    | some b => exact ⟨v,rfl,by simpa [hv,hr] using h⟩

theorem member_filter {α : Type} {value : Fields} {key : String} {read : Json → Option α}
    {p : α → Bool} {e : PyError} {a : α}
    (h : member value key (fun v => (read v).filter p) e = .ok a) : p a = true := by
  obtain ⟨v,-,hr⟩ := member_ok h
  exact (Option.filter_eq_some_iff.mp hr).2

theorem Except.ok_of_bind {ε α β : Type} {x : Except ε α} {f : α → Except ε β} {b : β}
    (h : (x >>= f) = .ok b) : ∃ a, x = .ok a ∧ f a = .ok b := by
  cases x with
  | error e => cases h
  | ok a => exact ⟨a,rfl,h⟩

/-- Every event that `from_mapping` returns is valid. -/
theorem QmtEvent.valid_of_fromMapping {value : Fields} {e : QmtEvent}
    (h : QmtEvent.fromMapping value = .ok e) : e.Valid := by
  unfold QmtEvent.fromMapping at h
  obtain ⟨_,-,h⟩ := Except.ok_of_bind h
  obtain ⟨sessionId,hsession,h⟩ := Except.ok_of_bind h
  obtain ⟨sequence,hsequence,h⟩ := Except.ok_of_bind h
  obtain ⟨timestampMs,htimestamp,h⟩ := Except.ok_of_bind h
  obtain ⟨_,-,h⟩ := Except.ok_of_bind h
  obtain ⟨eventType,-,h⟩ := Except.ok_of_bind h
  obtain ⟨source,hsource,h⟩ := Except.ok_of_bind h
  obtain ⟨account,haccount,h⟩ := Except.ok_of_bind h
  obtain ⟨accountType,-,h⟩ := Except.ok_of_bind h
  obtain ⟨terminal,-,h⟩ := Except.ok_of_bind h
  obtain ⟨_,hterminal,h⟩ := Except.ok_of_bind h
  obtain ⟨payload,-,h⟩ := Except.ok_of_bind h
  obtain ⟨⟨⟩,hpayload,h⟩ := Except.ok_of_bind h
  cases h
  constructor
  · simpa using member_filter hsession
  · simpa using member_filter hsequence
  · simpa using member_filter htimestamp
  · simpa using member_filter hsource
  · exact member_filter haccount
  · simpa using hterminal
  · exact hpayload

theorem QmtEvent.valid_of_decode {raw : Raw} {e : QmtEvent}
    (h : decodeTransportFrame raw = .ok e) : e.Valid := by
  unfold decodeTransportFrame at h
  simp only [refuse_eq_ok] at h
  obtain ⟨-,-,h⟩ := h
  cases hdoc : raw.document with
  | none => simp [hdoc,protocolError] at h
  | some document =>
    cases hbody : document.dict with
    | none => simp [hdoc,hbody,protocolError] at h
    | some body =>
      simp only [hdoc,hbody,refuse_eq_ok] at h
      cases hevent : (body.get "event").bind Json.dict with
      | none => simp [hevent,protocolError] at h
      | some event => exact QmtEvent.valid_of_fromMapping (by simpa [hevent] using h.2)

/-- An event that carries the checks of `from_mapping`. -/
abbrev ValidEvent : Type := {e : QmtEvent // e.Valid}

inductive IngressDisposition where
  | accepted | duplicate | gap
  deriving DecidableEq, Repr

structure IngressResult where
  disposition : IngressDisposition
  event : QmtEvent
  needsResync : Bool
  deriving DecidableEq

/-- `QmtIngressIdentityError`. -/
inductive IngressIdentityError where
  | terminalInstance | account
  deriving DecidableEq, Repr

def IngressIdentityError.message : IngressIdentityError → String
  | .terminalInstance => "unexpected terminal_instance_id"
  | .account => "unexpected account_fingerprint"

/-- `QmtIngressBuffer`. -/
structure IngressBuffer where
  expectedAccountFingerprint : Option String
  expectedTerminalInstanceId : Option String
  sessionId : Option String
  lastSequence : Int
  needsResync : Bool
  events : List QmtEvent
  deriving DecidableEq

namespace IngressBuffer

/-- `QmtIngressBuffer(...)`. -/
def fresh (account terminal : Option String) : IngressBuffer :=
  ⟨account,terminal,none,0,true,[]⟩

/-- The identity checks; the first valid account is pinned. -/
def pin (b : IngressBuffer) (e : QmtEvent) : Except IngressIdentityError IngressBuffer :=
  refuse (b.expectedTerminalInstanceId.any (fun t => e.terminalInstanceId ≠ some t))
    .terminalInstance <|
  match b.expectedAccountFingerprint with
  | none => .ok { b with expectedAccountFingerprint := some e.accountFingerprint }
  | some a => refuse (e.accountFingerprint ≠ a) .account (.ok b)

/-- A session change resets the cursor. -/
def enter (b : IngressBuffer) (session : String) : IngressBuffer :=
  if b.sessionId = some session then b
  else { b with
    sessionId := some session
    lastSequence := 0
    needsResync := true }

def isGap (b : IngressBuffer) (e : QmtEvent) : Bool :=
  b.lastSequence ≠ 0 && e.sequence ≠ b.lastSequence + 1

/-- The part of `ingest` after the session handling. -/
def advance (b : IngressBuffer) (e : QmtEvent) : IngressResult × IngressBuffer :=
  if e.sequence ≤ b.lastSequence then (⟨.duplicate,e,b.needsResync⟩,b)
  else
    let needsResync := !e.cleanSnapshot && (b.isGap e || b.needsResync)
    (⟨if b.isGap e then .gap else .accepted,e,needsResync⟩,{ b with
      lastSequence := e.sequence
      needsResync := needsResync
      events := b.events ++ [e] })

def ingest (b : IngressBuffer) (e : QmtEvent) :
    Except IngressIdentityError IngressResult × IngressBuffer :=
  match b.pin e with
  | .error err => (.error err,b)
  | .ok pinned => (.ok ((pinned.enter e.sessionId).advance e).1,
      ((pinned.enter e.sessionId).advance e).2)

/-- One call for each event, in order: the answers and the buffer left behind. -/
def ingestAll (b : IngressBuffer) :
    List ValidEvent → List (Except IngressIdentityError IngressResult) × IngressBuffer
  | [] => ([],b)
  | e :: es =>
    let (answers,b') := (b.ingest e.1).2.ingestAll es
    ((b.ingest e.1).1 :: answers,b')

end IngressBuffer

/-- The event of an answer that is not a duplicate. -/
def acceptedEvent : Except IngressIdentityError IngressResult → Option QmtEvent
  | .ok r => if r.disposition = .duplicate then none else some r.event
  | .error _ => none

/-- The events that received a disposition other than `DUPLICATE`, in order. -/
def accepted (answers : List (Except IngressIdentityError IngressResult)) : List QmtEvent :=
  answers.filterMap acceptedEvent

@[simp] theorem accepted_append (xs ys : List (Except IngressIdentityError IngressResult)) :
    accepted (xs ++ ys) = accepted xs ++ accepted ys := List.filterMap_append

namespace IngressBuffer

/-- Whether an event of the session has its sequence at or below the cursor. -/
def Behind (b : IngressBuffer) (e : QmtEvent) : Prop :=
  b.sessionId = some e.sessionId ∧ e.sequence ≤ b.lastSequence

instance (b : IngressBuffer) (e : QmtEvent) : Decidable (b.Behind e) :=
  inferInstanceAs (Decidable (_ ∧ _))

/-- What one call can do. -/
inductive Answers (b : IngressBuffer) (e : QmtEvent) :
    Except IngressIdentityError IngressResult → IngressBuffer → Prop where
  | refused {err : IngressIdentityError} (h : b.pin e = .error err) : Answers b e (.error err) b
  | duplicate {account : Option String} (h : b.Behind e) : Answers b e
      (.ok ⟨.duplicate,e,b.needsResync⟩) { b with expectedAccountFingerprint := account }
  | advanced {r : IngressResult} {b' : IngressBuffer} (fresh : ¬b.Behind e)
      (kind : r.disposition ≠ .duplicate) (event : r.event = e)
      (told : r.needsResync = b'.needsResync)
      (session : b'.sessionId = some e.sessionId) (cursor : b'.lastSequence = e.sequence)
      (events : b'.events = b.events ++ [e])
      (resync : b'.needsResync = false ↔ e.cleanSnapshot = true ∨
        b.needsResync = false ∧ b.sessionId = some e.sessionId ∧
          (b.lastSequence = 0 ∨ e.sequence = b.lastSequence + 1)) :
      Answers b e (.ok r) b'

theorem pin_ok {b pinned : IngressBuffer} {e : QmtEvent} (h : b.pin e = .ok pinned) :
    ∃ account, pinned = { b with expectedAccountFingerprint := account } := by
  unfold pin at h
  simp only [refuse_eq_ok] at h
  cases ha : b.expectedAccountFingerprint with
  | none =>
    simp only [ha,Except.ok.injEq] at h
    exact ⟨_,h.2.symm⟩
  | some a =>
    simp only [ha,refuse_eq_ok,Except.ok.injEq] at h
    exact ⟨some a,by rw [← h.2.2,← ha]⟩

theorem ingest_answers (b : IngressBuffer) {e : QmtEvent} (he : e.Valid) :
    Answers b e (b.ingest e).1 (b.ingest e).2 := by
  have hpos := he.sequence
  unfold ingest
  cases hpin : b.pin e with
  | error err => exact .refused hpin
  | ok pinned =>
    obtain ⟨account,rfl⟩ := pin_ok hpin
    by_cases hs : b.sessionId = some e.sessionId
    · have henter : ({ b with expectedAccountFingerprint := account } : IngressBuffer).enter
          e.sessionId = { b with expectedAccountFingerprint := account } := if_pos hs
      simp only [henter]
      unfold advance
      by_cases hseq : e.sequence ≤ b.lastSequence
      · simp only [hseq,if_true]
        exact .duplicate ⟨hs,hseq⟩
      · simp only [hseq,if_false]
        refine .advanced (fun h => hseq h.2) ?_ rfl rfl hs rfl rfl ?_
        · split <;> simp
        simp only [isGap,hs]
        cases e.cleanSnapshot <;> cases b.needsResync <;> simp
        omega
    · have henter : ({ b with expectedAccountFingerprint := account } : IngressBuffer).enter
          e.sessionId = { b with
            expectedAccountFingerprint := account
            sessionId := some e.sessionId
            lastSequence := 0
            needsResync := true } := if_neg hs
      simp only [henter]
      unfold advance
      have hseq : ¬e.sequence ≤ 0 := by omega
      simp only [hseq,if_false]
      refine .advanced (fun h => hs h.1) ?_ rfl rfl rfl rfl rfl ?_
      · split <;> simp
      simp [hs]

end IngressBuffer
end BigQmt
