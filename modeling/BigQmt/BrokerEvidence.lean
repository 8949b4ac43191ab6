import BigQmt.Domain
set_option autoImplicit false

/-!
`oms/broker_evidence_v1.py`. A SHA-256 digest is represented by the value it is
taken of, so two digests agree exactly when their canonical texts do.
-/

namespace BigQmt

/-- `if p: raise e`, before the checks that follow it. -/
def refuse {ε α : Type} (p : Bool) (e : ε) (next : Except ε α) : Except ε α :=
  if p then .error e else next

@[simp] theorem refuse_eq_ok {ε α : Type} {p : Bool} {e : ε} {next : Except ε α} {a : α} :
    refuse p e next = .ok a ↔ p = false ∧ next = .ok a := by
  cases p <;> simp [refuse]

theorem refuse_eq_error {ε α : Type} {p : Bool} {e e' : ε} {next : Except ε α}
    (h : refuse p e next = .error e') : e' = e ∨ next = .error e' := by
  cases p with
  | false => exact .inr h
  | true =>
    cases h
    exact .inl rfl

inductive BrokerEvidenceSourceKind where
  | orderCallback | dealCallback | activeOrderQuery | activeDealQuery
  deriving DecidableEq, Repr

inductive BrokerEvidenceType where
  | orderAccepted | partialFill | fullFill | orderCancelled | orderRejected
  deriving DecidableEq, Repr

/-- `_STATUS_BY_TYPE`. -/
def BrokerEvidenceType.status : BrokerEvidenceType → OrderStatus
  | .orderAccepted => .acknowledged
  | .partialFill => .partiallyFilled
  | .fullFill => .filled
  | .orderCancelled => .cancelled
  | .orderRejected => .rejected

inductive RawStatusValue where
  | null | text (s : String) | int (n : Int)
  deriving DecidableEq, Repr

/-- The mapping `raw_status`; an absent key is `none`. -/
structure RawStatus where
  orderStatus : Option RawStatusValue
  submitStatus : Option RawStatusValue
  deriving DecidableEq, Repr

/-- What the semantic digest covers: the fact without its transport metadata. -/
structure SemanticFact where
  source : String
  sourceKind : BrokerEvidenceSourceKind
  mapperProfile : String
  key : OrderKey
  brokerToken : Option String
  brokerOrderId : Option String
  orderRef : Option String
  tradeId : Option String
  evidenceType : BrokerEvidenceType
  requestedStatus : OrderStatus
  filledQuantity : Int
  rawStatus : Option RawStatus
  routeAccountType : Option String
  routeAccountFingerprint : Option String
  deriving DecidableEq, Repr

structure EvidenceFields extends SemanticFact where
  sourceEventId : String
  observedAtMs : Int
  rawPayloadRef : String
  deriving DecidableEq, Repr

def hexDigit (c : Char) : Bool := ('0' ≤ c && c ≤ '9') || ('a' ≤ c && c ≤ 'f')

/-- `^sha256:[0-9a-f]{64}$`. -/
def isSha256 (s : String) : Bool :=
  match s.toList with
  | 's' :: 'h' :: 'a' :: '2' :: '5' :: '6' :: ':' :: cs => cs.length == 64 && cs.all hexDigit
  | _ => false

/-- `^[A-Za-z0-9._:-]+$`. -/
def isToken (s : String) : Bool :=
  s.toList != [] && s.toList.all (fun c => c.isAlphanum || c ∈ ['.','_',':','-'])

def boundedText (s : String) (limit : Nat) : Bool := s != "" && s.length ≤ limit

def optionalText (s : Option String) : Bool :=
  match s with
  | none => true
  | some t => boundedText t 128

/-- The checks that depend on the kind of fact, the last of `__post_init__`. -/
def EvidenceFields.typeCheck (f : EvidenceFields) : Except String Unit :=
  match f.evidenceType with
  | .orderAccepted => refuse (f.brokerOrderId.isNone || f.filledQuantity != 0)
      "ORDER_ACCEPTED requires broker_order_id and zero fill" (.ok ())
  | .partialFill | .fullFill => refuse (f.brokerOrderId.isNone || f.filledQuantity ≤ 0)
      "fill evidence requires broker_order_id and positive fill" (.ok ())
  | .orderCancelled => refuse f.brokerOrderId.isNone
      "ORDER_CANCELLED requires broker_order_id" (.ok ())
  | .orderRejected => refuse (f.filledQuantity != 0) "ORDER_REJECTED requires zero fill" (.ok ())

/-- `BrokerEvidenceV1.__post_init__`: the first failing check, in source order. -/
def EvidenceFields.postInit (f : EvidenceFields) : Except String Unit :=
  refuse (!boundedText f.source 128) "invalid source" <|
  refuse (!boundedText f.sourceEventId 256) "invalid source_event_id" <|
  refuse (!boundedText f.mapperProfile 128) "invalid mapper_profile" <|
  refuse (!boundedText f.key.clientOrderId 128) "invalid client_order_id" <|
  refuse (!boundedText f.rawPayloadRef 512) "invalid raw_payload_ref" <|
  refuse (!isSha256 f.key.accountFingerprint) "invalid account_fingerprint" <|
  refuse (!f.brokerToken.all (fun t => boundedText t 64 && isToken t)) "invalid broker_token" <|
  refuse (!optionalText f.brokerOrderId) "invalid broker_order_id" <|
  refuse (!optionalText f.orderRef) "invalid order_ref" <|
  refuse (!optionalText f.tradeId) "invalid trade_id" <|
  refuse (f.filledQuantity < 0) "filled_quantity cannot be negative" <|
  refuse (f.observedAtMs ≤ 0) "observed_at_ms must be positive" <|
  refuse (f.routeAccountType.isNone != f.routeAccountFingerprint.isNone)
    "route account identity must be complete" <|
  refuse (!f.routeAccountType.all (· ∈ ["STOCK","HUGANGTONG","SHENGANGTONG"]))
    "unsupported route_account_type" <|
  refuse (!f.routeAccountFingerprint.all isSha256) "invalid route_account_fingerprint" <|
  refuse (f.requestedStatus ≠ f.evidenceType.status)
    "evidence_type and requested_status disagree" <|
  refuse (f.sourceKind ∈ [.dealCallback,.activeDealQuery] &&
    f.evidenceType ∉ [.partialFill,.fullFill]) "deal sources have fill-only authority" <|
  refuse (f.sourceKind = .dealCallback && f.tradeId.isNone) "DEAL_CALLBACK requires trade_id" <|
  f.typeCheck

/-- A validated fact. Its `semantic_digest` is checked against the fields on
construction, so it is the `SemanticFact` itself. -/
structure BrokerEvidenceV1 extends EvidenceFields where
  valid : toEvidenceFields.postInit = .ok ()
  deriving DecidableEq

namespace BrokerEvidenceV1

def semanticDigest (e : BrokerEvidenceV1) : SemanticFact := e.toSemanticFact

def build (f : EvidenceFields) : Except String BrokerEvidenceV1 :=
  match h : f.postInit with
  | .ok () => .ok ⟨f,h⟩
  | .error m => .error m

theorem build_fields {f : EvidenceFields} {e : BrokerEvidenceV1} (h : build f = .ok e) :
    e.toEvidenceFields = f := by
  unfold build at h
  split at h
  · cases h
    rfl
  · cases h

variable (e : BrokerEvidenceV1)

theorem requestedStatus_eq : e.requestedStatus = e.evidenceType.status := by
  have hv := e.valid
  simp only [EvidenceFields.postInit,refuse_eq_ok] at hv
  simpa using hv.2.2.2.2.2.2.2.2.2.2.2.2.2.2.2.1

theorem filledQuantity_nonneg : 0 ≤ e.filledQuantity := by
  have hv := e.valid
  simp only [EvidenceFields.postInit,refuse_eq_ok] at hv
  simpa using hv.2.2.2.2.2.2.2.2.2.2.1

theorem typeCheck_ok : e.typeCheck = .ok () := by
  have hv := e.valid
  simp only [EvidenceFields.postInit,refuse_eq_ok] at hv
  exact hv.2.2.2.2.2.2.2.2.2.2.2.2.2.2.2.2.2.2

end BrokerEvidenceV1

/-- `evidence_fingerprint`: the digest of the source identity and the fact. -/
structure EvidenceFingerprint where
  source : String
  accountFingerprint : String
  sourceEventId : String
  semanticDigest : SemanticFact
  deriving DecidableEq, Repr

def evidenceFingerprint (e : BrokerEvidenceV1) : EvidenceFingerprint :=
  ⟨e.source,e.key.accountFingerprint,e.sourceEventId,e.semanticDigest⟩

/-- The facts about the sample order that the concrete runs report. -/
def sampleFields (sourceEventId : String) (evidenceType : BrokerEvidenceType) (filled : Int) :
    EvidenceFields where
  source := "qmt:guojin_sim"
  sourceKind := .orderCallback
  mapperProfile := "qmt-guojin-sim-20260917-v1"
  key := sampleIntent.key
  brokerToken := none
  brokerOrderId := some "b-1"
  orderRef := none
  tradeId := none
  evidenceType := evidenceType
  requestedStatus := evidenceType.status
  filledQuantity := filled
  rawStatus := none
  routeAccountType := none
  routeAccountFingerprint := none
  sourceEventId := sourceEventId
  observedAtMs := 1
  rawPayloadRef := "qmt://guojin_sim/s/1"

def sampleFill : BrokerEvidenceV1 := ⟨sampleFields "s:1" .fullFill 100,by decide⟩

def sampleCancel : BrokerEvidenceV1 := ⟨sampleFields "s:2" .orderCancelled 0,by decide⟩

def samplePartialFill : BrokerEvidenceV1 := ⟨sampleFields "s:3" .partialFill 40,by decide⟩

end BigQmt
