import BigQmt.HealthyView
import BigQmt.Runtime
set_option autoImplicit false

/-!
`qmt/ingestion.py`: what the Host does with an event behind the ingress buffer.
The sinks are the environment's: they answer or raise.
-/

namespace BigQmt

/-- How the collaborators of `QmtHostIngestion` behave during one call. -/
structure SinkAnswers where
  calibration : Option PyError := none
  evidence : BrokerEvidenceV1 → Option PyError := fun _ => none
  commandResult : Runtime.ExecutionCommandResult → Option PyError := fun _ => none

/-- Which collaborators are configured. -/
structure IngestionConfig where
  evidenceSink : Bool
  evidenceMapper : Bool
  snapshotEvidenceMapper : Bool
  commandResultSink : Bool
  calibrationObserver : Bool
  maxQuarantine : Nat
  deriving DecidableEq, Repr

structure HostIngestResult where
  view : Option SnapshotView
  evidenceIngested : Bool := false
  quarantined : Bool := false
  deduplicated : Bool := false
  commandResultIngested : Bool := false
  calibrationObserved : Bool := false
  deriving DecidableEq

/-- `QmtHostIngestion`. -/
structure HostIngestion where
  config : IngestionConfig
  readModel : ReadModel
  mapper : Mapper
  quarantined : List QmtEvent
  quarantineDropped : Nat
  accountSemanticDuplicates : Nat
  deriving DecidableEq

namespace HostIngestion

def fresh (config : IngestionConfig) (mapper : Mapper) : HostIngestion :=
  ⟨config,.fresh,mapper,[],0,0⟩

abbrev Outcome : Type := Except PyError HostIngestResult × HostIngestion

/-- A result that only reports the view. -/
def seen (s : HostIngestion) : HostIngestResult := { view := s.readModel.view }

/-- `_quarantine`: the oldest event gives way. -/
def quarantine (s : HostIngestion) (e : QmtEvent) : HostIngestion :=
  if s.config.maxQuarantine ≤ s.quarantined.length then
    { s with
      quarantined := s.quarantined.tail ++ [e]
      quarantineDropped := s.quarantineDropped + 1 }
  else { s with quarantined := s.quarantined ++ [e] }

def isRepeatedAccount (s : HostIngestion) (e : QmtEvent) : Bool :=
  e.eventType = .account && s.readModel.view.any (fun v => v.account = [e.payload])

/-- The candidates of a batch, one after the other. -/
def ingestBatch (answers : SinkAnswers) (e : QmtEvent) :
    List BrokerEvidenceV1 → Except PyError Unit
  | [] => .ok ()
  | candidate :: rest =>
    refuse (candidate.key.accountFingerprint ≠ e.accountFingerprint)
      (.valueError "snapshot evidence mapper changed account identity") <|
    match answers.evidence candidate with
    | some err => .error err
    | none => ingestBatch answers e rest

def handleSnapshotEvidence (s : HostIngestion) (answers : SinkAnswers) (e : QmtEvent) : Outcome :=
  if !s.config.evidenceSink then
    (.ok { s.seen with quarantined := true },s.quarantine e)
  else
    let (batch,mapper) := s.mapper.mapSnapshot e
    let s := { s with mapper := mapper }
    match batch with
    | .error err => (.error err,s)
    | .ok (evidence,rejectedRows) =>
      match ingestBatch answers e evidence with
      | .error err => (.error err,s)
      | .ok () => (.ok { s.seen with
          evidenceIngested := evidence ≠ []
          quarantined := 0 < rejectedRows },if 0 < rejectedRows then s.quarantine e else s)

/-- The members of a command result whose types the Host checks. -/
def commandResultOf (e : QmtEvent) : Option Runtime.ExecutionCommandResult := do
  let commandId ← e.payload.textAt "command_id"
  let _ ← e.payload.textAt "command_type"
  let _ ← e.payload.textAt "client_order_id"
  let resultStatus ← e.payload.textAt "result_status"
  let executionMode ← e.payload.textAt "execution_mode"
  let _ ← e.payload.flagAt "live_side_effect"
  if e.payload.optionalAt "broker_token" (fun v => v.str.isSome) then
    return ⟨e.sessionId ++ ":" ++ toString e.sequence,e.accountFingerprint,commandId,resultStatus,
      executionMode,e.payload⟩
  else none

def handleCommandResult (s : HostIngestion) (answers : SinkAnswers) (e : QmtEvent) : Outcome :=
  if absentOrNull (e.payload.get "client_order_id") || !s.config.commandResultSink then
    (.ok s.seen,s)
  else
    match commandResultOf e with
    | none => (.ok { s.seen with quarantined := true },s.quarantine e)
    | some result =>
      match answers.commandResult result with
      | some err => (.error err,s)
      | none => (.ok { s.seen with commandResultIngested := true },s)

/-- An order or deal callback. -/
def handleCallback (s : HostIngestion) (answers : SinkAnswers) (e : QmtEvent) : Outcome :=
  match if s.config.calibrationObserver then answers.calibration else none with
  | some err => (.error err,s)
  | none =>
    let seen := { s.seen with calibrationObserved := s.config.calibrationObserver }
    if !s.config.evidenceSink || !s.config.evidenceMapper then
      (.ok { seen with quarantined := true },s.quarantine e)
    else
      let (answer,mapper) := s.mapper.callback e
      let s := { s with mapper := mapper }
      match answer with
      | .error err => (.error err,s)
      | .ok none => (.ok { seen with quarantined := true },s.quarantine e)
      | .ok (some candidate) =>
        if candidate.key.accountFingerprint ≠ e.accountFingerprint then
          (.error (.valueError "evidence mapper changed account identity"),s)
        else
          match answers.evidence candidate with
          | some err => (.error err,s)
          | none => (.ok { seen with evidenceIngested := true },s)

def handle (s : HostIngestion) (answers : SinkAnswers) (result : IngressResult) : Outcome :=
  if result.disposition = .duplicate then (.ok { s.seen with deduplicated := true },s)
  else
    let e := result.event
    let repeated := s.isRepeatedAccount e
    let s := { s with
      readModel := s.readModel.apply result
      accountSemanticDuplicates := s.accountSemanticDuplicates + repeated.toNat }
    match e.eventType with
    | .commandResult => s.handleCommandResult answers e
    | .snapshot =>
      if s.config.snapshotEvidenceMapper then s.handleSnapshotEvidence answers e else (.ok s.seen,s)
    | .order | .deal => s.handleCallback answers e
    | _ => (.ok { s.seen with deduplicated := repeated },s)

end HostIngestion
end BigQmt
