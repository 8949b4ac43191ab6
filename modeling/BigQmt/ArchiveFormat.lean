import Mathlib.Data.List.Sort
import BigQmt.Bridge
import BigQmt.EventSpool
import BigQmt.Lines
set_option autoImplicit false

/-!
`qmt/archive.py`: spool files as bytes, the records of a trading day and whether the day
is ready, the archive of a day and how it is verified.
-/

namespace BigQmt

abbrev Bytes : Type := List UInt8

def newline : UInt8 := 10

/-- What is verified of a manifest. -/
structure Manifest where
  tradingDay : Int
  eventCount : Nat
  archiveSha256 : String
  eventStreamSha256 : String
  sourceFiles : List String
  deriving DecidableEq, Repr

structure Checkpoint where
  status : String
  archiveSha256 : String
  manifestSha256 : String
  deriving DecidableEq, Repr

/-- `json.loads(raw.decode("utf-8"))`, which ignores a line break at the end and finds no
document in an empty text; and the digests and texts of the files the archiver writes. -/
structure ArchiveCodec where
  loads : Bytes → Option Json
  loads_newline : ∀ raw, loads (raw ++ [newline]) = loads raw
  loads_nil : loads [] = none
  sha256 : Bytes → String
  gzip : Bytes → Bytes
  manifestText : Manifest → Bytes

/-- A compressed file: what is read from it, if anything is, and its digest. -/
structure GzipFile where
  content : Option Bytes
  sha256 : String
  deriving DecidableEq

structure ManifestFile where
  manifest : Manifest
  sha256 : String
  deriving DecidableEq

namespace ArchiveCodec

variable (k : ArchiveCodec)

/-- `decode_transport_frame` of the bytes of a file. -/
def decode (raw : Bytes) : Except PyError QmtEvent :=
  decodeTransportFrame
    ⟨k.loads raw,raw.length,decide (newline ∉ Lines.stripEnd newline raw),0⟩

/-- `_stream_digest`. -/
def streamDigest (records : List Bytes) : String :=
  k.sha256 (records.map (Lines.closed newline)).flatten

def gzipFile (content : Bytes) : GzipFile := ⟨some content,k.sha256 (k.gzip content)⟩

def manifestFile (m : Manifest) : ManifestFile := ⟨m,k.sha256 (k.manifestText m)⟩

end ArchiveCodec

/-- The day number of 9999-12-31, the last `datetime` knows. -/
def lastTradingDay : Int := 2932896

/-- `event_trading_day`, as the number of the day in Shanghai. -/
def eventTradingDay (timestampMs : Int) : Except PyError Int :=
  let day := (timestampMs + 28800000) / 86400000
  refuse (lastTradingDay < day) (.valueError "year is out of range") (.ok day)

example : eventTradingDay 1700000000000 = .ok 19676 := by decide

/-- `_SpoolRecord`. -/
structure SpoolRecord where
  name : String
  raw : Bytes
  event : QmtEvent
  tradingDay : Int
  deriving DecidableEq

/-- The order `(timestamp_ms, session_id, sequence)`. -/
def QmtEvent.keyLe (a b : QmtEvent) : Prop :=
  a.timestampMs < b.timestampMs ∨ a.timestampMs = b.timestampMs ∧
    (a.sessionId < b.sessionId ∨ a.sessionId = b.sessionId ∧ a.sequence ≤ b.sequence)

instance (a b : QmtEvent) : Decidable (a.keyLe b) := inferInstanceAs (Decidable (_ ∨ _))

def sortRecords (records : List SpoolRecord) : List SpoolRecord :=
  records.insertionSort (fun a b => a.event.keyLe b.event)

/-- Whether `_sequence_gaps` finds any. -/
def sequenceGap (events : List QmtEvent) : Bool :=
  events.any fun e =>
    let values := ((events.filter (fun e' => e'.sessionId = e.sessionId)).map
      QmtEvent.sequence).dedup.insertionSort (fun a b => a ≤ b)
    (values.zip values.tail).any (fun p => p.2 ≠ p.1 + 1)

/-- `_snapshot_account`. -/
def snapshotAccount (e : QmtEvent) : Option Fields :=
  match e.payload.listAt "account" with
  | some [row] => row.dict
  | _ => none

/-- The loop of `_snapshot_positions`, after the rows that are indexed. -/
def indexPositions (indexed : List (String × Fields)) : List Json → Option (List (String × Fields))
  | [] => some indexed
  | row :: rows =>
    match row.dict.bind (fun fields => (fields.textAt "symbol").map (fun s => (s,fields))) with
    | none => none
    | some (symbol,fields) =>
      if symbol = "" || indexed.any (fun p => p.1 = symbol) then none
      else indexPositions (indexed ++ [(symbol,fields)]) rows

def snapshotPositions (e : QmtEvent) : Option (List (String × Fields)) :=
  (e.payload.listAt "positions").bind (indexPositions [])

/-- `_decimal_text_value`; `Decimal` reads over underscores. -/
def decimalTextValue (value : Option Json) : Option Bridge.Decimal :=
  match (value.bind Json.str).bind
      (fun s => Bridge.floatText (String.ofList (s.toList.filter (· ≠ '_')))) with
  | some (.inl d) => some d
  | _ => none

def Fields.keys : Fields → List String
  | .nil => []
  | .cons key _ rest => key :: rest.keys

/-- `dict.pop(key, None)`. -/
def Fields.pop (key : String) : Fields → Fields
  | .nil => .nil
  | .cons key' value rest => if key' = key then rest else .cons key' value (rest.pop key)

/-- `_position_matches_snapshot`: an open price of zero is an unavailable one. -/
def positionMatchesSnapshot (snapshot callback : Fields) : Bool :=
  if snapshot = callback then true
  else if !(snapshot.keys.all (· ∈ callback.keys) && callback.keys.all (· ∈ snapshot.keys)) then
    false
  else if !(decimalTextValue (callback.get "open_price")).any (fun d => d.mantissa = 0) ||
      !(decimalTextValue (snapshot.get "open_price")).any
        (fun d => !d.negative && d.mantissa ≠ 0) then false
  else snapshot.pop "open_price" = callback.pop "open_price"

/-- `_is_identical_snapshot_fact`. -/
def isIdenticalSnapshotFact (snapshot e : QmtEvent) : Bool :=
  if e.sessionId ≠ snapshot.sessionId || e.accountFingerprint ≠ snapshot.accountFingerprint then
    false
  else
    match e.eventType with
    | .account => (snapshotAccount snapshot).any (fun account => e.payload = account)
    | .position =>
      match snapshotPositions snapshot,e.payload.textAt "symbol" with
      | some positions,some symbol =>
        (positions.find? (fun p => p.1 = symbol)).any
          (fun p => positionMatchesSnapshot p.2 e.payload)
      | _,_ => false
    | _ => false

/-- `_find_final_snapshot`: the last snapshot, and what is wrong with it or after it. -/
def findFinalSnapshot (events : List QmtEvent) : Option QmtEvent × Option String :=
  let (trailing,rest) := events.reverse.span (fun e => e.eventType ≠ .snapshot)
  match rest with
  | [] => (none,some "final_snapshot_missing")
  | snapshot :: _ =>
    if !snapshot.cleanSnapshot then (some snapshot,some "final_snapshot_query_error")
    else if !trailing.all (isIdenticalSnapshotFact snapshot) then
      (some snapshot,some "final_snapshot_missing")
    else (some snapshot,none)

structure ArchiveOptions where
  quietMs : Int := 300000
  nowMs : Option Int := none
  requireFinalSnapshot : Bool := true

/-- What `archive_day` has found in the spool; the records are sorted. -/
structure Survey where
  pendingInbox : List String
  quarantined : List String
  records : List SpoolRecord
  corrupted : List String

namespace Survey

/-- The reasons before any record is looked at. -/
def spoolReasons (s : Survey) : List String :=
  (if s.pendingInbox = [] then [] else ["pending_inbox"]) ++
    (if s.quarantined = [] then [] else ["quarantine_present"]) ++
    if s.corrupted = [] then [] else ["processed_corruption"]

def events (s : Survey) : List QmtEvent := s.records.map SpoolRecord.event

/-- `quiet_anchor_ms`. -/
def quietAnchorMs (s : Survey) (o : ArchiveOptions) : Int :=
  match o.requireFinalSnapshot,findFinalSnapshot s.events with
  | true,(some snapshot,none) => snapshot.timestampMs
  | _,_ => (s.events.map QmtEvent.timestampMs).foldl max 0

def reasons (s : Survey) (o : ArchiveOptions) (nowMs : Int) : List String :=
  s.spoolReasons ++
    (if (s.events.map QmtEvent.accountFingerprint).dedup.length = 1 then []
      else ["account_mismatch"]) ++
    (if sequenceGap s.events then ["sequence_gap"] else []) ++
    (if o.requireFinalSnapshot then (findFinalSnapshot s.events).2.toList else []) ++
    if nowMs < s.quietAnchorMs o + o.quietMs then ["quiet_period"] else []

end Survey

/-- `tuple(sorted(set(reasons)))`. -/
def sortedReasons (reasons : List String) : List String :=
  reasons.dedup.insertionSort (fun a b => a ≤ b)

/-- `DailyArchiveResult`. -/
structure DailyArchiveResult where
  status : String
  tradingDay : Int
  eventCount : Nat := 0
  deletedFiles : Nat := 0
  reasons : List String := []
  archiveSha256 : Option String := none
  deriving DecidableEq, Repr

/-- `ArchiveIntegrityError`. -/
def integrityError {α : Type} (message : String) : Except PyError α :=
  .error (.runtimeError message)

namespace ArchiveCodec

variable (k : ArchiveCodec)

/-- `decode_transport_frame` of every line, and what its events are checked for. -/
def verifyLines (m : Manifest) (raws : List Bytes) : Except PyError Unit :=
  match raws.mapM k.decode with
  | .error _ => integrityError "archive payload is invalid"
  | .ok decoded =>
    if decoded.length ≠ m.eventCount then integrityError "archive event count mismatch"
    else if k.streamDigest raws ≠ m.eventStreamSha256 then
      integrityError "archive event stream hash mismatch"
    else
      match decoded.mapM (fun e => eventTradingDay e.timestampMs) with
      | .error e => .error e
      | .ok days =>
        if days.any (· ≠ m.tradingDay) then integrityError "archive contains a different trading day"
        else .ok ()

/-- `_verify_archive`. -/
def verifyArchive (archive : GzipFile) (m : Manifest) : Except PyError Unit :=
  if archive.sha256 ≠ m.archiveSha256 then integrityError "archive SHA-256 mismatch"
  else
    match archive.content with
    | none => integrityError "archive payload is invalid"
    | some content => k.verifyLines m (Lines.lines newline content)

/-- `_verify_committed_files`. -/
def verifyCommittedFiles (archive : Option GzipFile) (manifest : Option ManifestFile)
    (checkpoint : Option Checkpoint) : Except PyError Manifest :=
  match archive,manifest,checkpoint with
  | some archive,some manifest,some checkpoint =>
    if checkpoint.status ≠ "COMMITTED" then integrityError "checkpoint is not committed"
    else if manifest.sha256 ≠ checkpoint.manifestSha256 then integrityError "manifest hash mismatch"
    else if archive.sha256 ≠ checkpoint.archiveSha256 then integrityError "archive hash mismatch"
    else
      match k.verifyArchive archive manifest.manifest with
      | .error e => .error e
      | .ok _ => .ok manifest.manifest
  | _,_,_ => integrityError "committed archive set is incomplete"

end ArchiveCodec
end BigQmt
