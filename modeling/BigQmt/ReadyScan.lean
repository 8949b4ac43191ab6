import Mathlib.Data.Prod.Lex
import Mathlib.Data.String.Basic
import BigQmt.ArchiveRoundTrip
import BigQmt.EarlyStop
import BigQmt.PathNames
import BigQmt.ReadModel
import BigQmt.UtcText
set_option autoImplicit false

/-!
`_latest_bridge_ready` of `qmt/instances.py`: the newest `bridge_ready` event of a spool, in
the directories of the receiver and in the committed archives.
-/

namespace BigQmt

/-- What `lstat` and `open` find at a path: whether it is a link, and the bytes. -/
structure PathEntry where
  link : Option Bool
  bytes : Option Bytes

/-- A directory and its entries, in the order in which they are listed. -/
structure Directory where
  link : Option Bool
  entries : List (String × PathEntry)

/-- The directories of a spool root that there are. -/
structure SpoolRoot where
  inbox : Option Directory
  processed : Option Directory
  archive : Option Directory
  checkpoints : Option Directory

/-- `QmtInstanceError`. -/
def instanceError {α : Type} (message : String) : Except PyError α := .error (.valueError message)

def isLink (link : Option Bool) : Except PyError Bool :=
  match link with
  | none => instanceError "instance directory is not readable"
  | some b => .ok b

namespace Directory

def entry (d : Directory) (name : String) : PathEntry :=
  ((d.entries.find? (fun p => p.1 = name)).map Prod.snd).getD ⟨none,none⟩

/-- `directory.glob("*.json")`. -/
def jsonFiles (d : Directory) : List (String × PathEntry) :=
  d.entries.filter (fun p => isJsonName p.1)

end Directory

/-- How archives are read: `gzip.open` and what comes out, if all of it does. -/
structure ScanCodec extends ArchiveCodec where
  gunzip : Bytes → Option Bytes

/-- A committed archive: the time its manifest ends with, its bytes and its manifest. -/
structure CommittedArchive where
  lastTimestampMs : Int
  archive : Bytes
  manifest : Fields
  deriving DecidableEq

/-- The order `(timestamp_ms, sequence, session_id)`. -/
def QmtEvent.readyKey (e : QmtEvent) : Int ×ₗ Int ×ₗ String :=
  toLex (e.timestampMs,toLex (e.sequence,e.sessionId))

def isReady (e : QmtEvent) : Bool := e.eventType = .bridgeReady

/-- `mapping.get(key)`, where nothing is `None`. -/
def Fields.value (fields : Fields) (key : String) : Json := (fields.get key).getD .null

/-- `date.isoformat()` of a day counted from 1970. -/
def isoDay (day : Int) : String := isoDate (Gregorian.Date.ofOrdinal (day + 719163).toNat)

example : isoDay 19676 = "2023-11-15" := by decide +kernel

/-- The time of the last record, which `archive_day` writes, is no earlier than any other. -/
theorem sortRecords_last {records : List SpoolRecord} {last r : SpoolRecord}
    (hlast : (sortRecords records).getLast? = some last) (hr : r ∈ records) :
    r.event.timestampMs ≤ last.event.timestampMs := by
  obtain ⟨front,hfront⟩ := List.getLast?_eq_some_iff.1 hlast
  have hsorted := List.pairwise_map.1 (sortRecords_sorted records)
  have hmem : r ∈ front ++ [last] := hfront ▸ (List.mem_insertionSort _).2 hr
  rw [hfront] at hsorted
  obtain hr | hr := List.mem_append.1 hmem
  · obtain hlt | ⟨heq,-⟩ := (List.pairwise_append.1 hsorted).2.2 r hr last (by simp)
    · exact hlt.le
    · exact heq.le
  · obtain rfl := List.mem_singleton.1 hr
    exact le_refl _

namespace ScanCodec

variable (k : ScanCodec)

/-- The `bridge_ready` events of a directory; files that are no frames are passed over. -/
def readyIn (directory : Option Directory) : Except PyError (List QmtEvent) := do
  match directory with
  | none => return []
  | some d =>
    if ← isLink d.link then return []
    return (d.jsonFiles.filterMap fun p => p.2.bytes.bind fun raw =>
      (k.decode raw).toOption).filter isReady

/-- `_sha256_path`. -/
def sha256Path (file : PathEntry) : Except PyError String :=
  match file.bytes with
  | none => instanceError "committed archive is not readable"
  | some raw => .ok (k.sha256 raw)

/-- `_read_bounded_json`. -/
def readBoundedJson (file : PathEntry) (limit : Nat) (label : String) : Except PyError Fields :=
  match file.bytes with
  | none => instanceError (label ++ " is not readable")
  | some raw =>
    if raw = [] || limit < raw.length then instanceError ("invalid " ++ label ++ " size")
    else
      match k.loads raw with
      | none => instanceError ("invalid " ++ label ++ " JSON")
      | some document =>
        match document.dict with
        | none => instanceError (label ++ " must be an object")
        | some fields => .ok fields

def maxInstanceManifestBytes : Nat := 16 * 1024

def maxArchiveManifestBytes : Nat := 16 * 1024 * 1024

/-- A file name without a path. -/
def plainName (value : Json) : Option String := value.str.filter (fun name => pathName name = name)

/-- `_read_committed_archive_metadata` and the time of the manifest. -/
def readCommitted (archiveDir : Directory) (checkpoint : String × PathEntry) :
    Except PyError CommittedArchive := do
  if ← isLink checkpoint.2.link then instanceError "archive checkpoint must not be a link"
  let fields ← k.readBoundedJson checkpoint.2 maxInstanceManifestBytes "archive checkpoint"
  refuse (fields.value "status" ≠ .text "COMMITTED")
    (.valueError "archive checkpoint is not committed") (.ok ())
  match plainName (fields.value "manifest_filename"),
    plainName (fields.value "archive_filename") with
  | some manifestName,some archiveName =>
    let manifestFile := archiveDir.entry manifestName
    let archiveFile := archiveDir.entry archiveName
    if ← isLink manifestFile.link then instanceError "committed archive files must not be links"
    if ← isLink archiveFile.link then instanceError "committed archive files must not be links"
    let manifestHash ← k.sha256Path manifestFile
    refuse (Json.text manifestHash ≠ fields.value "manifest_sha256")
      (.valueError "archive manifest hash mismatch") (.ok ())
    let manifest ← k.readBoundedJson manifestFile maxArchiveManifestBytes "archive manifest"
    refuse (manifest.value "archive_format_version" ≠ .text "1" ||
        manifest.value "archive_filename" ≠ .text archiveName ||
        withoutEnding "_manifest" (pathStem manifestName) ≠ pathStem checkpoint.1 ||
        !(manifest.value "trading_day").same (fields.value "trading_day") ||
        !(manifest.value "event_count").same (fields.value "event_count"))
      (.valueError "archive manifest/checkpoint mismatch") (.ok ())
    match (fields.value "archive_sha256").str with
    | none => instanceError "archive hash mismatch"
    | some expected =>
      refuse (manifest.value "archive_sha256" ≠ .text expected)
        (.valueError "archive hash mismatch") (.ok ())
      refuse ((← k.sha256Path archiveFile) ≠ expected)
        (.valueError "archive hash mismatch") (.ok ())
      let last ← member manifest "last_timestamp_ms" Json.num
        (.valueError "archive manifest timestamp is invalid")
      return ⟨last,archiveFile.bytes.getD [],manifest⟩
  | _,_ => instanceError "archive checkpoint filename is invalid"

/-- Whether an event is of another day, event by event. -/
def otherDay (tradingDay : String) : List QmtEvent → Except PyError Bool
  | [] => .ok false
  | e :: rest =>
    match eventTradingDay e.timestampMs with
    | .error err => .error err
    | .ok day => if isoDay day ≠ tradingDay then .ok true else otherDay tradingDay rest

/-- `_read_archive_bridge_ready`. -/
def readArchiveBridgeReady (a : CommittedArchive) : Except PyError (List QmtEvent) := do
  match (k.gunzip a.archive).map (Lines.lines newline) with
  | none => instanceError "archive payload is invalid"
  | some raws =>
    match raws.mapM k.decode with
    | .error _ => instanceError "archive payload is invalid"
    | .ok decoded =>
      refuse (a.manifest.value "event_count" ≠ .int decoded.length)
        (.valueError "archive event count mismatch") (.ok ())
      refuse (a.manifest.value "event_stream_sha256" ≠ .text (k.streamDigest raws))
        (.valueError "archive event stream hash mismatch") (.ok ())
      let tradingDay ← member a.manifest "trading_day" Json.str
        (.valueError "archive trading day is invalid")
      if ← otherDay tradingDay decoded then
        instanceError "archive contains a different trading day"
      let fingerprint := a.manifest.value "account_fingerprint"
      refuse (fingerprint.list.isSome || fingerprint.dict.isSome)
        (.typeError "unhashable type") (.ok ())
      refuse (decoded = [] || decoded.any (fun e => .text e.accountFingerprint ≠ fingerprint))
        (.valueError "archive account fingerprint mismatch") (.ok ())
      return decoded.filter isReady

/-- The committed archives, if both directories are there and none is a link. -/
def committedArchives (root : SpoolRoot) : Except PyError (List CommittedArchive) := do
  match root.archive,root.checkpoints with
  | some archiveDir,some checkpointDir =>
    if ← isLink archiveDir.link then return []
    if ← isLink checkpointDir.link then return []
    checkpointDir.jsonFiles.mapM (k.readCommitted archiveDir)
  | _,_ => return []

/-- `sorted(manifests, key=..., reverse=True)`, which keeps the order of equal times. -/
def newestFirst (archives : List CommittedArchive) : List CommittedArchive :=
  archives.insertionSort (fun a b => b.lastTimestampMs ≤ a.lastTimestampMs)

/-- `max(ready_events, key=...)`. -/
def latestOf (ready : List QmtEvent) : Except PyError QmtEvent :=
  match EarlyStop.largest QmtEvent.readyKey ready with
  | none => instanceError "bridge_ready event not found"
  | some e => .ok e

/-- `_latest_bridge_ready`. -/
def latestBridgeReady (root : SpoolRoot) : Except PyError QmtEvent := do
  let inbox ← k.readyIn root.inbox
  let processed ← k.readyIn root.processed
  let ready := inbox ++ processed
  let archives ← k.committedArchives root
  let ready ← EarlyStop.scan QmtEvent.timestampMs CommittedArchive.lastTimestampMs
    k.readArchiveBridgeReady (((ready.map QmtEvent.timestampMs).max?).getD (-1)) ready
    (newestFirst archives)
  latestOf ready

/-- Every archive that has a checkpoint is read, newest first. -/
def everyReady (root : SpoolRoot) : Except PyError (List QmtEvent) := do
  let inbox ← k.readyIn root.inbox
  let processed ← k.readyIn root.processed
  let archives ← k.committedArchives root
  EarlyStop.scanAll k.readArchiveBridgeReady (inbox ++ processed) (newestFirst archives)

theorem everyReady_one {root : SpoolRoot} {a : CommittedArchive} {ready : List QmtEvent}
    (hinbox : k.readyIn root.inbox = .ok []) (hprocessed : k.readyIn root.processed = .ok [])
    (harchives : k.committedArchives root = .ok [a])
    (hready : k.readArchiveBridgeReady a = .ok ready) : k.everyReady root = .ok ready := by
  unfold everyReady
  rw [hinbox,hprocessed,harchives]
  show EarlyStop.scanAll k.readArchiveBridgeReady [] [a] = .ok ready
  simp only [EarlyStop.scanAll,hready,List.nil_append]

/-- An event of the inbox, of the processed files or of a committed archive. -/
def ReadyEvent (root : SpoolRoot) (e : QmtEvent) : Prop :=
  (∃ ready,k.readyIn root.inbox = .ok ready ∧ e ∈ ready) ∨
    (∃ ready,k.readyIn root.processed = .ok ready ∧ e ∈ ready) ∨
    ∃ archives,k.committedArchives root = .ok archives ∧
      ∃ a ∈ archives,∃ ready,k.readArchiveBridgeReady a = .ok ready ∧ e ∈ ready

/-- The archive can be read, and its manifest ends no earlier than its events. -/
def Verifies (a : CommittedArchive) : Prop :=
  ∃ ready,k.readArchiveBridgeReady a = .ok ready ∧
    ∀ e ∈ ready,e.timestampMs ≤ a.lastTimestampMs

variable {k}

theorem decode_positive {raw : Bytes} {e : QmtEvent} (h : k.decode raw = .ok e) :
    0 < e.timestampMs := (QmtEvent.valid_of_decode h).timestampMs

theorem mapM_decode_positive {raws : List Bytes} {decoded : List QmtEvent}
    (h : raws.mapM k.decode = .ok decoded) {e : QmtEvent} (he : e ∈ decoded) :
    0 < e.timestampMs := by
  induction raws generalizing decoded with
  | nil =>
    cases h
    cases he
  | cons raw raws ih =>
    rw [List.mapM_cons] at h
    obtain ⟨event,hevent,h⟩ := Except.ok_of_bind h
    obtain ⟨rest,hrest,h⟩ := Except.ok_of_bind h
    cases h
    obtain rfl | he := List.mem_cons.1 he
    · exact decode_positive hevent
    · exact ih hrest he

theorem readArchive_positive {a : CommittedArchive} {ready : List QmtEvent}
    (h : k.readArchiveBridgeReady a = .ok ready) {e : QmtEvent} (he : e ∈ ready) :
    0 < e.timestampMs := by
  unfold readArchiveBridgeReady at h
  split at h
  · cases h
  · split at h
    · cases h
    · rename_i decoded hdecoded
      obtain ⟨_,-,h⟩ := Except.ok_of_bind h
      obtain ⟨_,-,h⟩ := Except.ok_of_bind h
      obtain ⟨day,-,h⟩ := Except.ok_of_bind h
      obtain ⟨other,-,h⟩ := Except.ok_of_bind h
      cases other with
      | true => cases h
      | false =>
        obtain ⟨_,-,h⟩ := Except.ok_of_bind h
        obtain ⟨_,-,h⟩ := Except.ok_of_bind h
        cases h
        exact mapM_decode_positive hdecoded (List.mem_filter.1 he).1

theorem newestFirst_sorted (archives : List CommittedArchive) : (newestFirst archives).Pairwise
    (fun a b => b.lastTimestampMs ≤ a.lastTimestampMs) := by
  have htotal : Std.Total (fun a b : CommittedArchive => b.lastTimestampMs ≤ a.lastTimestampMs) :=
    ⟨fun a b => le_total _ _⟩
  have htrans : IsTrans CommittedArchive (fun a b => b.lastTimestampMs ≤ a.lastTimestampMs) :=
    ⟨fun _ _ _ hab hbc => hbc.trans hab⟩
  exact List.pairwise_insertionSort _ _

theorem mem_newestFirst {archives : List CommittedArchive} {a : CommittedArchive} :
    a ∈ newestFirst archives ↔ a ∈ archives := List.mem_insertionSort _

/-- The scan that stops early finds an event that is as late as any other. -/
theorem scan_largest (found : List QmtEvent) {archives : List CommittedArchive}
    (hverify : ∀ a ∈ archives,k.Verifies a) :
    ∃ kept ready,EarlyStop.scan QmtEvent.timestampMs CommittedArchive.lastTimestampMs
        k.readArchiveBridgeReady (((found.map QmtEvent.timestampMs).max?).getD (-1)) found
        (newestFirst archives) = .ok kept ∧
      EarlyStop.scanAll k.readArchiveBridgeReady found (newestFirst archives) = .ok ready ∧
      EarlyStop.largest QmtEvent.readyKey kept = EarlyStop.largest QmtEvent.readyKey ready := by
  have hbounded : ∀ a ∈ newestFirst archives,EarlyStop.Bounded QmtEvent.timestampMs
      CommittedArchive.lastTimestampMs k.readArchiveBridgeReady (-1) a := by
    intro a ha
    obtain ⟨ready,hready,hle⟩ := hverify a (mem_newestFirst.1 ha)
    refine ⟨ready,hready,fun e he => ⟨?_,hle e he⟩⟩
    have hpos := readArchive_positive hready he
    omega
  have hknown : EarlyStop.Known QmtEvent.timestampMs (-1)
      (((found.map QmtEvent.timestampMs).max?).getD (-1)) found := by
    cases hmax : (found.map QmtEvent.timestampMs).max? with
    | none => exact .inl rfl
    | some t =>
      obtain ⟨e,he,rfl⟩ := List.mem_map.1 (List.max?_mem hmax)
      exact .inr ⟨e,he,rfl⟩
  obtain ⟨kept,rest,hscan,hall,hlate⟩ :=
    EarlyStop.scan_prefix (newestFirst_sorted archives) hbounded hknown
  refine ⟨kept,kept ++ rest,hscan,hall,(EarlyStop.largest_append ?_).symm⟩
  intro e he
  obtain ⟨e',he',hlt⟩ := hlate e he
  exact ⟨e',he',Prod.Lex.toLex_lt_toLex.2 (.inl hlt)⟩

theorem mem_everyReady {root : SpoolRoot} {ready : List QmtEvent}
    (h : k.everyReady root = .ok ready) {e : QmtEvent} : e ∈ ready ↔ k.ReadyEvent root e := by
  unfold everyReady at h
  obtain ⟨inbox,hinbox,h⟩ := Except.ok_of_bind h
  obtain ⟨processed,hprocessed,h⟩ := Except.ok_of_bind h
  obtain ⟨archives,harchives,h⟩ := Except.ok_of_bind h
  rw [EarlyStop.mem_scanAll h]
  simp only [List.mem_append,mem_newestFirst,ReadyEvent,hinbox,hprocessed,harchives,
    Except.ok.injEq,exists_eq_left',or_assoc]

theorem latestBridgeReady_exhaustive (k : ScanCodec) (root : SpoolRoot)
    (hverify : ∀ archives,k.committedArchives root = .ok archives → ∀ a ∈ archives,k.Verifies a) :
    k.latestBridgeReady root = (k.everyReady root).bind latestOf ∧
      ∀ e,k.latestBridgeReady root = .ok e → k.ReadyEvent root e ∧
        ∀ e',k.ReadyEvent root e' → e'.readyKey ≤ e.readyKey := by
  have hequal : k.latestBridgeReady root = (k.everyReady root).bind latestOf := by
    unfold latestBridgeReady everyReady
    cases k.readyIn root.inbox with
    | error e => rfl
    | ok inbox =>
      cases k.readyIn root.processed with
      | error e => rfl
      | ok processed =>
        cases harchives : k.committedArchives root with
        | error e => rfl
        | ok archives =>
          obtain ⟨kept,ready,hscan,hall,hlargest⟩ :=
            scan_largest (inbox ++ processed) (hverify archives harchives)
          simp only [bind,Except.bind,hscan,hall]
          unfold latestOf
          rw [hlargest]
  refine ⟨hequal,?_⟩
  intro e he
  rw [hequal] at he
  obtain ⟨ready,hready,he⟩ := Except.ok_of_bind he
  have hlargest : EarlyStop.largest QmtEvent.readyKey ready = some e := by
    unfold latestOf at he
    split at he
    · cases he
    · cases he
      assumption
  obtain ⟨hmem,hmax⟩ := EarlyStop.largest_spec hlargest
  exact ⟨(mem_everyReady hready).1 hmem,fun e' he' => hmax e' ((mem_everyReady hready).2 he')⟩

end ScanCodec

def asciiBytes (lines : List String) : Bytes :=
  (lines.flatMap String.toList).map (fun c => UInt8.ofNat c.toNat)

/-- The frame of `sampleEvent "session-a" 1 .bridgeReady`, in one line. -/
def readyLine : Bytes := asciiBytes
  ["\x7b\"transport_version\":\"1\",\"event\":\x7b\"protocol_version\":\"0.2\",\"session",
    "_id\":\"session-a\",\"sequence\":1,\"timestamp_ms\":1700000000000,\"event_type",
    "\":\"bridge_ready\",\"source\":\"callback\",\"account_fingerprint\":\"sha256:0000000",
    "000000000000000000000000000000000000000000000000000000000\",\"account_type\":\"STOCK",
    "\",\"terminal_instance_id\":null,\"payload\":\x7b\x7d\x7d\x7d"] ++ [newline]

/-- What `gzip` makes of it. -/
def readyGzip : Bytes :=
  [31,139,8,0,0,0,0,0,2,3,165,79,49,14,194,48,12,220,121,134,231,130,74,37,64,234,202,200,192,0,
    123,228,166,166,68,164,73,112,210,74,85,213,191,227,86,149,96,199,219,221,217,231,187,17,18,
    163,139,193,115,82,61,113,52,222,65,9,123,200,128,122,114,9,202,17,2,251,228,181,183,63,122,
    190,43,100,35,82,156,177,50,181,80,43,216,226,34,188,59,114,154,160,220,103,144,76,75,49,97,
    27,84,27,133,56,229,223,89,159,168,52,4,217,133,138,77,221,144,98,194,122,152,93,124,199,179,
    7,104,180,182,66,253,18,14,181,246,157,92,60,140,107,136,3,155,57,34,196,39,22,135,99,153,255,
    57,63,254,107,162,219,253,122,190,8,157,136,91,227,208,42,227,164,138,52,91,58,187,206,218,12,
    2,14,214,163,192,113,154,166,205,7,177,73,184,62,80,1,0,0]

def readyManifest : Fields :=
  .cons "account_fingerprint"
    (.text "sha256:0000000000000000000000000000000000000000000000000000000000000000") <|
  .cons "archive_filename" (.text "2023-11-15_events.jsonl.gz") <|
  .cons "archive_format_version" (.text "1") <|
  .cons "archive_sha256"
    (.text "3c2c60f695b40e70a8be68c1b6b93c12d91aea70f961128c93cb1fed96a7ba1e") <|
  .cons "event_count" (.int 1) <|
  .cons "event_stream_sha256"
    (.text "12c74d204114fb1eea81bd80ad44ceb6ec97ca597501a890af4fb816dc3fe27f") <|
  .cons "last_timestamp_ms" (.int 1700000000000) <|
  .cons "trading_day" (.text "2023-11-15") .nil

def readyManifestFile : Bytes := asciiBytes
  ["\x7b\"account_fingerprint\":\"sha256:00000000000000000000000000000000000000000000000",
    "00000000000000000\",\"archive_filename\":\"2023-11-15_events.jsonl.gz\",\"archive_fo",
    "rmat_version\":\"1\",\"archive_sha256\":\"3c2c60f695b40e70a8be68c1b6b93c12d91aea70f9",
    "61128c93cb1fed96a7ba1e\",\"event_count\":1,\"event_stream_sha256\":\"12c74d204114fb1",
    "eea81bd80ad44ceb6ec97ca597501a890af4fb816dc3fe27f\",\"last_timestamp_ms\":1700000000",
    "000,\"trading_day\":\"2023-11-15\"\x7d"] ++ [newline]

def readyCheckpoint : Fields :=
  .cons "archive_filename" (.text "2023-11-15_events.jsonl.gz") <|
  .cons "archive_sha256"
    (.text "3c2c60f695b40e70a8be68c1b6b93c12d91aea70f961128c93cb1fed96a7ba1e") <|
  .cons "event_count" (.int 1) <|
  .cons "manifest_filename" (.text "2023-11-15_manifest.json") <|
  .cons "manifest_sha256"
    (.text "2866e77c22f185351a51e1d9bbf9bfae2790683f8f20be397ed809a1edcf2fcc") <|
  .cons "status" (.text "COMMITTED") <|
  .cons "trading_day" (.text "2023-11-15") .nil

def readyCheckpointFile : Bytes := asciiBytes
  ["\x7b\"archive_filename\":\"2023-11-15_events.jsonl.gz\",\"archive_sha256\":\"3c2c60f",
    "695b40e70a8be68c1b6b93c12d91aea70f961128c93cb1fed96a7ba1e\",\"event_count\":1,\"mani",
    "fest_filename\":\"2023-11-15_manifest.json\",\"manifest_sha256\":\"2866e77c22f185351",
    "a51e1d9bbf9bfae2790683f8f20be397ed809a1edcf2fcc\",\"status\":\"COMMITTED\",\"trading",
    "_day\":\"2023-11-15\"\x7d"] ++ [newline]

/-- It reads the files of one archive. -/
def readyCodec : ScanCodec where
  loads raw :=
    let line := Lines.stripEnd newline raw ++ [newline]
    if line = readyLine then (sampleEvent "session-a" 1 .bridgeReady .nil).frame.document
    else if line = readyManifestFile then some (.object readyManifest)
    else if line = readyCheckpointFile then some (.object readyCheckpoint)
    else none
  loads_newline raw := by simp only [Lines.stripEnd_concat]
  loads_nil := by decide +kernel
  sha256 raw :=
    if raw = readyGzip then
      "3c2c60f695b40e70a8be68c1b6b93c12d91aea70f961128c93cb1fed96a7ba1e"
    else if raw = readyManifestFile then
      "2866e77c22f185351a51e1d9bbf9bfae2790683f8f20be397ed809a1edcf2fcc"
    else if raw = readyLine then
      "12c74d204114fb1eea81bd80ad44ceb6ec97ca597501a890af4fb816dc3fe27f"
    else ""
  gzip raw := if raw = readyLine then readyGzip else raw
  manifestText _ := readyManifestFile
  gunzip raw := if raw = readyGzip then some readyLine else none

/-- A spool with one archived day. -/
def readySpool : SpoolRoot where
  inbox := none
  processed := none
  archive := some ⟨some false,[("2023-11-15_manifest.json",⟨some false,some readyManifestFile⟩),
    ("2023-11-15_events.jsonl.gz",⟨some false,some readyGzip⟩)]⟩
  checkpoints := some ⟨some false,[("2023-11-15.json",⟨some false,some readyCheckpointFile⟩)]⟩

def readyArchive : CommittedArchive := ⟨1700000000000,readyGzip,readyManifest⟩

theorem latestBridgeReady_exhaustive_archived :
    readyCodec.latestBridgeReady readySpool =
      .ok (sampleEvent "session-a" 1 .bridgeReady .nil) := by
  have hone : readyCodec.committedArchives readySpool = .ok [readyArchive] := by decide +kernel
  have hready : readyCodec.readArchiveBridgeReady readyArchive =
      .ok [sampleEvent "session-a" 1 .bridgeReady .nil] := by decide +kernel
  have hverify : ∀ archives,readyCodec.committedArchives readySpool = .ok archives →
      ∀ a ∈ archives,readyCodec.Verifies a := by
    intro archives harchives a ha
    rw [hone] at harchives
    cases harchives
    obtain rfl := List.mem_singleton.1 ha
    refine ⟨_,hready,?_⟩
    decide
  have hinbox : readyCodec.readyIn readySpool.inbox = .ok [] := rfl
  have hprocessed : readyCodec.readyIn readySpool.processed = .ok [] := rfl
  have hevery := ScanCodec.everyReady_one readyCodec hinbox hprocessed hone hready
  rw [(ScanCodec.latestBridgeReady_exhaustive readyCodec readySpool hverify).1,hevery]
  decide +kernel

end BigQmt
