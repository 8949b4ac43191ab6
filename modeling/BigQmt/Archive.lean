import BigQmt.ArchiveFormat
import BigQmt.Rules
set_option autoImplicit false

/-!
`DailySpoolArchiver.archive_day` of `qmt/archive.py`, one file operation at a time, and the
spool it shares with the Host, which goes on moving files into `processed`.
-/

namespace BigQmt

open Resumption Proc

/-- A file `<name>.json`. -/
structure SourceFile where
  name : String
  bytes : Bytes
  deriving DecidableEq

inductive ArchiveDir where
  | inbox | processed | quarantine
  deriving DecidableEq, Repr

/-- A file that was removed from `processed` by the archiving of a day, and the files of the
day as they were then. -/
structure Removal where
  day : Int
  name : String
  bytes : Bytes
  archive : Option GzipFile
  manifest : Option ManifestFile
  checkpoint : Option Checkpoint
  deriving DecidableEq

structure ArchiveWorld where
  processed : List SourceFile
  archive : Int → Option GzipFile
  manifest : Int → Option ManifestFile
  checkpoint : Int → Option Checkpoint
  removed : List Removal

/-- What the environment decides at one operation: the other directories change as they
may. -/
structure ArchiveChoice where
  now : Int := 0
  inbox : List SourceFile := []
  quarantine : List SourceFile := []
  modified : Option Int := none
  fault : Option PyError := none

inductive ArchiveEff : Type → Type 1
  | clock : ArchiveEff Int
  | checkpointExists (day : Int) : ArchiveEff Bool
  | glob (dir : ArchiveDir) : ArchiveEff (Except PyError (List String))
  | readBytes (dir : ArchiveDir) (name : String) : ArchiveEff (Except PyError Bytes)
  | modifiedDay (dir : ArchiveDir) (name : String) : ArchiveEff (Option Int)
  | writeArchive (day : Int) (content : Bytes) : ArchiveEff (Except PyError Unit)
  | writeManifest (day : Int) (manifest : Manifest) : ArchiveEff (Except PyError Unit)
  | writeCheckpoint (day : Int) (checkpoint : Checkpoint) : ArchiveEff (Except PyError Unit)
  | readArchive (day : Int) : ArchiveEff (Except PyError (Option GzipFile))
  | readManifest (day : Int) : ArchiveEff (Except PyError (Option ManifestFile))
  | readCheckpoint (day : Int) : ArchiveEff (Except PyError (Option Checkpoint))
  | pathExists (name : String) : ArchiveEff Bool
  | unlink (day : Int) (name : String) : ArchiveEff (Except PyError Unit)
  | moveUnique (name : String) (bytes : Bytes) : ArchiveEff Unit

abbrev Archiver (α : Type) : Type 1 := Proc ArchiveEff PyError Unit α

namespace ArchiveWorld

def file? (w : ArchiveWorld) (name : String) : Option Bytes :=
  (w.processed.find? (fun f => f.name = name)).map SourceFile.bytes

def remove (w : ArchiveWorld) (day : Int) (name : String) (bytes : Bytes) : ArchiveWorld :=
  { w with
    processed := w.processed.filter (fun f => f.name ≠ name)
    removed := w.removed ++ [⟨day,name,bytes,w.archive day,w.manifest day,w.checkpoint day⟩] }

/-- `_move_unique` ends at a name that is free. -/
def place (w : ArchiveWorld) (name : String) (bytes : Bytes) : ArchiveWorld :=
  match w.file? name with
  | some _ => w
  | none => { w with processed := w.processed ++ [⟨name,bytes⟩] }

def sortedNames (files : List SourceFile) : List String :=
  (files.map SourceFile.name).insertionSort (fun a b => a ++ ".json" ≤ b ++ ".json")

end ArchiveWorld

/-- The answer of an operation that may fail. -/
def ArchiveChoice.answer {α : Type} (c : ArchiveChoice) (a : α) : Except PyError α :=
  match c.fault with
  | none => .ok a
  | some e => .error e

def lookupFile (files : List SourceFile) (name : String) : Except PyError Bytes :=
  match files.find? (fun f => f.name = name) with
  | some f => .ok f.bytes
  | none => .error (.osError "no such file")

namespace ArchiveCodec

variable (k : ArchiveCodec)

def files (c : ArchiveChoice) (w : ArchiveWorld) : ArchiveDir → List SourceFile
  | .inbox => c.inbox
  | .processed => w.processed
  | .quarantine => c.quarantine

/-- An operation that replaces a file, or fails and leaves it. -/
def replacing (c : ArchiveChoice) (w w' : ArchiveWorld) : Except PyError Unit × ArchiveWorld :=
  match c.fault with
  | none => (.ok (),w')
  | some e => (.error e,w)

def exec : {β : Type} → ArchiveEff β → ArchiveChoice → ArchiveWorld → β × ArchiveWorld
  | _,.clock,c,w => (c.now,w)
  | _,.checkpointExists day,_,w => ((w.checkpoint day).isSome,w)
  | _,.glob dir,c,w => (c.answer (ArchiveWorld.sortedNames (files c w dir)),w)
  | _,.readBytes dir name,c,w => (c.answer () >>= fun _ => lookupFile (files c w dir) name,w)
  | _,.modifiedDay _ _,c,w => (c.modified,w)
  | _,.writeArchive day content,c,w => replacing c w
      { w with archive := Function.update w.archive day (some (k.gzipFile content)) }
  | _,.writeManifest day m,c,w => replacing c w
      { w with manifest := Function.update w.manifest day (some (k.manifestFile m)) }
  | _,.writeCheckpoint day checkpoint,c,w => replacing c w
      { w with checkpoint := Function.update w.checkpoint day (some checkpoint) }
  | _,.readArchive day,c,w => (c.answer (w.archive day),w)
  | _,.readManifest day,c,w => (c.answer (w.manifest day),w)
  | _,.readCheckpoint day,c,w => (c.answer (w.checkpoint day),w)
  | _,.pathExists name,_,w => ((w.file? name).isSome,w)
  | _,.unlink day name,c,w =>
      match c.fault,w.file? name with
      | some e,_ => (.error e,w)
      | none,none => (.error (.osError "no such file"),w)
      | none,some bytes => (.ok (),w.remove day name bytes)
  | _,.moveUnique name bytes,_,w => ((),w.place name bytes)

end ArchiveCodec

/-- `^(\d{13})_` of a file name. -/
def nameEpoch (name : String) : Option Int :=
  match name.toList.splitAt 13 with
  | (digits,'_' :: _) =>
    if digits.all Char.isDigit then some (Bridge.digitsNat digits : Int) else none
  | _ => none

/-- `_path_day_hint`: the time in the name, else the time of the file. -/
def pathDayHint (dir : ArchiveDir) (name : String) : Archiver (Option Int) :=
  match (nameEpoch name).map eventTradingDay with
  | some (.ok day) => pure (some day)
  | _ => ask (.modifiedDay dir name)

namespace ArchiveCodec

variable (k : ArchiveCodec)

/-- `_read_record`, with `none` for what its callers catch. -/
def tryReadRecord (dir : ArchiveDir) (name : String) : Archiver (Option SpoolRecord) := do
  let read ← tryCatch (do
    let raw ← call (.readBytes dir name)
    return some raw) (fun _ => return none)
  match read.map (fun raw => (raw,k.decode raw)) with
  | some (raw,.ok event) =>
    let day ← Proc.ofExcept (eventTradingDay event.timestampMs)
    return some ⟨name,raw,event,day⟩
  | _ => return none

/-- What a file that is no record is taken for, where that is asked. -/
def invalidHint (dir : ArchiveDir) (name : String) (tolerateInvalid : Bool) :
    Option SpoolRecord → Archiver (Option Int)
  | none => if tolerateInvalid then pathDayHint dir name else pure none
  | some _ => pure none

/-- The loop of `_paths_for_day`. -/
def matchPaths (dir : ArchiveDir) (day : Int) (tolerateInvalid : Bool) :
    List String → Archiver (List String)
  | [] => return []
  | name :: rest => do
    let record ← k.tryReadRecord dir name
    let hint ← invalidHint dir name tolerateInvalid record
    let found ← matchPaths dir day tolerateInvalid rest
    return if (record.map SpoolRecord.tradingDay).or hint = some day then name :: found else found

/-- `_paths_for_day`. -/
def pathsForDay (dir : ArchiveDir) (day : Int) (tolerateInvalid : Bool) :
    Archiver (List String) := do
  let names ← call (.glob dir)
  k.matchPaths dir day tolerateInvalid names

/-- The records of the day among these files of `processed`, and the files that are no
records but hint at the day. -/
def scanProcessed (day : Int) : List String → Archiver (List SpoolRecord × List String)
  | [] => return ([],[])
  | name :: rest => do
    let record ← k.tryReadRecord .processed name
    match record with
    | some r =>
      let (records,corrupted) ← scanProcessed day rest
      return (if r.tradingDay = day then r :: records else records,corrupted)
    | none =>
      let hint ← pathDayHint .processed name
      let (records,corrupted) ← scanProcessed day rest
      return (records,if hint = some day then name :: corrupted else corrupted)

def survey (day : Int) : Archiver Survey := do
  let inbox ← k.pathsForDay .inbox day false
  let quarantine ← k.pathsForDay .quarantine day true
  let names ← call (.glob .processed)
  let (records,corrupted) ← k.scanProcessed day names
  return ⟨inbox,quarantine,sortRecords records,corrupted⟩

/-- A file that must be there. -/
def required {α : Type} (o : ArchiveEff (Except PyError (Option α))) : Archiver α := do
  let file ← call o
  match file with
  | some a => return a
  | none => throw (.osError "no such file")

def verifyCommitted (day : Int) : Archiver Manifest := do
  let archive ← call (.readArchive day)
  let manifest ← call (.readManifest day)
  let checkpoint ← call (.readCheckpoint day)
  Proc.ofExcept (k.verifyCommittedFiles archive manifest checkpoint)

/-- `if path.exists(): path.unlink()` for each name; how many were deleted. -/
def deleteSources (day : Int) : List String → Archiver Nat
  | [] => return 0
  | name :: rest => do
    let present ← ask (.pathExists name)
    if present then
      call (.unlink day name)
      let deleted ← deleteSources day rest
      return deleted + 1
    else deleteSources day rest

/-- `_recover_committed_day`. -/
def recoverCommittedDay (day : Int) : Archiver DailyArchiveResult := do
  let m ← k.verifyCommitted day
  let paths ← k.pathsForDay .processed day false
  if paths.any (· ∉ m.sourceFiles) then
    return ⟨"late_events",day,m.eventCount,0,["late_events_after_commit"],some m.archiveSha256⟩
  else
    let deleted ← deleteSources day m.sourceFiles.dedup
    return ⟨"already_archived",day,m.eventCount,deleted,[],some m.archiveSha256⟩

/-- What `archive_day` does with the records of a day that is ready. -/
def commitDay (day : Int) (records : List SpoolRecord) : Archiver DailyArchiveResult := do
  call (.writeArchive day (records.map (fun r => Lines.closed newline r.raw)).flatten)
  let written ← required (.readArchive day)
  let m : Manifest := ⟨day,records.length,written.sha256,
    k.streamDigest (records.map SpoolRecord.raw),records.map SpoolRecord.name⟩
  call (.writeManifest day m)
  let archive ← required (.readArchive day)
  Proc.ofExcept (k.verifyArchive archive m)
  let manifest ← required (.readManifest day)
  call (.writeCheckpoint day ⟨"COMMITTED",written.sha256,manifest.sha256⟩)
  let _ ← k.verifyCommitted day
  let deleted ← deleteSources day (records.map SpoolRecord.name)
  return ⟨"archived",day,records.length,deleted,[],some written.sha256⟩

/-- `now_ms`, or the time. -/
def nowOr : Option Int → Archiver Int
  | some now => pure now
  | none => ask .clock

def archiveDay (day : Int) (o : ArchiveOptions) : Archiver DailyArchiveResult := do
  if o.quietMs < 0 then throw (.valueError "quiet_seconds must be non-negative")
  else
    let nowMs ← nowOr o.nowMs
    let committed ← ask (.checkpointExists day)
    if committed then k.recoverCommittedDay day
    else
      let s ← k.survey day
      if s.records = [] then
        return ⟨if s.spoolReasons = [] then "no_data" else "not_ready",day,0,0,
          sortedReasons s.spoolReasons,none⟩
      else if s.reasons o nowMs ≠ [] then
        return ⟨"not_ready",day,s.records.length,0,sortedReasons (s.reasons o nowMs),none⟩
      else k.commitDay day s.records

end ArchiveCodec

/-- The Host archives a day, or moves a file into `processed`. -/
inductive ArchiveStart where
  | archiveDay (day : Int) (o : ArchiveOptions)
  | arrive (name : String) (bytes : Bytes)

/-- One archiver, at slot 0, and any number of files arriving. -/
def archiveSystem (k : ArchiveCodec) :
    Machine ArchiveEff ArchiveChoice ArchiveWorld ArchiveStart where
  exec := k.exec
  boot
    | .archiveDay day o => (k.archiveDay day o ()).bind (fun _ => .pure ())
    | .arrive name bytes => .op (.moveUnique name bytes) fun _ => .pure ()
  allows pid
    | .archiveDay _ _ => pid = 0
    | .arrive _ _ => pid ≠ 0

end BigQmt
