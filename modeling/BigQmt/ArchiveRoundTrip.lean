import BigQmt.ArchiveSafety
import BigQmt.Runs
import Mathlib.Data.String.Basic
set_option autoImplicit false

/-!
A day that `archive_day` finds ready, with the spool at rest and every file operation
succeeding: whether the day is committed, and what is read from its archive.
-/

namespace BigQmt

open Resumption Proc ArchiveWorld

/-- The surroundings of the archiver, while no file operation fails. -/
structure SpoolAtRest where
  now : Int
  inbox : List SourceFile
  quarantine : List SourceFile
  modified : ArchiveDir → String → Option Int

def SpoolAtRest.pick (E : SpoolAtRest) : {β : Type} → ArchiveEff β → ArchiveChoice
  | _,.modifiedDay dir name => ⟨E.now,E.inbox,E.quarantine,E.modified dir name,none⟩
  | _,_ => ⟨E.now,E.inbox,E.quarantine,none,none⟩

def atRest (k : ArchiveCodec) (E : SpoolAtRest) : Policy ArchiveEff ArchiveChoice ArchiveWorld where
  exec := k.exec
  pick := E.pick

/-- The record that is read from a file of `processed`. -/
def ArchiveWorld.record (k : ArchiveCodec) (w : ArchiveWorld) (name : String) :
    Option SpoolRecord :=
  match (w.file? name).map (fun raw => (raw,k.decode raw)) with
  | some (raw,.ok e) =>
    match eventTradingDay e.timestampMs with
    | .ok day => some ⟨name,raw,e,day⟩
    | .error _ => none
  | _ => none

/-- The records of a day, in the order of the directory. -/
def ArchiveWorld.dayRecords (k : ArchiveCodec) (w : ArchiveWorld) (day : Int) (names : List String) :
    List SpoolRecord :=
  (names.filterMap (w.record k)).filter (fun r => r.tradingDay = day)

/-- The events of a day, one for each of its files. -/
def ArchiveWorld.dayEvents (k : ArchiveCodec) (w : ArchiveWorld) (day : Int) : List QmtEvent :=
  (w.dayRecords k day (w.processed.map SourceFile.name)).map SpoolRecord.event

/-- The day is committed, and the archive, read line by line, gives the events of the day in
their order. -/
def RoundTrips (k : ArchiveCodec) (E : SpoolAtRest) (o : ArchiveOptions) (day : Int)
    (w : ArchiveWorld) : Prop :=
  ∃ result m content events w',
    (atRest k E).call (k.archiveDay day o) () w = ((.ok result,()),w') ∧
    result.status = "archived" ∧ w'.committed k day = .ok m ∧
    (w'.archive day).bind GzipFile.content = some content ∧
    (Lines.lines newline content).mapM k.decode = .ok events ∧
    events.Pairwise QmtEvent.keyLe ∧ events.Perm (w.dayEvents k day)

/-- At most one line break at the end, and room for one. -/
def PlainFrame (raw : Bytes) : Prop :=
  Lines.endings newline raw ≤ 1 ∧
    (Lines.endings newline raw = 0 → raw.length < maxFrameBytes)

variable {k : ArchiveCodec}

theorem decode_size {raw : Bytes} {e : QmtEvent} (h : k.decode raw = .ok e) :
    raw ≠ [] ∧ raw.length ≤ maxFrameBytes := by
  simp only [ArchiveCodec.decode,decodeTransportFrame,refuse_eq_ok] at h
  constructor
  · rintro rfl
    simp at h
  · simpa using (Bool.or_eq_false_iff.mp h.1).2

/-- The line that is written for a plain frame is read as the frame is. -/
theorem decode_closed {raw : Bytes} {e : QmtEvent} (h : k.decode raw = .ok e)
    (hplain : PlainFrame raw) : k.decode (Lines.closed newline raw) = .ok e := by
  by_cases hlast : raw.getLast? = some newline
  · rwa [Lines.closed_of_ended hlast]
  · obtain ⟨hne,-⟩ := decode_size h
    have hroom := hplain.2 (Lines.endings_eq_zero.mpr hlast)
    have hclosed : Lines.closed newline raw = raw ++ [newline] := by simp [Lines.closed,hlast]
    have hpos : 0 < raw.length := List.length_pos_iff.mpr hne
    have hsize : ∀ n, n = raw.length ∨ n = raw.length + 1 →
        (n == 0 || decide (maxFrameBytes < n)) = false := by
      rintro n hn
      simp only [Bool.or_eq_false_iff,beq_eq_false_iff_ne,decide_eq_false_iff_not]
      omega
    rw [← h,hclosed]
    simp only [ArchiveCodec.decode,decodeTransportFrame,k.loads_newline,Lines.stripEnd_concat,
      List.length_append,List.length_singleton,hsize _ (.inl rfl),hsize _ (.inr rfl)]

/-- No other frame is read back: an empty line is none, and a line that is too long is none. -/
theorem plain_of_closed {raw : Bytes} {e : QmtEvent} (h : k.decode raw = .ok e)
    (hread : ∀ line ∈ Lines.lines newline (Lines.closed newline raw), ∃ e, k.decode line = .ok e) :
    PlainFrame raw := by
  rw [Lines.lines_closed (decode_single h)] at hread
  constructor
  · by_contra hmany
    obtain ⟨n,hn⟩ : ∃ n, Lines.endings newline raw - 1 = n + 1 := ⟨Lines.endings newline raw - 2,by omega⟩
    rw [hn,List.replicate_succ] at hread
    obtain ⟨e',he'⟩ := hread [newline] (List.mem_cons_of_mem _ List.mem_cons_self)
    obtain ⟨err,herr⟩ := decode_newline k
    rw [herr] at he'
    cases he'
  · intro hnone
    have hsplit : Lines.stripEnd newline raw ++
        List.replicate (Lines.endings newline raw) newline = raw := Lines.stripEnd_endings raw
    rw [hnone,List.replicate_zero,List.append_nil] at hsplit
    obtain ⟨e',he'⟩ := hread _ List.mem_cons_self
    have hsize := (decode_size he').2
    rw [hsplit,List.length_append,List.length_singleton] at hsize
    omega

theorem mapM_map_ok {α β γ : Type} {f : β → Except PyError γ} {g : α → β} {b : α → γ} {l : List α}
    (h : ∀ a ∈ l, f (g a) = .ok (b a)) : (l.map g).mapM f = .ok (l.map b) := by
  induction l with
  | nil => rfl
  | cons a l ih =>
    have hrest := ih fun x hx => h x (List.mem_cons_of_mem _ hx)
    rw [List.map_cons,List.mapM_cons,h a List.mem_cons_self,hrest]
    rfl

/-- What the records of a day say of their files. -/
structure DayRecord (k : ArchiveCodec) (day : Int) (r : SpoolRecord) : Prop where
  decodes : k.decode r.raw = .ok r.event
  day : eventTradingDay r.event.timestampMs = .ok day

section records
variable {day : Int} {records : List SpoolRecord}

theorem lines_stream (hrecords : ∀ r ∈ records, DayRecord k day r)
    (hplain : ∀ r ∈ records, PlainFrame r.raw) :
    Lines.lines newline (stream records) =
      records.map (fun r => Lines.closed newline r.raw) := by
  have hline : ∀ r ∈ records, Lines.lines newline (Lines.closed newline r.raw) =
      [Lines.closed newline r.raw] := fun r hr =>
    Lines.lines_closed_single (decode_single (hrecords r hr).decodes) (hplain r hr).1
  rw [stream_eq,Lines.lines_flatten_closed,List.map_map]
  induction records with
  | nil => rfl
  | cons r rest ih =>
    have hrest := ih (fun x hx => hrecords x (List.mem_cons_of_mem _ hx))
      (fun x hx => hplain x (List.mem_cons_of_mem _ hx))
      (fun x hx => hline x (List.mem_cons_of_mem _ hx))
    rw [List.map_cons,List.flatten_cons,hrest]
    simp [hline r List.mem_cons_self]

/-- The archive, read line by line. -/
theorem read_stream (hrecords : ∀ r ∈ records, DayRecord k day r)
    (hplain : ∀ r ∈ records, PlainFrame r.raw) :
    (Lines.lines newline (stream records)).mapM k.decode =
      .ok (records.map SpoolRecord.event) := by
  rw [lines_stream hrecords hplain]
  exact mapM_map_ok fun r hr => decode_closed (hrecords r hr).decodes (hplain r hr)

/-- The manifest that `archive_day` writes. -/
def manifestOf (k : ArchiveCodec) (day : Int) (records : List SpoolRecord) : Manifest :=
  ⟨day,records.length,(k.gzipFile (stream records)).sha256,
    k.streamDigest (records.map SpoolRecord.raw),records.map SpoolRecord.name⟩

theorem streamDigest_closed (raws : List Bytes) :
    k.streamDigest (raws.map (Lines.closed newline)) = k.streamDigest raws := by
  simp [ArchiveCodec.streamDigest,List.map_map,Function.comp_def,Lines.closed_closed]

theorem verify_stream (hrecords : ∀ r ∈ records, DayRecord k day r)
    (hplain : ∀ r ∈ records, PlainFrame r.raw) :
    k.verifyArchive (k.gzipFile (stream records)) (manifestOf k day records) = .ok () := by
  have hdigest : k.streamDigest (records.map (fun r => Lines.closed newline r.raw)) =
      (manifestOf k day records).eventStreamSha256 := by
    have hmap : records.map (fun r => Lines.closed newline r.raw) =
        (records.map SpoolRecord.raw).map (Lines.closed newline) := by simp
    rw [hmap,streamDigest_closed]
    rfl
  have hdays : (records.map SpoolRecord.event).mapM (fun e => eventTradingDay e.timestampMs) =
      .ok (records.map (fun _ => day)) := mapM_map_ok fun r hr => (hrecords r hr).day
  have hlines : k.verifyLines (manifestOf k day records)
      (Lines.lines newline (stream records)) = .ok () := by
    unfold ArchiveCodec.verifyLines
    rw [read_stream hrecords hplain,lines_stream hrecords hplain]
    simp [hdigest,hdays,manifestOf]
  simpa [ArchiveCodec.verifyArchive,ArchiveCodec.gzipFile,manifestOf] using hlines

/-- The archive is verified only when every frame is plain. -/
theorem plain_of_verified (hrecords : ∀ r ∈ records, DayRecord k day r)
    (h : k.verifyArchive (k.gzipFile (stream records)) (manifestOf k day records) = .ok ()) :
    ∀ r ∈ records, PlainFrame r.raw := by
  intro r hr
  refine plain_of_closed (hrecords r hr).decodes fun line hline => ?_
  refine verifyLines_ok (verifyArchive_content h) line ?_
  rw [stream_eq,Lines.lines_flatten_closed]
  exact List.mem_flatten.mpr ⟨_,List.mem_map_of_mem (List.mem_map_of_mem hr),hline⟩

end records

section calls
variable {E : SpoolAtRest} {day : Int} {records : List SpoolRecord} {w : ArchiveWorld}

theorem readArchive_call : (atRest k E).call (call (.readArchive day) : Archiver _) () w =
    ((.ok (w.archive day),()),w) := rfl

theorem readManifest_call : (atRest k E).call (call (.readManifest day) : Archiver _) () w =
    ((.ok (w.manifest day),()),w) := rfl

theorem readCheckpoint_call : (atRest k E).call (call (.readCheckpoint day) : Archiver _) () w =
    ((.ok (w.checkpoint day),()),w) := rfl

theorem pathExists_call {name : String} :
    (atRest k E).call (ask (.pathExists name) : Archiver _) () w =
      ((.ok (w.file? name).isSome,()),w) := rfl

/-- Deleting the sources ends, and leaves the files of every day. -/
theorem deleteSources_call (k : ArchiveCodec) (E : SpoolAtRest) (day : Int) (names : List String)
    (w : ArchiveWorld) :
    ∃ n w',(atRest k E).call (ArchiveCodec.deleteSources day names) () w = ((.ok n,()),w') ∧
      w'.archive = w.archive ∧ w'.manifest = w.manifest ∧ w'.checkpoint = w.checkpoint := by
  induction names generalizing w with
  | nil => exact ⟨0,w,rfl,rfl,rfl,rfl⟩
  | cons name names ih =>
    unfold ArchiveCodec.deleteSources
    rw [Policy.call_bind_ok _ pathExists_call]
    cases hfile : w.file? name with
    | none => exact ih w
    | some bytes =>
      have hunlink : (atRest k E).call (call (.unlink day name) : Archiver Unit) () w =
          ((.ok (),()),w.remove day name bytes) := by
        simp [atRest,SpoolAtRest.pick,ArchiveCodec.exec,hfile]
      obtain ⟨n,w',hrest,hkept⟩ := ih (w.remove day name bytes)
      refine ⟨n + 1,w',?_,hkept⟩
      simp only [Option.isSome_some,if_true]
      rw [Policy.call_bind_ok _ hunlink,Policy.call_bind_ok _ hrest]
      rfl

theorem verifyCommitted_call (w : ArchiveWorld) :
    (atRest k E).call (k.verifyCommitted day) () w = ((w.committed k day,()),w) := by
  unfold ArchiveCodec.verifyCommitted
  rw [Policy.call_bind_ok _ readArchive_call,Policy.call_bind_ok _ readManifest_call,
    Policy.call_bind_ok _ readCheckpoint_call,Policy.call_ofExcept]
  rfl

theorem required_call {α : Type} {o : ArchiveEff (Except PyError (Option α))} {a : α}
    (h : (atRest k E).call (call o : Archiver _) () w = ((.ok (some a),()),w)) :
    (atRest k E).call (ArchiveCodec.required o) () w = ((.ok a,()),w) := by
  unfold ArchiveCodec.required
  rw [Policy.call_bind_ok _ h]
  rfl

/-- The spool once the archive and the manifest are written. -/
def ArchiveWorld.written (k : ArchiveCodec) (w : ArchiveWorld) (day : Int)
    (records : List SpoolRecord) : ArchiveWorld :=
  { w with
    archive := Function.update w.archive day (some (k.gzipFile (stream records)))
    manifest := Function.update w.manifest day (some (k.manifestFile (manifestOf k day records))) }

theorem written_archive :
    (w.written k day records).archive day = some (k.gzipFile (stream records)) :=
  Function.update_self _ _ _

theorem written_manifest :
    (w.written k day records).manifest day = some (k.manifestFile (manifestOf k day records)) :=
  Function.update_self _ _ _

theorem requiredArchive_call : (atRest k E).call (ArchiveCodec.required (.readArchive day)) ()
    (w.written k day records) = ((.ok (k.gzipFile (stream records)),()),w.written k day records) :=
  required_call (by rw [readArchive_call,written_archive])

/-- What is left to do then. -/
def verifyAndCommit (k : ArchiveCodec) (day : Int) (records : List SpoolRecord) :
    Archiver DailyArchiveResult := do
  let m := manifestOf k day records
  let archive ← ArchiveCodec.required (.readArchive day)
  Proc.ofExcept (k.verifyArchive archive m)
  let manifest ← ArchiveCodec.required (.readManifest day)
  call (.writeCheckpoint day ⟨"COMMITTED",m.archiveSha256,manifest.sha256⟩)
  let _ ← k.verifyCommitted day
  let deleted ← ArchiveCodec.deleteSources day (records.map SpoolRecord.name)
  return ⟨"archived",day,records.length,deleted,[],some m.archiveSha256⟩

theorem commitDay_call :
    (atRest k E).call (k.commitDay day records) () w =
      (atRest k E).call (verifyAndCommit k day records) () (w.written k day records) := by
  have harchive : (atRest k E).call (call (.writeArchive day (stream records)) : Archiver Unit) () w =
      ((.ok (),()),{ w with
        archive := Function.update w.archive day (some (k.gzipFile (stream records))) }) := rfl
  have hwritten : ∀ u : ArchiveWorld, u.archive day = some (k.gzipFile (stream records)) →
      (atRest k E).call (ArchiveCodec.required (.readArchive day)) () u =
        ((.ok (k.gzipFile (stream records)),()),u) := fun u hu =>
    required_call (by rw [readArchive_call,hu])
  have hmanifest : (atRest k E).call
      (call (.writeManifest day (manifestOf k day records)) : Archiver Unit) ()
      { w with archive := Function.update w.archive day (some (k.gzipFile (stream records))) } =
        ((.ok (),()),w.written k day records) := rfl
  refine (Policy.call_bind_ok _ harchive).trans ?_
  refine (Policy.call_bind_ok _ (hwritten _ (Function.update_self _ _ _))).trans ?_
  exact (Policy.call_bind_ok _ hmanifest).trans rfl

theorem verifyAndCommit_error {e : PyError}
    (h : k.verifyArchive (k.gzipFile (stream records)) (manifestOf k day records) = .error e) :
    (atRest k E).call (verifyAndCommit k day records) () (w.written k day records) =
      ((.error e,()),w.written k day records) := by
  refine (Policy.call_bind_ok _ requiredArchive_call).trans (Policy.call_bind_error _ ?_)
  rw [Policy.call_ofExcept,h]

theorem verifyAndCommit_ok
    (h : k.verifyArchive (k.gzipFile (stream records)) (manifestOf k day records) = .ok ()) :
    ∃ n w',(atRest k E).call (verifyAndCommit k day records) () (w.written k day records) =
        ((.ok ⟨"archived",day,records.length,n,[],some (k.gzipFile (stream records)).sha256⟩,()),
          w') ∧
      w'.committed k day = .ok (manifestOf k day records) ∧
      w'.archive day = some (k.gzipFile (stream records)) := by
  let file := k.manifestFile (manifestOf k day records)
  let done : ArchiveWorld := { w.written k day records with
    checkpoint := Function.update w.checkpoint day
      (some ⟨"COMMITTED",(k.gzipFile (stream records)).sha256,file.sha256⟩) }
  have hverify : (atRest k E).call (Proc.ofExcept (k.verifyArchive (k.gzipFile (stream records))
      (manifestOf k day records)) : Archiver Unit) () (w.written k day records) =
        ((.ok (),()),w.written k day records) := by
    rw [Policy.call_ofExcept,h]
  have hmanifest : (atRest k E).call (ArchiveCodec.required (.readManifest day)) ()
      (w.written k day records) = ((.ok file,()),w.written k day records) :=
    required_call (by rw [readManifest_call,written_manifest])
  have hcheckpoint : (atRest k E).call (call (.writeCheckpoint day
      ⟨"COMMITTED",(manifestOf k day records).archiveSha256,file.sha256⟩) : Archiver Unit) ()
        (w.written k day records) = ((.ok (),()),done) := rfl
  have hcommitted : done.committed k day = .ok (manifestOf k day records) := by
    have hfiles : k.verifyCommittedFiles (some (k.gzipFile (stream records))) (some file)
        (some ⟨"COMMITTED",(k.gzipFile (stream records)).sha256,file.sha256⟩) =
          .ok (manifestOf k day records) := verifyCommittedFiles_written h
    simp only [committed,done,written_archive,written_manifest,Function.update_self]
    exact hfiles
  have hagain : (atRest k E).call (k.verifyCommitted day) () done =
      ((.ok (manifestOf k day records),()),done) := by
    rw [verifyCommitted_call,hcommitted]
  obtain ⟨n,w',hdelete,harch,hman,hcheck⟩ :=
    deleteSources_call k E day (records.map SpoolRecord.name) done
  refine ⟨n,w',?_,?_,?_⟩
  · refine (Policy.call_bind_ok _ requiredArchive_call).trans ?_
    refine (Policy.call_bind_ok _ hverify).trans ?_
    refine (Policy.call_bind_ok _ hmanifest).trans ?_
    refine (Policy.call_bind_ok _ hcheckpoint).trans ?_
    refine (Policy.call_bind_ok _ hagain).trans ?_
    exact (Policy.call_bind_ok _ hdelete).trans rfl
  · rw [committed,harch,hman,hcheck]
    exact hcommitted
  · rw [harch]
    exact Function.update_self _ _ _

theorem looks_scanProcessed (day : Int) (names : List String) :
    (k.scanProcessed day names).All (Looks k) := by
  induction names with
  | nil => exact all_pure _
  | cons name names ih =>
    refine all_bind (looks_tryReadRecord .processed name) fun record => ?_
    cases record with
    | some r => exact all_bind ih fun _ => all_pure _
    | none =>
      exact all_bind (looks_pathDayHint .processed name) fun _ => all_bind ih fun _ => all_pure _

theorem looks_survey (day : Int) : (k.survey day).All (Looks k) :=
  all_bind (looks_pathsForDay .inbox day false) fun _ =>
    all_bind (looks_pathsForDay .quarantine day true) fun _ =>
      all_bind (all_call fun _ _ => rfl) fun names =>
        all_bind (looks_scanProcessed day names) fun _ => all_pure _

theorem call_looks {α : Type} {x : Archiver α} (h : x.All (Looks k)) (w : ArchiveWorld) :
    ((atRest k E).call x () w).2 = w :=
  Policy.run_unmoved _ (h ()) w

/-- A call that only looks and returns, and a call after it. -/
theorem call_after_look {α β : Type} {x : Archiver α} {f : α → Archiver β} {b : β}
    (hx : x.All (Looks k)) (h : ((atRest k E).call (x >>= f) () w).1.1 = .ok b) :
    ∃ a,(atRest k E).call x () w = ((.ok a,()),w) ∧ ((atRest k E).call (f a) () w).1.1 = .ok b := by
  have hsame := call_looks (E := E) hx w
  rcases hcall : (atRest k E).call x () w with ⟨⟨e | a,u⟩,w'⟩
  · rw [Policy.call_bind_error _ hcall] at h
    cases h
  · rw [hcall] at hsame
    subst hsame
    rw [Policy.call_bind_ok _ hcall] at h
    exact ⟨a,rfl,h⟩

theorem tryReadRecord_call {name : String} {r : Option SpoolRecord}
    (h : ((atRest k E).call (k.tryReadRecord .processed name) () w).1.1 = .ok r) :
    r = w.record k name := by
  have hread : (atRest k E).call (tryCatch (do
      let raw ← call (.readBytes .processed name)
      return some raw) (fun _ => return none) : Archiver (Option Bytes)) () w =
        ((.ok (w.file? name),()),w) := by
    have hcall : (atRest k E).call (call (.readBytes .processed name) : Archiver Bytes) () w =
        ((lookupFile w.processed name,()),w) := rfl
    rw [Policy.call_tryCatch]
    cases hfile : w.processed.find? (fun f => decide (f.name = name)) with
    | none =>
      simp only [lookupFile,hfile] at hcall
      rw [Policy.call_bind_error _ hcall]
      simp [file?,hfile]
    | some f =>
      simp only [lookupFile,hfile] at hcall
      rw [Policy.call_bind_ok _ hcall]
      simp [file?,hfile]
  unfold ArchiveCodec.tryReadRecord at h
  rw [Policy.call_bind_ok _ hread] at h
  unfold ArchiveWorld.record
  cases hfile : w.file? name with
  | none => simpa [hfile] using h.symm
  | some raw =>
    cases hdecode : k.decode raw with
    | error e => simpa [hfile,hdecode] using h.symm
    | ok event =>
      simp only [hfile,hdecode,Option.map_some] at h ⊢
      have hofExcept : (atRest k E).call (Proc.ofExcept (eventTradingDay event.timestampMs) :
          Archiver Int) () w = ((eventTradingDay event.timestampMs,()),w) :=
        Policy.call_ofExcept _ _
      cases hday : eventTradingDay event.timestampMs with
      | error e =>
        rw [hday] at h hofExcept
        rw [Policy.call_bind_error _ hofExcept] at h
        cases h
      | ok day =>
        rw [hday] at h hofExcept
        rw [Policy.call_bind_ok _ hofExcept] at h
        exact (Except.ok.inj h).symm

theorem scanProcessed_call {names : List String} {p : List SpoolRecord × List String}
    (h : ((atRest k E).call (k.scanProcessed day names) () w).1.1 = .ok p) :
    p.1 = w.dayRecords k day names := by
  induction names generalizing p with
  | nil =>
    cases h
    rfl
  | cons name names ih =>
    obtain ⟨record,hcall,h⟩ := call_after_look (looks_tryReadRecord .processed name) h
    have hrecord : record = w.record k name := tryReadRecord_call (by rw [hcall])
    cases record with
    | none =>
      obtain ⟨hint,-,h⟩ := call_after_look (looks_pathDayHint .processed name) h
      obtain ⟨q,hq,h⟩ := call_after_look (looks_scanProcessed day names) h
      have hrest := ih (by rw [hq])
      cases h
      simp [ArchiveWorld.dayRecords,hrest,← hrecord]
    | some r =>
      obtain ⟨q,hq,h⟩ := call_after_look (looks_scanProcessed day names) h
      have hrest := ih (by rw [hq])
      cases h
      by_cases hday : r.tradingDay = day
      · simp [ArchiveWorld.dayRecords,hrest,← hrecord,hday]
      · simp [ArchiveWorld.dayRecords,hrest,← hrecord,hday]

theorem survey_call {s : Survey} (h : ((atRest k E).call (k.survey day) () w).1.1 = .ok s) :
    s.records = sortRecords (w.dayRecords k day (sortedNames w.processed)) := by
  obtain ⟨inbox,-,h⟩ := call_after_look (looks_pathsForDay .inbox day false) h
  obtain ⟨quarantine,-,h⟩ := call_after_look (looks_pathsForDay .quarantine day true) h
  have hglob : (atRest k E).call (call (.glob .processed) : Archiver (List String)) () w =
      ((.ok (sortedNames w.processed),()),w) := rfl
  rw [Policy.call_bind_ok _ hglob] at h
  obtain ⟨p,hp,h⟩ := call_after_look (looks_scanProcessed day _) h
  have hrecords : p.1 = w.dayRecords k day (sortedNames w.processed) :=
    scanProcessed_call (by rw [hp])
  cases h
  simp only [hrecords]

/-- A day that is ready is written. -/
theorem archiveDay_call {o : ArchiveOptions} {s : Survey} (hquiet : 0 ≤ o.quietMs)
    (hcheckpoint : w.checkpoint day = none)
    (hsurvey : ((atRest k E).call (k.survey day) () w).1.1 = .ok s) (hrecords : s.records ≠ [])
    (hready : s.reasons o (o.nowMs.getD E.now) = []) :
    (atRest k E).call (k.archiveDay day o) () w =
      (atRest k E).call (k.commitDay day s.records) () w := by
  have hnow : (atRest k E).call (ArchiveCodec.nowOr o.nowMs) () w =
      ((.ok (o.nowMs.getD E.now),()),w) := by
    cases o.nowMs <;> rfl
  have hnone : (atRest k E).call (ask (.checkpointExists day) : Archiver Bool) () w =
      ((.ok false,()),w) := by
    have hcall : (atRest k E).call (ask (.checkpointExists day) : Archiver Bool) () w =
        ((.ok (w.checkpoint day).isSome,()),w) := rfl
    rw [hcall,hcheckpoint]
    rfl
  have hfound : (atRest k E).call (k.survey day) () w = ((.ok s,()),w) := by
    have hsame := call_looks (E := E) (looks_survey (k := k) day) w
    rcases hcall : (atRest k E).call (k.survey day) () w with ⟨⟨r,u⟩,w'⟩
    rw [hcall] at hsurvey hsame
    cases hsurvey
    cases hsame
    rfl
  unfold ArchiveCodec.archiveDay
  rw [if_neg (by omega),Policy.call_bind_ok _ hnow,Policy.call_bind_ok _ hnone]
  simp only [Bool.false_eq_true,if_false]
  rw [Policy.call_bind_ok _ hfound,if_neg hrecords,if_neg (not_not.mpr hready)]

end calls

theorem QmtEvent.keyLe_total (a b : QmtEvent) : a.keyLe b ∨ b.keyLe a := by
  unfold QmtEvent.keyLe
  rcases lt_trichotomy a.timestampMs b.timestampMs with ht | ht | ht
  · exact .inl (.inl ht)
  · rcases lt_trichotomy a.sessionId b.sessionId with hs | hs | hs
    · exact .inl (.inr ⟨ht,.inl hs⟩)
    · rcases le_total a.sequence b.sequence with hq | hq
      · exact .inl (.inr ⟨ht,.inr ⟨hs,hq⟩⟩)
      · exact .inr (.inr ⟨ht.symm,.inr ⟨hs.symm,hq⟩⟩)
    · exact .inr (.inr ⟨ht.symm,.inl hs⟩)
  · exact .inr (.inl ht)

theorem QmtEvent.keyLe_trans {a b c : QmtEvent} (hab : a.keyLe b) (hbc : b.keyLe c) :
    a.keyLe c := by
  unfold QmtEvent.keyLe at *
  obtain ht | ⟨ht,hab⟩ := hab
  · obtain ht' | ⟨ht',-⟩ := hbc
    · exact .inl (ht.trans ht')
    · exact .inl (ht' ▸ ht)
  · obtain ht' | ⟨ht',hbc⟩ := hbc
    · exact .inl (ht ▸ ht')
    · refine .inr ⟨ht.trans ht',?_⟩
      obtain hs | ⟨hs,hq⟩ := hab
      · obtain hs' | ⟨hs',-⟩ := hbc
        · exact .inl (hs.trans hs')
        · exact .inl (hs' ▸ hs)
      · obtain hs' | ⟨hs',hq'⟩ := hbc
        · exact .inl (hs ▸ hs')
        · exact .inr ⟨hs.trans hs',hq.trans hq'⟩

theorem sortRecords_sorted (records : List SpoolRecord) :
    ((sortRecords records).map SpoolRecord.event).Pairwise QmtEvent.keyLe := by
  have htotal : Std.Total (fun a b : SpoolRecord => a.event.keyLe b.event) :=
    ⟨fun a b => a.event.keyLe_total b.event⟩
  have htrans : IsTrans SpoolRecord (fun a b => a.event.keyLe b.event) :=
    ⟨fun _ _ _ => QmtEvent.keyLe_trans⟩
  exact List.pairwise_map.mpr (List.pairwise_insertionSort _ _)

namespace ArchiveWorld

theorem record_spec {w : ArchiveWorld} {name : String} {r : SpoolRecord}
    (h : w.record k name = some r) : w.file? name = some r.raw ∧ DayRecord k r.tradingDay r := by
  unfold record at h
  cases hfile : w.file? name with
  | none => simp [hfile] at h
  | some raw =>
    cases hdecode : k.decode raw with
    | error e => simp [hfile,hdecode] at h
    | ok event =>
      cases hday : eventTradingDay event.timestampMs with
      | error e => simp [hfile,hdecode,hday] at h
      | ok day =>
        have heq : (⟨name,raw,event,day⟩ : SpoolRecord) = r := by simpa [hfile,hdecode,hday] using h
        subst heq
        exact ⟨rfl,hdecode,hday⟩

theorem mem_dayRecords {w : ArchiveWorld} {day : Int} {names : List String} {r : SpoolRecord} :
    r ∈ w.dayRecords k day names ↔
      (∃ name ∈ names,w.record k name = some r) ∧ r.tradingDay = day := by
  simp [dayRecords]

theorem name_mem_of_file {w : ArchiveWorld} {name : String} {bytes : Bytes}
    (h : w.file? name = some bytes) : name ∈ w.processed.map SourceFile.name := by
  obtain ⟨f,hf,-⟩ := Option.map_eq_some_iff.mp h
  have hname : f.name = name := by simpa using List.find?_some hf
  exact List.mem_map.mpr ⟨f,List.mem_of_find?_eq_some hf,hname⟩

end ArchiveWorld

/-- A ready day is committed and read back from its archive exactly when each of its files is
a plain frame. -/
theorem ready_day_round_trips (k : ArchiveCodec) (E : SpoolAtRest) {day : Int}
    {o : ArchiveOptions} {w : ArchiveWorld} {s : Survey} (hquiet : 0 ≤ o.quietMs)
    (hcheckpoint : w.checkpoint day = none)
    (hsurvey : ((atRest k E).call (k.survey day) () w).1.1 = .ok s) (hrecords : s.records ≠ [])
    (hready : s.reasons o (o.nowMs.getD E.now) = []) :
    RoundTrips k E o day w ↔
      ∀ name raw e,w.file? name = some raw → k.decode raw = .ok e →
        eventTradingDay e.timestampMs = .ok day → PlainFrame raw := by
  have hfound := survey_call hsurvey
  have hnames : ∀ name, name ∈ sortedNames w.processed ↔ name ∈ w.processed.map SourceFile.name :=
    fun name => List.mem_insertionSort _
  have hmem : ∀ r, r ∈ s.records ↔ (∃ name,w.record k name = some r) ∧ r.tradingDay = day := by
    intro r
    rw [hfound,sortRecords,List.mem_insertionSort,mem_dayRecords]
    constructor
    · rintro ⟨⟨name,-,hrecord⟩,hday⟩
      exact ⟨⟨name,hrecord⟩,hday⟩
    · rintro ⟨⟨name,hrecord⟩,hday⟩
      exact ⟨⟨name,(hnames name).mpr (name_mem_of_file (record_spec hrecord).1),hrecord⟩,hday⟩
  have hspec : ∀ r ∈ s.records, DayRecord k day r := by
    intro r hr
    obtain ⟨⟨name,hrecord⟩,hday⟩ := (hmem r).mp hr
    exact hday ▸ (record_spec hrecord).2
  have hcall := (archiveDay_call hquiet hcheckpoint hsurvey hrecords hready).trans commitDay_call
  constructor
  · rintro ⟨result,m,content,events,w',hresult,-⟩ name raw e hfile hdecode hday
    rw [hcall] at hresult
    cases hverify : k.verifyArchive (k.gzipFile (stream s.records)) (manifestOf k day s.records) with
    | error err =>
      rw [verifyAndCommit_error hverify] at hresult
      cases hresult
    | ok u =>
      have hr : (⟨name,raw,e,day⟩ : SpoolRecord) ∈ s.records :=
        (hmem _).mpr ⟨⟨name,by simp [record,hfile,hdecode,hday]⟩,rfl⟩
      exact plain_of_verified hspec hverify _ hr
  · intro hplain
    have hplain' : ∀ r ∈ s.records, PlainFrame r.raw := by
      intro r hr
      obtain ⟨⟨name,hrecord⟩,-⟩ := (hmem r).mp hr
      exact hplain name r.raw r.event (record_spec hrecord).1 (hspec r hr).decodes (hspec r hr).day
    obtain ⟨n,w',hcommit,hcommitted,harchive⟩ :=
      verifyAndCommit_ok (w := w) (E := E) (verify_stream hspec hplain')
    refine ⟨_,_,stream s.records,s.records.map SpoolRecord.event,w',hcall.trans hcommit,rfl,
      hcommitted,?_,read_stream hspec hplain',?_,?_⟩
    · rw [harchive]
      rfl
    · rw [hfound]
      exact sortRecords_sorted _
    · rw [hfound]
      refine List.Perm.map _ ((List.perm_insertionSort _ _).trans ?_)
      exact ((List.perm_insertionSort _ _).filterMap _).filter _

def quietSpool : SpoolAtRest := ⟨0,[],[],fun _ _ => none⟩

/-- The survey of a day finds records and no reason against archiving them. -/
def surveyReady (w : ArchiveWorld) (o : ArchiveOptions) : Bool :=
  match ((atRest sampleCodec quietSpool).call (sampleCodec.survey 19676) () w).1.1 with
  | .ok s => s.records ≠ [] && s.reasons o (o.nowMs.getD 0) = []
  | .error _ => false

theorem survey_of_ready {w : ArchiveWorld} {o : ArchiveOptions} (h : surveyReady w o = true) :
    ∃ s,((atRest sampleCodec quietSpool).call (sampleCodec.survey 19676) () w).1.1 = .ok s ∧
      s.records ≠ [] ∧ s.reasons o (o.nowMs.getD quietSpool.now) = [] := by
  unfold surveyReady at h
  split at h
  · rename_i s hs
    have hboth : s.records ≠ [] ∧ s.reasons o (o.nowMs.getD 0) = [] := by simpa using h
    exact ⟨s,hs,hboth⟩
  · cases h

def laterOptions : ArchiveOptions := ⟨0,some 1700000000000,false⟩

theorem ready_day_round_trips_sample :
    RoundTrips sampleCodec quietSpool laterOptions 19676 sampleSpool := by
  obtain ⟨s,hsurvey,hrecords,hready⟩ :=
    survey_of_ready (show surveyReady sampleSpool laterOptions = true by decide +kernel)
  have hquiet : 0 ≤ laterOptions.quietMs := by decide
  refine (ready_day_round_trips sampleCodec quietSpool hquiet rfl hsurvey hrecords hready).mpr ?_
  intro name raw e hfile _ _
  have hmem : ∃ f ∈ sampleSpool.processed,f.bytes = raw := by
    obtain ⟨f,hf,hraw⟩ := Option.map_eq_some_iff.mp hfile
    exact ⟨f,List.mem_of_find?_eq_some hf,hraw⟩
  have hplain : ∀ f ∈ sampleSpool.processed,
      Lines.endings newline f.bytes = 0 ∧ f.bytes.length < maxFrameBytes := by decide +kernel
  obtain ⟨f,hf,rfl⟩ := hmem
  exact ⟨by rw [(hplain f hf).1]; omega,fun _ => (hplain f hf).2⟩

/-- A frame that ends with two line breaks is accepted by the decoder. -/
def blankLineSpool : ArchiveWorld :=
  ⟨[⟨"1700000000000_session-a_1",sampleFrame 49 ++ [newline,newline]⟩],fun _ => none,fun _ => none,
    fun _ => none,[]⟩

theorem blank_line_not_archived :
    ¬ ∀ (k : ArchiveCodec) (E : SpoolAtRest) (day : Int) (o : ArchiveOptions) (w : ArchiveWorld)
      (s : Survey),(∀ f ∈ w.processed,∃ e,k.decode f.bytes = .ok e) → 0 ≤ o.quietMs →
        w.checkpoint day = none → ((atRest k E).call (k.survey day) () w).1.1 = .ok s →
          s.records ≠ [] → s.reasons o (o.nowMs.getD E.now) = [] → RoundTrips k E o day w := by
  intro h
  have hdecodes : ∀ f ∈ blankLineSpool.processed,
      (sampleCodec.decode f.bytes).toOption.isSome = true := by decide +kernel
  have haccepted : ∀ f ∈ blankLineSpool.processed,∃ e,sampleCodec.decode f.bytes = .ok e := by
    intro f hf
    have hsome := hdecodes f hf
    cases hdecode : sampleCodec.decode f.bytes with
    | error e => simp [hdecode,Except.toOption] at hsome
    | ok e => exact ⟨e,rfl⟩
  obtain ⟨s,hsurvey,hrecords,hready⟩ :=
    survey_of_ready (show surveyReady blankLineSpool laterOptions = true by decide +kernel)
  have hquiet : 0 ≤ laterOptions.quietMs := by decide
  obtain ⟨result,m,content,events,w',hcall,-⟩ :=
    h sampleCodec quietSpool 19676 laterOptions blankLineSpool s haccepted hquiet rfl hsurvey
      hrecords hready
  have hfails : ((atRest sampleCodec quietSpool).call
      (sampleCodec.archiveDay 19676 laterOptions) () blankLineSpool).1.1.toOption.isSome = false := by
    decide +kernel
  rw [hcall] at hfails
  cases hfails

end BigQmt
