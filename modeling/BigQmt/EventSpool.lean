import Mathlib.Data.List.Sort
import BigQmt.HostIngestion
set_option autoImplicit false

/-!
`FileSpoolReceiver` of `qmt/spool.py` and the loop of the Host around it: event
files are listed in the order of their names, presented one by one and moved.
-/

namespace BigQmt

/-- A file `<stem>.json`. -/
structure EventFile where
  stem : String
  raw : Raw
  deriving DecidableEq

inductive EventDir where
  | processed | quarantine | conflicts
  deriving DecidableEq, Repr

structure EventSpool where
  inbox : List EventFile
  processed : List EventFile
  quarantine : List EventFile
  conflicts : List EventFile
  deriving DecidableEq

namespace EventSpool

def file? (s : EventSpool) (stem : String) : Option EventFile :=
  s.inbox.find? (fun f => f.stem = stem)

def holds (s : EventSpool) (stem : String) : Bool := s.inbox.any (fun f => f.stem = stem)

/-- The stems of `sorted(inbox.glob("*.json"))`. -/
def listing (s : EventSpool) : List String :=
  (s.inbox.map EventFile.stem).insertionSort (fun a b => a ++ ".json" ≤ b ++ ".json")

/-- The first free name: the file's own, or with a number. -/
def uniqueStem (taken : List EventFile) (stem : String) : String :=
  (stem :: (List.range taken.length).map (fun i => stem ++ "." ++ toString (i + 1))).find?
    (fun n => taken.all (fun f => f.stem ≠ n)) |>.getD stem

def place (f : EventFile) (dir : List EventFile) : List EventFile :=
  dir ++ [⟨uniqueStem dir f.stem,f.raw⟩]

/-- `_move_unique`. -/
def moveUnique (s : EventSpool) (f : EventFile) (target : EventDir) : EventSpool :=
  let s := { s with inbox := s.inbox.filter (fun g => g.stem ≠ f.stem) }
  match target with
  | .processed => { s with processed := place f s.processed }
  | .quarantine => { s with quarantine := place f s.quarantine }
  | .conflicts => { s with conflicts := place f s.conflicts }

@[simp] theorem moveUnique_inbox (s : EventSpool) (f : EventFile) (target : EventDir) :
    (s.moveUnique f target).inbox = s.inbox.filter (fun g => g.stem ≠ f.stem) := by
  cases target <;> rfl

end EventSpool

/-- What the environment decides while one file is presented: whether it can be
read, what `on_event` meets before, in and after `handle`, and whether the file
can be moved. -/
structure FileChoice where
  unreadable : Bool := false
  maintain : Option PyError := none
  sinks : SinkAnswers := {}
  report : Option PyError := none
  moveFault : Option PyError := none

/-- One presentation of a file: the event read from it, the answer of the ingress
buffer, how `handle` ended if it ran, whether `on_event` raised, where the file went. -/
structure Attempt where
  stem : String
  event : Option QmtEvent
  answer : Option (Except IngressIdentityError IngressResult)
  handled : Option (Except PyError HostIngestResult)
  raised : Option PyError
  movedTo : Option EventDir
  deriving DecidableEq

/-- The Host: `pending` are the files of the running `poll_once` still to come;
`attempts` lists the newest first. -/
structure Host where
  ingress : IngressBuffer
  ingestion : HostIngestion
  spool : EventSpool
  pending : List String
  attempts : List Attempt

namespace Host

/-- `on_event` of the Host: whether it raised, how `handle` ended if it ran. -/
def onEvent (s : HostIngestion) (c : FileChoice) (r : IngressResult) :
    Option PyError × Option (Except PyError HostIngestResult) × HostIngestion :=
  match c.maintain with
  | some e => (some e,none,s)
  | none =>
    match s.handle c.sinks r with
    | (.error e,s') => (some e,some (.error e),s')
    | (.ok result,s') => (c.report,some (.ok result),s')

/-- The move that ends a presentation; where it fails `poll_once` raises. -/
def settle (h : Host) (c : FileChoice) (f : EventFile) (a : Attempt) (target : EventDir)
    (rest : List String) : Host :=
  match c.moveFault with
  | some _ => { h with pending := [],attempts := a :: h.attempts }
  | none => { h with
      spool := h.spool.moveUnique f target
      pending := rest
      attempts := { a with movedTo := some target } :: h.attempts }

/-- `_read_decoded`. -/
def readDecoded (c : FileChoice) (f : EventFile) : Except PyError QmtEvent :=
  if c.unreadable then .error (.osError "unreadable") else decodeTransportFrame f.raw

/-- `except (OSError, QmtProtocolError)`; `poll_once` lets other errors through. -/
def unreadable : PyError → Bool
  | .osError _ | .valueError _ => true
  | _ => false

/-- The body of the loop of `poll_once` for one file. -/
def present (h : Host) (c : FileChoice) (f : EventFile) (rest : List String) : Host :=
  match readDecoded c f with
  | .error err =>
    let a : Attempt := ⟨f.stem,none,none,none,none,none⟩
    if unreadable err then h.settle c f a .quarantine rest
    else { h with pending := [],attempts := a :: h.attempts }
  | .ok e =>
    match h.ingress.ingest e with
    | (.error err,ingress) =>
      { h with ingress := ingress }.settle c f
        ⟨f.stem,some e,some (.error err),none,none,none⟩ .conflicts rest
    | (.ok r,ingress) =>
      let (raised,handled,ingestion) := onEvent h.ingestion c r
      let h := { h with ingress := ingress,ingestion := ingestion }
      let a : Attempt := ⟨f.stem,some e,some (.ok r),handled,raised,none⟩
      match raised with
      | some _ => { h with pending := [],attempts := a :: h.attempts }
      | none => h.settle c f a .processed rest

/-- The next file of the running `poll_once`. -/
def next (h : Host) (c : FileChoice) : Host :=
  match h.pending with
  | [] => h
  | stem :: rest =>
    match h.spool.file? stem with
    | none => { h with pending := [] }
    | some f => h.present c f rest

/-- `poll_once` starts: the first `max_files` names, once the last poll has ended. -/
def poll (h : Host) (maxFiles : Nat) : Host :=
  if h.pending = [] then { h with pending := h.spool.listing.take maxFiles } else h

/-- A file appears in the inbox under a name that is free there. -/
def arrive (h : Host) (f : EventFile) : Host :=
  if h.spool.holds f.stem then h
  else { h with spool := { h.spool with inbox := h.spool.inbox ++ [f] } }

end Host
end BigQmt
