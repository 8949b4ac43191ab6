import BigQmt.World
set_option autoImplicit false

/-!
`QmtCommandSpool`: publication and lookup of command files, one directory check
at a time.
-/

namespace BigQmt

open Resumption Proc

variable {σ : Type}

/-- The time in milliseconds: `int(time.time() * 1000)`. -/
def nowMillis : Proc Eff PyError σ Int := do
  let now ← ask .clock
  return ((now / 1000 : Nat) : Int)

/-- `_find_existing`, over the directories that are left. -/
def findExisting (commandId : String) : List SpoolDir → Proc Eff PyError σ (Option SpoolDir)
  | [] => return none
  | dir :: dirs => do
    let found ← ask (.isFile dir commandId)
    if found then return some dir else findExisting commandId dirs

def writeNew (command : QmtCommand) (raw : Raw) (nowMs : Int) : Proc Eff PyError σ Unit := do
  call (.writeTemp raw)
  call (.renameTemp command.commandId raw command.expiresMs nowMs)

def publish (command : QmtCommand) : Proc Eff PyError σ Unit := do
  let raw ← Proc.ofExcept (encodeCommandFrame command)
  let nowMs ← nowMillis
  if command.expiresMs ≤ nowMs then
    throw (.commandError "refusing to publish an expired command")
  else
    let existing ← findExisting command.commandId SpoolDir.all
    match existing with
    | some dir =>
      let content ← call (.readFile dir command.commandId)
      if content = raw then return ()
      else throw (.commandConflict "command_id already exists with different content")
    | none => writeNew command raw nowMs

/-- The directories with a copy, each looked at in its turn. -/
def foundIn (commandId : String) : List SpoolDir → Proc Eff PyError σ (List SpoolDir)
  | [] => return []
  | dir :: dirs => do
    let found ← ask (.isFile dir commandId)
    let rest ← foundIn commandId dirs
    return (if found then dir :: rest else rest)

def locate (commandId : String) : Proc Eff PyError σ (Option SpoolDir) := do
  let found ← foundIn commandId SpoolDir.all
  if 1 < found.length then
    throw (.commandConflict "command appears in more than one spool state")
  else
    return found.head?

end BigQmt
