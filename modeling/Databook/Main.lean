import Databook.CommandLine.Run
import Databook.Pages.RecordFile
import Databook.Text.Uuid
import Std.Time.DateTime.Timestamp

/-!
# The program

Reads the files that the arguments name, runs the command, writes the store back, and shows the
outcome. All else is decided by `Databook.CommandLine.runArguments`.
-/

namespace Databook

open CommandLine Calendar

/-- The current time. -/
def currentInstant : IO Instant := do
  let t ← Std.Time.Timestamp.now
  let seconds := t.toSecondsSinceUnixEpoch.val
  let date := (Date.ofDayNumber? (seconds / 86400)).getD .epoch
  return ⟨date, (seconds % 86400).toNat, 0⟩

/-- Random bits as a number. -/
def randomNumber : IO Nat := do
  let bytes ← IO.getRandomBytes 16
  return bytes.foldl (fun n b => 256 * n + b.toNat) 0

/-- The text of a file, if there is one. -/
def readFile? (path : String) : IO (Option String) := do
  try return some (← IO.FS.readFile path) catch _ => return none

/-- The files and the store of an invocation. -/
def loadWorkspace (i : Invocation) : IO Workspace := do
  let files ← i.files.filterMapM fun path => do
    return (← readFile? path).map fun text => (Workspace.plainPath path, text)
  let path := Workspace.plainPath i.store
  let w := Workspace.ofFiles files
  if !i.command.usesStore then return w
  match ← readFile? path with
  | none =>
    -- a store can be made where its file can be written
    try
      IO.FS.withFile path .append fun _ => pure ()
      return w.keepStore i.store .empty
    catch _ => return w
  | some text =>
    if text.isEmpty then return w.keepStore i.store .empty
    match RecordStore.ofFile? text with
    | some store => return w.keepStore i.store store
    | none => return { w with files := w.files.insert path text }

/-- Write the store of an invocation back. -/
def saveWorkspace (i : Invocation) (w : Workspace) : IO Unit := do
  if i.command.usesStore && Workspace.isKept i.store then
    match w.stores.get? (Workspace.plainPath i.store) with
    | some store => IO.FS.writeFile (Workspace.plainPath i.store) store.toFile
    | none => pure ()

end Databook

open Databook CommandLine in
/-- Run the program. -/
def main (args : List String) : IO UInt32 := do
  let seed ← randomNumber
  let around : Surroundings := ⟨← currentInstant, fun i => Text.randomId (seed + i)⟩
  let invocation := (Invocation.parse args).toOption
  let w ← match invocation with
    | some i => loadWorkspace i
    | none => pure (.ofFiles [])
  let (outcome, w) := runArguments args w around
  if let some i := invocation then saveWorkspace i w
  IO.print outcome.output
  IO.eprint outcome.errors
  return outcome.exitCode.toUInt32
