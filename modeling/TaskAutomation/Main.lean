import Std.Time.DateTime.Timestamp
import TaskAutomation.CommandLine.Execution
import TaskAutomation.Queue.TableText

/-!
This file runs the program on a real machine. A database is a file with the text of a table.
-/

namespace TaskAutomation.CommandLine

/-- The message for a fault of a file. -/
def fileFault : IO.Error → String
  | .noFileOrDirectory .. => "No such file or directory (os error 2)"
  | .permissionDenied .. => "Permission denied (os error 13)"
  | .inappropriateType .. => "Is a directory (os error 21)"
  | other => toString other

/-- The text in a file, or why there is none. -/
def readFile (path : String) : IO (Except String String) := do
  match ← (IO.FS.readFile path).toBaseIO with
  | .ok text => return .ok text
  | .error fault => return .error (fileFault fault)

/-- The table in a file, or why there is none. -/
def readTable (path : String) : IO (Except String TableQueue) := do
  match ← (IO.FS.readFile path).toBaseIO with
  | .ok text =>
    match TableQueue.ofText? text with
    | some table => return .ok table
    | none => return .error "file is not a database"
  | .error (.noFileOrDirectory ..) =>
    match ← (IO.FS.writeFile path "").toBaseIO with
    | .ok _ => return .ok .empty
    | .error _ => return .error ("unable to open database file: " ++ path)
  | .error _ => return .error ("unable to open database file: " ++ path)

/-- The time on the clock of the machine. -/
def clockTime : IO Instant := do
  let nanos := (← Std.Time.Timestamp.now).toNanosecondsSinceUnixEpoch.val
  return ⟨nanos / 1000000000, (nanos % 1000000000).toNat⟩

/-- A supply of random bits. -/
def randomBits : IO (Nat → Nat) := do
  let seed ← IO.rand 0 Word.size64
  return fun n => (seed + n) * 65536

/-- The machine on which the program runs. -/
def machine : Host IO where
  readText := readFile
  openTable := readTable
  saveTable path table := IO.FS.writeFile path table.text
  time := clockTime
  draws := randomBits

/-- Puts the tasks of an engine back into its database. -/
def save (service : Service) : IO Unit := do
  match service.path, service.world.backend with
  | some path, .table table => machine.saveTable path table
  | _, _ => return

/-- Works off tasks until the program is told to stop. The reaper makes its passes at their times.
-/
partial def work (service : Service) (nextPass : Nat) : IO Unit := do
  let engine := service.engine
  let world := { service.world with clock := ← clockTime }
  let time ← IO.monoNanosNow
  let reaping := nextPass ≤ time
  let world := if reaping then (world.perform engine.reaper.pass).2 else world
  let nextPass := if reaping then time + engine.reaper.interval.nanos else nextPass
  let (task, world) := world.perform engine.dispatcher.runOnce.run
  let service := { service with world }
  save service
  match task with
  | some (.ok (some _)) => work service nextPass
  | _ =>
    IO.sleep (engine.dispatcher.pollInterval.nanos / 1000000).toUInt32
    work service nextPass

/-- Does what a course asks for, and gives the exit code. -/
def follow : Course → IO UInt32
  | .ended report => do
    IO.print report.output
    IO.eprint report.complaints
    return report.code.toUInt32
  | .serving service => do
    work service 0
    return 0

end TaskAutomation.CommandLine

/-- The program. -/
def main (arguments : List String) : IO UInt32 := do
  TaskAutomation.CommandLine.follow
    (← TaskAutomation.CommandLine.machine.execute arguments)
