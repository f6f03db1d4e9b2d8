import TaskAutomation.CommandLine.Arguments
import TaskAutomation.CommandLine.Report
import TaskAutomation.Config.Basic
import TaskAutomation.Json.Reader
import TaskAutomation.Queue.Table
import TaskAutomation.Task.Kind

/-!
This file defines the commands that work on a stored queue: one queues a task, the other counts
tasks. The task is queued only once all its arguments have been understood.
-/

namespace TaskAutomation.CommandLine

/-! ### Queueing -/

namespace PushArguments

/-- The start of the task, if it has a delay. A delay may be too large for a span, and the time
after it may be beyond the end of time, where the program breaks off. -/
def startAt (arguments : PushArguments) (now : Instant) : Except Stop (Option Instant) :=
  match arguments.delaySeconds with
  | none => .ok none
  | some seconds =>
    if Word.most64 < seconds then
      .error (.complaint (.plain "out of range integral type conversion attempted"))
    else
      match Span.ofSeconds? seconds with
      | none => .error (.complaint (.plain "delay out of range"))
      | some delay =>
        match now.add? delay with
        | some time => .ok (some time)
        | none => .error .panic

/-- The options of the task. -/
def options (arguments : PushArguments) (config : AutomateConfig) (now : Instant) :
    Except Stop PushOptions := do
  let startAt ← arguments.startAt now
  .ok {
    priority := arguments.priority
    topic := arguments.topic.getD config.topic
    startAt
    collisionSign := arguments.collisionSign }

/-- The kind of the task, its params and its options. -/
def understand (arguments : PushArguments) (config : AutomateConfig) (now : Instant) :
    Except Stop (TaskKind × Json × PushOptions) := do
  let kind ←
    match TaskKind.ofName? arguments.handler with
    | some kind => .ok kind
    | none => .error (Stop.complaint (.plain (TaskKind.unknownMessage arguments.handler)))
  let params ← (Json.parse arguments.params).mapError fun why =>
    .complaint ⟨"params must be a JSON document", some why⟩
  .ok (kind, params, ← arguments.options config now)

/-- Queues the task in a table. -/
def push (arguments : PushArguments) (config : AutomateConfig) (now : Instant) (id : TaskId)
    (table : TableQueue) : Except Stop Pushed × TableQueue :=
  match arguments.understand config now with
  | .error stop => (.error stop, table)
  | .ok (kind, params, options) =>
    let (pushed, table) := table.push id now kind.name params options
    (pushed.mapError fun fault => .complaint (.plain fault.message), table)

end PushArguments

/-- What is printed about a task that was queued. -/
def pushedLine : Pushed → String
  | .queued task => "queued " ++ task.id.display ++ "\n"
  | .collided task existing =>
    "collided " ++ task.id.display ++ " (in flight: " ++ existing.display ++ ")\n"

/-! ### Counting -/

/-- Counts with a line for every state. -/
def countsPage (counts : TaskCounts) : String :=
  "\x7b\n" ++
    ",\n".intercalate (TaskStatus.all.map fun status =>
      "  \"" ++ status.name ++ "\": " ++ toString (counts.of status)) ++
    "\n\x7d\n"

end TaskAutomation.CommandLine
