import TaskAutomation.Id.Basic
import TaskAutomation.Json.Printer
import TaskAutomation.Number.Word
import TaskAutomation.Time.Instant

/-!
This file defines tasks: units of queued work and the steps of their life. A pending task is claimed
and is then in process, and the report on that run makes it done, failed or pending again. A task
that was pushed while another one with its collision sign was in flight is kept as a collision and
never runs.
-/

namespace TaskAutomation

/-- The states of a task. -/
inductive TaskStatus where
  | pending
  | process
  | done
  | error
  | collision
  deriving DecidableEq, Repr, Inhabited

namespace TaskStatus

def name : TaskStatus → String
  | pending => "pending"
  | process => "process"
  | done => "done"
  | error => "error"
  | collision => "collision"

def all : List TaskStatus := [pending, process, done, error, collision]

/-- The state of a name. -/
def ofName? (name : String) : Option TaskStatus := all.find? fun status => status.name == name

/-- The message for a name that is not known. -/
def unknownMessage (name : String) : String := "unknown task status: " ++ name

/-- The task holds its collision sign. -/
def isInFlight : TaskStatus → Bool
  | pending | process => true
  | _ => false

/-- Nothing happens to the task any more, except that it may be removed. -/
def isTerminal (status : TaskStatus) : Bool := !status.isInFlight

end TaskStatus

/-- The topic of tasks for which none is named. -/
def defaultTopic : String := "default"

/-- What the producer of a task may choose. -/
structure PushOptions where
  /-- Tasks with a higher priority run first. -/
  priority : Int := 0
  topic : String := defaultTopic
  /-- The task does not run before this time; none means at once. -/
  startAt : Option Instant := none
  /-- At most one task in flight carries a given sign. -/
  collisionSign : Option String := none
  /-- A watcher is tried again after every failure that another attempt may mend. -/
  watcher : Bool := false
  deriving DecidableEq, Repr, Inhabited

/-- A task. -/
structure Task where
  id : TaskId
  handler : String
  params : Json
  status : TaskStatus
  priority : Int
  topic : String
  collisionSign : Option String
  startAt : Instant
  /-- The number of claims, not counting those before the handler last asked for a later run. -/
  attempt : Nat
  executionMillis : Option Nat
  /-- Lines of diagnostics; they are only ever appended to. -/
  info : String
  error : Option String
  watcher : Bool
  createdAt : Instant
  updatedAt : Instant
  deriving BEq, Repr, Inhabited

/-- What one run of a task left behind. -/
structure RunReport where
  id : TaskId
  /-- Replaces the params of the task. -/
  params : Option Json
  info : List String
  executionTime : Delay
  finishedAt : Instant
  /-- The next claim counts as the first one again. -/
  rearm : Bool
  deriving BEq, Repr, Inhabited

/-- How a push ended. -/
inductive Pushed where
  | queued (task : Task)
  | collided (task : Task) (existing : TaskId)
  deriving BEq, Repr, Inhabited

namespace Pushed

/-- The task that was stored. -/
def task : Pushed → Task
  | queued task => task
  | collided task _ => task

def isQueued : Pushed → Bool
  | queued _ => true
  | collided .. => false

end Pushed

namespace RunReport

/-- A report without anything but its time. -/
def bare (id : TaskId) (finishedAt : Instant) : RunReport :=
  ⟨id, none, [], Delay.zero, finishedAt, false⟩

/-- The milliseconds of the run, in 64 bits. -/
def executionMillis (report : RunReport) : Nat :=
  report.executionTime.millis % Word.size64

end RunReport

namespace Task

/-- A new task. -/
def new (id : TaskId) (handler : String) (params : Json) (options : PushOptions) (now : Instant) :
    Task where
  id := id
  handler := handler
  params := params
  status := .pending
  priority := options.priority
  topic := options.topic
  collisionSign := options.collisionSign
  startAt := options.startAt.getD now
  attempt := 0
  executionMillis := none
  info := ""
  error := none
  watcher := options.watcher
  createdAt := now
  updatedAt := now

/-- The task may be claimed on one of the topics. -/
def isDue (task : Task) (topics : List String) (now : Instant) : Bool :=
  task.status = .pending && task.startAt ≤ now && topics.contains task.topic

/-- The task is claimed before another one: a higher priority comes first, then an earlier start,
then a smaller identifier. -/
def precedes (a b : Task) : Bool :=
  b.priority < a.priority ||
    (a.priority = b.priority &&
      (a.startAt < b.startAt || (a.startAt = b.startAt && a.id.ulid.lt b.id.ulid)))

/-- Appends a line of diagnostics. -/
def addInfo (task : Task) (line : String) : Task :=
  { task with info := if task.info.isEmpty then line else task.info ++ "\n" ++ line }

/-- The task with a claim made on it. -/
def claimed (task : Task) (now : Instant) : Task :=
  { task with status := .process, attempt := task.attempt + 1, updatedAt := now }

/-- The task with what its run left behind. -/
def absorb (task : Task) (report : RunReport) : Task :=
  let task := { task with params := report.params.getD task.params }
  let task := report.info.foldl addInfo task
  { task with
    executionMillis := some report.executionMillis
    updatedAt := report.finishedAt }

def markDone (task : Task) : Task := { task with status := .done }

def markError (task : Task) (why : String) : Task :=
  { task.addInfo why with status := .error, error := some why }

/-- Pending again, not before a given time. -/
def reschedule (task : Task) (startAt : Instant) (rearm : Bool) : Task :=
  { task with
    attempt := if rearm then 0 else task.attempt
    status := .pending
    startAt := startAt }

/-- The line that a task taken back from its worker gets. -/
def reapedLine : String := "reaped: no outcome before stale cutoff"

/-- Taken back from a worker that has not reported. -/
def reaped (task : Task) (now : Instant) : Task :=
  { task.addInfo reapedLine with status := .pending, updatedAt := now }

/-- Kept for the record because another task in flight carries the same sign. -/
def collide (task : Task) (existing : TaskId) : Task :=
  { task.addInfo ("collision with " ++ existing.display) with status := .collision }

end Task

/-- How many tasks are in each state. -/
structure TaskCounts where
  pending : Nat := 0
  process : Nat := 0
  done : Nat := 0
  error : Nat := 0
  collision : Nat := 0
  deriving DecidableEq, Repr, Inhabited

namespace TaskCounts

/-- Counts further tasks of one state. -/
def add (counts : TaskCounts) (status : TaskStatus) (n : Nat) : TaskCounts :=
  match status with
  | .pending => { counts with pending := counts.pending + n }
  | .process => { counts with process := counts.process + n }
  | .done => { counts with done := counts.done + n }
  | .error => { counts with error := counts.error + n }
  | .collision => { counts with collision := counts.collision + n }

/-- The number of tasks in a state. -/
def of (counts : TaskCounts) : TaskStatus → Nat
  | .pending => counts.pending
  | .process => counts.process
  | .done => counts.done
  | .error => counts.error
  | .collision => counts.collision

/-- All tasks. -/
def total (counts : TaskCounts) : Nat :=
  counts.pending + counts.process + counts.done + counts.error + counts.collision

end TaskCounts

end TaskAutomation
