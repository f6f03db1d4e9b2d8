import TaskAutomation.Queue.Memory
import TaskAutomation.Queue.Table

/-!
This file puts the two queues under one set of operations. A history of operations is a list, and
running it answers each operation in turn. Two queues that hold the same tasks cannot be told apart
by the answers, as long as all times are whole milliseconds.
-/

namespace TaskAutomation

/-- An operation on a queue. The identifier of a new task and the time of the clock are given. -/
inductive QueueOperation where
  | push (id : TaskId) (now : Instant) (handler : String) (params : Json) (options : PushOptions)
  | claim (topics : List String) (now : Instant)
  | complete (report : RunReport)
  | fail (report : RunReport) (why : String)
  | reschedule (report : RunReport) (startAt : Instant)
  | get (id : TaskId)
  | counts
  | reap (now cutoff : Instant)
  | purge (before : Instant)
  deriving BEq, Repr

/-- The answer to an operation. -/
inductive QueueAnswer where
  | pushed (pushed : Pushed)
  | claimed (task : Option Task)
  | settled (task : Task)
  | found (task : Option Task)
  | counted (counts : TaskCounts)
  | changed (rows : Nat)
  deriving BEq, Repr, Inhabited

/-- An answer or the fault that stood in its way. -/
abbrev QueueReply := Except StoreFault QueueAnswer

/-- Where a queue keeps its tasks. -/
inductive Backend where
  | memory (queue : MemoryQueue)
  | table (table : TableQueue)
  deriving Repr, Inhabited

namespace Backend

/-- Adds a new task. -/
def push (backend : Backend) (id : TaskId) (now : Instant) (handler : String) (params : Json)
    (options : PushOptions) : Except StoreFault Pushed × Backend :=
  match backend with
  | memory queue =>
    let (pushed, queue) := queue.push id now handler params options
    (.ok pushed, memory queue)
  | table rows =>
    let (pushed, rows) := rows.push id now handler params options
    (pushed, table rows)

/-- Claims the next task that is due. -/
def claim (backend : Backend) (topics : List String) (now : Instant) :
    Except StoreFault (Option Task) × Backend :=
  match backend with
  | memory queue =>
    let (task, queue) := queue.claim topics now
    (.ok task, memory queue)
  | table rows =>
    let (task, rows) := rows.claim topics now
    (task, table rows)

/-- Ends the run of a task in process. -/
def settle (backend : Backend) (report : RunReport) (apply : Task → Task) :
    Except StoreFault Task × Backend :=
  match backend with
  | memory queue =>
    let (task, queue) := queue.settle report apply
    (task, memory queue)
  | table rows =>
    let (task, rows) := rows.settle report apply
    (task, table rows)

/-- The run is done. -/
def complete (backend : Backend) (report : RunReport) : Except StoreFault Task × Backend :=
  backend.settle report Task.markDone

/-- The run has failed for good. -/
def fail (backend : Backend) (report : RunReport) (why : String) :
    Except StoreFault Task × Backend :=
  backend.settle report fun task => task.markError why

/-- There is to be another run. -/
def reschedule (backend : Backend) (report : RunReport) (startAt : Instant) :
    Except StoreFault Task × Backend :=
  backend.settle report fun task => task.reschedule startAt report.rearm

/-- The task of an identifier. -/
def get (backend : Backend) (id : TaskId) : Except StoreFault (Option Task) :=
  match backend with
  | memory queue => .ok (queue.find? id)
  | table rows => rows.get id

/-- The number of tasks in each state. -/
def counts : Backend → Except StoreFault TaskCounts
  | memory queue => .ok queue.counts
  | table rows => rows.counts

/-- Takes stale tasks back from their workers. -/
def reap (backend : Backend) (now cutoff : Instant) : Nat × Backend :=
  match backend with
  | memory queue =>
    let (changed, queue) := queue.reap now cutoff
    (changed, memory queue)
  | table rows =>
    let (changed, rows) := rows.reap now cutoff
    (changed, table rows)

/-- Removes expired tasks. -/
def purge (backend : Backend) (before : Instant) : Nat × Backend :=
  match backend with
  | memory queue =>
    let (changed, queue) := queue.purge before
    (changed, memory queue)
  | table rows =>
    let (changed, rows) := rows.purge before
    (changed, table rows)

/-- Answers one operation. -/
def step (backend : Backend) : QueueOperation → QueueReply × Backend
  | .push id now handler params options =>
    let (pushed, backend) := backend.push id now handler params options
    (pushed.map .pushed, backend)
  | .claim topics now =>
    let (task, backend) := backend.claim topics now
    (task.map .claimed, backend)
  | .complete report =>
    let (task, backend) := backend.complete report
    (task.map .settled, backend)
  | .fail report why =>
    let (task, backend) := backend.fail report why
    (task.map .settled, backend)
  | .reschedule report startAt =>
    let (task, backend) := backend.reschedule report startAt
    (task.map .settled, backend)
  | .get id => ((backend.get id).map .found, backend)
  | .counts => (backend.counts.map .counted, backend)
  | .reap now cutoff =>
    let (changed, backend) := backend.reap now cutoff
    (.ok (.changed changed), backend)
  | .purge before =>
    let (changed, backend) := backend.purge before
    (.ok (.changed changed), backend)

/-- Answers operations one after the other. -/
def run (backend : Backend) : List QueueOperation → List QueueReply × Backend
  | [] => ([], backend)
  | operation :: rest =>
    let (reply, backend) := backend.step operation
    let (replies, backend) := backend.run rest
    (reply :: replies, backend)

end Backend

end TaskAutomation
