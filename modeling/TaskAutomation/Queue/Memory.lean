import TaskAutomation.Task.Failure
import TaskAutomation.Task.Outcome

/-!
This file defines the queue that is kept in memory: the tasks, and an index from each collision sign
to the task in flight that holds it. Every operation keeps the index in step with the tasks.
-/

namespace TaskAutomation

/-- The first task to be claimed of two. -/
def Task.earlier (a b : Task) : Task := if b.precedes a then b else a

/-- The task that is claimed next on some topics, if any is due. -/
def nextDue? (tasks : List Task) (topics : List String) (now : Instant) : Option Task :=
  match tasks.filter fun task => task.isDue topics now with
  | [] => none
  | first :: rest => some (rest.foldl Task.earlier first)

/-- Counts tasks by state. -/
def countTasks (tasks : List Task) : TaskCounts :=
  tasks.foldl (fun counts task => counts.add task.status 1) {}

/-- A queue in memory. -/
structure MemoryQueue where
  tasks : List Task
  /-- The holder of each sign that is held. -/
  signs : List (String × TaskId)
  deriving BEq, Repr, Inhabited

namespace MemoryQueue

/-- A queue without tasks. -/
def empty : MemoryQueue := ⟨[], []⟩

/-- The task with an identifier. -/
def find? (queue : MemoryQueue) (id : TaskId) : Option Task :=
  queue.tasks.find? fun task => task.id = id

/-- The task in flight that holds a sign. -/
def holder? (queue : MemoryQueue) (sign : String) : Option TaskId := queue.signs.lookup sign

/-- Stores a task in the place of the one with its identifier, or behind all others. -/
def store (queue : MemoryQueue) (task : Task) : MemoryQueue :=
  if queue.tasks.any fun other => other.id = task.id then
    { queue with tasks := queue.tasks.map fun other => if other.id = task.id then task else other }
  else { queue with tasks := queue.tasks ++ [task] }

/-- Gives a free sign to a task. -/
def holdSign (queue : MemoryQueue) (sign : String) (id : TaskId) : MemoryQueue :=
  { queue with signs := (sign, id) :: queue.signs }

/-- Takes the sign of a task back, if the task holds it. -/
def releaseSign (queue : MemoryQueue) (task : Task) : MemoryQueue :=
  match task.collisionSign with
  | none => queue
  | some sign =>
    if queue.holder? sign = some task.id then
      { queue with signs := queue.signs.filter fun entry => entry.1 != sign }
    else queue

/-- Adds a new task. If its sign is held by a task in flight, it is kept as a collision. -/
def push (queue : MemoryQueue) (id : TaskId) (now : Instant) (handler : String) (params : Json)
    (options : PushOptions) : Pushed × MemoryQueue :=
  let task := Task.new id handler params options now
  match task.collisionSign with
  | none => (.queued task, queue.store task)
  | some sign =>
    match queue.holder? sign with
    | some existing =>
      let task := task.collide existing
      (.collided task existing, queue.store task)
    | none => (.queued task, (queue.holdSign sign id).store task)

/-- Claims the next task that is due. -/
def claim (queue : MemoryQueue) (topics : List String) (now : Instant) :
    Option Task × MemoryQueue :=
  match nextDue? queue.tasks topics now with
  | none => (none, queue)
  | some task =>
    let task := task.claimed now
    (some task, queue.store task)

/-- Ends the run of a task in process: takes the report in, applies what follows from it, and gives
the sign back if the task is no longer in flight. -/
def settle (queue : MemoryQueue) (report : RunReport) (apply : Task → Task) :
    Except StoreFault Task × MemoryQueue :=
  match queue.find? report.id with
  | none => (.error (.notFound report.id.display), queue)
  | some task =>
    if task.status ≠ .process then (.error (.notInProcess report.id), queue)
    else
      let task := apply (task.absorb report)
      let queue := queue.store task
      (.ok task, if task.status.isInFlight then queue else queue.releaseSign task)

/-- The number of tasks in each state. -/
def counts (queue : MemoryQueue) : TaskCounts := countTasks queue.tasks

/-- A task in process has not been touched since a cutoff. -/
def isStale (task : Task) (cutoff : Instant) : Bool :=
  task.status = .process && task.updatedAt < cutoff

/-- Takes stale tasks back from their workers. -/
def reap (queue : MemoryQueue) (now cutoff : Instant) : Nat × MemoryQueue :=
  ((queue.tasks.filter fun task => isStale task cutoff).length,
    { queue with
      tasks := queue.tasks.map fun task => if isStale task cutoff then task.reaped now else task })

/-- A task is over and has not been touched since a time. -/
def isExpired (task : Task) (before : Instant) : Bool :=
  task.status.isTerminal && task.updatedAt < before

/-- Removes expired tasks. -/
def purge (queue : MemoryQueue) (before : Instant) : Nat × MemoryQueue :=
  let kept := queue.tasks.filter fun task => !isExpired task before
  (queue.tasks.length - kept.length, { queue with tasks := kept })

end MemoryQueue

end TaskAutomation
