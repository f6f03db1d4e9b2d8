import TaskAutomation.Engine.TriggerRun
import TaskAutomation.Schedule.Boundary

/-!
This file defines the watcher of the clock. At every tick it queues a run for each active trigger
whose schedule fits the local hour and that has not been called in this hour, and then it asks to be
run again at the next boundary between two steps of time. A tick breaks off at a trigger of which it
cannot be told whether it has been called in this hour.
-/

namespace TaskAutomation

/-- What the watcher of the clock needs. -/
structure TickSettings where
  zones : KnownZones
  runs : RunSettings
  interval : Span

/-- A run of the trigger is due. A schedule that does not compile is never due. There is no answer if
the hour has to be compared with that of the last call and one of the local dates lies beyond the
calendar. -/
def Trigger.isDueAt? (known : KnownZones) (trigger : Trigger) (now : Instant) : Option Bool :=
  match trigger.kind.template?.map (ScheduleTemplate.compileWith known) with
  | some (.ok schedule) =>
    if trigger.active && schedule.isDueAt now then
      match trigger.lastCallAt with
      | some last => (schedule.sameHour? last now).map not
      | none => some true
    else some false
  | _ => some false

/-- Queues a run for each of the given triggers and counts those that did not collide with one in
flight. -/
def RunSettings.pushRuns (settings : RunSettings) : List Trigger → Work StoreFault Nat
  | [] => return 0
  | trigger :: rest => do
    let pushed ← settings.pushRun trigger.id
    let queued ← settings.pushRuns rest
    return queued + if pushed.isQueued then 1 else 0

/-- What is written about the runs that were queued. -/
def queuedLine (queued : Nat) : String := "queued " ++ toString queued

namespace TickSettings

/-- What breaks off a tick. -/
def beyondCalendar : String := "Local time out of range for `NaiveDateTime`"

/-- The triggers before the first one of which it cannot be told whether a run of it is due. -/
def told (settings : TickSettings) (now : Instant) (triggers : List Trigger) : List Trigger :=
  triggers.takeWhile fun trigger => (trigger.isDueAt? settings.zones now).isSome

/-- It can be told of all triggers. -/
def tellsAll (settings : TickSettings) (now : Instant) (triggers : List Trigger) : Bool :=
  triggers.all fun trigger => (trigger.isDueAt? settings.zones now).isSome

/-- The triggers of which a tick queues a run. -/
def due (settings : TickSettings) (now : Instant) (triggers : List Trigger) : List Trigger :=
  (settings.told now triggers).filter fun trigger =>
    trigger.isDueAt? settings.zones now == some true

/-- The handler of the tasks that watch the clock. -/
def handler (settings : TickSettings) : Handler := Handler.typed ScheduleTick.parse fun run => do
  let triggers ← Work.needingStore (AutomateRequest.ask .listTriggers)
  let queued ← Work.needingStore (settings.runs.pushRuns (settings.due run.now triggers))
  if settings.tellsAll run.now triggers then
    return (run.addInfo (queuedLine queued)).later (nextBoundary run.now settings.interval)
  else
    Work.ofProgram (.panic beyondCalendar)

/-- Queues the watcher, unless it is already there. -/
def seed (settings : TickSettings) : Work StoreFault Pushed :=
  TaskRequest.ask (.push TaskKind.scheduleTick.name (ScheduleTick.encode ⟨⟩) {
    topic := settings.runs.topic
    collisionSign := some ScheduleTick.collisionSign
    watcher := true })

end TickSettings

/-! ### Events -/

/-- A run of the trigger is called for by events of a source. -/
def Trigger.listensTo (trigger : Trigger) (source : EventSource) : Bool :=
  trigger.active && trigger.kind.sameSource (.contractEvent source none)

/-- The handler of the tasks that hand out events: it queues a run for each trigger that listens to
the source. -/
def RunSettings.eventHandler (settings : RunSettings) : Handler :=
  Handler.typed ContractEvent.parse fun run => do
    let triggers ← Work.needingStore (AutomateRequest.ask .listTriggers)
    let listening := triggers.filter fun trigger => trigger.listensTo run.params.source
    let queued ← Work.needingStore (settings.pushRuns listening)
    return (run.addInfo (queuedLine queued)).done

end TaskAutomation
