import TaskAutomation.Proofs.Id.Text
import TaskAutomation.Proofs.Json.Records
import TaskAutomation.Proofs.Queue.Limits
import TaskAutomation.Proofs.Time.Rfc3339
import TaskAutomation.Task.Codec

/-!
This file proves that tasks and the options of a push survive being written as JSON records. Each
field is read from what was written under its name, with the reader of its own type.
-/

namespace TaskAutomation

open Json

/-- What survives being written: any params, points of time whose texts read back, and durations in
their word. -/
def Limits.recorded : Limits where
  params _ := True
  time := Instant.ReadsBack
  millis millis := millis < Word.size64

/-- The options of a push stay within limits, and their priority fits into its word. -/
structure PushOptions.Within (limits : Limits) (options : PushOptions) : Prop where
  priority : Word.holds32 options.priority = true
  startAt : ∀ startAt ∈ options.startAt, limits.time startAt

theorem TaskStatus.decode_encode (status : TaskStatus) : decode status.encode = .ok status := by
  cases status <;> rfl

theorem PushOptions.decode_encode {options : PushOptions} (within : options.Within .recorded) :
    decode options.encode = .ok options := by
  obtain ⟨priority, topic, startAt, sign, watcher⟩ := options
  have start : toOption Instant.decode (ofOption Instant.encode startAt) = .ok startAt :=
    toOption_ofOption (fun _ => nofun) fun time held =>
      Instant.decode_encode (within.startAt time held)
  have distinct : ["collisionSign", "priority", "startAt", "topic", "watcher"].Nodup := by decide
  refine RecordReader.Finds.ofNamed ?_ distinct
  -- One field after the other, from the last one that is read to the first.
  refine .seq ?_ (.present rfl rfl)
  refine .seq ?_ (.present rfl (toOption_ofOption_string sign))
  refine .seq ?_ (.present rfl start)
  refine .seq ?_ (.present rfl rfl)
  exact .map (.present rfl (toInt32_integer within.priority)) _

theorem Task.decode_encode {task : Task} (within : task.Within .recorded) :
    decode task.encode = .ok task := by
  obtain ⟨id, handler, params, status, priority, topic, sign, startAt, attempt, millis, info, error,
    watcher, createdAt, updatedAt⟩ := task
  have duration : toOption toUnsigned64 (ofOption nat millis) = .ok millis :=
    toOption_ofOption (fun _ => nofun) fun millis held =>
      toUnsigned64_nat (within.executionMillis millis held)
  have distinct : ["attempt", "collisionSign", "createdAt", "error", "executionTimeMs", "handler",
      "id", "info", "params", "priority", "startAt", "status", "topic", "updatedAt",
      "watcher"].Nodup := by decide
  refine RecordReader.Finds.ofNamed ?_ distinct
  refine .seq ?_ (.present rfl (Instant.decode_encode within.updatedAt))
  refine .seq ?_ (.present rfl (Instant.decode_encode within.createdAt))
  refine .seq ?_ (.present rfl rfl)
  refine .seq ?_ (.present rfl (toOption_ofOption_string error))
  refine .seq ?_ (.present rfl rfl)
  refine .seq ?_ (.present rfl duration)
  refine .seq ?_ (.present rfl (toUnsigned32_nat within.attempt))
  refine .seq ?_ (.present rfl (Instant.decode_encode within.startAt))
  refine .seq ?_ (.present rfl (toOption_ofOption_string sign))
  refine .seq ?_ (.present rfl rfl)
  refine .seq ?_ (.present rfl (toInt32_integer within.priority))
  refine .seq ?_ (.present rfl (TaskStatus.decode_encode status))
  refine .seq ?_ (.present rfl rfl)
  refine .seq ?_ (.present rfl rfl)
  exact .map (.present rfl (Id.decode_encode id)) _

end TaskAutomation
