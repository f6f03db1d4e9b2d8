import TaskAutomation.Id.Codec
import TaskAutomation.Task.Basic
import TaskAutomation.Time.Codec

/-!
This file writes tasks, their counts and the options of a push as JSON records and reads them back.
-/

namespace TaskAutomation

open Json

namespace TaskStatus

def named : List (String × TaskStatus) := all.map fun status => (status.name, status)

def encode (status : TaskStatus) : Json := .string status.name

def decode : Json → Decoded TaskStatus := toChoice named

end TaskStatus

namespace PushOptions

def encode (options : PushOptions) : Json :=
  .record [
    ("collisionSign", ofOption .string options.collisionSign),
    ("priority", .integer options.priority),
    ("startAt", ofOption Instant.encode options.startAt),
    ("topic", .string options.topic),
    ("watcher", .bool options.watcher)]

def reader : RecordReader PushOptions :=
  PushOptions.mk <$> .defaulted "priority" toInt32 0 <*>
    .defaulted "topic" toText defaultTopic <*>
    .defaulted "startAt" (toOption Instant.decode) none <*>
    .defaulted "collisionSign" (toOption toText) none <*> .defaulted "watcher" toBool false

def decode : Json → Decoded PushOptions := RecordReader.read "PushOptions" reader

end PushOptions

namespace Task

def encode (task : Task) : Json :=
  .record [
    ("attempt", nat task.attempt),
    ("collisionSign", ofOption .string task.collisionSign),
    ("createdAt", task.createdAt.encode),
    ("error", ofOption .string task.error),
    ("executionTimeMs", ofOption nat task.executionMillis),
    ("handler", .string task.handler),
    ("id", task.id.encode),
    ("info", .string task.info),
    ("params", task.params),
    ("priority", .integer task.priority),
    ("startAt", task.startAt.encode),
    ("status", task.status.encode),
    ("topic", .string task.topic),
    ("updatedAt", task.updatedAt.encode),
    ("watcher", .bool task.watcher)]

def reader : RecordReader Task :=
  Task.mk <$> .required "id" Id.decode <*> .required "handler" toText <*>
    .required "params" .ok <*> .required "status" TaskStatus.decode <*>
    .required "priority" toInt32 <*> .required "topic" toText <*>
    .optional "collisionSign" toText <*> .required "startAt" Instant.decode <*>
    .required "attempt" toUnsigned32 <*> .optional "executionTimeMs" toUnsigned64 <*>
    .required "info" toText <*> .optional "error" toText <*> .required "watcher" toBool <*>
    .required "createdAt" Instant.decode <*> .required "updatedAt" Instant.decode

def decode : Json → Decoded Task := RecordReader.read "TaskRecord" reader

end Task

namespace TaskCounts

def encode (counts : TaskCounts) : Json :=
  .record [
    ("collision", nat counts.collision),
    ("done", nat counts.done),
    ("error", nat counts.error),
    ("pending", nat counts.pending),
    ("process", nat counts.process)]

def reader : RecordReader TaskCounts :=
  TaskCounts.mk <$> .required "pending" toSize <*> .required "process" toSize <*>
    .required "done" toSize <*> .required "error" toSize <*> .required "collision" toSize

def decode : Json → Decoded TaskCounts := RecordReader.read "TaskCounts" reader

end TaskCounts

end TaskAutomation
