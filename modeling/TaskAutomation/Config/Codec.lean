import TaskAutomation.Config.Basic
import TaskAutomation.Json.Decode

/-!
This file writes settings as JSON records and reads them back. Settings that are left out have their
defaults, at every level.
-/

namespace TaskAutomation

open Json

namespace RetryConfig

def encode (config : RetryConfig) : Json :=
  .record [
    ("base_delay_ms", nat config.baseDelayMillis),
    ("max_delay_ms", nat config.maxDelayMillis),
    ("multiplier", .double config.multiplier)]

def reader : RecordReader RetryConfig :=
  mk <$> .defaulted "base_delay_ms" toUnsigned64 default.baseDelayMillis <*>
    .defaulted "multiplier" toDouble default.multiplier <*>
    .defaulted "max_delay_ms" toUnsigned64 default.maxDelayMillis

def decode (exact : Bool) : Json → Decoded RetryConfig :=
  RecordReader.readAs exact "RetryConfig" reader

end RetryConfig

namespace QueueConfig

def encode (config : QueueConfig) : Json :=
  .record [
    ("handler_timeout_secs", nat config.handlerTimeoutSeconds),
    ("max_attempts", nat config.maxAttempts),
    ("poll_interval_ms", nat config.pollIntervalMillis),
    ("reap_interval_secs", nat config.reapIntervalSeconds),
    ("retention_secs", nat config.retentionSeconds),
    ("retry", config.retry.encode),
    ("stale_after_secs", nat config.staleAfterSeconds),
    ("topics", .list (config.topics.map .string)),
    ("workers", nat config.workers)]

def reader (exact : Bool) : RecordReader QueueConfig :=
  mk <$> .defaulted "topics" (toList toText) default.topics <*>
    .defaulted "workers" toSize default.workers <*>
    .defaulted "poll_interval_ms" toUnsigned64 default.pollIntervalMillis <*>
    .defaulted "max_attempts" toUnsigned32 default.maxAttempts <*>
    .defaulted "handler_timeout_secs" toUnsigned64 default.handlerTimeoutSeconds <*>
    .defaulted "stale_after_secs" toUnsigned64 default.staleAfterSeconds <*>
    .defaulted "reap_interval_secs" toUnsigned64 default.reapIntervalSeconds <*>
    .defaulted "retention_secs" toUnsigned64 default.retentionSeconds <*>
    .defaulted "retry" (RetryConfig.decode exact) default.retry

def decode (exact : Bool) : Json → Decoded QueueConfig :=
  RecordReader.readAs exact "QueueConfig" (reader exact)

end QueueConfig

namespace AutomateConfig

def encode (config : AutomateConfig) : Json :=
  .record [
    ("max_trigger_retries", nat config.maxTriggerRetries),
    ("run_priority", .integer config.runPriority),
    ("tick_interval_secs", nat config.tickIntervalSeconds),
    ("topic", .string config.topic),
    ("transaction_poll_secs", nat config.transactionPollSeconds)]

def reader : RecordReader AutomateConfig :=
  mk <$> .defaulted "max_trigger_retries" toUnsigned32 default.maxTriggerRetries <*>
    .defaulted "topic" toText default.topic <*>
    .defaulted "run_priority" toInt32 default.runPriority <*>
    .defaulted "transaction_poll_secs" toUnsigned64 default.transactionPollSeconds <*>
    .defaulted "tick_interval_secs" toUnsigned64 default.tickIntervalSeconds

def decode (exact : Bool) : Json → Decoded AutomateConfig :=
  RecordReader.readAs exact "AutomateConfig" reader

end AutomateConfig

namespace StorageConfig

/-- Reads a path. -/
def toPath : Json → Decoded String
  | .string value => .ok value
  | other => .error (.invalidType other "path string")

def encode (config : StorageConfig) : Json := .record [("path", ofOption .string config.path)]

def decode (exact : Bool) : Json → Decoded StorageConfig :=
  RecordReader.readAs exact "StorageConfig" (mk <$> .defaulted "path" (toOption toPath) none)

end StorageConfig

namespace LogConfig

def encode (config : LogConfig) : Json := .record [("filter", .string config.filter)]

def decode (exact : Bool) : Json → Decoded LogConfig :=
  RecordReader.readAs exact "LogConfig" (mk <$> .defaulted "filter" toText default.filter)

end LogConfig

namespace Config

def encode (config : Config) : Json :=
  .record [("automate", config.automate.encode), ("log", config.log.encode),
    ("queue", config.queue.encode), ("storage", config.storage.encode)]

def reader (exact : Bool) : RecordReader Config :=
  mk <$> .defaulted "queue" (QueueConfig.decode exact) default.queue <*>
    .defaulted "automate" (AutomateConfig.decode exact) default.automate <*>
    .defaulted "storage" (StorageConfig.decode exact) default.storage <*>
    .defaulted "log" (LogConfig.decode exact) default.log

def decode (exact : Bool) : Json → Decoded Config :=
  RecordReader.readAs exact "SpindleConfig" (reader exact)

end Config

end TaskAutomation
