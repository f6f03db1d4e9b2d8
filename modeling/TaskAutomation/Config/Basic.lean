import TaskAutomation.Task.Basic
import TaskAutomation.Task.Decision

/-!
This file defines the settings of the program. Every setting has a default, so an empty
configuration is complete. Some settings exclude each other, and those are refused.
-/

namespace TaskAutomation

/-! ### Settings -/

/-- How attempts are repeated. -/
structure RetryConfig where
  baseDelayMillis : Nat
  multiplier : Double
  maxDelayMillis : Nat
  deriving DecidableEq, Repr

/-- How the queue is worked off. -/
structure QueueConfig where
  topics : List String
  workers : Nat
  pollIntervalMillis : Nat
  maxAttempts : Nat
  handlerTimeoutSeconds : Nat
  staleAfterSeconds : Nat
  reapIntervalSeconds : Nat
  /-- Finished tasks are removed after this time. -/
  retentionSeconds : Nat
  retry : RetryConfig
  deriving DecidableEq, Repr

/-- How triggers are run. -/
structure AutomateConfig where
  maxTriggerRetries : Nat
  topic : String
  runPriority : Int
  transactionPollSeconds : Nat
  tickIntervalSeconds : Nat
  deriving DecidableEq, Repr

/-- Where tasks are kept; only in memory when there is no path. -/
structure StorageConfig where
  path : Option String
  deriving DecidableEq, Repr

/-- What is logged. -/
structure LogConfig where
  filter : String
  deriving DecidableEq, Repr

/-- All settings. -/
structure Config where
  queue : QueueConfig
  automate : AutomateConfig
  storage : StorageConfig
  log : LogConfig
  deriving DecidableEq, Repr

/-! ### Defaults and derived settings -/

namespace RetryConfig

def default : RetryConfig := ⟨2000, Double.ofNat 2, 3600000⟩

def policy (config : RetryConfig) : RetryPolicy :=
  ⟨.ofMillis config.baseDelayMillis, config.multiplier, .ofMillis config.maxDelayMillis⟩

end RetryConfig

namespace QueueConfig

def default : QueueConfig where
  topics := [defaultTopic]
  workers := 2
  pollIntervalMillis := 500
  maxAttempts := 5
  handlerTimeoutSeconds := 300
  staleAfterSeconds := 900
  reapIntervalSeconds := 60
  retentionSeconds := 604800
  retry := .default

def pollInterval (config : QueueConfig) : Delay := .ofMillis config.pollIntervalMillis
def handlerTimeout (config : QueueConfig) : Delay := .ofSeconds config.handlerTimeoutSeconds
def staleAfter (config : QueueConfig) : Delay := .ofSeconds config.staleAfterSeconds
def reapInterval (config : QueueConfig) : Delay := .ofSeconds config.reapIntervalSeconds
def retention (config : QueueConfig) : Delay := .ofSeconds config.retentionSeconds
def decider (config : QueueConfig) : Decider := ⟨config.retry.policy, config.maxAttempts⟩

end QueueConfig

/-- Seconds as a span, or the longest span if they are too many. -/
def Span.ofSecondsClamped (seconds : Nat) : Span := (Span.ofSeconds? seconds).getD Span.max

namespace AutomateConfig

def default : AutomateConfig := ⟨5, defaultTopic, 0, 15, 3600⟩

def transactionPoll (config : AutomateConfig) : Span :=
  .ofSecondsClamped config.transactionPollSeconds
def tickInterval (config : AutomateConfig) : Span := .ofSecondsClamped config.tickIntervalSeconds

end AutomateConfig

def StorageConfig.default : StorageConfig := ⟨none⟩

def LogConfig.default : LogConfig := ⟨"info"⟩

def Config.default : Config := ⟨.default, .default, .default, .default⟩

/-! ### Checks -/

namespace Config

/-- The first setting that is refused, if there is one. -/
def refusal? (config : Config) : Option String :=
  if config.queue.topics.isEmpty then some "queue.topics must not be empty"
  else if config.queue.workers = 0 then some "queue.workers must be at least 1"
  else if config.queue.maxAttempts = 0 then some "queue.max_attempts must be at least 1"
  else if config.queue.pollIntervalMillis = 0 then some "queue.poll_interval_ms must be at least 1"
  else if config.queue.staleAfterSeconds ≤ config.queue.handlerTimeoutSeconds then
    some "queue.stale_after_secs must be greater than queue.handler_timeout_secs"
  else if config.automate.tickIntervalSeconds = 0 then
    some "automate.tick_interval_secs must be at least 1"
  else none

end Config

end TaskAutomation
