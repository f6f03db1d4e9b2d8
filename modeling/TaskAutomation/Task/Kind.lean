import TaskAutomation.Json.Decode

/-!
This file names the kinds of tasks that handlers can be registered for. A task holds the name of its
handler as a text, so it may also hold a name that is none of these.
-/

namespace TaskAutomation

/-- The kinds of tasks. -/
inductive TaskKind where
  /-- Asks the conditions of one trigger and does its actions. -/
  | triggerRun
  /-- Watches the time and queues the runs that are due. -/
  | scheduleTick
  /-- Hands an event of a contract to the triggers that listen to it. -/
  | contractEvent
  /-- Sends a transaction and waits until it is settled. -/
  | transactionRun
  deriving DecidableEq, Repr, Inhabited

namespace TaskKind

def all : List TaskKind := [triggerRun, scheduleTick, contractEvent, transactionRun]

def name : TaskKind → String
  | triggerRun => "automateTriggerRun"
  | scheduleTick => "automateScheduleTick"
  | contractEvent => "automateContractEvent"
  | transactionRun => "automateTransactionRun"

def ofName? (name : String) : Option TaskKind := all.find? fun kind => kind.name == name

/-- The message for a name that is not known. -/
def unknownMessage (name : String) : String := "unknown task type: " ++ name

def encode (kind : TaskKind) : Json := .string kind.name

end TaskKind

end TaskAutomation
