import TaskAutomation.Automation.Store
import TaskAutomation.Queue.Backend

/-!
This file defines what the work of the engine may ask for: the time, a new identifier, an operation
of the task queue or of the automation store, or something of the world outside. Every request has a
type of replies. Those that may be refused say so in their replies.
-/

namespace TaskAutomation

/-! ### The task queue -/

/-- An operation on the task queue. -/
inductive TaskRequest where
  | push (handler : String) (params : Json) (options : PushOptions)
  | claim (topics : List String) (now : Instant)
  | complete (report : RunReport)
  | fail (report : RunReport) (why : String)
  | reschedule (report : RunReport) (startAt : Instant)
  | reap (cutoff : Instant)
  | purge (before : Instant)

/-- What an operation on the task queue gives. -/
@[reducible] def TaskRequest.Result : TaskRequest → Type
  | push .. => Pushed
  | claim .. => Option Task
  | complete .. | fail .. | reschedule .. => Task
  | reap .. | purge .. => Nat

/-! ### The automation store -/

/-- An operation on the automation store. -/
inductive AutomateRequest where
  | getTrigger (id : TriggerId)
  | listTriggers
  | saveTrigger (trigger : Trigger)
  | deleteTrigger (id : TriggerId)
  | conditions (trigger : TriggerId)
  | getCondition (id : ConditionId)
  | saveCondition (condition : Condition)
  | deleteCondition (id : ConditionId)
  | actions (trigger : TriggerId)
  | getAction (id : ActionId)
  | saveAction (action : Action)
  | deleteAction (id : ActionId)
  | appendHistory (call : Call)
  | history (trigger : TriggerId)

/-- What an operation on the automation store gives. -/
@[reducible] def AutomateRequest.Result : AutomateRequest → Type
  | getTrigger _ => Option Trigger
  | listTriggers => List Trigger
  | saveTrigger _ => Unit
  | deleteTrigger _ => Bool
  | conditions _ => List Condition
  | getCondition _ => Option Condition
  | saveCondition _ => Unit
  | deleteCondition _ => Bool
  | actions _ => List Action
  | getAction _ => Option Action
  | saveAction _ => Unit
  | deleteAction _ => Bool
  | appendHistory _ => Unit
  | history _ => List Call

/-! ### The world outside -/

/-- A request to the world outside. -/
inductive OutsideRequest where
  /-- The balance of a wallet, in whole coins. -/
  | balance (network wallet : String)
  /-- The price of gas. -/
  | gasPrice (network : String)
  /-- The latest number collected about a contract. -/
  | latest (contract metric : String)
  /-- Sends a transaction and gives its hash. -/
  | send (network automate : String)
  /-- Whether a transaction has succeeded; nothing while it is not settled. -/
  | receipt (network hash : String)
  | notify (contact message : String)
  /-- Subscribes to the events of a source and gives the name of the subscription. -/
  | subscribe (source : EventSource)
  | unsubscribe (subscription : String)

/-- What a request to the world outside gives. -/
@[reducible] def OutsideRequest.Result : OutsideRequest → Type
  | balance .. | gasPrice _ => Double
  | latest .. => Option Double
  | send .. => String
  | receipt .. => Option Bool
  | notify .. => Unit
  | subscribe _ => String
  | unsubscribe _ => Unit

/-- A world outside answers requests or refuses them, and may change by doing so. -/
class Outside (State : Type) where
  answer : (request : OutsideRequest) → State → Except Failure request.Result × State

/-! ### All requests -/

/-- A request of the engine. -/
inductive Request where
  /-- The time on the clock. -/
  | now
  /-- The clock moves on while the work is done. -/
  | elapse (span : Span)
  /-- An identifier that no record has. -/
  | fresh (kind : IdKind)
  | tasks (request : TaskRequest)
  | automate (request : AutomateRequest)
  | outside (request : OutsideRequest)

/-- The replies to a request. -/
@[reducible] def Request.Reply : Request → Type
  | now => Instant
  | elapse _ => Unit
  | fresh _ => Ulid
  | tasks request => Except StoreFault request.Result
  | automate request => Except StoreFault request.Result
  | outside request => Except Failure request.Result

end TaskAutomation
