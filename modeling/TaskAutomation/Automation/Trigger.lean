import TaskAutomation.Id.Codec
import TaskAutomation.Schedule.Basic
import TaskAutomation.Text.LowerCase
import TaskAutomation.Time.Codec

/-!
This file defines triggers: rules of an owner that fire at times of the local clock or upon the
events of a contract. A trigger that fires at times has a schedule, and a trigger that fires upon
events has a source and holds a subscription to it.
-/

namespace TaskAutomation

/-- Where the events of a contract come from. -/
structure EventSource where
  network : String
  address : String
  event : String
  deriving DecidableEq, Repr, Inhabited

/-- The same source: addresses are compared without regard to the case of Latin letters. -/
def EventSource.same (a b : EventSource) : Bool :=
  a.network == b.network && Text.equalIgnoringAsciiCase a.address b.address && a.event == b.event

/-- When a trigger fires. -/
inductive TriggerKind where
  | everyMonth (monthDay hour : Nat) (timezone : Option String)
  /-- Sunday is day 0. -/
  | everyWeek (weekDay hour : Nat) (timezone : Option String)
  | everyDay (hour : Nat) (timezone : Option String)
  | everyHour
  | contractEvent (source : EventSource) (subscription : Option String)
  deriving DecidableEq, Repr, Inhabited

namespace TriggerKind

def name : TriggerKind → String
  | everyMonth .. => "everyMonth"
  | everyWeek .. => "everyWeek"
  | everyDay .. => "everyDay"
  | everyHour => "everyHour"
  | contractEvent .. => "contractEvent"

/-- The trigger fires at times. -/
def isTimeBased : TriggerKind → Bool
  | contractEvent .. => false
  | _ => true

/-- The schedule of a trigger that fires at times. -/
def template? : TriggerKind → Option ScheduleTemplate
  | everyHour => some {}
  | everyDay hour timezone => some { hour := toString hour, timezone }
  | everyWeek weekDay hour timezone =>
    some { hour := toString hour, weekDay := toString weekDay, timezone }
  | everyMonth monthDay hour timezone =>
    some { hour := toString hour, day := toString monthDay, timezone }
  | contractEvent .. => none

/-- Fires upon the same events, whatever the subscriptions, or at the same times. -/
def sameSource : TriggerKind → TriggerKind → Bool
  | contractEvent source _, contractEvent other _ => source.same other
  | kind, other => kind == other

/-- The subscription that is held. -/
def subscription? : TriggerKind → Option String
  | contractEvent _ subscription => subscription
  | _ => none

/-- The kind with another subscription; a trigger that fires at times has none. -/
def withSubscription (kind : TriggerKind) (subscription : Option String) : TriggerKind :=
  match kind with
  | contractEvent source _ => contractEvent source subscription
  | other => other

end TriggerKind

/-- A trigger. -/
structure Trigger where
  id : TriggerId
  wallet : WalletId
  name : String
  kind : TriggerKind
  active : Bool
  lastCallAt : Option Instant
  /-- The number of failed runs since the last one that did not fail. -/
  retries : Nat
  createdAt : Instant
  updatedAt : Instant
  deriving DecidableEq, Repr, Inhabited

namespace Trigger

/-- A new trigger. -/
def new (id : TriggerId) (wallet : WalletId) (name : String) (kind : TriggerKind) (now : Instant) :
    Trigger :=
  ⟨id, wallet, name, kind, true, none, 0, now, now⟩

end Trigger

/-- The value is neither empty nor only blanks. -/
def requireText (field value : String) : Except Invalid Unit :=
  if Text.isBlankText value then .error (.plain field) else .ok ()

/-- A trigger needs a name, a complete source and a schedule that compiles with the known zones. -/
def verifyTrigger (known : KnownZones) (name : String) (kind : TriggerKind) :
    Except Invalid Unit := do
  requireText "name" name
  match kind with
  | .contractEvent source _ => do
    requireText "network" source.network
    requireText "address" source.address
    requireText "event" source.event
  | _ => .ok ()
  match kind.template? with
  | some template => (template.compileWith known).map fun _ => ()
  | none => .ok ()

end TaskAutomation
