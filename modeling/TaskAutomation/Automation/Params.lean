import TaskAutomation.Automation.Codec
import TaskAutomation.Automation.Comparison
import TaskAutomation.Schedule.Codec
import TaskAutomation.Task.Kind

/-!
This file defines the params of conditions, actions and tasks. Params are read from JSON in two
steps: first their form is checked, then whether they make sense. Tasks that must not be queued
twice get a collision sign from their params.
-/

namespace TaskAutomation

open Json

/-- Reads params and then checks whether they make sense. -/
def readParams {α : Type} (decode : Json → Decoded α) (verify : α → Except Invalid Unit)
    (json : Json) : Except Invalid α :=
  match decode json with
  | .error fault => .error (.withDetail "params" fault.message)
  | .ok params => (verify params).map fun _ => params

/-- The number is neither infinite nor a not-a-number. -/
def requireFinite (field : String) (value : Double) : Except Invalid Unit :=
  if value.isFinite then .ok () else .error (.plain field)

namespace ScheduleTemplate

def verify (known : KnownZones) (template : ScheduleTemplate) : Except Invalid Unit :=
  (template.compileWith known).map fun _ => ()

def parse (known : KnownZones) : Json → Except Invalid ScheduleTemplate :=
  readParams decode (verify known)

end ScheduleTemplate

/-! ### Conditions -/

/-- Asks for the balance of a wallet. -/
structure BalanceParams where
  network : String
  wallet : String
  op : Comparison
  value : Double
  deriving DecidableEq, Repr, Inhabited

namespace BalanceParams

def encode (params : BalanceParams) : Json :=
  .record [("network", .string params.network), ("op", params.op.encode),
    ("value", .double params.value), ("wallet", .string params.wallet)]

def decode : Json → Decoded BalanceParams := RecordReader.read "BalanceParams"
  (mk <$> .required "network" toText <*> .required "wallet" toText <*>
    .required "op" Comparison.decode <*> .required "value" toDouble)

def verify (params : BalanceParams) : Except Invalid Unit := do
  requireText "network" params.network
  requireText "wallet" params.wallet
  requireFinite "value" params.value

def parse : Json → Except Invalid BalanceParams := readParams decode verify

end BalanceParams

/-- Asks for the price of gas. -/
structure GasPriceParams where
  network : String
  op : Comparison
  value : Double
  deriving DecidableEq, Repr, Inhabited

namespace GasPriceParams

def encode (params : GasPriceParams) : Json :=
  .record [("network", .string params.network), ("op", params.op.encode),
    ("value", .double params.value)]

def decode : Json → Decoded GasPriceParams := RecordReader.read "GasPriceParams"
  (mk <$> .required "network" toText <*> .required "op" Comparison.decode <*>
    .required "value" toDouble)

def verify (params : GasPriceParams) : Except Invalid Unit := do
  requireText "network" params.network
  requireFinite "value" params.value

def parse : Json → Except Invalid GasPriceParams := readParams decode verify

end GasPriceParams

/-- Asks for a number that was collected about a contract. -/
structure MetricParams where
  contract : String
  metric : String
  op : Comparison
  value : Double
  deriving DecidableEq, Repr, Inhabited

namespace MetricParams

def encode (params : MetricParams) : Json :=
  .record [("contract", .string params.contract), ("metric", .string params.metric),
    ("op", params.op.encode), ("value", .double params.value)]

def decode : Json → Decoded MetricParams := RecordReader.read "MetricParams"
  (mk <$> .required "contract" toText <*> .required "metric" toText <*>
    .required "op" Comparison.decode <*> .required "value" toDouble)

def verify (params : MetricParams) : Except Invalid Unit := do
  requireText "contract" params.contract
  requireText "metric" params.metric
  requireFinite "value" params.value

def parse : Json → Except Invalid MetricParams := readParams decode verify

end MetricParams

/-! ### Actions -/

/-- Sends a message to a contact. -/
structure NotificationParams where
  contact : String
  message : String
  deriving DecidableEq, Repr, Inhabited

namespace NotificationParams

def encode (params : NotificationParams) : Json :=
  .record [("contact", .string params.contact), ("message", .string params.message)]

def decode : Json → Decoded NotificationParams := RecordReader.read "NotificationParams"
  (mk <$> .required "contact" toText <*> .required "message" toText)

def verify (params : NotificationParams) : Except Invalid Unit := do
  requireText "contact" params.contact
  requireText "message" params.message

def parse : Json → Except Invalid NotificationParams := readParams decode verify

end NotificationParams

/-- Runs an automation contract. -/
structure AutomateRunParams where
  network : String
  automate : String
  deriving DecidableEq, Repr, Inhabited

namespace AutomateRunParams

def encode (params : AutomateRunParams) : Json :=
  .record [("automate", .string params.automate), ("network", .string params.network)]

def decode : Json → Decoded AutomateRunParams := RecordReader.read "AutomateRunParams"
  (mk <$> .required "network" toText <*> .required "automate" toText)

def verify (params : AutomateRunParams) : Except Invalid Unit := do
  requireText "network" params.network
  requireText "automate" params.automate

def parse : Json → Except Invalid AutomateRunParams := readParams decode verify

end AutomateRunParams

/-! ### Tasks -/

/-- The run of one trigger. -/
structure TriggerRun where
  id : TriggerId
  deriving DecidableEq, Repr, Inhabited

namespace TriggerRun

def encode (run : TriggerRun) : Json := .record [("id", run.id.encode)]

def decode : Json → Decoded TriggerRun :=
  RecordReader.read "TriggerRun" (mk <$> .required "id" Id.decode)

def parse : Json → Except Invalid TriggerRun := readParams decode fun _ => .ok ()

/-- One run of a trigger is in flight at most. -/
def collisionSign (run : TriggerRun) : String :=
  TaskKind.triggerRun.name ++ ":" ++ run.id.display

end TriggerRun

/-- A look at the clock. -/
structure ScheduleTick where
  deriving DecidableEq, Repr, Inhabited

namespace ScheduleTick

def encode (_ : ScheduleTick) : Json := .record []

def decode : Json → Decoded ScheduleTick := RecordReader.read "ScheduleTick" (pure ⟨⟩)

def parse : Json → Except Invalid ScheduleTick := readParams decode fun _ => .ok ()

/-- One watcher is in flight at most. -/
def collisionSign : String := TaskKind.scheduleTick.name

end ScheduleTick

/-- An event of a contract that was seen, with whatever else was sent along. -/
structure ContractEvent where
  source : EventSource
  payload : Option Json
  deriving BEq, Repr, Inhabited

namespace ContractEvent

def encode (event : ContractEvent) : Json :=
  .record ([("address", .string event.source.address), ("event", .string event.source.event),
    ("network", .string event.source.network)] ++
    match event.payload with
    | some payload => [("payload", payload)]
    | none => [])

def decode : Json → Decoded ContractEvent := RecordReader.read "ContractEvent"
  ((fun network address event payload => ⟨⟨network, address, event⟩, payload⟩) <$>
    .required "network" toText <*> .required "address" toText <*> .required "event" toText <*>
    .defaulted "payload" (toOption .ok) none)

def verify (event : ContractEvent) : Except Invalid Unit := do
  requireText "network" event.source.network
  requireText "address" event.source.address
  requireText "event" event.source.event

def parse : Json → Except Invalid ContractEvent := readParams decode verify

end ContractEvent

/-- A transaction of an automation contract; with a hash it has been sent. -/
structure TransactionRun where
  network : String
  automate : String
  txHash : Option String
  deriving DecidableEq, Repr, Inhabited

namespace TransactionRun

def encode (run : TransactionRun) : Json :=
  .record ([("automate", .string run.automate), ("network", .string run.network)] ++
    match run.txHash with
    | some hash => [("txHash", .string hash)]
    | none => [])

def decode : Json → Decoded TransactionRun := RecordReader.read "TransactionRun"
  (mk <$> .required "network" toText <*> .required "automate" toText <*>
    .defaulted "txHash" (toOption toText) none)

def verify (run : TransactionRun) : Except Invalid Unit := do
  requireText "network" run.network
  requireText "automate" run.automate
  match run.txHash with
  | some hash => requireText "txHash" hash
  | none => .ok ()

def parse : Json → Except Invalid TransactionRun := readParams decode verify

/-- One transaction of a contract is in flight at most. -/
def collisionSign (run : TransactionRun) : String :=
  TaskKind.transactionRun.name ++ ":" ++ run.network ++ ":" ++ Text.lowerCase run.automate

end TransactionRun

end TaskAutomation
