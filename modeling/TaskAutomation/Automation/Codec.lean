import TaskAutomation.Automation.Call
import TaskAutomation.Automation.Step
import TaskAutomation.Automation.Trigger

/-!
This file writes triggers, their steps and their history as JSON records and reads them back. The
kind of a trigger is a record of two fields, a tag and its params; a trigger has these two fields
beside its own.
-/

namespace TaskAutomation

open Json

/-! ### Kinds of triggers -/

namespace TriggerKind

/-- The tags of the kinds. -/
inductive Tag where
  | everyMonth
  | everyWeek
  | everyDay
  | everyHour
  | contractEvent
  deriving DecidableEq, Repr

def tags : List (String × Tag) :=
  [("everyMonth", .everyMonth), ("everyWeek", .everyWeek), ("everyDay", .everyDay),
    ("everyHour", .everyHour), ("contractEvent", .contractEvent)]

/-- The params of a kind, if it has any. -/
def encodeParams : TriggerKind → Option Json
  | everyMonth monthDay hour timezone =>
    some (.record [("hour", nat hour), ("monthDay", nat monthDay),
      ("timezone", ofOption .string timezone)])
  | everyWeek weekDay hour timezone =>
    some (.record [("hour", nat hour), ("timezone", ofOption .string timezone),
      ("weekDay", nat weekDay)])
  | everyDay hour timezone =>
    some (.record [("hour", nat hour), ("timezone", ofOption .string timezone)])
  | everyHour => none
  | contractEvent source subscription =>
    some (.record ([("address", .string source.address), ("event", .string source.event),
      ("network", .string source.network)] ++
      match subscription with
      | some subscription => [("subscription", .string subscription)]
      | none => []))

/-- The field of the params, if there is one. -/
def paramsField (kind : TriggerKind) : List (String × Json) :=
  match kind.encodeParams with
  | some params => [("params", params)]
  | none => []

def encode (kind : TriggerKind) : Json :=
  .record (kind.paramsField ++ [("type", .string kind.name)])

/-- Reads the params of a kind that has some. Only a record is accepted. -/
def readVariant (variant : String) (reader : RecordReader TriggerKind) :
    Json → Decoded TriggerKind
  | .record fields => reader.ofNamed fields
  | other => .error (.invalidType other ("struct variant TriggerKind::" ++ variant))

/-- The zone of a kind. -/
def timezone : RecordReader (Option String) := .defaulted "timezone" (toOption toText) none

/-- Reads the params that belong to a tag. -/
def decodeParams : Tag → Json → Decoded TriggerKind
  | .everyMonth => readVariant "EveryMonth"
      (everyMonth <$> .required "monthDay" toUnsigned32 <*> .required "hour" toUnsigned32 <*>
        timezone)
  | .everyWeek => readVariant "EveryWeek"
      (everyWeek <$> .required "weekDay" toUnsigned32 <*> .required "hour" toUnsigned32 <*>
        timezone)
  | .everyDay => readVariant "EveryDay" (everyDay <$> .required "hour" toUnsigned32 <*> timezone)
  | .everyHour => fun json =>
      if json.isNull then .ok everyHour
      else .error (.invalidType json "unit variant TriggerKind::EveryHour")
  | .contractEvent => readVariant "ContractEvent"
      ((fun network address event => contractEvent ⟨network, address, event⟩) <$>
        .required "network" toText <*> .required "address" toText <*>
        .required "event" toText <*> .defaulted "subscription" (toOption toText) none)

/-- The kind of a tag without params. -/
def withoutParams : Tag → Decoded TriggerKind
  | .everyHour => .ok everyHour
  | _ => .error (.missingField "params")

/-- Reads a kind from the fields of a record. Only the first tag and the first params count; the tag
is looked at before the params wherever it stands. `nothing` says which values a tag in the form of
a record may hold. -/
def ofFields (nothing : Json → Bool) (fields : List (String × Json)) : Decoded TriggerKind :=
  let complete (tag params : Json) (rest : List (String × Json)) : Decoded TriggerKind := do
    let tag ← toChoiceWith nothing tags tag
    let kind ← decodeParams tag params
    match rest with
    | (name, _) :: _ => .error (.duplicateField name)
    | [] => .ok kind
  match fields.filter fun field => field.1 == "type" || field.1 == "params" with
  | [] => .error (.missingField "type")
  | (first, a) :: rest =>
    match first == "type", rest with
    | true, [] => do withoutParams (← toChoiceWith nothing tags a)
    | false, [] => .error (.missingField "type")
    | true, (second, b) :: rest =>
      if second == "params" then complete a b rest
      else do
        let _ ← toChoiceWith nothing tags a
        .error (.duplicateField "type")
    | false, (second, b) :: rest =>
      if second == "type" then complete b a rest else .error (.duplicateField "params")

/-- What a kind is called in messages. -/
def expected : String := "adjacently tagged enum TriggerKind"

/-- Reads a kind: a record, or a list of the tag and the params. -/
def decode : Json → Decoded TriggerKind
  | .record fields => ofFields isNull fields
  | .list [] => .error (.invalidLength 0 expected)
  | .list (tag :: items) => do
    let choice ← toChoice tags tag
    match items with
    | [] => .error (.invalidLength 1 expected)
    | params :: rest => do
      let kind ← decodeParams choice params
      if rest.isEmpty then .ok kind
      else .error (.invalidLength (items.length + 1) "fewer elements in array")
  | other => .error (.invalidType other expected)

end TriggerKind

/-! ### Triggers -/

namespace Trigger

def encode (trigger : Trigger) : Json :=
  .record (
    [("active", .bool trigger.active),
      ("createdAt", trigger.createdAt.encode),
      ("id", trigger.id.encode),
      ("lastCallAt", ofOption Instant.encode trigger.lastCallAt),
      ("name", .string trigger.name)] ++ trigger.kind.paramsField ++
    [("retries", nat trigger.retries),
      ("type", .string trigger.kind.name),
      ("updatedAt", trigger.updatedAt.encode),
      ("wallet", trigger.wallet.encode)])

/-- How the fields beside those of the kind are read. -/
def reader : RecordReader (TriggerKind → Trigger) :=
  (fun id wallet name active lastCallAt retries createdAt updatedAt kind =>
    ⟨id, wallet, name, kind, active, lastCallAt, retries, createdAt, updatedAt⟩) <$>
    .required "id" Id.decode <*> .required "wallet" Id.decode <*> .required "name" toText <*>
    .required "active" toBool <*> .optional "lastCallAt" Instant.decode <*>
    .required "retries" toUnsigned32 <*> .required "createdAt" Instant.decode <*>
    .required "updatedAt" Instant.decode

/-- An empty record counts as nothing beside the tag of a trigger. -/
def isNothing : Json → Bool
  | .null => true
  | .record [] => true
  | _ => false

def decode : Json → Decoded Trigger
  | .record fields => do
    let withKind ← reader.ofNamed fields
    let kind ← TriggerKind.ofFields isNothing fields
    .ok (withKind kind)
  | other => .error (.invalidType other "struct Trigger")

end Trigger

/-! ### Steps and history -/

namespace ConditionKind

def encode (kind : ConditionKind) : Json := .string kind.name

def decode : Json → Decoded ConditionKind := toChoice named

end ConditionKind

namespace ActionKind

def encode (kind : ActionKind) : Json := .string kind.name

def decode : Json → Decoded ActionKind := toChoice named

end ActionKind

namespace Step

variable {record : IdKind} {Kind : Type}

def encode (encodeKind : Kind → Json) (step : Step record Kind) : Json :=
  .record [
    ("createdAt", step.createdAt.encode),
    ("id", step.id.encode),
    ("params", step.params),
    ("priority", .integer step.priority),
    ("trigger", step.trigger.encode),
    ("type", encodeKind step.kind),
    ("updatedAt", step.updatedAt.encode)]

def reader (decodeKind : Json → Decoded Kind) : RecordReader (Step record Kind) :=
  Step.mk <$> .required "id" Id.decode <*> .required "trigger" Id.decode <*>
    .required "type" decodeKind <*> .required "params" .ok <*> .required "priority" toInt32 <*>
    .required "createdAt" Instant.decode <*> .required "updatedAt" Instant.decode

end Step

namespace Condition

def encode : Condition → Json := Step.encode ConditionKind.encode

def decode : Json → Decoded Condition :=
  RecordReader.read "Condition" (Step.reader ConditionKind.decode)

end Condition

namespace Action

def encode : Action → Json := Step.encode ActionKind.encode

def decode : Json → Decoded Action := RecordReader.read "Action" (Step.reader ActionKind.decode)

end Action

namespace CallOutcome

def encode (outcome : CallOutcome) : Json := .string outcome.name

def decode : Json → Decoded CallOutcome := toChoice named

end CallOutcome

namespace Call

def encode (call : Call) : Json :=
  .record [
    ("createdAt", call.createdAt.encode),
    ("error", ofOption .string call.error),
    ("id", call.id.encode),
    ("outcome", call.outcome.encode),
    ("trigger", call.trigger.encode)]

def reader : RecordReader Call :=
  Call.mk <$> .required "id" Id.decode <*> .required "trigger" Id.decode <*>
    .required "outcome" CallOutcome.decode <*> .optional "error" toText <*>
    .required "createdAt" Instant.decode

def decode : Json → Decoded Call := RecordReader.read "CallHistory" reader

end Call

end TaskAutomation
