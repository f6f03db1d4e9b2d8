import TaskAutomation.Automation.Codec
import TaskAutomation.Json.Reader

/-!
This file reads rule files: JSON texts that list triggers with their conditions and actions. The
file is read from front to back, so of several faults the first one counts, whether it is one of the
JSON text or of its meaning. A record with a field that does not belong there is accepted.
-/

namespace TaskAutomation

open Json

/-- A step of a rule. -/
structure StepRule (Kind : Type) where
  kind : Kind
  params : Json
  priority : Int
  deriving BEq, Repr

/-- A trigger with its steps. -/
structure TriggerRule where
  /-- The owner; a new one if absent. -/
  wallet : Option WalletId
  name : String
  kind : TriggerKind
  conditions : List (StepRule ConditionKind)
  actions : List (StepRule ActionKind)
  deriving BEq, Repr

namespace RuleFile

/-! ### Faults -/

/-- Why a text is no rule file. -/
inductive Cause where
  | form (fault : SyntaxFault)
  | meaning (fault : DecodeError)

def Cause.message : Cause → String
  | form fault => fault.message
  | meaning fault => fault.message

/-- What reading a part of a file gives, most often a value and the rest of the text. -/
abbrev Checked := Except (Fault Cause)

/-- A part that is read as plain JSON. -/
def plain {α : Type} (scan : Scan α) : Checked α :=
  scan.mapError fun fault => ⟨.form fault.cause, fault.left⟩

/-- A fault of form in front of the rest. -/
def formBefore {α : Type} (why : SyntaxFault) (rest : List Char) : Checked α :=
  .error (.before (.form why) rest)

/-- A fault of form in the next character. -/
def formNext {α : Type} (why : SyntaxFault) (rest : List Char) : Checked α :=
  .error (.behindNext (.form why) rest)

/-- A fault of meaning in front of the rest. -/
def meaningBefore {α : Type} (why : DecodeError) (rest : List Char) : Checked α :=
  .error (.before (.meaning why) rest)

/-- A fault of meaning within a record: it is noticed behind the record if that ends here. -/
def meaningWithin {α : Type} (why : DecodeError) (rest : List Char) : Checked α :=
  match skipSpace rest with
  | '\x7d' :: rest => meaningBefore why rest
  | rest => meaningBefore why rest

/-! ### Values -/

/-- Reads any value with at most so many levels of lists and records. -/
def anyValue (levels : Nat) (text : List Char) : Checked (Json × List Char) :=
  plain (Json.value (2 * text.length + 2) levels text)

/-- The fault of a value of the wrong kind. The value itself is still read, unless it is a list or a
record. -/
def wrongKind {α : Type} (expected : String) (text : List Char) : Checked α :=
  match text with
  | '[' :: _ => meaningBefore (.invalidType (.list []) expected) text
  | '\x7b' :: _ => meaningBefore (.invalidType (.record []) expected) text
  | text => do
    let (json, rest) ← anyValue 0 text
    meaningBefore (.invalidType json expected) rest

/-- Reads a value by its first character. -/
def byFirst {α : Type} (expected : String) (wanted : Char → Bool)
    (read : List Char → Checked α) (text : List Char) : Checked α :=
  match skipSpace text with
  | [] => formBefore .endInValue []
  | c :: rest => if wanted c then read (c :: rest) else wrongKind expected (c :: rest)

def text : List Char → Checked (String × List Char) :=
  byFirst "a string" (· = '"') fun text => plain (textBody text.tail)

/-- Reads a whole number of 32 bits. -/
def priority : List Char → Checked (Int × List Char) :=
  byFirst "i32" (fun c => c = '-' || c.isDigit) fun text => do
    let (json, rest) ← anyValue 0 text
    match toInt32 json with
    | .ok value => .ok (value, rest)
    | .error why => meaningBefore why rest

/-- Reads the owner of a trigger. A text that is no identifier is only noticed by the record. -/
def wallet (text : List Char) : Checked (Option WalletId × List Char) := do
  match skipSpace text with
  | 'n' :: _ =>
    let (_, rest) ← anyValue 0 text
    .ok (none, rest)
  | _ =>
    let (content, rest) ← RuleFile.text text
    match (Id.decode (.string content) : Decoded WalletId) with
    | .ok id => .ok (some id, rest)
    | .error why => meaningWithin why rest

/-- Reads the colon behind the name of a field. -/
def colon (text : List Char) : Checked (List Char) :=
  match skipSpace text with
  | [] => formBefore .endInRecord []
  | ':' :: rest => .ok rest
  | rest => formNext .noColon rest

/-- Reads one of several names between quotes. -/
def choice {α : Type} (expected : String) (known : List (String × α)) :
    List Char → Checked (α × List Char) :=
  byFirst expected (· = '"') fun text => do
    let (name, rest) ← plain (textBody text.tail)
    match choiceOf known name with
    | .ok chosen => .ok (chosen, rest)
    | .error why => meaningBefore why rest

/-- Reads a kind of step: its name, or a record whose only field has that name and holds nothing. -/
def kind {α : Type} (known : List (String × α)) (text : List Char) : Checked (α × List Char) :=
  match skipSpace text with
  | [] => formBefore .endInValue []
  | '"' :: rest => choice "variant identifier" known ('"' :: rest)
  | '\x7b' :: rest => do
    let (chosen, rest) ← choice "variant identifier" known rest
    let rest ← colon rest
    let ((), rest) ← byFirst "unit" (· = 'n') (fun text => do
      let (_, rest) ← anyValue 0 text
      .ok ((), rest)) rest
    match skipSpace rest with
    | '\x7d' :: rest => .ok (chosen, rest)
    | [] => formBefore .endInRecord []
    | rest => formBefore .noValue rest
  | rest => formNext .noValue rest

/-! ### Lists and records -/

/-- Goes to the next part of a list or a record; there is none at its closing mark. -/
def nextPart (closing : Char) (unfinished noSeparator : SyntaxFault) (first : Bool)
    (text : List Char) : Checked (Bool × List Char) :=
  match skipSpace text with
  | [] => formBefore unfinished []
  | c :: rest =>
    if c = closing then .ok (false, c :: rest)
    else if first then .ok (true, c :: rest)
    else if c = ',' then
      match skipSpace rest with
      | [] => formBefore .endInValue []
      | d :: rest =>
        if d = closing then formNext .trailingComma (d :: rest) else .ok (true, d :: rest)
    else formNext noSeparator (c :: rest)

/-- Goes to the next item of a list. -/
def nextItem : Bool → List Char → Checked (Bool × List Char) :=
  nextPart ']' .endInList .noListSeparator

/-- Goes to the next field of a record. -/
def nextField : Bool → List Char → Checked (Bool × List Char) :=
  nextPart '\x7d' .endInRecord .noRecordSeparator

/-- Reads the items of a list up to its end. -/
def items {α : Type} (item : List Char → Checked (α × List Char)) :
    Nat → Bool → List Char → Checked (List α × List Char)
  | 0, _, text => formBefore .endInList text
  | fuel + 1, first, text => do
    let (found, rest) ← nextItem first text
    if !found then .ok ([], rest.tail)
    else
      let (value, rest) ← item rest
      let (more, rest) ← items item fuel false rest
      .ok (value :: more, rest)

/-- Reads a list. -/
def list {α : Type} (item : List Char → Checked (α × List Char)) :
    List Char → Checked (List α × List Char) :=
  byFirst "a sequence" (· = '[') fun text => items item text.length true text.tail

/-- Reads the next field of a record that is given as a list, if there is one. -/
def listField? {α : Type} (first : Bool) (item : List Char → Checked (α × List Char))
    (text : List Char) : Checked (Option α × List Char) := do
  let (found, rest) ← nextItem first text
  if !found then .ok (none, rest)
  else
    let (value, rest) ← item rest
    .ok (some value, rest)

/-- Reads the end of a record that is given as a list of its fields. -/
def listEnd (text : List Char) : Checked (List Char) :=
  match skipSpace text with
  | [] => formBefore .endInList []
  | ']' :: rest => .ok rest
  | ',' :: rest =>
    match skipSpace rest with
    | ']' :: rest => formNext .trailingComma (']' :: rest)
    | [] => formBefore .trailingCharacters []
    | rest => formNext .trailingCharacters rest
  | rest => formNext .trailingCharacters rest

/-- Reads the fields of a record up to its end. What has been read so far is handed on from field to
field; a field is read from behind its name. -/
def fields {State : Type}
    (field : State → String → List Char → Checked (State × List Char)) :
    Nat → Bool → State → List Char → Checked (State × List Char)
  | 0, _, _, text => formBefore .endInRecord text
  | fuel + 1, first, state, text => do
    let (found, rest) ← nextField first text
    if !found then .ok (state, rest.tail)
    else
      match rest with
      | '"' :: rest =>
        let (name, rest) ← plain (textBody rest)
        let (state, rest) ← field state name rest
        fields field fuel false state rest
      | rest => formNext .keyNotText rest

/-- Reads the value of a field that is to be read at most once. -/
def once {α : Type} (name : String) (held : Option α) (read : List Char → Checked (α × List Char))
    (text : List Char) : Checked (Option α × List Char) :=
  if held.isSome then meaningWithin (.duplicateField name) text
  else do
    let rest ← colon text
    let (value, rest) ← read rest
    .ok (some value, rest)

/-- Passes over the value of a field. -/
def skipValue (text : List Char) : Checked (List Char) := do
  let rest ← colon text
  let (_, rest) ← anyValue rest.length rest
  .ok rest

/-- The value of a field that has to be there, at the end of its record. -/
def present {α : Type} (name : String) (held : Option α) (rest : List Char) :
    Checked α :=
  match held with
  | some value => .ok value
  | none => meaningBefore (.missingField name) rest

/-! ### Steps -/

/-- The levels that the params of a step may have, below the five above them. -/
def paramsLevels : Nat := maxDepth - 5

/-- Reads the params of a step. -/
def params (text : List Char) : Checked (Json × List Char) := do
  let (json, rest) ← anyValue paramsLevels text
  .ok (json.normal, rest)

/-- What has been read of a step. -/
structure PartialStep (Kind : Type) where
  kind : Option Kind := none
  params : Option Json := none
  priority : Option Int := none

/-- Reads a field of a step. -/
def stepField {Kind : Type} (known : List (String × Kind)) (step : PartialStep Kind)
    (name : String) (text : List Char) : Checked (PartialStep Kind × List Char) :=
  match name with
  | "type" => do
    let (kind, rest) ← once name step.kind (RuleFile.kind known) text
    .ok ({ step with kind }, rest)
  | "params" => do
    let (params, rest) ← once name step.params RuleFile.params text
    .ok ({ step with params }, rest)
  | "priority" => do
    let (priority, rest) ← once name step.priority RuleFile.priority text
    .ok ({ step with priority }, rest)
  | _ => do
    let rest ← skipValue text
    .ok (step, rest)

/-- Reads a step that is given as a list of its fields. -/
def stepOfList {Kind : Type} (known : List (String × Kind)) (text : List Char) :
    Checked (StepRule Kind × List Char) := do
  match ← listField? true (RuleFile.kind known) text with
  | (none, rest) => meaningBefore (.invalidLength 0 "struct Step with 3 elements") rest.tail
  | (some kind, rest) =>
    let (params, rest) ← listField? false RuleFile.params rest
    let (priority, rest) ← listField? false RuleFile.priority rest
    let rest ← listEnd rest
    .ok (⟨kind, params.getD .null, priority.getD 0⟩, rest)

/-- Reads a step. -/
def step {Kind : Type} (known : List (String × Kind)) :
    List Char → Checked (StepRule Kind × List Char) :=
  byFirst "struct Step" (fun c => c = '\x7b' || c = '[') fun text =>
    if text.head? = some '[' then stepOfList known text.tail
    else do
      let (step, rest) ← fields (stepField known) text.length true {} text.tail
      let kind ← present "type" step.kind rest
      .ok (⟨kind, step.params.getD .null, step.priority.getD 0⟩, rest)

/-! ### Triggers -/

/-- The levels that a field of a trigger may have, below the three above it. -/
def triggerLevels : Nat := maxDepth - 3

/-- What has been read of a trigger. All fields that are not its own are kept for its kind. -/
structure PartialTrigger where
  wallet : Option (Option WalletId) := none
  name : Option String := none
  conditions : Option (List (StepRule ConditionKind)) := none
  actions : Option (List (StepRule ActionKind)) := none
  others : List (String × Json) := []

/-- Reads a field of a trigger. -/
def triggerField (trigger : PartialTrigger) (name : String) (text : List Char) :
    Checked (PartialTrigger × List Char) :=
  match name with
  | "wallet" => do
    let (wallet, rest) ← once name trigger.wallet RuleFile.wallet text
    .ok ({ trigger with wallet }, rest)
  | "name" => do
    let (content, rest) ← once name trigger.name RuleFile.text text
    .ok ({ trigger with name := content }, rest)
  | "conditions" => do
    let (conditions, rest) ← once name trigger.conditions (list (step ConditionKind.named)) text
    .ok ({ trigger with conditions }, rest)
  | "actions" => do
    let (actions, rest) ← once name trigger.actions (list (step ActionKind.named)) text
    .ok ({ trigger with actions }, rest)
  | _ => do
    let rest ← colon text
    let (value, rest) ← anyValue triggerLevels rest
    .ok ({ trigger with others := trigger.others ++ [(name, value)] }, rest)

/-- Reads a trigger. -/
def trigger : List Char → Checked (TriggerRule × List Char) :=
  byFirst "struct TriggerRule" (· = '\x7b') fun text => do
    let (trigger, rest) ← fields triggerField text.length true {} text.tail
    let name ← present "name" trigger.name rest
    match TriggerKind.ofFields Trigger.isNothing trigger.others with
    | .error why => meaningBefore why rest
    | .ok kind =>
      .ok ({
        wallet := trigger.wallet.getD none
        name, kind
        conditions := trigger.conditions.getD []
        actions := trigger.actions.getD [] }, rest)

/-! ### Files -/

/-- Reads a field of a file. -/
def fileField (triggers : Option (List TriggerRule)) (name : String) (text : List Char) :
    Checked (Option (List TriggerRule) × List Char) :=
  if name = "triggers" then once name triggers (list trigger) text
  else do
    let rest ← skipValue text
    .ok (triggers, rest)

/-- Reads the record that a file holds. -/
def file : List Char → Checked (List TriggerRule × List Char) :=
  byFirst "struct RulesFile" (fun c => c = '\x7b' || c = '[') fun text =>
    if text.head? = some '[' then do
      let (triggers, rest) ← listField? true (list trigger) text.tail
      let rest ← listEnd rest
      .ok (triggers.getD [], rest)
    else do
      let (triggers, rest) ← fields fileField text.length true none text.tail
      .ok (triggers.getD [], rest)

/-- Reads a whole file; behind the record only blanks may follow. -/
def readAll (characters : List Char) : Checked (List TriggerRule) := do
  let (triggers, rest) ← file characters
  match skipSpace rest with
  | [] => .ok triggers
  | rest => formNext .trailingCharacters rest

/-- The rules of a file, or the message that says why there are none. -/
def read (text : String) : Except String (List TriggerRule) :=
  (readAll text.toList).mapError (Fault.locate Cause.message text)

end RuleFile

end TaskAutomation
