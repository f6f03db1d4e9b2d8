import TaskAutomation.Automation.Codec
import TaskAutomation.Proofs.Task.Codec

/-!
This file proves that JSON records are kept: what was written of a trigger, a step, an entry of the
history, a task or the options of a push is read as what it was. The kind of a trigger has two
fields among those of the trigger, its tag and its params; the names of all of them differ, so
neither the trigger nor its kind takes a field of the other for its own.
-/

namespace TaskAutomation

open Json

/-! ### Kinds of triggers -/

namespace TriggerKind

variable {kind : TriggerKind}

/-- The numbers of a kind fit into their words. -/
def Fits : TriggerKind → Prop
  | everyMonth monthDay hour _ => monthDay < Word.size32 ∧ hour < Word.size32
  | everyWeek weekDay hour _ => weekDay < Word.size32 ∧ hour < Word.size32
  | everyDay hour _ => hour < Word.size32
  | everyHour => True
  | contractEvent .. => True

/-- The tag of a kind. -/
def tag : TriggerKind → Tag
  | everyMonth .. => .everyMonth
  | everyWeek .. => .everyWeek
  | everyDay .. => .everyDay
  | everyHour => .everyHour
  | contractEvent .. => .contractEvent

theorem toChoiceWith_name (nothing : Json → Bool) (kind : TriggerKind) :
    toChoiceWith nothing tags (.string kind.name) = .ok kind.tag := by
  cases kind <;> rfl

theorem encodeParams_eq_none_iff : kind.encodeParams = none ↔ kind = everyHour := by
  cases kind <;> simp [encodeParams]

theorem finds_timezone {fields : List (String × Json)} {zone : Option String}
    (held : fields.lookup "timezone" = some (ofOption .string zone)) :
    timezone.Finds fields zone := by
  unfold timezone
  exact .present held (toOption_ofOption_string zone)

/-- The params of every kind are read back, with or without a zone or a subscription. -/
theorem decodeParams_encodeParams (fits : kind.Fits) {params : Json}
    (encoded : kind.encodeParams = some params) : decodeParams kind.tag params = .ok kind := by
  cases kind with
  | everyMonth monthDay hour zone =>
    obtain rfl := Option.some.inj encoded
    have distinct : ["hour", "monthDay", "timezone"].Nodup := by decide
    refine RecordReader.Finds.ofNamed ?_ distinct
    refine .seq ?_ (finds_timezone rfl)
    refine .seq ?_ (.present rfl (toUnsigned32_nat fits.2))
    exact .map (.present rfl (toUnsigned32_nat fits.1)) _
  | everyWeek weekDay hour zone =>
    obtain rfl := Option.some.inj encoded
    have distinct : ["hour", "timezone", "weekDay"].Nodup := by decide
    refine RecordReader.Finds.ofNamed ?_ distinct
    refine .seq ?_ (finds_timezone rfl)
    refine .seq ?_ (.present rfl (toUnsigned32_nat fits.2))
    exact .map (.present rfl (toUnsigned32_nat fits.1)) _
  | everyDay hour zone =>
    obtain rfl := Option.some.inj encoded
    have distinct : ["hour", "timezone"].Nodup := by decide
    refine RecordReader.Finds.ofNamed ?_ distinct
    refine .seq ?_ (finds_timezone rfl)
    exact .map (.present rfl (toUnsigned32_nat fits)) _
  | everyHour => cases encoded
  | contractEvent source subscription =>
    obtain rfl := Option.some.inj encoded
    have distinct : ["address", "event", "network", "subscription"].Nodup := by decide
    have shorter : ["address", "event", "network"].Nodup := by decide
    refine RecordReader.Finds.ofNamed ?_ ?_
    · refine .seq (f := contractEvent source) ?_ ?_
      · refine .seq (f := fun event => contractEvent ⟨source.network, source.address, event⟩)
          (.seq (f := fun address event => contractEvent ⟨source.network, address, event⟩)
            (.map ?network _) ?address) ?event
        all_goals exact .present rfl rfl
      -- A subscription that is not held has no field at all.
      · cases subscription with
        | none => exact .absent rfl
        | some subscription => exact .present rfl rfl
    · cases subscription with
      | none => exact shorter
      | some subscription => exact distinct

/-- The field is the tag or the params of a kind. -/
def isOwnField (field : String × Json) : Bool := field.1 == "type" || field.1 == "params"

/-- Whatever else a record holds, its kind is read from the tag and the params in it. -/
theorem ofFields_of_filter (nothing : Json → Bool) (fits : kind.Fits)
    {fields : List (String × Json)}
    (own : fields.filter isOwnField = kind.paramsField ++ [("type", .string kind.name)]) :
    ofFields nothing fields = .ok kind := by
  have tagged := toChoiceWith_name nothing kind
  unfold isOwnField at own
  unfold ofFields
  cases encoded : kind.encodeParams with
  | none =>
    rw [paramsField, encoded] at own
    obtain rfl := encodeParams_eq_none_iff.mp encoded
    rw [own]
    rfl
  | some params =>
    have decoded := decodeParams_encodeParams fits encoded
    rw [paramsField, encoded] at own
    simp only [own]
    show (toChoiceWith nothing tags (.string kind.name)).bind _ = _
    rw [tagged]
    show (decodeParams kind.tag params).bind _ = _
    rw [decoded]
    rfl

theorem filter_paramsField (kind : TriggerKind) :
    kind.paramsField.filter isOwnField = kind.paramsField := by
  unfold paramsField
  split <;> rfl

theorem decode_encode (fits : kind.Fits) : decode kind.encode = .ok kind := by
  refine ofFields_of_filter isNull fits ?_
  rw [List.filter_append, filter_paramsField]
  rfl

end TriggerKind

/-! ### Triggers -/

namespace Trigger

variable {trigger : Trigger}

/-- The numbers of a trigger fit into their words, and its points of time stay within limits. -/
structure Within (limits : Limits) (trigger : Trigger) : Prop where
  kind : trigger.kind.Fits
  retries : trigger.retries < Word.size32
  lastCallAt : ∀ lastCallAt ∈ trigger.lastCallAt, limits.time lastCallAt
  createdAt : limits.time trigger.createdAt
  updatedAt : limits.time trigger.updatedAt

theorem encode_eq (trigger : Trigger) : trigger.encode = .record trigger.encode.fields := rfl

theorem nodup_fields (trigger : Trigger) : (trigger.encode.fields.map Prod.fst).Nodup := by
  have distinct : ["active", "createdAt", "id", "lastCallAt", "name", "params", "retries", "type",
      "updatedAt", "wallet"].Nodup := by decide
  have without : ["active", "createdAt", "id", "lastCallAt", "name", "retries", "type",
      "updatedAt", "wallet"].Nodup := by decide
  unfold encode TriggerKind.paramsField
  split
  · exact distinct
  · exact without

/-- A trigger from its own values and its kind. -/
def ofParts (id : TriggerId) (wallet : WalletId) (name : String) (active : Bool)
    (lastCallAt : Option Instant) (retries : Nat) (createdAt updatedAt : Instant)
    (kind : TriggerKind) : Trigger :=
  ⟨id, wallet, name, kind, active, lastCallAt, retries, createdAt, updatedAt⟩

/-- The fields of the kind do not stand in the way of the others. -/
theorem finds_fields (within : trigger.Within .recorded) : reader.Finds trigger.encode.fields
    (ofParts trigger.id trigger.wallet trigger.name trigger.active trigger.lastCallAt
      trigger.retries trigger.createdAt trigger.updatedAt) := by
  have found {name : String} {json : Json} (member : (name, json) ∈ trigger.encode.fields) :
      trigger.encode.fields.lookup name = some json :=
    RecordReader.lookup_eq_some_of_mem trigger.nodup_fields member
  have last : toOption Instant.decode (ofOption Instant.encode trigger.lastCallAt) =
      .ok trigger.lastCallAt :=
    toOption_ofOption (fun _ => nofun) fun time held =>
      Instant.decode_encode (within.lastCallAt time held)
  refine .seq ?_ (.present (found ?_) (Instant.decode_encode within.updatedAt))
  refine .seq ?_ (.present (found ?_) (Instant.decode_encode within.createdAt))
  refine .seq ?_ (.present (found ?_) (toUnsigned32_nat within.retries))
  refine .seq ?_ (.present (found ?_) last)
  refine .seq ?_ (.present (found ?_) (toBool_bool trigger.active))
  refine .seq ?_ (.present (found ?_) (toText_string trigger.name))
  refine .seq ?_ (.present (found ?_) (Id.decode_encode trigger.wallet))
  refine .map (.present (found ?_) (Id.decode_encode trigger.id)) _
  all_goals simp [encode, fields]

/-- The fields of a trigger that its kind is read from are those of the kind. -/
theorem ofFields_fields (nothing : Json → Bool) (fits : trigger.kind.Fits) :
    TriggerKind.ofFields nothing trigger.encode.fields = .ok trigger.kind := by
  refine TriggerKind.ofFields_of_filter nothing fits ?_
  rw [encode, fields, List.filter_append, List.filter_append, TriggerKind.filter_paramsField]
  rfl

theorem decode_encode (within : trigger.Within .recorded) :
    decode trigger.encode = .ok trigger := by
  have own := (finds_fields within).ofNamed trigger.nodup_fields
  have kind := ofFields_fields isNothing within.kind
  rw [encode_eq, decode, own, kind]
  rfl

/-- The kind stands in the record of a trigger as it does in its own. -/
theorem field?_encode (trigger : Trigger) :
    trigger.encode.field? "type" = some (.string trigger.kind.name) ∧
      trigger.encode.field? "params" = trigger.kind.encodeParams := by
  unfold encode field? TriggerKind.paramsField
  cases trigger.kind.encodeParams <;> exact ⟨rfl, rfl⟩

end Trigger

/-! ### Steps and history -/

/-- A step stays within limits, and its priority fits into its word. -/
structure Step.Within {record : IdKind} {Kind : Type} (limits : Limits) (step : Step record Kind) :
    Prop where
  params : limits.params step.params
  priority : Word.holds32 step.priority = true
  createdAt : limits.time step.createdAt
  updatedAt : limits.time step.updatedAt

/-- Steps survive if their kinds do. -/
theorem Step.read_encode {record : IdKind} {Kind : Type} {encodeKind : Kind → Json}
    {decodeKind : Json → Decoded Kind} (kinds : ∀ kind, decodeKind (encodeKind kind) = .ok kind)
    (name : String) {step : Step record Kind} (within : step.Within .recorded) :
    RecordReader.read name (reader decodeKind) (step.encode encodeKind) = .ok step := by
  obtain ⟨id, trigger, kind, params, priority, createdAt, updatedAt⟩ := step
  have distinct : ["createdAt", "id", "params", "priority", "trigger", "type", "updatedAt"].Nodup :=
    by decide
  refine RecordReader.Finds.ofNamed ?_ distinct
  refine .seq ?_ (.present rfl (Instant.decode_encode within.updatedAt))
  refine .seq ?_ (.present rfl (Instant.decode_encode within.createdAt))
  refine .seq ?_ (.present rfl (toInt32_integer within.priority))
  refine .seq ?_ (.present rfl rfl)
  refine .seq ?_ (.present rfl (kinds kind))
  refine .seq ?_ (.present rfl (Id.decode_encode trigger))
  exact .map (.present rfl (Id.decode_encode id)) _

theorem ConditionKind.decode_encode (kind : ConditionKind) : decode kind.encode = .ok kind := by
  cases kind <;> rfl

theorem ActionKind.decode_encode (kind : ActionKind) : decode kind.encode = .ok kind := by
  cases kind <;> rfl

theorem CallOutcome.decode_encode (outcome : CallOutcome) :
    decode outcome.encode = .ok outcome := by
  cases outcome <;> rfl

theorem Condition.decode_encode {condition : Condition} (within : condition.Within .recorded) :
    decode (encode condition) = .ok condition :=
  Step.read_encode ConditionKind.decode_encode "Condition" within

theorem Action.decode_encode {action : Action} (within : action.Within .recorded) :
    decode (encode action) = .ok action :=
  Step.read_encode ActionKind.decode_encode "Action" within

/-- The time of an entry stays within limits. -/
structure Call.Within (limits : Limits) (call : Call) : Prop where
  createdAt : limits.time call.createdAt

theorem Call.decode_encode {call : Call} (within : call.Within .recorded) :
    decode call.encode = .ok call := by
  obtain ⟨id, trigger, outcome, error, createdAt⟩ := call
  have distinct : ["createdAt", "error", "id", "outcome", "trigger"].Nodup := by decide
  refine RecordReader.Finds.ofNamed ?_ distinct
  refine .seq ?_ (.present rfl (Instant.decode_encode within.createdAt))
  refine .seq ?_ (.present rfl (toOption_ofOption_string error))
  refine .seq ?_ (.present rfl (CallOutcome.decode_encode outcome))
  refine .seq ?_ (.present rfl (Id.decode_encode trigger))
  exact .map (.present rfl (Id.decode_encode id)) _

/-! ### All records -/

/-- Records are kept, whatever the texts and params in them and whether or not a value that may be
absent is there, if the texts of their points of time read back. Those of all points of time do but
for nanoseconds of a leap second behind a second that does not end a minute. The kind of a trigger
is told by a tag and by params, which only the hourly kind has not, and it can be read from the
record of the trigger as from its own. -/
theorem records_kept :
    (Json.Keeps TriggerKind.Fits TriggerKind.encode TriggerKind.decode ∧
      Json.Keeps (Trigger.Within .recorded) Trigger.encode Trigger.decode ∧
      Json.Keeps (Step.Within .recorded) Condition.encode Condition.decode ∧
      Json.Keeps (Step.Within .recorded) Action.encode Action.decode ∧
      Json.Keeps (Call.Within .recorded) Call.encode Call.decode ∧
      Json.Keeps (Task.Within .recorded) Task.encode Task.decode ∧
      Json.Keeps (PushOptions.Within .recorded) PushOptions.encode PushOptions.decode) ∧
    (∀ trigger : Trigger,
      trigger.encode.field? "type" = some (.string trigger.kind.name) ∧
      trigger.encode.field? "params" = trigger.kind.encodeParams ∧
      (trigger.kind.encodeParams = none ↔ trigger.kind = .everyHour) ∧
      (trigger.kind.Fits → TriggerKind.decode trigger.encode = .ok trigger.kind)) ∧
    ∀ instant : Instant, instant.Representable →
      (instant.ReadsBack ↔ (instant.isLeap = true → instant.seconds % 60 = 59)) := by
  refine ⟨⟨?_, ?_, ?_, ?_, ?_, ?_, ?_⟩, fun trigger => ?_, fun _ => Instant.readsBack_iff⟩
  · exact .of_decode_encode fun _ => TriggerKind.decode_encode
  · exact .of_decode_encode fun _ => Trigger.decode_encode
  · exact .of_decode_encode fun _ => Condition.decode_encode
  · exact .of_decode_encode fun _ => Action.decode_encode
  · exact .of_decode_encode fun _ => Call.decode_encode
  · exact .of_decode_encode fun _ => Task.decode_encode
  · exact .of_decode_encode fun _ => PushOptions.decode_encode
  · obtain ⟨tag, params⟩ := trigger.field?_encode
    exact ⟨tag, params, TriggerKind.encodeParams_eq_none_iff, Trigger.ofFields_fields isNull⟩

/-- A trigger without a subscription and a task with params that are `null` are kept, both made in a
leap second. -/
theorem records_kept_leapSecond :
    let leap : Instant := ⟨1483228799, 1500000000⟩
    let kind : TriggerKind := .contractEvent ⟨"1", "0xA", "Sent"⟩ none
    let trigger := Trigger.new ⟨.ofNat 1⟩ ⟨.ofNat 2⟩ "" kind leap
    let task := Task.new ⟨.ofNat 3⟩ "mail" .null { startAt := some leap } leap
    leap.isLeap = true ∧ Trigger.decode trigger.encode = .ok trigger ∧
      Task.decode task.encode = .ok task := by
  intro leap kind trigger task
  obtain ⟨⟨-, triggers, -, -, -, tasks, -⟩, -, times⟩ := records_kept
  have back : leap.ReadsBack := (times leap (by decide)).mpr fun _ => rfl
  refine ⟨rfl, triggers.decode_encode trigger ?_, tasks.decode_encode task ?_⟩
  · exact ⟨trivial, (by decide : 0 < Word.size32), nofun, back, back⟩
  · exact ⟨trivial, rfl, (by decide : 0 < Word.size32), back, nofun, back, back⟩

end TaskAutomation
