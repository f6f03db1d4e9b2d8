import TaskAutomation.Automation.Params
import TaskAutomation.Proofs.Json.Depth
import TaskAutomation.Proofs.Queue.KeptRow

/-!
This file proves that the params of a transaction survive being stored. A table keeps params as a
text, and the numbers in a text may come back changed. But a transaction is read from texts alone,
so it is read from what comes back as well, whatever else the params hold. Params that a transaction
was written to are read as that transaction.
-/

namespace TaskAutomation

open Json

variable {α β : Type}

/-- Params are read when they have the right form and make sense. -/
theorem readParams_eq_ok {decode : Json → Decoded α} {verify : α → Except Invalid Unit}
    {json : Json} {params : α} :
    readParams decode verify json = .ok params ↔
      decode json = .ok params ∧ verify params = .ok () := by
  unfold readParams
  cases decode json with
  | error fault => simp
  | ok found =>
    refine map_eq_ok.trans ⟨?_, ?_⟩
    · rintro ⟨_, verified, rfl⟩
      exact ⟨rfl, verified⟩
    · rintro ⟨⟨⟩, verified⟩
      exact ⟨(), verified, rfl⟩

/-! ### Decoders that do not look at numbers -/

/-- What is decoded from a value is also decoded from the value with its numbers read again. -/
def Json.Rereads (decode : Json → Decoded α) : Prop :=
  ∀ json a, decode json = .ok a → decode json.reread = .ok a

theorem Json.Rereads.map {decode : Json → Decoded α} (rereads : Rereads decode) (f : α → β) :
    Rereads fun json => (decode json).map f := fun json b decoded => by
  obtain ⟨a, read, rfl⟩ := map_eq_ok.mp decoded
  exact map_eq_ok.mpr ⟨a, rereads json a read, rfl⟩

theorem Json.rereads_toText : Rereads toText := fun json text decoded => by
  cases json with
  | string own => exact decoded
  | _ => cases decoded

theorem Json.Rereads.toOption {decode : Json → Decoded α} (rereads : Rereads decode) :
    Rereads (toOption decode) := fun json a decoded => by
  cases json with
  | null => exact decoded
  | _ => exact rereads.map some _ a decoded

/-- The fields that are still to be read, with their numbers read again. -/
def Json.FieldSource.reread : FieldSource → FieldSource
  | named fields => named (rereadFields fields)
  | ordered read complete items => ordered read complete (rereadItems items)

theorem Json.lookup_rereadFields (name : String) (fields : List (String × Json)) :
    (rereadFields fields).lookup name = (fields.lookup name).map Json.reread := by
  induction fields with
  | nil => rfl
  | cons entry rest inductionHypothesis =>
    show ((entry.1, entry.2.reread) :: rereadFields rest).lookup name = _
    rw [List.lookup_cons, List.lookup_cons]
    split
    · rfl
    · exact inductionHypothesis

namespace Json.RecordReader

/-- What is read from a record is also read from the record with its numbers read again. -/
structure Rereads (reader : RecordReader α) : Prop where
  checks : ∀ check ∈ reader.checks, Json.Rereads check.2
  build : ∀ source a rest, reader.build source = .ok (a, rest) →
    reader.build source.reread = .ok (a, rest.reread)

theorem Rereads.field {decode : Json → Decoded α} (rereads : Json.Rereads decode) (name : String)
    (byName inOrder : Option α) : (field name decode byName inOrder).Rereads where
  checks check member := by
    obtain rfl := List.mem_singleton.mp member
    exact rereads.map _
  build source a rest built := by
    cases source with
    | named fields =>
      simp only [RecordReader.field, FieldSource.reread, lookup_rereadFields] at built ⊢
      cases found : fields.lookup name with
      | none =>
        rw [found] at built
        cases byName <;> cases built
        rfl
      | some json =>
        rw [found] at built
        obtain ⟨own, read, same⟩ := bind_eq_ok.mp built
        cases same
        exact bind_eq_ok.mpr ⟨a, rereads json a read, rfl⟩
    | ordered read complete items =>
      cases items with
      | nil =>
        cases inOrder <;> cases built
        rfl
      | cons item items =>
        obtain ⟨own, decoded, same⟩ := bind_eq_ok.mp built
        cases same
        exact bind_eq_ok.mpr ⟨a, rereads item a decoded, rfl⟩

theorem Rereads.map {reader : RecordReader α} (rereads : reader.Rereads) (f : α → β) :
    (f <$> reader).Rereads where
  checks := rereads.checks
  build source b rest built := by
    obtain ⟨read, first, same⟩ := bind_eq_ok.mp built
    cases same
    exact bind_eq_ok.mpr ⟨_, rereads.build source _ _ first, rfl⟩

theorem Rereads.seq {first : RecordReader (α → β)} {second : RecordReader α}
    (former : first.Rereads) (latter : second.Rereads) : (first <*> second).Rereads where
  checks check member :=
    (List.mem_append.mp member).elim (former.checks check) (latter.checks check)
  build source b rest built := by
    obtain ⟨left, start, built⟩ := bind_eq_ok.mp built
    obtain ⟨right, next, same⟩ := bind_eq_ok.mp built
    cases same
    exact bind_eq_ok.mpr ⟨_, former.build source _ _ start,
      bind_eq_ok.mpr ⟨_, latter.build _ _ _ next, rfl⟩⟩

theorem checkFields_rereadFields {checks : List (String × (Json → Decoded Unit))}
    (rereads : ∀ check ∈ checks, Json.Rereads check.2) (seen : List String)
    (fields : List (String × Json)) (passed : checkFields checks seen fields = .ok ()) :
    checkFields checks seen (rereadFields fields) = .ok () := by
  induction fields generalizing seen with
  | nil => rfl
  | cons entry rest inductionHypothesis =>
    show checkFields checks seen ((entry.1, entry.2.reread) :: rereadFields rest) = .ok ()
    unfold checkFields at passed ⊢
    cases known : checks.lookup entry.1 with
    | none =>
      simp only [known] at passed ⊢
      exact inductionHypothesis seen passed
    | some check =>
      obtain ⟨former, later, split, -⟩ := List.lookup_eq_some_iff.mp known
      have own := rereads (entry.1, check) (split ▸ List.mem_append_right _ List.mem_cons_self)
      simp only [known] at passed ⊢
      split at passed
      · cases passed
      · next new =>
        obtain ⟨_, checked, later⟩ := bind_eq_ok.mp passed
        rw [if_neg new]
        exact bind_eq_ok.mpr ⟨(), own entry.2 () checked, inductionHypothesis _ later⟩

theorem Rereads.read {reader : RecordReader α} (rereads : reader.Rereads) (name : String) :
    Json.Rereads (reader.read name) := fun json a decoded => by
  cases json with
  | record fields =>
    obtain ⟨_, checked, read⟩ := bind_eq_ok.mp decoded
    obtain ⟨result, built, same⟩ := bind_eq_ok.mp read
    cases same
    exact bind_eq_ok.mpr ⟨(), checkFields_rereadFields rereads.checks [] fields checked,
      bind_eq_ok.mpr ⟨_, rereads.build _ _ _ built, rfl⟩⟩
  | list items =>
    obtain ⟨⟨value, rest⟩, built, same⟩ := bind_eq_ok.mp decoded
    refine bind_eq_ok.mpr ⟨_, rereads.build _ _ _ built, ?_⟩
    match rest with
    | .named fields => exact same
    | .ordered read complete [] => exact same
    | .ordered read complete (_ :: _) => cases same
  | _ => cases decoded

end Json.RecordReader

/-! ### Transactions -/

namespace TransactionRun

theorem rereads_decode : Rereads decode := by
  have text (name : String) : (RecordReader.required name toText).Rereads :=
    .field rereads_toText name none none
  have reader := (((text "network").map mk).seq (text "automate")).seq
    (.field rereads_toText.toOption "txHash" (some none) (some none))
  exact reader.read "TransactionRun"

/-- A transaction that is read from params is read from them as well when they come back from their
text. -/
theorem decode_of_parse_compact {params read : Json} {run : TransactionRun} (valid : params.Valid)
    (decoded : decode params = .ok run) (written : Json.parse params.compact = .ok read) :
    read.Valid ∧ decode read = .ok run := by
  have shallow := (exists_parse_compact valid).mp ⟨read, written⟩
  obtain rfl := Except.ok.inj ((parse_compact valid shallow).symm.trans written)
  exact ⟨valid.reread, rereads_decode params run decoded⟩

/-- The record of a transaction is read as the transaction. -/
theorem decode_encode (run : TransactionRun) : decode run.encode = .ok run := by
  obtain ⟨network, automate, hash⟩ := run
  cases hash <;> rfl

theorem valid_encode (run : TransactionRun) : run.encode.Valid := by
  obtain ⟨network, automate, hash⟩ := run
  have ascending : ["automate", "network", "txHash"].Pairwise (· < ·) := by decide
  have shorter := ascending.sublist (List.sublist_append_left ["automate", "network"] ["txHash"])
  cases hash with
  | none => exact ⟨(Json.ascending_iff _).mpr shorter, trivial, trivial, trivial⟩
  | some hash => exact ⟨(Json.ascending_iff _).mpr ascending, trivial, trivial, trivial, trivial⟩

end TransactionRun

end TaskAutomation
