import TaskAutomation.Json.Decode
import TaskAutomation.Proofs.Results
import Mathlib.Data.List.Nodup

/-!
This file proves how a record that was written is read. A reader looks for each of its fields under
the name of the field, whatever else the record holds, so a record is read as a value if under each
name there stands what the part of the value is read from. When every value is read as what it was
written from, no two of them have the same record.
-/

namespace TaskAutomation.Json

variable {α β : Type}

/-! ### Plain values -/

theorem toText_string (text : String) : toText (string text) = .ok text := rfl

theorem toBool_bool (value : Bool) : toBool (bool value) = .ok value := rfl

theorem toInt32_integer {n : Int} (fits : Word.holds32 n = true) : toInt32 (integer n) = .ok n := by
  simp only [Word.holds32, Bool.and_eq_true, decide_eq_true_eq] at fits
  exact if_pos fits

theorem toNatUpTo_nat (name : String) {most n : Nat} (fits : n ≤ most) :
    toNatUpTo name most (nat n) = .ok n := by
  have bounds : (0 : Int) ≤ n ∧ (n : Int) ≤ most := ⟨Int.natCast_nonneg n, Int.ofNat_le.mpr fits⟩
  rw [toNatUpTo, nat, toBounded, if_pos bounds]
  rfl

theorem toUnsigned32_nat {n : Nat} (fits : n < Word.size32) : toUnsigned32 (nat n) = .ok n :=
  toNatUpTo_nat "u32" (Nat.le_sub_one_of_lt fits)

theorem toUnsigned64_nat {n : Nat} (fits : n < Word.size64) : toUnsigned64 (nat n) = .ok n :=
  toNatUpTo_nat "u64" (Nat.le_sub_one_of_lt fits)

/-- A value that may be absent reads back if nothing that is present is written as absent. -/
theorem toOption_ofOption {decode : Json → Decoded α} {encode : α → Json} {value : Option α}
    (present : ∀ a, encode a ≠ null) (reads : ∀ a ∈ value, decode (encode a) = .ok a) :
    toOption decode (ofOption encode value) = .ok value := by
  cases value with
  | none => rfl
  | some a =>
    have read := reads a rfl
    show toOption decode (encode a) = _
    cases written : encode a with
    | null => exact absurd written (present a)
    | _ =>
      rw [written] at read
      rw [toOption, read]
      · rfl
      · nofun

theorem toOption_ofOption_string (text : Option String) :
    toOption toText (ofOption string text) = .ok text :=
  toOption_ofOption (fun _ => nofun) fun _ _ => rfl

/-! ### Records -/

/-- The fields of a record. -/
def fields : Json → List (String × Json)
  | record fields => fields
  | _ => []

namespace RecordReader

variable {fields : List (String × Json)} {name : String} {decode : Json → Decoded α}
  {byName inOrder : Option α} {json : Json} {reader : RecordReader α} {a : α}

/-- The fields of a record hold what a value is read from: those that are known pass their checks,
and the value is put together from them. -/
structure Finds (reader : RecordReader α) (fields : List (String × Json)) (a : α) : Prop where
  checks : ∀ check ∈ reader.checks, ∀ json, fields.lookup check.1 = some json →
    check.2 json = .ok ()
  build : reader.build (.named fields) = .ok (a, .named fields)

theorem Finds.present (held : fields.lookup name = some json) (decoded : decode json = .ok a) :
    (field name decode byName inOrder).Finds fields a where
  checks check member own found := by
    obtain rfl := List.mem_singleton.mp member
    obtain rfl := Option.some.inj (held.symm.trans found)
    exact congrArg (Except.map fun _ => ()) decoded
  build := by
    simp only [field, held, decoded]
    rfl

theorem Finds.absent (lacks : fields.lookup name = none) :
    (field name decode (some a) inOrder).Finds fields a where
  checks check member own found := by
    obtain rfl := List.mem_singleton.mp member
    cases lacks.symm.trans found
  build := by
    simp only [field, lacks]

theorem Finds.map (finds : reader.Finds fields a) (f : α → β) :
    (f <$> reader).Finds fields (f a) where
  checks := finds.checks
  build := bind_eq_ok.mpr ⟨_, finds.build, rfl⟩

theorem Finds.seq {first : RecordReader (α → β)} {f : α → β} (former : first.Finds fields f)
    (latter : reader.Finds fields a) : (first <*> reader).Finds fields (f a) where
  checks check member :=
    (List.mem_append.mp member).elim (former.checks check) (latter.checks check)
  build := bind_eq_ok.mpr ⟨_, former.build, bind_eq_ok.mpr ⟨_, latter.build, rfl⟩⟩

theorem lookup_eq_some_of_mem (distinct : (fields.map Prod.fst).Nodup)
    (member : (name, json) ∈ fields) : fields.lookup name = some json := by
  obtain ⟨before, after, rfl⟩ := List.append_of_mem member
  rw [List.map_append, List.map_cons, List.nodup_append] at distinct
  refine List.lookup_eq_some_iff.mpr ⟨before, after, rfl, fun field inside => ?_⟩
  have own : field.1 ∈ before.map Prod.fst := List.mem_map_of_mem inside
  exact bne_iff_ne.mpr (distinct.2.2 _ own name List.mem_cons_self).symm

/-- Fields with different names pass when each of them does. -/
theorem checkFields_of_distinct {checks : List (String × (Json → Decoded Unit))}
    (passes : ∀ check ∈ checks, ∀ json, (check.1, json) ∈ fields → check.2 json = .ok ())
    (distinct : (fields.map Prod.fst).Nodup) {seen : List String}
    (unseen : ∀ name ∈ seen, name ∉ fields.map Prod.fst) :
    checkFields checks seen fields = .ok () := by
  induction fields generalizing seen with
  | nil => rfl
  | cons entry rest inductionHypothesis =>
    obtain ⟨name, json⟩ := entry
    obtain ⟨new, distinct⟩ := List.nodup_cons.mp distinct
    have later (seen : List String) (unseen : ∀ name ∈ seen, name ∉ rest.map Prod.fst) :
        checkFields checks seen rest = .ok () :=
      inductionHypothesis (fun check member other inside =>
        passes check member other (List.mem_cons_of_mem _ inside)) distinct unseen
    have behind : ∀ other ∈ seen, other ∉ rest.map Prod.fst := fun other member inside =>
      unseen other member (List.mem_cons_of_mem name inside)
    unfold checkFields
    split
    · exact later seen behind
    · next check known =>
      obtain ⟨former, latter, split, -⟩ := List.lookup_eq_some_iff.mp known
      have member : (name, check) ∈ checks := split ▸ List.mem_append_right _ List.mem_cons_self
      have fresh : ¬ seen.contains name = true := fun held =>
        unseen name (List.contains_iff_mem.mp held) List.mem_cons_self
      rw [if_neg fresh]
      refine bind_eq_ok.mpr ⟨(), passes _ member json List.mem_cons_self, later _ ?_⟩
      intro other inside
      obtain rfl | before := List.mem_cons.mp inside
      · exact new
      · exact behind other before

/-- A record whose fields have different names is read as the value that they hold. -/
theorem Finds.ofNamed (finds : reader.Finds fields a) (distinct : (fields.map Prod.fst).Nodup) :
    reader.ofNamed fields = .ok a := by
  have passed : checkFields reader.checks [] fields = .ok () :=
    checkFields_of_distinct (fun check member json inside =>
      finds.checks check member json (lookup_eq_some_of_mem distinct inside)) distinct nofun
  exact bind_eq_ok.mpr ⟨(), passed, bind_eq_ok.mpr ⟨_, finds.build, rfl⟩⟩

end RecordReader

/-! ### Types kept by their records -/

/-- The records of a type keep those values that fit: each of them is read as what it was written
from, so no two values have the same record. -/
structure Keeps (Fits : α → Prop) (encode : α → Json) (decode : Json → Decoded α) : Prop where
  decode_encode : ∀ a, Fits a → decode (encode a) = .ok a
  injective : ∀ a b, Fits a → Fits b → encode a = encode b → a = b

theorem Keeps.of_decode_encode {Fits : α → Prop} {encode : α → Json} {decode : Json → Decoded α}
    (back : ∀ a, Fits a → decode (encode a) = .ok a) : Keeps Fits encode decode where
  decode_encode := back
  injective a b fits others same := by
    have read := back a fits
    rw [same, back b others] at read
    exact (Except.ok.inj read).symm

end TaskAutomation.Json
