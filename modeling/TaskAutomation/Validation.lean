/-!
This file defines the refusal of values that have the right form but make no sense, such as an empty
name or an hour past the end of the day.
-/

namespace TaskAutomation

/-- A value that is refused: the field it stands in and, if there is more to say, a detail. -/
structure Invalid where
  field : String
  detail : Option String
  deriving DecidableEq, Repr

namespace Invalid

/-- The refusal of a field without a detail. -/
def plain (field : String) : Invalid := ⟨field, none⟩

/-- The refusal of a field with a detail. -/
def withDetail (field detail : String) : Invalid := ⟨field, some detail⟩

def message (invalid : Invalid) : String :=
  "Invalid " ++ invalid.field ++
    match invalid.detail with
    | some detail => ": " ++ detail
    | none => ""

end Invalid

end TaskAutomation
