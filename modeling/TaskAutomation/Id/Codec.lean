import TaskAutomation.Id.Basic
import TaskAutomation.Json.Decode

/-!
This file writes identifiers as JSON texts, without the name of their kind, and reads them back.
-/

namespace TaskAutomation.Id

variable {kind : IdKind}

def encode (id : Id kind) : Json := .string id.bare

def decode (json : Json) : Decoded (Id kind) := do
  let text ← json.toText
  match Ulid.read text with
  | .ok ulid => .ok ⟨ulid⟩
  | .error refusal => .error (.refused refusal.message)

end TaskAutomation.Id
