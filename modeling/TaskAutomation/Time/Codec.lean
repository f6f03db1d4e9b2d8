import TaskAutomation.Json.Decode
import TaskAutomation.Time.Rfc3339

/-!
This file writes points of time as JSON texts and reads them back.
-/

namespace TaskAutomation.Instant

def encode (instant : Instant) : Json := .string (Rfc3339.write instant)

def decode : Json → Decoded Instant
  | .string text => (Rfc3339.read text).mapError fun refusal => .refused refusal.message
  | other => .error (.invalidType other "an RFC 3339 formatted date and time string")

end TaskAutomation.Instant
