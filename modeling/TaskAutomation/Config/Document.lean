import TaskAutomation.Config.Codec
import TaskAutomation.Toml.Reader

/-!
This file reads the settings from a TOML document.
-/

namespace TaskAutomation

/-- Why there are no settings. -/
inductive ConfigFault where
  /-- The text is no document, or a value is not of the kind of its setting. -/
  | malformed
  /-- A setting, or two settings together, make no sense. -/
  | refused (why : String)
  deriving DecidableEq, Repr

def ConfigFault.message : ConfigFault → String
  | malformed => "invalid config"
  | refused why => "invalid config: " ++ why

namespace Config

/-- The settings in a document, before they are checked. -/
def ofDocument? (text : String) : Option Config := do
  let json ← Toml.parse? text
  (decode false json).toOption

/-- The settings in a document. -/
def read (text : String) : Except ConfigFault Config :=
  match ofDocument? text with
  | none => .error .malformed
  | some config =>
    match config.refusal? with
    | some why => .error (.refused why)
    | none => .ok config

end Config

end TaskAutomation
