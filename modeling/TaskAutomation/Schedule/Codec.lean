import TaskAutomation.Json.Decode
import TaskAutomation.Schedule.Basic

/-!
This file writes schedule templates as JSON records and reads them back. A field that is left out
lets every number pass.
-/

namespace TaskAutomation.ScheduleTemplate

open Json

/-- The record of a template. -/
def encode (template : ScheduleTemplate) : Json :=
  .record [
    ("day", .string template.day),
    ("hour", .string template.hour),
    ("month", .string template.month),
    ("timezone", ofOption .string template.timezone),
    ("weekDay", .string template.weekDay)]

/-- How the fields of a template are read. -/
def reader : RecordReader ScheduleTemplate :=
  ScheduleTemplate.mk <$> .defaulted "hour" toText "*" <*> .defaulted "day" toText "*" <*>
    .defaulted "month" toText "*" <*> .defaulted "weekDay" toText "*" <*>
    .defaulted "timezone" (toOption toText) none

/-- Reads a template. -/
def decode : Json → Decoded ScheduleTemplate := RecordReader.read "ScheduleTemplate" reader

end TaskAutomation.ScheduleTemplate
