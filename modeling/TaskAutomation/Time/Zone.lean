import TaskAutomation.Time.Instant
import TaskAutomation.Time.ZoneTable

/-!
This file turns points of time into local time. A zone is known by its name and gives every point
of time an offset; the local time is what a clock on the wall shows. Which zones there are is not
settled here: all that looks up a name is given the zones that are known.
-/

namespace TaskAutomation

/-- A time zone. -/
structure Zone where
  name : String
  history : OffsetHistory
  deriving DecidableEq, Repr

/-- The zones that are known by a name. -/
abbrev KnownZones := String → Option Zone

/-- What a clock on the wall shows, as far as schedules see it. -/
structure LocalHour where
  /-- The day number of the local date. -/
  days : Int
  hour : Nat
  deriving DecidableEq, Repr

namespace Zone

/-- Universal time. -/
def utc : Zone := ⟨"UTC", .constant 0⟩

/-- The zones of the table. -/
def ofName? : KnownZones := fun name =>
  (zoneTable.find? fun entry => entry.1 == name).map fun entry => ⟨entry.1, entry.2⟩

/-- The seconds from 1970-01-01T00:00:00 on the local clock to what it shows. -/
def localSeconds (zone : Zone) (instant : Instant) : Int :=
  instant.seconds + zone.history.offsetAt instant.seconds

/-- The local date can be represented. At the ends of time the offset leads beyond the calendar. -/
def hasDateAt (zone : Zone) (instant : Instant) : Bool :=
  Instant.inRange (zone.localSeconds instant)

/-- The local date and hour. -/
def localHour (zone : Zone) (instant : Instant) : LocalHour :=
  let seconds := zone.localSeconds instant
  ⟨seconds / Instant.secondsPerDay, (seconds % Instant.secondsPerDay / 3600).toNat⟩

end Zone

namespace LocalHour

/-- The local date. -/
def date (hour : LocalHour) : Date := Date.ofDays hour.days

/-- The local day of the week, 0 for Sunday. -/
def weekday (hour : LocalHour) : Nat := Date.weekday hour.days

end LocalHour

end TaskAutomation
