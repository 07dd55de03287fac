import Lookup.Text.Quoted
import Lookup.Time.Calendar

/-!
# Why a text is no value of a type

## Main definitions

* `Reason` — the causes for which a conversion is refused
* `Reason.message` — their wording
-/

namespace Lookup

open Time Text

/-- The forms of ISO 8601 that a text may be asked to have. -/
inductive IsoForm where
  | localDate
  | localTime
  | localDateTime
  | dateTime
  | duration
  deriving DecidableEq, Repr

/-- The name of a form in messages. -/
def IsoForm.wording : IsoForm → String
  | .localDate => "local date"
  | .localTime => "local time"
  | .localDateTime => "local date-time"
  | .dateTime => "date-time"
  | .duration => "duration"

/-- Why a text is refused as a value. -/
inductive Reason where
  /-- The text is no whole number. -/
  | notInteger (text : String)
  /-- The number does not fit into the bits of its type. -/
  | outOfRange (bits : Nat) (text : String)
  /-- The number has more digits than are read. -/
  | tooManyDigits (count : Nat)
  /-- The text is no decimal number. -/
  | notNumber (text : String)
  /-- The text does not have a form of ISO 8601. -/
  | notIso (form : IsoForm) (text : String)
  /-- The text is no date-time with an offset or a zone. -/
  | notZoned (text : String)
  /-- The date-time has neither an offset nor a zone. -/
  | missingZone (text : String)
  /-- A field of a date or a time is out of its range. -/
  | field (field : Field) (value : Nat)
  /-- An offset, in seconds, is a day or more. -/
  | offset (seconds : Int)
  /-- The time in UTC or in the zone falls outside the calendar. -/
  | outsideCalendar
  /-- The days of a duration do not fit into a machine word. -/
  | daysOverflow
  /-- The days of a duration exceed the greatest duration. -/
  | daysLimit (days : Int)
  /-- No zone has the name. -/
  | unknownZone (text : String)
  /-- A zone's name starts at the root. -/
  | absoluteZone (text : String)
  /-- A zone's name has empty or dot components. -/
  | unnormalZone (text : String)
  /-- A zone's name leads out of the zone database. -/
  | outsideZone (text : String)
  /-- A zone's name holds a NUL character. -/
  | nulInZone
  /-- A reason that a converter words itself. -/
  | other (text : String)
  deriving DecidableEq, Repr

/-- The most digits that a whole number is read with. -/
def digitLimit : Nat := 4300

/-- The most days in a duration, forwards or backwards. -/
def dayLimit : Nat := 999999999

/-- The wording of a field out of range. -/
def fieldMessage : Field → Nat → String
  | .year, value => s!"year {value} is out of range"
  | .month, _ => "month must be in 1..12"
  | .day, _ => "day is out of range for month"
  | .hour, _ => "hour must be in 0..23"
  | .minute, _ => "minute must be in 0..59"
  | .second, _ => "second must be in 0..59"

/-- The text of a number of seconds as whole days, which may be negative, and the seconds of a day
after them; parts that are zero are left out. -/
def spanText (seconds : Int) : String :=
  let days := seconds / 86400
  let rest := seconds % 86400
  let parts :=
    (if days = 0 then [] else ["days=" ++ toString days]) ++
      (if rest = 0 then [] else ["seconds=" ++ toString rest])
  "datetime.timedelta(" ++ (if parts.isEmpty then "0" else String.intercalate ", " parts) ++ ")"

/-- The wording of a reason. -/
def Reason.message : Reason → String
  | .notInteger text => "not an integer: " ++ quote text
  | .outOfRange bits text => s!"value out of range for int{bits}: " ++ text
  | .tooManyDigits count =>
    s!"Exceeds the limit ({digitLimit} digits) for integer string conversion: value has {count} " ++
      "digits; use sys.set_int_max_str_digits() to increase the limit"
  | .notNumber text => "not a number: " ++ quote text
  | .notIso form text => "not an ISO-8601 " ++ form.wording ++ ": " ++ quote text
  | .notZoned text => "not a zoned date-time: " ++ quote text
  | .missingZone text => "zoned date-time needs an offset or zone: " ++ quote text
  | .field place value => fieldMessage place value
  | .offset seconds =>
    "offset must be a timedelta strictly between -timedelta(hours=24) and timedelta(hours=24), not " ++
      spanText seconds ++ "."
  | .outsideCalendar => "date value out of range"
  | .daysOverflow => "Python int too large to convert to C int"
  | .daysLimit days => s!"days={days}; must have magnitude <= {dayLimit}"
  | .unknownZone text => "unknown time-zone id: " ++ quote text
  | .absoluteZone text => "ZoneInfo keys may not be absolute paths, got: " ++ text
  | .unnormalZone text => "ZoneInfo keys must be normalized relative paths, got: " ++ text
  | .outsideZone text => "ZoneInfo keys must refer to subdirectories of TZPATH, got: " ++ text
  | .nulInZone => "embedded null byte"
  | .other text => text

end Lookup
