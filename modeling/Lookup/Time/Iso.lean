import Lookup.Number.Decimal
import Lookup.Time.ZoneDatabase

/-!
# Dates, times and zones in ISO 8601

The texts `YYYY-MM-DD`, `HH:MM[:SS[.f]]` with one to six digits of fraction, the two joined by `T`,
and such a date-time with an offset, a bracketed zone, or both. Digits are ASCII digits, and nothing
may stand around the text.

Of two faults the form of the text is reported first, then an offset of a day or more, then the
fields from the year down, then the zone.

## Main definitions

* `readDate`, `readTime`, `readMoment` — local dates, times and date-times
* `readZone` — zones
* `readZoned` — date-times in a zone
-/

namespace Lookup.Time

open Number

/-- A number of exactly `count` digits at the start of a text. -/
def takeDigits? (count : Nat) (text : List Char) : Option (Nat × List Char) :=
  if (text.take count).length = count then
    (digitsValue? (text.take count)).map fun n => (n, text.drop count)
  else none

/-- The text after the character `c`. -/
def after? (c : Char) : List Char → Option (List Char)
  | d :: rest => if d = c then some rest else none
  | [] => none

/-- The fields of a date as they are written. -/
structure DateFields where
  year : Nat
  month : Nat
  day : Nat

/-- The fields of a time of day as they are written. -/
structure ClockFields where
  hour : Nat
  minute : Nat
  second : Nat
  micro : Nat
  micro_lt : micro < 1000000

/-- A date at the start of a text. -/
def dateFields? (text : List Char) : Option (DateFields × List Char) := do
  let (year, text) ← takeDigits? 4 text
  let (month, text) ← takeDigits? 2 (← after? '-' text)
  let (day, text) ← takeDigits? 2 (← after? '-' text)
  return (⟨year, month, day⟩, text)

/-- The microseconds of up to six digits of a fraction of a second. -/
def microsOf (fraction : List Char) : Nat :=
  digitsValue 0 ((fraction ++ List.replicate 6 '0').take 6) % 1000000

theorem microsOf_lt (fraction : List Char) : microsOf fraction < 1000000 :=
  Nat.mod_lt _ (by decide)

/-- A time of day at the start of a text. -/
def clockFields? (text : List Char) : Option (ClockFields × List Char) := do
  let (hour, text) ← takeDigits? 2 text
  let (minute, text) ← takeDigits? 2 (← after? ':' text)
  match (after? ':' text).bind (takeDigits? 2) with
  | none => return (⟨hour, minute, 0, 0, by decide⟩, text)
  | some (second, text) =>
    let digits := ((after? '.' text).getD []).takeWhile isDigit
    if 1 ≤ digits.length ∧ digits.length ≤ 6 then
      return (⟨hour, minute, second, microsOf digits, microsOf_lt digits⟩,
        text.drop (digits.length + 1))
    else return (⟨hour, minute, second, 0, by decide⟩, text)

/-- A date and a time joined by `T` at the start of a text. -/
def momentFields? (text : List Char) : Option ((DateFields × ClockFields) × List Char) := do
  let (date, text) ← dateFields? text
  let (clock, text) ← clockFields? (← after? 'T' text)
  return ((date, clock), text)

/-- The date that fields stand for. -/
def DateFields.check (fields : DateFields) : Except Reason Date :=
  (Date.of fields.year fields.month fields.day).mapError fun place => .field place fields.year

/-- The time of day that fields stand for. -/
def ClockFields.check (fields : ClockFields) : Except Reason Clock :=
  (Clock.of fields.hour fields.minute fields.second fields.micro fields.micro_lt).mapError
    fun place => .field place 0

/-- The moment that fields stand for. -/
def checkMoment (fields : DateFields × ClockFields) : Except Reason Moment := do
  let date ← fields.1.check
  let clock ← fields.2.check
  return ⟨date, clock⟩

/-- A local date. -/
def readDate (text : String) : Except Reason Date :=
  match dateFields? text.toList with
  | some (fields, []) => fields.check
  | _ => .error (.notIso .localDate text)

/-- A local time of day. -/
def readTime (text : String) : Except Reason Clock :=
  match clockFields? text.toList with
  | some (fields, []) => fields.check
  | _ => .error (.notIso .localTime text)

/-- A local date-time. -/
def readMoment (text : String) : Except Reason Moment :=
  match momentFields? text.toList with
  | some (fields, []) => checkMoment fields
  | _ => .error (.notIso .localDateTime text)

/-! ### Zones -/

/-- The offset of a number of seconds, refused where it is a day or more. -/
def checkOffset (seconds : Int) : Except Reason Offset :=
  match Offset.of? seconds with
  | some offset => .ok offset
  | none => .error (.offset seconds)

/-- A number of seconds with the sign that `c` stands for, if it is one. -/
def signed? (c : Char) (seconds : Nat) : Option Int :=
  if c = '+' then some seconds else if c = '-' then some (-(seconds : Int)) else none

/-- The seconds of an offset written `+hh`, `+hhmm` or `+hh:mm`, of either sign. -/
def offsetSeconds? : List Char → Option Int
  | [] => none
  | sign :: text => do
    let (hours, text) ← takeDigits? 2 text
    if text = [] then signed? sign (hours * 3600)
    else
      match takeDigits? 2 ((after? ':' text).getD text) with
      | some (minutes, []) => signed? sign (hours * 3600 + minutes * 60)
      | _ => none

/-- The seconds of the offset after a date-time: `Z`, or `+hh:mm[:ss]` of either sign. -/
def offsetAfter? : List Char → Option Int
  | [] => none
  | ['Z'] => some 0
  | sign :: text => do
    let (hours, text) ← takeDigits? 2 text
    let (minutes, text) ← takeDigits? 2 (← after? ':' text)
    if text = [] then signed? sign (hours * 3600 + minutes * 60)
    else
      match takeDigits? 2 (← after? ':' text) with
      | some (seconds, []) => signed? sign (hours * 3600 + minutes * 60 + seconds)
      | _ => none

/-- Whether the components of a zone's name leave no room for a shorter spelling: none is empty or a
dot, and none steps back after a name. -/
def isNormal : List (List Char) → Bool
  | [] => true
  | component :: rest =>
    if component = ['.', '.'] then isNormal rest
    else (component :: rest).all fun c => !(c = [] || c = ['.'] || c = ['.', '.'])

/-- Why the zone database cannot be asked for a name, if it cannot. -/
def zoneNameFault? (text : String) : Option Reason :=
  let components := Text.fields '/' text.toList
  if text.toList.head? = some '/' then some (.absoluteZone text)
  else if text = "." then some (.outsideZone text)
  else if !isNormal components then some (.unnormalZone text)
  else if components.head? = some ['.', '.'] then some (.outsideZone text)
  else none

/-- The region of a name in a zone database. -/
def lookUpZone (zones : ZoneDatabase) (text : String) : Except ZoneError Zone :=
  match zoneNameFault? text with
  | some reason => .error (.refused reason)
  | none =>
    match zones.find text with
    | .error fault => .error fault
    | .ok none => .error (.refused (.unknownZone text))
    | .ok (some rules) => .ok (.region text rules)

/-- A zone: UTC by one of its three short names, a fixed offset, or a region. -/
def readZone (zones : ZoneDatabase) (text : String) : Except ZoneError Zone :=
  if text = "Z" ∨ text = "UTC" ∨ text = "GMT" then .ok .utc
  else
    match offsetSeconds? text.toList with
    | some seconds => ((checkOffset seconds).map Zone.fixed).mapError .refused
    | none => lookUpZone zones text

/-! ### Date-times in a zone -/

/-- The two parts of a date-time with an optional bracketed zone: what stands before the bracket,
and the zone. -/
def bracketed? (text : List Char) : Option (List Char × Option (List Char)) :=
  match Text.cut '[' text with
  | none => if text = [] then none else some (text, none)
  | some (base, rest) =>
    match Text.cut ']' rest with
    | some (zone, []) => if base = [] ∨ zone = [] then none else some (base, some zone)
    | _ => none

/-- A date-time whose offset, if it has one, still stands as seconds. -/
def baseFields? (text : List Char) : Option ((DateFields × ClockFields) × Option Int) :=
  match momentFields? text with
  | none => none
  | some (fields, []) => some (fields, none)
  | some (fields, rest) => (offsetAfter? rest).map fun seconds => (fields, some seconds)

/-- A date-time with an offset or a zone. A zone given besides an offset shifts the local time, and
keeps the instant. -/
def readZoned (zones : ZoneDatabase) (text : String) : Except ZoneError Zoned := do
  match bracketed? text.toList with
  | none => throw (.refused (.notZoned text))
  | some (base, zone?) =>
    match baseFields? base with
    | none => throw (.refused (.notIso .dateTime (String.ofList base)))
    | some (fields, seconds?) =>
      let offset? ← (seconds?.mapM checkOffset).mapError .refused
      let moment ← (checkMoment fields).mapError .refused
      match zone?, offset? with
      | none, none => throw (.refused (.missingZone text))
      | none, some offset => return Zoned.ofLocal moment (.fixed offset)
      | some zone, none => return Zoned.ofLocal moment (← readZone zones (String.ofList zone))
      | some zone, some offset =>
        match (Zoned.ofLocal moment (.fixed offset)).toZone? (← readZone zones (String.ofList zone)) with
        | some zoned => return zoned
        | none => throw (.refused .outsideCalendar)

end Lookup.Time
