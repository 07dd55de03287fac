import Lookup.Text.Basic

/-!
# The calendar and the time of day

Dates are those of the Gregorian calendar extended to the years 1 to 9999, and carry the proof that
they are real. A time of day counts to the microsecond.

## Main definitions

* `Date`, `Date.of` — dates, and which field of an unreal one is at fault
* `Date.ordinal`, `Date.ofOrdinal?` — days counted from the first day of year 1
* `Clock`, `Clock.of` — times of day
* `Moment` — a date and a time of day, with `Moment.shift?` moving it by seconds
-/

namespace Lookup.Time

/-- Which field of a date or a time is out of its range. -/
inductive Field where
  | year
  | month
  | day
  | hour
  | minute
  | second
  deriving DecidableEq, Repr

/-- Whether a year has a leap day. -/
def isLeap (year : Nat) : Bool := year % 4 == 0 && (year % 100 != 0 || year % 400 == 0)

/-- The number of days in a month; none in a month that does not exist. -/
def daysInMonth (year month : Nat) : Nat :=
  match month with
  | 2 => if isLeap year then 29 else 28
  | 4 | 6 | 9 | 11 => 30
  | 1 | 3 | 5 | 7 | 8 | 10 | 12 => 31
  | _ => 0

/-! ### Dates -/

/-- A date of the years 1 to 9999. -/
structure Date where
  year : Nat
  month : Nat
  day : Nat
  year_pos : 1 ≤ year
  year_le : year ≤ 9999
  month_pos : 1 ≤ month
  month_le : month ≤ 12
  day_pos : 1 ≤ day
  day_le : day ≤ daysInMonth year month
  deriving DecidableEq, Repr

/-- The date with the given fields, or the first field that is out of range. -/
def Date.of (year month day : Nat) : Except Field Date :=
  if hy : 1 ≤ year ∧ year ≤ 9999 then
    if hm : 1 ≤ month ∧ month ≤ 12 then
      if hd : 1 ≤ day ∧ day ≤ daysInMonth year month then
        .ok ⟨year, month, day, hy.1, hy.2, hm.1, hm.2, hd.1, hd.2⟩
      else .error .day
    else .error .month
  else .error .year

/-- The number of days before a year, counted from year 1. -/
def daysBeforeYear (year : Nat) : Nat :=
  let past := year - 1
  past * 365 + past / 4 - past / 100 + past / 400

/-- The number of days of a year before a month. -/
def daysBeforeMonth (year month : Nat) : Nat :=
  ((List.range (month - 1)).map fun m => daysInMonth year (m + 1)).foldl (· + ·) 0

/-- The number of a date's day, the first day of year 1 being day 1. -/
def Date.ordinal (date : Date) : Nat :=
  daysBeforeYear date.year + daysBeforeMonth date.year date.month + date.day

/-- The month and the day of a year's day, counted from 0, found among the months from `month` on. -/
def monthOfDay (year day : Nat) : List Nat → Nat × Nat
  | [] => (12, day + 1)
  | month :: later =>
    let length := daysInMonth year month
    if day < length then (month, day + 1) else monthOfDay year (day - length) later

/-- The year of a day counted from 0, and the day within the year counted from 0. -/
def yearOfDay (day : Nat) : Nat × Nat :=
  let cycles := day / 146097
  let inCycle := day % 146097
  let centuries := min 3 (inCycle / 36524)
  let inCentury := inCycle - centuries * 36524
  let quads := inCentury / 1461
  let inQuad := inCentury % 1461
  let years := min 3 (inQuad / 365)
  (cycles * 400 + centuries * 100 + quads * 4 + years + 1, inQuad - years * 365)

/-- The date of a day, the first day of year 1 being day 1; none beyond year 9999. -/
def Date.ofOrdinal? (ordinal : Nat) : Option Date :=
  if ordinal = 0 then none
  else
    let (year, day) := yearOfDay (ordinal - 1)
    let (month, day) := monthOfDay year day [1, 2, 3, 4, 5, 6, 7, 8, 9, 10, 11, 12]
    (Date.of year month day).toOption

/-- The weekday of a day's number, Monday being 0. -/
def weekday (ordinal : Nat) : Nat := (ordinal + 6) % 7

/-- The text `YYYY-MM-DD`. -/
def Date.text (date : Date) : String :=
  Text.padded 4 date.year ++ "-" ++ Text.padded 2 date.month ++ "-" ++ Text.padded 2 date.day

/-! ### Times of day -/

/-- A time of day. -/
structure Clock where
  hour : Nat
  minute : Nat
  second : Nat
  micro : Nat
  hour_lt : hour < 24
  minute_lt : minute < 60
  second_lt : second < 60
  micro_lt : micro < 1000000
  deriving DecidableEq, Repr

/-- The time of day with the given fields, or the first field that is out of range. -/
def Clock.of (hour minute second micro : Nat) (hmicro : micro < 1000000) : Except Field Clock :=
  if hh : hour < 24 then
    if hm : minute < 60 then
      if hs : second < 60 then .ok ⟨hour, minute, second, micro, hh, hm, hs, hmicro⟩
      else .error .second
    else .error .minute
  else .error .hour

/-- The whole seconds since midnight. -/
def Clock.seconds (clock : Clock) : Nat := clock.hour * 3600 + clock.minute * 60 + clock.second

/-- The time of day with the given seconds since midnight and the microseconds of another. -/
def Clock.withSeconds (clock : Clock) (seconds : Nat) : Clock :=
  ⟨seconds / 3600 % 24, seconds / 60 % 60, seconds % 60, clock.micro,
    Nat.mod_lt _ (by decide), Nat.mod_lt _ (by decide), Nat.mod_lt _ (by decide), clock.micro_lt⟩

/-- The text of microseconds: a point and six digits, or nothing where there are none. -/
def microText (micro : Nat) : String := if micro = 0 then "" else "." ++ Text.padded 6 micro

/-- The text `HH:MM:SS`, with six more digits where there are microseconds. -/
def Clock.text (clock : Clock) : String :=
  Text.padded 2 clock.hour ++ ":" ++ Text.padded 2 clock.minute ++ ":" ++
    Text.padded 2 clock.second ++ microText clock.micro

/-! ### Moments -/

/-- A date and a time of day, without saying where. -/
structure Moment where
  date : Date
  clock : Clock
  deriving DecidableEq, Repr

/-- The whole seconds since the beginning of the day before year 1. -/
def Moment.seconds (moment : Moment) : Nat :=
  moment.date.ordinal * 86400 + moment.clock.seconds

/-- The moment a number of seconds later; none outside the years 1 to 9999. -/
def Moment.shift? (moment : Moment) (by_ : Int) : Option Moment :=
  let total := (moment.seconds : Int) + by_
  if total < 0 then none
  else
    (Date.ofOrdinal? (total.toNat / 86400)).map fun date =>
      ⟨date, moment.clock.withSeconds (total.toNat % 86400)⟩

/-- The text of a moment, with a separator between the date and the time. -/
def Moment.text (separator : String) (moment : Moment) : String :=
  moment.date.text ++ separator ++ moment.clock.text

end Lookup.Time
