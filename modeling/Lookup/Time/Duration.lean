import Lookup.Number.Decimal
import Lookup.Value.Reason

/-!
# Durations

A duration is a whole number of microseconds. It is written `P[nD][T[nH][nM][n[.f]S]]` with a sign
allowed in front of it and in front of each number, designators in either case, and a point or a
comma before the fraction of a second. A long s may stand for the designator of seconds.

## Main definitions

* `Duration` — durations of at most 999999999 whole days, counted downwards
* `readDuration` — the duration of a text
* `Duration.text` — days, hours, minutes and seconds
-/

namespace Lookup.Time

open Number

/-- The microseconds of a day. -/
def microsPerDay : Nat := 86400 * 1000000

/-- A duration in microseconds, between `dayLimit` days back and less than a day more than
`dayLimit` days ahead. -/
structure Duration where
  micros : Int
  above : -(dayLimit : Int) ≤ micros / microsPerDay
  below : micros / microsPerDay ≤ dayLimit
  deriving DecidableEq, Repr

/-- The whole days of a duration, rounded down. -/
def Duration.days (duration : Duration) : Int := duration.micros / microsPerDay

/-- The microseconds after the whole days. -/
def Duration.rest (duration : Duration) : Nat := (duration.micros % microsPerDay).toNat

/-- The duration of a number of microseconds, refused where its days are too many. -/
def Duration.of (micros : Int) : Except Reason Duration :=
  let days := micros / microsPerDay
  if days < -0x80000000 ∨ 0x80000000 ≤ days then .error .daysOverflow
  else if h : -(dayLimit : Int) ≤ micros / microsPerDay ∧ micros / microsPerDay ≤ dayLimit then
    .ok ⟨micros, h.1, h.2⟩
  else .error (.daysLimit days)

/-- The parts of a duration as they are written: the sign in front, and for each designator the
signed number before it. -/
structure DurationParts where
  negative : Bool
  days : Option (Bool × List Char)
  hours : Option (Bool × List Char)
  minutes : Option (Bool × List Char)
  seconds : Option (Bool × List Char)
  fraction : List Char

/-- A signed number and the text after it. -/
def takeNumber? (text : List Char) : Option ((Bool × List Char) × List Char) :=
  let (negative, rest) := takeSign text
  let digits := rest.takeWhile isDigit
  if digits = [] then none else some ((negative, digits), rest.dropWhile isDigit)

/-- A signed number before one of the given designators, if the text starts with one. -/
def takePart (designators : List Char) (text : List Char) :
    Option (Bool × List Char) × List Char :=
  match takeNumber? text with
  | some (number, c :: rest) =>
    if designators.contains c then (some number, rest) else (none, text)
  | _ => (none, text)

/-- Seconds with an optional fraction of at most nine digits, if the text starts with them. -/
def takeSeconds (text : List Char) : Option (Bool × List Char) × List Char × List Char :=
  let designators := ['S', 's', Char.ofNat 0x17F]
  match takeNumber? text with
  | some (number, c :: rest) =>
    if designators.contains c then (some number, [], rest)
    else if c = '.' ∨ c = ',' then
      let fraction := rest.takeWhile isDigit
      match rest.dropWhile isDigit with
      | d :: rest =>
        if fraction.length ≤ 9 ∧ designators.contains d then (some number, fraction, rest)
        else (none, [], text)
      | [] => (none, [], text)
    else (none, [], text)
  | _ => (none, [], text)

/-- The parts of a duration, at least one of them, none missing after a `T`. -/
def durationParts? (text : List Char) : Option DurationParts :=
  let (negative, rest) := takeSign text
  match rest with
  | p :: rest =>
    if p = 'P' ∨ p = 'p' then
      let (days, rest) := takePart ['D', 'd'] rest
      match rest with
      | [] => if days.isSome then some ⟨negative, days, none, none, none, []⟩ else none
      | t :: rest =>
        if t = 'T' ∨ t = 't' then
          let (hours, rest) := takePart ['H', 'h'] rest
          let (minutes, rest) := takePart ['M', 'm'] rest
          let (seconds, fraction, rest) := takeSeconds rest
          if rest = [] ∧ (hours.isSome ∨ minutes.isSome ∨ seconds.isSome) then
            some ⟨negative, days, hours, minutes, seconds, fraction⟩
          else none
        else none
    else none
  | [] => none

/-- The number of a part, zero where it is left out, refused where it has too many digits. -/
def partValue : Option (Bool × List Char) → Except Reason Int
  | none => .ok 0
  | some (negative, digits) =>
    if digitLimit < digits.length then .error (.tooManyDigits digits.length)
    else
      let n := digitsValue 0 digits
      .ok (if negative then -(n : Int) else n)

/-- The microseconds of the first six digits of a fraction. -/
def fractionMicros (fraction : List Char) : Nat :=
  digitsValue 0 ((fraction ++ List.replicate 6 '0').take 6)

/-- The duration of a text. The fraction has the sign that stands before the seconds, also before
zero. -/
def readDuration (text : String) : Except Reason Duration :=
  match durationParts? text.toList with
  | none => .error (.notIso .duration text)
  | some parts => do
    let seconds ← partValue parts.seconds
    let days ← partValue parts.days
    let hours ← partValue parts.hours
    let minutes ← partValue parts.minutes
    let micros := fractionMicros parts.fraction
    let backwards := match parts.seconds with
      | some (negative, _) => negative
      | none => false
    let total := ((days * 24 + hours) * 60 + minutes) * 60 + seconds
    let duration ← Duration.of (total * 1000000 + (if backwards then -(micros : Int) else micros))
    if parts.negative then Duration.of (-duration.micros) else return duration

/-- The text of a duration: whole days where there are any, then hours, minutes and seconds. -/
def Duration.text (duration : Duration) : String :=
  let days := duration.days
  let seconds := duration.rest / 1000000
  let front :=
    if days = 0 then ""
    else toString days ++ (if days.natAbs = 1 then " day, " else " days, ")
  front ++ toString (seconds / 3600) ++ ":" ++ Text.padded 2 (seconds / 60 % 60) ++ ":" ++
    Text.padded 2 (seconds % 60) ++ microText (duration.rest % 1000000)

end Lookup.Time
