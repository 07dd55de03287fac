import Lookup.Number.Decimal
import Lookup.Time.Zone

/-!
# Timestamps

A timestamp is a date, or a date and a time with an optional offset. Fields may be written with fewer
digits than in ISO 8601, and blanks may separate the parts.

## Main definitions

* `Stamp`, `Stamp.read?` — the fields of a timestamp
* `Stamp.offset` — its offset in seconds
-/

namespace Lookup.Yaml

open Number

/-- The time of a timestamp. -/
structure StampTime where
  hour : Nat
  minute : Nat
  second : Nat
  /-- The digits after the point. -/
  fraction : List Char
  /-- The offset in seconds, where there is one. -/
  offset? : Option Int
  deriving DecidableEq, Repr

/-- The fields of a timestamp. -/
structure Stamp where
  year : Nat
  month : Nat
  day : Nat
  /-- Whether the month and the day have two digits each. -/
  full : Bool
  time? : Option StampTime
  deriving DecidableEq, Repr

/-- Reads between `least` and `most` digits. -/
def digits? (least most : Nat) (text : List Char) : Option (List Char × List Char) :=
  let digits := (text.take most).takeWhile isDigit
  if digits.length < least then none else some (digits, text.drop digits.length)

/-- Reads one character. -/
def expect? (c : Char) : List Char → Option (List Char)
  | [] => none
  | d :: rest => if d = c then some rest else none

/-- Whether a character is a space or a tab. -/
def isBlankMark (c : Char) : Bool := c = ' ' || c = '\t'

/-- The offset at the end of a time. -/
def stampOffset? (text : List Char) : Option (Option Int) :=
  match text, text.dropWhile isBlankMark with
  | [], _ => some none
  | _, ['Z'] => some (some 0)
  | _, sign :: rest =>
    if sign = '+' ∨ sign = '-' then do
      let (hours, rest) ← digits? 1 2 rest
      let minutes ←
        match rest with
        | [] => some []
        | c :: rest =>
          if c ≠ ':' then none
          else
            match digits? 2 2 rest with
            | some (minutes, []) => some minutes
            | _ => none
      let seconds : Int := digitsValue 0 hours * 3600 + digitsValue 0 minutes * 60
      some (some (if sign = '-' then -seconds else seconds))
    else none
  | _, [] => none

/-- The time of a timestamp, from its hour on. -/
def stampTime? (text : List Char) : Option StampTime := do
  let (hour, rest) ← digits? 1 2 text
  let (minute, rest) ← (expect? ':' rest).bind (digits? 2 2)
  let (second, rest) ← (expect? ':' rest).bind (digits? 2 2)
  let (fraction, rest) :=
    match rest with
    | '.' :: after => (after.takeWhile isDigit, after.dropWhile isDigit)
    | _ => ([], rest)
  let offset? ← stampOffset? rest
  some ⟨digitsValue 0 hour, digitsValue 0 minute, digitsValue 0 second, fraction, offset?⟩

/-- The fields of a timestamp. -/
def Stamp.read? (text : List Char) : Option Stamp := do
  let (year, rest) ← digits? 4 4 text
  let (month, rest) ← (expect? '-' rest).bind (digits? 1 2)
  let (day, rest) ← (expect? '-' rest).bind (digits? 1 2)
  let full := month.length = 2 ∧ day.length = 2
  let date (time? : Option StampTime) : Stamp :=
    ⟨digitsValue 0 year, digitsValue 0 month, digitsValue 0 day, full, time?⟩
  match rest with
  | [] => some (date none)
  | c :: after =>
    if c = 'T' ∨ c = 't' then (stampTime? after).map fun time => date (some time)
    else if isBlankMark c then
      (stampTime? (after.dropWhile isBlankMark)).map fun time => date (some time)
    else none

/-- The microseconds of a time, digits beyond the sixth dropped. -/
def StampTime.micro (time : StampTime) : Nat :=
  digitsValue 0 ((time.fraction ++ List.replicate 6 '0').take 6) % 1000000

/-- The moment of a timestamp's date and time, if its fields are in their ranges. -/
def Stamp.moment? (stamp : Stamp) (time : StampTime) : Option Time.Moment := do
  let date ← (Time.Date.of stamp.year stamp.month stamp.day).toOption
  let clock ←
    (Time.Clock.of time.hour time.minute time.second time.micro
      (Nat.mod_lt _ (by decide))).toOption
  some ⟨date, clock⟩

end Lookup.Yaml
