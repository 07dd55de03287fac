import Lookup.Number.Binary

/-!
# Decimal numerals and their nearest floating-point numbers

A decimal numeral is read exactly, as a coefficient and a power of ten, and is rounded once. A
numeral beyond the range of double precision by many orders is decided by its order alone, so that a
huge exponent costs nothing.

## Main definitions

* `digitsValue?` — the value of a text of decimal digits
* `Numeral` — a decimal numeral, an infinity or not-a-number
* `Numeral.round` — the double precision number nearest to a numeral
* `Numeral.parse?` — numerals with an optional sign, exponent and type suffix
-/

namespace Lookup.Number

/-- Whether a character is one of the ten ASCII digits. -/
def isDigit (c : Char) : Bool := '0' ≤ c && c ≤ '9'

/-- The value of a text of digits, read from the left onto `value`. -/
def digitsValue (value : Nat) : List Char → Nat
  | [] => value
  | c :: rest => digitsValue (value * 10 + (c.toNat - 48)) rest

/-- The value of a text of one or more digits. -/
def digitsValue? (text : List Char) : Option Nat :=
  if text ≠ [] ∧ text.all isDigit then some (digitsValue 0 text) else none

/-- A number as it is written in decimal digits. -/
inductive Numeral where
  /-- No number. -/
  | nan
  /-- An infinity. -/
  | infinite (negative : Bool)
  /-- The number `± coefficient · 10 ^ exponent`. -/
  | decimal (negative : Bool) (coefficient : Nat) (exponent : Int)
  deriving DecidableEq, Repr

/-- An order of magnitude beyond which every numeral rounds to an infinity, and below the negative
of which every numeral rounds to zero. -/
def orderLimit : Nat := 400

/-- The double precision number nearest to a numeral. -/
def Numeral.round : Numeral → Binary
  | .nan => .nan
  | .infinite negative => .infinite negative
  | .decimal negative coefficient exponent =>
    let order : Int := (Nat.toDigits 10 coefficient).length + exponent
    if coefficient = 0 ∨ order < -orderLimit then .finite negative 0 binary64.lowest
    else if orderLimit < order then .infinite negative
    else
      let (num, den) := unscale 10 (-exponent) coefficient 1
      binary64.round negative num den

/-- An optional sign, and whether it is a minus. -/
def takeSign : List Char → Bool × List Char
  | '-' :: rest => (true, rest)
  | '+' :: rest => (false, rest)
  | text => (false, text)

/-- The exponent part of a numeral, which is empty or an `e` and a signed number. -/
def exponentPart? : List Char → Option Int
  | [] => some 0
  | c :: rest =>
    if c = 'e' ∨ c = 'E' then
      let (negative, digits) := takeSign rest
      (digitsValue? digits).map fun n => if negative then -(n : Int) else n
    else none

/-- A numeral without sign: digits with at most one point among, before or after them, then an
optional exponent. -/
def decimal? (negative : Bool) (text : List Char) : Option Numeral :=
  let whole := text.takeWhile isDigit
  let rest := text.dropWhile isDigit
  let (fraction, rest) :=
    match rest with
    | '.' :: after => (after.takeWhile isDigit, after.dropWhile isDigit)
    | _ => ([], rest)
  match digitsValue? (whole ++ fraction), exponentPart? rest with
  | some coefficient, some exponent =>
    some (.decimal negative coefficient (exponent - fraction.length))
  | _, _ => none

/-- The text without one type suffix: `f`, `F`, `d` or `D`. -/
def dropTypeSuffix (text : List Char) : List Char :=
  match text.getLast? with
  | some c => if c = 'f' ∨ c = 'F' ∨ c = 'd' ∨ c = 'D' then text.dropLast else text
  | none => text

/-- A numeral with an optional sign and an optional type suffix. -/
def Numeral.parse? (text : List Char) : Option Numeral :=
  let (negative, rest) := takeSign text
  let body := dropTypeSuffix rest
  if body = "NaN".toList then some .nan
  else if body = "Infinity".toList then some (.infinite negative)
  else decimal? negative body

end Lookup.Number
