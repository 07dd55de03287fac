import Lookup.Number.Binary

/-!
# The decimal text of floating-point numbers

A double precision number is written with the fewest digits that read back as the same number, and
of those with the digits nearest to it. Where a table asks for few digits instead, the number is
rounded to that many. In both cases a style decides between positional notation and an exponent.

## Main definitions

* `Digits` — decimal digits and where the point stands
* `shortest` — the fewest digits that read back
* `significant` — the digits of a number rounded to a fixed count
* `Style`, `exactStyle`, `shortStyle` — where an exponent is written, and a closing `.0`
* `Binary.text`, `Binary.shortText` — the two texts of a number
-/

namespace Lookup.Number

/-- Decimal digits of a positive number: the number is `coefficient · 10 ^ exponent`. -/
structure Digits where
  /-- The digits read as a whole number. -/
  coefficient : Nat
  /-- The power of ten that the last digit counts. -/
  exponent : Int
  deriving DecidableEq, Repr

/-- The exponent of the highest decimal digit of `num / den`, both positive. -/
def decimalOrder (num den : Nat) : Int :=
  let guess : Int := ((Nat.toDigits 10 num).length : Int) - (Nat.toDigits 10 den).length
  let (n, d) := unscale 10 guess num den
  if d ≤ n then guess else guess - 1

/-- The coefficient without zeros at its end; `fuel` bounds their number. -/
def Digits.trim (fuel : Nat) (digits : Digits) : Digits :=
  match fuel with
  | 0 => digits
  | fuel + 1 =>
    if digits.coefficient ≠ 0 ∧ digits.coefficient % 10 = 0 then
      Digits.trim fuel ⟨digits.coefficient / 10, digits.exponent + 1⟩
    else digits

/-- The number of double precision that decimal digits read back as. -/
def Digits.value (digits : Digits) : Binary :=
  let (n, d) := unscale 10 (-digits.exponent) digits.coefficient 1
  binary64.round false n d

/-- The digits of `num / den` rounded to `count` digits, a tie going to the even digit. -/
def significant (count num den : Nat) : Digits :=
  let exponent := decimalOrder num den - (count - 1)
  let (n, d) := unscale 10 exponent num den
  ⟨nearest n d, exponent⟩

/-- The digits on the grid of `count` digits that read back as `value = num / den`: of the two
neighbours of the value the one that does, and the nearer where both do. -/
def onGrid? (value : Binary) (num den count : Nat) : Option Digits :=
  let exponent := decimalOrder num den - (count - 1)
  let (n, d) := unscale 10 exponent num den
  -- If any point of the grid reads back, one of these two does.
  let below : Digits := ⟨n / d, exponent⟩
  let above : Digits := ⟨n / d + 1, exponent⟩
  match decide (below.value = value), decide (above.value = value) with
  | true, true => some ⟨nearest n d, exponent⟩
  | true, false => some below
  | false, true => some above
  | false, false => none

/-- The fewest digits that read back as the positive number `significand · 2 ^ exponent`. Seventeen
always do. -/
def shortest (significand : Nat) (exponent : Int) : Digits :=
  let value := Binary.finite false significand exponent
  let (num, den) := unscale 2 (-exponent) significand 1
  let counts := (List.range 17).map (· + 1)
  let digits := (counts.findSome? (onGrid? value num den)).getD (significant 17 num den)
  digits.trim 18

/-- How digits are laid out. -/
structure Style where
  /-- The least place of the highest digit that is written without an exponent. -/
  lowest : Int
  /-- The greatest place of the highest digit that is written without an exponent. -/
  highest : Int
  /-- Whether a whole number written without an exponent ends in `.0`. -/
  pointZero : Bool

/-- The layout of a number in full: an exponent from `1e+16` on and below `1e-4`, and a closing
`.0`. -/
def exactStyle : Style := ⟨-4, 15, true⟩

/-- The layout of a number of six digits: an exponent from `1e+06` on and below `1e-4`. -/
def shortStyle : Style := ⟨-4, 5, false⟩

/-- The text of an exponent: a sign and at least two digits. -/
def exponentText (e : Int) : List Char :=
  let digits := Nat.toDigits 10 e.natAbs
  'e' :: (if e < 0 then '-' else '+') :: (if digits.length < 2 then '0' :: digits else digits)

/-- The text of digits in a style. -/
def Style.write (style : Style) (digits : Digits) : List Char :=
  let text := Nat.toDigits 10 digits.coefficient
  let order : Int := text.length + digits.exponent - 1
  if style.lowest ≤ order ∧ order ≤ style.highest then
    if 0 ≤ digits.exponent then
      text ++ List.replicate digits.exponent.toNat '0' ++ (if style.pointZero then ['.', '0'] else [])
    else if 0 ≤ order then
      let whole := (order + 1).toNat
      text.take whole ++ '.' :: text.drop whole
    else '0' :: '.' :: List.replicate (-order - 1).toNat '0' ++ text
  else
    match text with
    | [] => []
    | [d] => d :: exponentText order
    | d :: more => d :: '.' :: more ++ exponentText order

/-- The text of a number, given how the digits of a finite one are chosen and laid out. -/
def Binary.write (style : Style) (choose : Nat → Int → Digits) : Binary → String
  | .nan => "nan"
  | .infinite negative => if negative then "-inf" else "inf"
  | .finite negative significand exponent =>
    let digits := if significand = 0 then ⟨0, 0⟩ else choose significand exponent
    String.ofList ((if negative then ['-'] else []) ++ style.write digits)

/-- The text of a double precision number that reads back as the same number. -/
def Binary.text : Binary → String := Binary.write exactStyle shortest

/-- The text of a double precision number rounded to six digits, zeros at the end left out. -/
def Binary.shortText : Binary → String :=
  Binary.write shortStyle fun significand exponent =>
    let (num, den) := unscale 2 (-exponent) significand 1
    (significant 6 num den).trim 6

end Lookup.Number
