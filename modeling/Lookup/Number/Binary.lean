/-!
# Binary floating-point numbers

A number of a binary floating-point format is written exactly, as a sign, a whole significand and a
power of two. A rational number is rounded to the nearest number of a format, a tie going to the even
significand, and to an infinity where the rounded significand needs too high a power.

## Main definitions

* `Binary` — not-a-number, the infinities and the finite numbers
* `Format`, `binary32`, `binary64` — the formats
* `Format.round` — rounding of a rational number
* `Binary.bits64`, `Binary.ofBits64` — the interchange form of sixty-four bits
-/

namespace Lookup.Number

/-- A binary floating-point number. -/
inductive Binary where
  /-- No number. -/
  | nan
  /-- An infinity. -/
  | infinite (negative : Bool)
  /-- The number `± significand · 2 ^ exponent`. -/
  | finite (negative : Bool) (significand : Nat) (exponent : Int)
  deriving DecidableEq, Repr

/-- A binary floating-point format: the bits of a significand and the range of exponents. -/
structure Format where
  /-- The number of bits in a significand. -/
  digits : Nat
  /-- The least exponent. -/
  lowest : Int
  /-- The greatest exponent. -/
  highest : Int

/-- Double precision. -/
def binary64 : Format := ⟨53, -1074, 971⟩

/-- Single precision. -/
def binary32 : Format := ⟨24, -149, 104⟩

/-- The whole number nearest to `num / den`, a tie going to the even one. -/
def nearest (num den : Nat) : Nat :=
  let quotient := num / den
  let twice := 2 * (num % den)
  if twice < den then quotient
  else if den < twice then quotient + 1
  else if quotient % 2 = 0 then quotient
  else quotient + 1

/-- The fraction `num / den` divided by `base ^ e`. -/
def unscale (base : Nat) (e : Int) (num den : Nat) : Nat × Nat :=
  if 0 ≤ e then (num, den * Nat.pow base e.toNat) else (num * Nat.pow base (-e).toNat, den)

/-- The exponent of the highest binary digit of `num / den`, both positive. -/
def binaryOrder (num den : Nat) : Int :=
  let guess : Int := (num.log2 : Int) - den.log2
  let (n, d) := unscale 2 guess num den
  if d ≤ n then guess else guess - 1

/-- The exponent that a positive fraction has in a format: the last digit of the significand counts
`2 ^ e`. -/
def Format.exponentOf (format : Format) (num den : Nat) : Int :=
  max format.lowest (binaryOrder num den - (format.digits - 1))

/-- The number of the format nearest to `± num / den`. -/
def Format.round (format : Format) (negative : Bool) (num den : Nat) : Binary :=
  if num = 0 then .finite negative 0 format.lowest
  else
    let e := format.exponentOf num den
    let (n, d) := unscale 2 e num den
    let significand := nearest n d
    -- Rounding up may have made one digit too many, all others then being zero.
    let full := significand = Nat.pow 2 format.digits
    let e := if full then e + 1 else e
    let significand := if full then Nat.pow 2 (format.digits - 1) else significand
    if format.highest < e then .infinite negative else .finite negative significand e

namespace Binary

/-- A number rounded to another format. -/
def roundTo (format : Format) : Binary → Binary
  | .finite negative significand exponent =>
    let (n, d) := unscale 2 (-exponent) significand 1
    format.round negative n d
  | other => other

/-- The number with its sign turned over. -/
def negate : Binary → Binary
  | .nan => .nan
  | .infinite negative => .infinite !negative
  | .finite negative significand exponent => .finite (!negative) significand exponent

/-- Whether the number is one of the two zeros. -/
def isZero : Binary → Bool
  | .finite _ 0 _ => true
  | _ => false

/-- The double precision number nearest to the sum of two numbers. Zero is negative only as a sum of negative
zeros. -/
def sum : Binary → Binary → Binary
  | .finite a m e, .finite b n e' =>
    let low := min e e'
    let whole (negative : Bool) (significand : Nat) (exponent : Int) : Int :=
      let value := significand * Nat.pow 2 (exponent - low).toNat
      if negative then -value else value
    let total := whole a m e + whole b n e'
    let (num, den) := unscale 2 (-low) total.natAbs 1
    binary64.round (if total = 0 then a && b else total < 0) num den
  | .infinite a, .infinite b => if a = b then .infinite a else .nan
  | .infinite a, .finite _ _ _ | .finite _ _ _, .infinite a => .infinite a
  | .nan, _ | _, .nan => .nan

/-- The double precision number nearest to the product of two numbers. -/
def product : Binary → Binary → Binary
  | .finite a m e, .finite b n e' =>
    let (num, den) := unscale 2 (-(e + e')) (m * n) 1
    binary64.round (a != b) num den
  | .infinite a, .infinite b => .infinite (a != b)
  | .infinite a, .finite b m _ | .finite a m _, .infinite b => if m = 0 then .nan else .infinite (a != b)
  | .nan, _ | _, .nan => .nan

/-- The double precision number nearest to a whole number, if that is finite. -/
def ofNat? (n : Nat) : Option Binary :=
  match binary64.round false n 1 with
  | .infinite _ => none
  | value => some value

/-- The value of the bit for the sign. -/
def signBit : Nat := 0x8000000000000000

/-- The value of the leading bit of a significand, which is that of the last bit for the exponent. -/
def leadingBit : Nat := 0x10000000000000

/-- The sixty-four bits of a double precision number. The exponent counts from the least one and is
added in front of the significand, whose leading bit, where it is set, adds one to it. -/
def bits64 : Binary → Nat
  | .nan => 0x7FF8000000000000
  | .infinite negative => (if negative then signBit else 0) + 0x7FF0000000000000
  | .finite negative significand exponent =>
    (if negative then signBit else 0) + (exponent - binary64.lowest).toNat * leadingBit + significand

/-- The number that sixty-four bits stand for. -/
def ofBits64 (bits : Nat) : Binary :=
  let negative := bits / signBit % 2 = 1
  let order : Nat := bits / leadingBit % 0x800
  let fraction := bits % leadingBit
  if order = 0x7FF then if fraction = 0 then .infinite negative else .nan
  else if order = 0 then .finite negative fraction binary64.lowest
  else .finite negative (leadingBit + fraction) (binary64.lowest + (order : Int) - 1)

end Binary

end Lookup.Number
