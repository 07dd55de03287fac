/-!
# Hexadecimal text

## Main definitions

* `hex`, `hexUpper` — a number in hexadecimal digits, filled up with zeros on the left
* `hexValue?` — the value of a hexadecimal digit
-/

namespace Lookup.Text

/-- The digits of `n` in base sixteen, least `width` of them, letters in lower case. -/
def hex (width n : Nat) : List Char :=
  let digits := Nat.toDigits 16 n
  List.replicate (width - digits.length) '0' ++ digits

/-- The digits of `n` in base sixteen, least `width` of them, letters in upper case. -/
def hexUpper (width n : Nat) : List Char := (hex width n).map Char.toUpper

/-- The value of a hexadecimal digit of either case. -/
def hexValue? (c : Char) : Option Nat :=
  if '0' ≤ c ∧ c ≤ '9' then some (c.toNat - 48)
  else if 'a' ≤ c ∧ c ≤ 'f' then some (c.toNat - 87)
  else if 'A' ≤ c ∧ c ≤ 'F' then some (c.toNat - 55)
  else none

end Lookup.Text
