import Lookup.Number.Decimal
import Lookup.Text.Blank
import Lookup.Text.Case

/-!
# Loosely written numbers

Numbers as people write them: with white space around, in the decimal digits of any script, and with
single underscores between digits. The information separators do not count as white space here.

## Main definitions

* `dropSpace` — a text without the white space that may stand around a number
* `plainDigit` — the ASCII digit of a decimal digit of any script
* `dropUnderscores?` — a text without the underscores between its digits
* `looseWhole?` — the whole number of a text in a base
* `looseFloat?` — the double precision number of a text
-/

namespace Lookup.Number

open Text

/-- The code points of the digits zero; the other digits of a script follow its zero. -/
def zeros : List Nat :=
  [48, 1632, 1776, 1984, 2406, 2534, 2662, 2790, 2918, 3046, 3174, 3302, 3430, 3558, 3664, 3792,
   3872, 4160, 4240, 6112, 6160, 6470, 6608, 6784, 6800, 6992, 7088, 7232, 7248, 42528, 43216,
   43264, 43472, 43504, 43600, 44016, 65296, 66720, 68912, 69734, 69872, 69942, 70096, 70384,
   70736, 70864, 71248, 71360, 71472, 71904, 72016, 72784, 73040, 73120, 92768, 92864, 93008,
   120782, 120792, 120802, 120812, 120822, 123200, 123632, 125264, 130032]

/-- The ASCII digit of a decimal digit of any script; any other character itself. -/
def plainDigit (c : Char) : Char :=
  match zeros.find? fun first => first ≤ c.toNat ∧ c.toNat < first + 10 with
  | some first => Char.ofNat (48 + (c.toNat - first))
  | none => c

/-- Whether a character may stand around a number. -/
def isSpace (c : Char) : Bool := isBlank c && !(0x1C ≤ c.toNat && c.toNat < 0x20)

/-- The text without the white space that may stand around a number. -/
def dropSpace (text : List Char) : List Char := trimBoth isSpace text

/-- The text without underscores, if each stands between two digits; `afterDigit` says whether a digit
has come just before. -/
def dropUnderscores? (digit : Char → Bool) (afterDigit : Bool) : List Char → Option (List Char)
  | [] => some []
  | c :: rest =>
    if c = '_' then
      match rest with
      | d :: _ => if afterDigit && digit d then dropUnderscores? digit false rest else none
      | [] => none
    else (dropUnderscores? digit (digit c) rest).map (c :: ·)

/-- The value of a letter or an ASCII digit in bases above ten. -/
def digitValue? (base : Nat) (c : Char) : Option Nat :=
  let value :=
    if isDigit c then c.toNat - 48
    else if c.isLower then c.toNat - 87
    else if c.isUpper then c.toNat - 55
    else base
  if value < base then some value else none

/-- The letter that marks a base after a zero. -/
def baseLetter? : Nat → Option Char
  | 2 => some 'b'
  | 8 => some 'o'
  | 16 => some 'x'
  | _ => none

/-- The text without the mark of a base in front. -/
def dropBaseMark (base : Nat) : List Char → List Char
  | '0' :: c :: rest => if baseLetter? base = some c.toLower then rest else '0' :: c :: rest
  | text => text

/-- The most digits of a whole number in a base that is no power of two. -/
def looseDigitLimit : Nat := 4300

/-- The whole number that a text is in a base. -/
def looseWhole? (base : Nat) (text : List Char) : Option Int :=
  let (negative, body) := takeSign ((dropSpace text).map plainDigit)
  match dropUnderscores? (fun c => (digitValue? base c).isSome) false (dropBaseMark base body) with
  | none => none
  | some digits =>
    if digits = [] ∨ ((baseLetter? base).isNone ∧ looseDigitLimit < digits.length) then none
    else
      (digits.mapM (digitValue? base)).map fun values =>
        let n : Nat := values.foldl (fun n value => n * base + value) 0
        if negative then -(n : Int) else n

/-- The double precision number that a text is: a decimal numeral, an infinity or not-a-number in
letters of either case. -/
def looseFloat? (text : List Char) : Option Binary :=
  let (negative, body) := takeSign ((dropSpace text).map plainDigit)
  let word := String.ofList (body.map Char.toLower)
  if word = "inf" ∨ word = "infinity" then some (.infinite negative)
  else if word = "nan" then some .nan
  else
    ((dropUnderscores? isDigit false body).bind (decimal? negative)).map Numeral.round

end Lookup.Number
