import Lookup.Text.Hex
import Lookup.Text.Printable

/-!
# Quoted text

A text that a message repeats is quoted: it stands between single quotes, or between double quotes
where it holds a single quote and no double one. The backslash, the quote in use and the three
common line controls are escaped by a letter, other characters that are not printable by their code
point, and everything else stands as it is.

## Main definitions

* `quote` — the quoted form of a text
* `quoteBytes` — the quoted form of a string of bytes
-/

namespace Lookup.Text

/-- The single quote. -/
def apostrophe : Char := '\x27'

/-- The double quote. -/
def doubleQuote : Char := '\x22'

/-- How one character is written between quotes of the kind `mark`. -/
def escape (mark c : Char) : List Char :=
  if c = '\\' then ['\\', '\\']
  else if c = mark then ['\\', mark]
  else if c = '\n' then ['\\', 'n']
  else if c = '\r' then ['\\', 'r']
  else if c = '\t' then ['\\', 't']
  else if isPrintable c then [c]
  else if c.toNat < 0x100 then '\\' :: 'x' :: hex 2 c.toNat
  else if c.toNat < 0x10000 then '\\' :: 'u' :: hex 4 c.toNat
  else '\\' :: 'U' :: hex 8 c.toNat

/-- The quotes that a text stands between. -/
def quoteMark (text : List Char) : Char :=
  if text.contains apostrophe && !text.contains doubleQuote then doubleQuote else apostrophe

/-- The quoted form of a text. -/
def quote (text : String) : String :=
  let mark := quoteMark text.toList
  String.ofList (mark :: text.toList.flatMap (escape mark) ++ [mark])

/-- How one byte is written between quotes of the kind `mark`: as the ASCII character it is where
that is printable. -/
def escapeByte (mark : Char) (b : UInt8) : List Char :=
  if b.toNat < 0x7F then escape mark (Char.ofNat b.toNat) else '\\' :: 'x' :: hex 2 b.toNat

/-- The quoted form of a string of bytes, marked by a leading `b`. -/
def quoteBytes (bytes : List UInt8) : String :=
  let mark := quoteMark (bytes.map fun b => Char.ofNat b.toNat)
  String.ofList ('b' :: mark :: bytes.flatMap (escapeByte mark) ++ [mark])

end Lookup.Text
