import Lookup.Text.Basic
import Lookup.Text.Ranges

/-!
# White space

The characters that count as white space at the ends of a number or of a table cell: the Unicode
white space together with the four information separators U+001C to U+001F.

## Main definitions

* `isBlank` — whether a character is white space
* `strip`, `stripEnd` — a text without white space at its ends
-/

namespace Lookup.Text

/-- The white space characters. -/
def blanks : Ranges :=
  [(0x9, 0xD), (0x1C, 0x20), (0x85, 0x85), (0xA0, 0xA0), (0x1680, 0x1680), (0x2000, 0x200A),
   (0x2028, 0x2029), (0x202F, 0x202F), (0x205F, 0x205F), (0x3000, 0x3000)]

/-- Whether a character is white space. -/
def isBlank (c : Char) : Bool := blanks.contains c

/-- The text without white space at its two ends. -/
def strip (text : List Char) : List Char := trimBoth isBlank text

/-- The text without white space at its end. -/
def stripEnd (text : List Char) : List Char := trimEnd isBlank text

end Lookup.Text
