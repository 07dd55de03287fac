import Lookup.Text.Ranges

/-!
# Lines

A text falls into lines at the controls that move down a line or a page, the separators of records,
and the line and paragraph separators; a carriage return and the line feed after it are one break. A
break at the end begins no further line.

## Main definitions

* `isLineBreak` — the characters that end a line
* `lines` — the lines of a text
* `isReturn`, `rows` — the parts of a text between carriage returns and line feeds
-/

namespace Lookup.Text

/-- The characters that end a line. -/
def lineBreaks : Ranges :=
  [(0xA, 0xD), (0x1C, 0x1E), (0x85, 0x85), (0x2028, 0x2029)]

/-- Whether a character ends a line. -/
def isLineBreak (c : Char) : Bool := lineBreaks.contains c

/-- A text with each carriage return that a line feed follows left out. -/
def joinReturns : List Char → List Char
  | [] => []
  | c :: rest => if c = '\r' ∧ rest.head? = some '\n' then joinReturns rest else c :: joinReturns rest

/-- The parts between the characters of a class. -/
def partsAt (mark : Char → Bool) : List Char → List (List Char)
  | [] => [[]]
  | c :: rest =>
    if mark c then [] :: partsAt mark rest
    else
      match partsAt mark rest with
      | [] => [[c]]
      | first :: others => (c :: first) :: others

/-- The lines of a text. -/
def lines (text : List Char) : List (List Char) :=
  let parts := partsAt isLineBreak (joinReturns text)
  if parts.getLast? = some [] then parts.dropLast else parts

/-- Whether a character is a carriage return or a line feed. -/
def isReturn (c : Char) : Bool := c = '\n' || c = '\r'

/-- The parts between the carriage returns and line feeds. -/
def rows (text : List Char) : List (List Char) := partsAt isReturn text

end Lookup.Text
