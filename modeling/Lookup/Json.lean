import Lookup.Number.Shortest
import Lookup.Text.Basic
import Lookup.Text.Hex
import Lookup.Text.Quoted

/-!
# JSON documents

A document is written over several lines, two spaces deeper at each level, with the members of an
object in the order of their names. Texts are written in ASCII: every other character is escaped by
its units of sixteen bits. A number that is not finite is written by a word.

## Main definitions

* `Json` — documents
* `Json.ofMembers` — an object with its members in order
* `Json.units`, `Json.quoted` — texts in ASCII
* `Json.write`, `Json.render` — the text of a document
-/

namespace Lookup

open Text

/-- A document. -/
inductive Json where
  | null
  | boolean (value : Bool)
  | integer (value : Int)
  | number (value : Number.Binary)
  | text (value : String)
  | array (items : List Json)
  | object (members : List (String × Json))

namespace Json

/-- The object of members, in the order of their names. -/
def ofMembers (members : List (String × Json)) : Json :=
  .object (members.mergeSort fun a b => precedes a.1 b.1)

/-- The array of texts. -/
def ofTexts (texts : List String) : Json := .array (texts.map .text)

/-! ### Texts -/

/-- The units of sixteen bits that a character takes: itself, or a pair of surrogates. -/
def units (c : Char) : List Nat :=
  if c.toNat < 0x10000 then [c.toNat]
  else
    let offset := c.toNat - 0x10000
    [0xD800 + offset / 0x400, 0xDC00 + offset % 0x400]

/-- How a character is written between quotes. -/
def escaped (c : Char) : List Char :=
  if c = doubleQuote then ['\\', doubleQuote]
  else if c = '\\' then ['\\', '\\']
  else if c = '\n' then ['\\', 'n']
  else if c = '\r' then ['\\', 'r']
  else if c = '\t' then ['\\', 't']
  else if c = '\x08' then ['\\', 'b']
  else if c = '\x0c' then ['\\', 'f']
  else if 0x20 ≤ c.toNat ∧ c.toNat < 0x7F then [c]
  else (units c).flatMap fun unit => '\\' :: 'u' :: hex 4 unit

/-- A text between quotes. -/
def quoted (text : String) : List Char :=
  doubleQuote :: text.toList.flatMap escaped ++ [doubleQuote]

/-! ### Documents -/

/-- The text of a number. -/
def numeral : Number.Binary → String
  | .nan => "NaN"
  | .infinite negative => if negative then "-Infinity" else "Infinity"
  | finite => finite.text

/-- A new line that is so many levels deep. -/
def newLine (depth : Nat) : List Char := '\n' :: List.replicate (2 * depth) ' '

mutual

/-- The text of a document that stands so many levels deep. -/
def write (depth : Nat) : Json → List Char
  | .null => "null".toList
  | .boolean value => (if value then "true" else "false").toList
  | .integer value => (toString value).toList
  | .number value => (numeral value).toList
  | .text value => quoted value
  | .array [] => ['[', ']']
  | .array (item :: rest) =>
    '[' :: newLine (depth + 1) ++ item.write (depth + 1) ++ writeItems (depth + 1) rest ++
      newLine depth ++ [']']
  | .object [] => ['\x7b', '\x7d']
  | .object ((name, value) :: rest) =>
    '\x7b' :: newLine (depth + 1) ++ quoted name ++ ':' :: ' ' :: value.write (depth + 1) ++
      writeMembers (depth + 1) rest ++ newLine depth ++ ['\x7d']

/-- The text of further items of an array. -/
def writeItems (depth : Nat) : List Json → List Char
  | [] => []
  | item :: rest => ',' :: newLine depth ++ item.write depth ++ writeItems depth rest

/-- The text of further members of an object. -/
def writeMembers (depth : Nat) : List (String × Json) → List Char
  | [] => []
  | (name, value) :: rest =>
    ',' :: newLine depth ++ quoted name ++ ':' :: ' ' :: value.write depth ++
      writeMembers depth rest

end

/-- The text of a document. -/
def render (document : Json) : String := String.ofList (document.write 0)

end Json

end Lookup
