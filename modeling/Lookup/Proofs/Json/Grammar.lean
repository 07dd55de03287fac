import Lookup.Json

/-!
# The grammar of JSON

A document is a value with white space around it. The grammar tells which texts are documents, and what
they stand for: numbers stand for their digits, texts for characters that may be escaped by their units of
sixteen bits, arrays and objects for what they hold, in order.

## Main definitions

* `Json.Data` — what a document stands for
* `Json.IsNumber` — numbers
* `Json.Spells` — what stands between the quotes of a text
* `Json.Phrase`, `Json.IsWritten` — the rules for values and for what arrays and objects hold
* `Json.IsDocument` — documents
-/

namespace Lookup.Json

open Text

/-- What a document stands for. A number stands for its digits as they are written. -/
inductive Data where
  | null
  | boolean (value : Bool)
  | number (digits : String)
  | text (value : String)
  | array (items : List Data)
  | object (members : List (String × Data))

/-- Whether a character is white space between the parts of a document. -/
def isWhite (c : Char) : Bool := c = ' ' || c = '\t' || c = '\n' || c = '\r'

/-- Text of white space alone. -/
def IsWhite (text : List Char) : Prop := ∀ c ∈ text, isWhite c = true

/-! ### Numbers -/

/-- One or more digits. -/
def IsDigits (text : List Char) : Prop := text ≠ [] ∧ ∀ c ∈ text, c.isDigit = true

/-- Digits before the point, which do not begin with a zero that could be left out. -/
def IsWhole (text : List Char) : Prop := IsDigits text ∧ (text.head? = some '0' → text = ['0'])

/-- Nothing, or a point with digits behind it. -/
def IsFraction : List Char → Prop
  | [] => True
  | c :: digits => c = '.' ∧ IsDigits digits

/-- The text without a sign in front. -/
def dropSign : List Char → List Char
  | [] => []
  | c :: rest => if c = '+' ∨ c = '-' then rest else c :: rest

/-- Nothing, or the mark of an exponent with digits behind it, which may have a sign. -/
def IsExponent : List Char → Prop
  | [] => True
  | c :: digits => (c = 'e' ∨ c = 'E') ∧ IsDigits (dropSign digits)

/-- A number. -/
def IsNumber (text : List Char) : Prop :=
  ∃ sign whole fraction exponent, (sign = [] ∨ sign = ['-']) ∧ IsWhole whole ∧
    IsFraction fraction ∧ IsExponent exponent ∧ text = sign ++ whole ++ fraction ++ exponent

/-! ### Texts -/

/-- The unit that a character stands for behind a backslash. -/
def shortEscape? (c : Char) : Option Nat :=
  if c = doubleQuote ∨ c = '\\' ∨ c = '/' then some c.toNat
  else if c = 'b' then some 8
  else if c = 'f' then some 12
  else if c = 'n' then some 10
  else if c = 'r' then some 13
  else if c = 't' then some 9
  else none

/-- The unit of four hexadecimal digits. -/
def hexUnit? (a b c d : Char) : Option Nat :=
  match hexValue? a, hexValue? b, hexValue? c, hexValue? d with
  | some a, some b, some c, some d => some (((a * 16 + b) * 16 + c) * 16 + d)
  | _, _, _, _ => none

/-- What stands between quotes, and the units of sixteen bits that it spells. -/
inductive Spells : List Char → List Nat → Prop where
  | nil : Spells [] []
  /-- A character other than a quote, a backslash and the control characters stands for itself. -/
  | plain {c : Char} {text : List Char} {rest : List Nat} (ne_quote : c ≠ doubleQuote)
      (ne_backslash : c ≠ '\\') (not_control : 0x20 ≤ c.toNat) (tail : Spells text rest) :
      Spells (c :: text) (units c ++ rest)
  | short {c : Char} {text : List Char} {unit : Nat} {rest : List Nat}
      (escape : shortEscape? c = some unit) (tail : Spells text rest) :
      Spells ('\\' :: c :: text) (unit :: rest)
  | hex {a b c d : Char} {text : List Char} {unit : Nat} {rest : List Nat}
      (escape : hexUnit? a b c d = some unit) (tail : Spells text rest) :
      Spells ('\\' :: 'u' :: a :: b :: c :: d :: text) (unit :: rest)

/-- What stands between quotes, and the text that it stands for. -/
def Quotes (text : List Char) (value : String) : Prop := Spells text (value.toList.flatMap units)

/-! ### Documents -/

/-- The values that are written by a word. -/
def words : List (String × Data) :=
  [("null", .null), ("true", .boolean true), ("false", .boolean false)]

/-- What a part of a document stands for. -/
inductive Phrase where
  /-- A value. -/
  | value (data : Data)
  /-- A value with white space around it. -/
  | element (data : Data)
  /-- What stands between the brackets of an array. -/
  | items (items : List Data)
  /-- A name and a value with a colon between them. -/
  | member (member : String × Data)
  /-- What stands between the braces of an object. -/
  | members (members : List (String × Data))

/-- The rules by which a text is a part of a document. -/
inductive IsWritten : Phrase → List Char → Prop where
  | word {word : String} {data : Data} (known : (word, data) ∈ words) :
      IsWritten (.value data) word.toList
  | number {text : List Char} (digits : IsNumber text) :
      IsWritten (.value (.number (String.ofList text))) text
  | text {text : List Char} {value : String} (quotes : Quotes text value) :
      IsWritten (.value (.text value)) (doubleQuote :: text ++ [doubleQuote])
  | array {text : List Char} {items : List Data} (inner : IsWritten (.items items) text) :
      IsWritten (.value (.array items)) ('[' :: text ++ [']'])
  | object {text : List Char} {members : List (String × Data)}
      (inner : IsWritten (.members members) text) :
      IsWritten (.value (.object members)) ('\x7b' :: text ++ ['\x7d'])
  | element {before text after : List Char} {data : Data} (white_before : IsWhite before)
      (value : IsWritten (.value data) text) (white_after : IsWhite after) :
      IsWritten (.element data) (before ++ text ++ after)
  | noItems {text : List Char} (white : IsWhite text) : IsWritten (.items []) text
  | lastItem {text : List Char} {item : Data} (element : IsWritten (.element item) text) :
      IsWritten (.items [item]) text
  | nextItem {text more : List Char} {item next : Data} {rest : List Data}
      (element : IsWritten (.element item) text) (others : IsWritten (.items (next :: rest)) more) :
      IsWritten (.items (item :: next :: rest)) (text ++ ',' :: more)
  | member {before name after text : List Char} {key : String} {value : Data}
      (white_before : IsWhite before) (quotes : Quotes name key) (white_after : IsWhite after)
      (element : IsWritten (.element value) text) :
      IsWritten (.member (key, value))
        (before ++ doubleQuote :: name ++ doubleQuote :: after ++ ':' :: text)
  | noMembers {text : List Char} (white : IsWhite text) : IsWritten (.members []) text
  | lastMember {text : List Char} {member : String × Data}
      (single : IsWritten (.member member) text) : IsWritten (.members [member]) text
  | nextMember {text more : List Char} {member next : String × Data} {rest : List (String × Data)}
      (single : IsWritten (.member member) text)
      (others : IsWritten (.members (next :: rest)) more) :
      IsWritten (.members (member :: next :: rest)) (text ++ ',' :: more)

/-- A document, and what it stands for. -/
def IsDocument (text : String) (data : Data) : Prop := IsWritten (.element data) text.toList

end Lookup.Json
