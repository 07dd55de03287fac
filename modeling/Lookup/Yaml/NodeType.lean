import Lookup.Text.Basic
import Lookup.Text.Hex
import Lookup.Yaml.Stamp

/-!
# The types of nodes

A node has the type that its tag names. A plain scalar without a tag has the type of what it looks
like: a truth value, a number, a timestamp, or a text where it looks like nothing else.

## Main definitions

* `NodeType`, `NodeType.ofTag` — the types and their tags
* `plainType` — the type of a plain scalar
-/

namespace Lookup.Yaml

open Text

/-- The type of a node. -/
inductive NodeType where
  | null
  | bool
  | int
  | float
  | binary
  | timestamp
  | orderedMap
  | pairs
  | set
  | str
  | seq
  | map
  /-- The key whose value is merged into a mapping. -/
  | merge
  /-- The key of a mapping's own value. -/
  | value
  /-- Any other type. -/
  | unknown
  deriving DecidableEq, Repr

/-- What the tags of the known types start with. -/
def tagStart : String := "tag:yaml.org,2002:"

/-- The known types by the ends of their tags. -/
def nodeTypes : List (String × NodeType) :=
  [("null", .null), ("bool", .bool), ("int", .int), ("float", .float), ("binary", .binary),
   ("timestamp", .timestamp), ("omap", .orderedMap), ("pairs", .pairs), ("set", .set),
   ("str", .str), ("seq", .seq), ("map", .map), ("merge", .merge), ("value", .value)]

/-- The type that a tag names. -/
def NodeType.ofTag (tag : String) : NodeType :=
  ((nodeTypes.find? fun entry => tagStart ++ entry.1 = tag).map (·.2)).getD .unknown

/-! ### What a plain scalar looks like -/

/-- The words for the two truth values, in lower case. -/
def truthWords : List (String × Bool) :=
  [("yes", true), ("no", false), ("true", true), ("false", false), ("on", true), ("off", false)]

/-- The spellings of a word: in lower case, capitalised, and in upper case. -/
def spellings (word : String) : List String :=
  let letters := word.toList
  [word, String.ofList ((letters.take 1).map Char.toUpper ++ letters.drop 1),
   String.ofList (letters.map Char.toUpper)]

/-- Whether a text is a truth value. -/
def looksBool (text : String) : Bool := truthWords.any fun entry => (spellings entry.1).contains text

/-- Whether a text is null. -/
def looksNull (text : String) : Bool := ["", "~"].contains text || (spellings "null").contains text

/-- A text without a sign in front. -/
def dropSign : List Char → List Char
  | '+' :: rest | '-' :: rest => rest
  | text => text

/-- Whether a character is a digit or an underscore. -/
def isDigitMark (c : Char) : Bool := c.isDigit || c = '_'

/-- Whether a text starts with a digit and goes on in digits and underscores. -/
def isDigitRun (text : List Char) : Bool :=
  match text with
  | [] => false
  | c :: rest => c.isDigit && rest.all isDigitMark

/-- Whether a text is a number below sixty of one or two digits. -/
def isSixtieth (text : List Char) : Bool :=
  match text with
  | [a] => a.isDigit
  | [a, b] => '0' ≤ a && a ≤ '5' && b.isDigit
  | _ => false

/-- Whether a text is empty or an exponent with a sign. -/
def isExponent (text : List Char) : Bool :=
  match text with
  | [] => true
  | e :: sign :: digits =>
    (e = 'e' || e = 'E') && (sign = '+' || sign = '-') && !digits.isEmpty && digits.all Char.isDigit
  | _ => false

/-- Whether a text is a number with a point. -/
def looksFloat (text : List Char) : Bool :=
  let body := dropSign text
  match cut '.' body with
  | none => false
  | some (whole, fraction) =>
    let exponent := fraction.dropWhile isDigitMark
    let parts := fields ':' whole
    (isDigitRun whole && isExponent exponent) ||
      (text.head? = some '.' && (fraction.head?.map Char.isDigit).getD false &&
        isExponent exponent) ||
      (1 < parts.length && isDigitRun (parts.headD []) && parts.tail.all isSixtieth &&
        fraction.all isDigitMark) ||
      (whole = [] && (spellings "inf").contains (String.ofList fraction)) ||
      (text.head? = some '.' && [".nan", ".NaN", ".NAN"].contains (String.ofList text))

/-- Whether a text is a whole number: binary, octal, decimal, hexadecimal or in sixtieths. -/
def looksInt (text : List Char) : Bool :=
  match dropSign text with
  | ['0'] => true
  | '0' :: 'b' :: rest => !rest.isEmpty && rest.all fun c => c = '0' || c = '1' || c = '_'
  | '0' :: 'x' :: rest => !rest.isEmpty && rest.all fun c => (hexValue? c).isSome || c = '_'
  | '0' :: rest => !rest.isEmpty && rest.all fun c => ('0' ≤ c && c ≤ '7') || c = '_'
  | body =>
    let parts := fields ':' body
    isDigitRun (parts.headD []) && parts.tail.all isSixtieth

/-- Whether a text is a timestamp. A date alone has all its digits. -/
def looksTimestamp (text : List Char) : Bool :=
  match Stamp.read? text with
  | some stamp => stamp.full || stamp.time?.isSome
  | none => false

/-- The type that a text looks like, a line feed at its end aside. -/
def plainType (text : String) : NodeType :=
  if text = "\n" then .str
  else
    let body := if endsWith "\n" text then text.toList.dropLast else text.toList
    let word := String.ofList body
    if looksBool word then .bool
    else if looksFloat body then .float
    else if looksInt body then .int
    else if word = "<<" then .merge
    else if looksNull word then .null
    else if looksTimestamp body then .timestamp
    else if word = "=" then .value
    else if ["!", "&", "*"].contains word then .unknown
    else .str

end Lookup.Yaml
