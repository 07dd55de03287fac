import Lookup.Datum
import Lookup.Text.Case

/-!
# Types by tag and by other names

A value can be asked for by one of fourteen built-in tags. A caller may also name a type by a text,
by a class of the host language, or by any other object. Normalising such a key finds the built-in tag
that it stands for: a text does when it spells the tag in any letter case, and a class when it is one of
ten. A text that is no tag stands for a tag of the caller's own, in lower case. Which keys are one is
decided by what they are and not by what they are called.

## Main definitions

* `Tag` — the built-in tags
* `HostClass`, `HostObject` — the classes that stand for a tag, and objects of all sorts
* `TypeKey` — the ways to name a type
* `TypeKey.identity?`, `TypeKey.same` — which keys are one
* `TypeKey.normalize` — the tag that a key stands for
-/

namespace Lookup

/-- The built-in types of values. -/
inductive Tag where
  | boolean
  | int8
  | int16
  | int32
  | int64
  | float32
  | float64
  | string
  | date
  | time
  | datetime
  | zonedDatetime
  | duration
  | zoneId
  deriving DecidableEq, Repr

namespace Tag

/-- All tags. -/
def all : List Tag :=
  [.boolean, .int8, .int16, .int32, .int64, .float32, .float64, .string, .date, .time, .datetime,
   .zonedDatetime, .duration, .zoneId]

/-- The text that names a tag. -/
def text : Tag → String
  | .boolean => "boolean"
  | .int8 => "int8"
  | .int16 => "int16"
  | .int32 => "int32"
  | .int64 => "int64"
  | .float32 => "float32"
  | .float64 => "float64"
  | .string => "string"
  | .date => "date"
  | .time => "time"
  | .datetime => "datetime"
  | .zonedDatetime => "zoned-datetime"
  | .duration => "duration"
  | .zoneId => "zone-id"

/-- The name of a tag in capitals, words joined by underscores. -/
def label (tag : Tag) : String :=
  String.ofList ((Text.exchange '-' '_' tag.text.toList).map Char.toUpper)

/-- The tag that a text names. -/
def ofText? (text : String) : Option Tag := all.find? fun tag => tag.text = text

theorem ofText?_text (t : Tag) : ofText? t.text = some t := by
  cases t <;> rfl

end Tag

/-! ### Other names of types -/

/-- The classes of the host language that stand for a built-in tag. -/
inductive HostClass where
  | bool
  | int
  | float
  | str
  | date
  | time
  | datetime
  | timedelta
  | tzinfo
  | zoneInfo
  deriving DecidableEq, Repr

/-- The tag that a class stands for. -/
def HostClass.tag : HostClass → Tag
  | .bool => .boolean
  | .int => .int64
  | .float => .float64
  | .str => .string
  | .date => .date
  | .time => .time
  | .datetime => .datetime
  | .timedelta => .duration
  | .tzinfo | .zoneInfo => .zoneId

/-- The name of a class. -/
def HostClass.name : HostClass → String
  | .bool => "bool"
  | .int => "int"
  | .float => "float"
  | .str => "str"
  | .date => "date"
  | .time => "time"
  | .datetime => "datetime"
  | .timedelta => "timedelta"
  | .tzinfo => "tzinfo"
  | .zoneInfo => "ZoneInfo"

/-- The module in which a class is defined, as a prefix of its name; nothing for those of the language itself. -/
def HostClass.home : HostClass → String
  | .bool | .int | .float | .str => ""
  | .date | .time | .datetime | .timedelta | .tzinfo => "datetime."
  | .zoneInfo => "zoneinfo."

/-- The text of a class. -/
def HostClass.text (c : HostClass) : String := "<class '" ++ c.home ++ c.name ++ "'>"

/-- What keys have in common that are equal to each other. -/
inductive Identity where
  /-- A plain datum; texts are told apart by their letters. -/
  | datum (mark : Datum.Mark)
  /-- A class that stands for a tag. -/
  | hostClass (c : HostClass)
  /-- Anything else, such as another class or a tuple of classes: the number of all that is equal to it. -/
  | token (number : Nat)
  deriving DecidableEq

/-- An object of the host language, by what the library asks of it. -/
structure HostObject where
  /-- What it has in common with the objects that are equal to it; `none` where it cannot be hashed. -/
  identity? : Option Identity
  /-- Its name, or its text where it has none. -/
  name : String
  /-- Its text. -/
  text : String
  /-- The text of what it is the name of, as a member of an enumeration is; its text where it is no such name. -/
  valueText : String

/-- What a caller may name a type by. -/
inductive TypeKey where
  /-- A built-in tag. -/
  | tag (tag : Tag)
  /-- A text. -/
  | text (text : String)
  /-- A class that stands for a tag. -/
  | hostClass (c : HostClass)
  /-- A plain datum. -/
  | datum (datum : Datum)
  /-- Any other object. -/
  | object (object : HostObject)

namespace TypeKey

/-- What a key has in common with those that are equal to it; `none` for a key that cannot be hashed, and is equal to
none in a registry. A tag is equal to the text that names it. -/
def identity? : TypeKey → Option Identity
  | .tag t => some (.datum (.text t.text))
  | .text s => some (.datum (.text s))
  | .hostClass c => some (.hostClass c)
  | .datum d => d.mark?.map .datum
  | .object o => o.identity?

/-- Whether two keys are one and the same. -/
def same (a b : TypeKey) : Bool :=
  match a.identity?, b.identity? with
  | some x, some y => x == y
  | _, _ => false

/-- The built-in tag that a key is equal to. -/
def tag? (key : TypeKey) : Option Tag :=
  match key.identity? with
  | some (.datum (.text s)) => Tag.ofText? s
  | _ => none

@[simp] theorem tag?_tag (t : Tag) : (TypeKey.tag t).tag? = some t := t.ofText?_text

/-- The key that a text stands for: the tag that it names in any letter case, or else itself in lower case. -/
def ofText (text : String) : TypeKey :=
  let plain := Text.lowerString text
  match Tag.ofText? plain with
  | some t => .tag t
  | none => .text plain

/-- The tag or other key that a key stands for. A text does so by its letters, and any other key by the class that it
is equal to. -/
def normalize : TypeKey → TypeKey
  | .tag t => .tag t
  | .text s => ofText s
  | .hostClass c => .tag c.tag
  | .datum (.str s) => ofText s
  | .datum d => .datum d
  | .object o =>
    match o.identity? with
    | some (.hostClass c) => .tag c.tag
    | _ => .object o

/-- The name of a key in a complaint that no value of the type can be had. -/
def name : TypeKey → String
  | .tag t => "ValueType." ++ t.label
  | .text s => s
  | .hostClass c => c.name
  | .datum d => d.plain
  | .object o => o.name

/-- The name of a key in a complaint about a text that is no value of the type. -/
def shown : TypeKey → String
  | .tag t => t.text
  | .text s => s
  | .hostClass c => c.text
  | .datum d => d.plain
  | .object o => o.valueText

/-- The name of a key in a complaint about a second converter. -/
def registered : TypeKey → String
  | .tag t => "ValueType." ++ t.label
  | .text s => s
  | .hostClass c => c.text
  | .datum d => d.plain
  | .object o => o.text

end TypeKey

end Lookup
