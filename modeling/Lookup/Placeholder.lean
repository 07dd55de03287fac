import Lookup.Text.Basic

/-!
# Placeholders

A placeholder stands for the value of a property. It is written `${key}`, or `${key:default}` with a
text to take instead where the property has no value. The first colon ends the key, so that a default
may hold colons. A text of this shape without a key is neither a placeholder nor a literal.

## Main definitions

* `Placeholder`, `Placeholder.render` — placeholders and their text
* `Placeholder.body?` — the text between the marks
* `Placeholder.Reading`, `Placeholder.read` — what a text is read as
-/

namespace Lookup

open Text

/-- A reference to a property. -/
structure Placeholder where
  /-- The key of the property. -/
  key : String
  /-- The text to take where the property has no value. -/
  default? : Option String
  deriving DecidableEq, Repr

namespace Placeholder

/-- The text between the marks of a placeholder, if a text has them at its two ends. -/
def body? : List Char → Option (List Char)
  | '$' :: '\x7b' :: rest => if rest.getLast? = some '\x7d' then some rest.dropLast else none
  | _ => none

/-- Whether a text has the shape of a placeholder. -/
def isShaped (text : String) : Bool := (body? text.toList).isSome

/-- What a text is read as. -/
inductive Reading where
  /-- A text that stands for itself. -/
  | literal
  /-- The shape of a placeholder without a key. -/
  | keyless
  /-- A placeholder. -/
  | placeholder (placeholder : Placeholder)
  deriving DecidableEq, Repr

/-- The key and the default in the text between the marks. -/
def readBody (body : List Char) : Reading :=
  let (key, default?) :=
    match cut ':' body with
    | some (key, rest) => (key, some (String.ofList rest))
    | none => (body, none)
  if key = [] then .keyless else .placeholder ⟨String.ofList key, default?⟩

/-- What a text is read as. -/
def read (text : String) : Reading :=
  match body? text.toList with
  | none => .literal
  | some body => readBody body

/-- The text of a placeholder. -/
def render (p : Placeholder) : String :=
  "$\x7b" ++ p.key ++ (match p.default? with | none => "" | some d => ":" ++ d) ++ "\x7d"

end Placeholder

end Lookup
