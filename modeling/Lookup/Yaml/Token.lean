import Lookup.Error.Basic

/-!
# Tokens of a document

## Main definitions

* `Token` — the tokens
* `Flaw` — why a text is no document
-/

namespace Lookup.Yaml

/-- Why a text is no document. -/
inductive Flaw where
  /-- The text breaks the rules of the language. -/
  | invalid
  /-- A part of the text cannot be made sense of. -/
  | fault (fault : Fault)
  deriving DecidableEq, Repr

/-- A token of a document. -/
inductive Token where
  /-- A directive with the version of the language, of which the first number counts. -/
  | version (major : Nat)
  /-- A directive that lets a handle stand for the start of tags. -/
  | handle (handle start : String)
  /-- Any other directive. -/
  | directive
  | documentStart
  | documentEnd
  | blockSequenceStart
  | blockMappingStart
  | blockEnd
  | flowSequenceStart
  | flowSequenceEnd
  | flowMappingStart
  | flowMappingEnd
  | flowEntry
  | blockEntry
  | key
  | value
  | alias (name : String)
  | anchor (name : String)
  /-- A tag: a handle, where it has one, and the rest. -/
  | tag (handle? : Option String) (rest : String)
  /-- A scalar, and whether it stands without quotes or other marks. -/
  | scalar (text : String) (plain : Bool)
  deriving DecidableEq, Repr

end Lookup.Yaml
