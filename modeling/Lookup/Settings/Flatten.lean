import Lookup.Datum
import Lookup.Property.Store

/-!
# Flat settings

A settings document is a tree of mappings. It is flattened to a store of properties: each leaf gets
the keys on its path, joined by dots, as its key. A leaf that comes later in the document takes the
place of one with the same key.

## Main definitions

* `settingText` — the text of a leaf
* `putDatum`, `putEntries` — what is below a key, put over other settings
* `flatten` — the store of a document
* `readPair?` — a setting written as a pair
-/

namespace Lookup

open Text

mutual

/-- The text of a leaf: nothing for null, the items between commas for a list, else the plain form. -/
def settingText : Datum → String
  | .null => ""
  | .bool b => if b then "true" else "false"
  | .list items | .tuple items => String.intercalate "," (settingTexts items)
  | other => other.plain

/-- The texts of the items of a list. -/
def settingTexts : List Datum → List String
  | [] => []
  | item :: rest => settingText item :: settingTexts rest

end

/-- The key of an entry below another key; the empty key is that of the whole document. -/
def keyBelow (parent : String) (key : Datum) : String :=
  if parent = "" then key.plain else parent ++ "." ++ key.plain

mutual

/-- Settings with those of a datum at a key put over them: a mapping is made flat by itself first, anything
else is a leaf. -/
def putDatum (settings : Store) (key : String) : Datum → Store
  | .map entries => settings.merge (putEntries .empty key entries)
  | leaf => settings.insert key (settingText leaf)

/-- Settings with those of the entries of a mapping below `parent` put over them. -/
def putEntries (settings : Store) (parent : String) : List (Datum × Datum) → Store
  | [] => settings
  | (key, value) :: rest => putEntries (putDatum settings (keyBelow parent key) value) parent rest

end

/-- The flat settings of the entries of a document, below `parent`. -/
def flatten (parent : String) (entries : List (Datum × Datum)) : Store :=
  putEntries .empty parent entries

/-- The key and the value of a setting written as a pair; none where either is missing. -/
def readPair? (pair : String) : Option (String × String) :=
  match cut '=' pair.toList with
  | some (c :: key, value) => some (String.ofList (c :: key), String.ofList value)
  | _ => none

end Lookup
