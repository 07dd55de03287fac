import Lookup.Datum
import Lookup.Error.Basic

/-!
# Settings documents

A settings document is what a reader makes of the text of a settings file. Collections in it may have
themselves as parts, so it is not a tree: it has a finite number of places, each with a collection, and
the parts of a collection are data and places.

Settings are made from the tree that results from going down from part to part. It is gone down as far as
settings need it: through mappings for their entries, through lists in them for their items, and within a
mapping that is an item of a list for its display form, which ends at a collection within itself. Going
down without an end is what a mapping leads to that comes back to itself through mappings, and a list
through lists.

## Main definitions

* `Document`, `Unread` — what a reader makes of a text
* `Document.displayed` — a part as its display form shows it
* `Document.unfoldWithin`, `Document.tree` — the tree that settings are made from
-/

namespace Lookup

/-- A part of a document with `size` places. -/
inductive Part (size : Nat) where
  | datum (value : Datum)
  | place (place : Fin size)

/-- A collection in a document with `size` places. -/
inductive Collection (size : Nat) where
  | list (items : List (Part size))
  | tuple (items : List (Part size))
  | map (entries : List (Datum × Part size))

/-- What a text holds as a settings document. -/
structure Document where
  /-- The number of places. -/
  size : Nat
  /-- The collection at each place. -/
  collection : Fin size → Collection size
  top : Part size

/-- Why a text is not read as a document. -/
inductive Unread where
  /-- It is none, which the reader complains about in its own words. -/
  | invalid (complaint : String)
  /-- The reader fails. -/
  | fault (fault : Fault)
  deriving DecidableEq, Repr

/-- A document of one datum. -/
def Document.ofDatum (datum : Datum) : Document := ⟨0, fun place => place.elim0, .datum datum⟩

/-- A datum, unless it holds a whole number with more digits than are written. -/
def Datum.written (datum : Datum) : Except Fault Datum :=
  if datum.readable then .ok datum else .error .badScalar

namespace Collection

variable {size : Nat}

/-- The shape of a collection. -/
def shape : Collection size → Shape
  | .list _ => .list
  | .tuple _ => .tuple
  | .map _ => .map

/-- The parts of a collection, keys aside. -/
def parts : Collection size → List (Part size)
  | .list items | .tuple items => items
  | .map entries => entries.map (·.2)

/-- The entries of a mapping with the data of their parts. -/
def readEntries (read : Part size → Except Fault Datum) (entries : List (Datum × Part size)) :
    Except Fault (List (Datum × Datum)) :=
  entries.mapM fun entry => do
    let key ← entry.1.written
    let value ← read entry.2
    return (key, value)

/-- The datum of a collection with the data of its parts. -/
def read (read : Part size → Except Fault Datum) : Collection size → Except Fault Datum
  | .list items => (items.mapM read).map .list
  | .tuple items => (items.mapM read).map .tuple
  | .map entries => (readEntries read entries).map .map

end Collection

/-- What a part is wanted for. -/
inductive Use where
  /-- For the settings in it. -/
  | settings
  /-- For its text. -/
  | text
  deriving DecidableEq, Repr

/-- What the parts of a collection are wanted for. The text of a mapping is its display form, for which one does
not go down into its parts. -/
def Use.below : Use → Shape → Option Use
  | .settings, .map => some .settings
  | .text, .map => none
  | _, _ => some .text

namespace Document

variable (document : Document)

/-- A part as its display form shows it, which goes down into each of the places that are `left` once on
every way. -/
def displayed (left : List (Fin document.size)) : Part document.size → Except Fault Datum
  | .datum value => value.written
  | .place place =>
    if place ∈ left then
      (document.collection place).read fun part => displayed (left.erase place) part
    else .ok (.again (document.collection place).shape)
termination_by left.length
decreasing_by
  rename_i h
  have hpos := List.length_pos_of_mem h
  rw [List.length_erase_of_mem h]
  omega

/-- The tree below a part, as far as it is wanted, in which one goes down less than `limit` times. -/
def unfoldWithin (limit : Nat) (use : Use) (part : Part document.size) : Except Fault Datum :=
  match limit, part with
  | 0, _ => .error .endless
  | _ + 1, .datum value => value.written
  | limit + 1, .place place =>
    match use.below (document.collection place).shape with
    | some use => (document.collection place).read (unfoldWithin limit use)
    | none => document.displayed (List.finRange document.size) (.place place)

/-- The entries of a mapping with the trees below their values, in which one goes down less than `limit`
times. -/
def treeWithin (limit : Nat) (entries : List (Datum × Part document.size)) :
    Except Fault (List (Datum × Datum)) :=
  Collection.readEntries (document.unfoldWithin limit .settings) entries

/-- The entries of a mapping with the trees below their values. A place is wanted in two ways, so who goes down
more than twice as often as there are places comes back to what has been gone down into. -/
def tree (entries : List (Datum × Part document.size)) : Except Fault (List (Datum × Datum)) :=
  document.treeWithin (2 * document.size + 1) entries

/-- The entries of the document, if it is a mapping. -/
def entries? : Option (List (Datum × Part document.size)) :=
  match document.top with
  | .datum (.map entries) => some (entries.map fun entry => (entry.1, .datum entry.2))
  | .datum _ => none
  | .place place =>
    match document.collection place with
    | .map entries => some entries
    | _ => none

/-- Whether the document stands for nothing. -/
def isEmpty : Bool :=
  match document.top with
  | .datum datum => datum.isEmpty
  | .place place => (document.collection place).parts.isEmpty

end Document

end Lookup
