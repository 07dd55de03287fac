import Lookup.Number.Shortest
import Lookup.Text.Encoding
import Lookup.Time.Iso

/-!
# Plain data

The data that a settings document holds: scalars, lists, sets and mappings. A mapping keeps its
entries in the order in which their keys first occurred.

A datum has two texts. Its display form shows how it is built, with texts quoted. Its plain form is
the text itself for a text, a readable date for a date, and the display form for all else. Where a
collection has itself as a part, the display form has an ellipsis in its brackets.

## Main definitions

* `Shape`, `Datum` — plain data
* `Datum.mark?`, `Datum.same` — what makes two data one key
* `Datum.entry` — a mapping with one more entry
* `Datum.display`, `Datum.plain` — the two texts
* `Datum.readable` — whether the texts stay within the limit on digits
-/

namespace Lookup

open Number Text Time

/-- The shape of a collection. -/
inductive Shape where
  | list
  | tuple
  | map
  deriving DecidableEq, Repr

/-- The display form of a collection within that of itself. -/
def Shape.ellipsis : Shape → String
  | .list => "[...]"
  | .tuple => "(...)"
  | .map => "\x7b...\x7d"

/-- Plain data. -/
inductive Datum where
  | null
  | bool (value : Bool)
  | int (value : Int)
  | float (value : Binary)
  | str (value : String)
  | bytes (value : Bytes)
  | date (value : Date)
  | moment (value : Moment)
  | zoned (value : Zoned)
  | list (items : List Datum)
  | tuple (items : List Datum)
  | set (items : List Datum)
  | map (entries : List (Datum × Datum))
  /-- Stands for a collection that it is a part of. -/
  | again (shape : Shape)

instance : Inhabited Datum := ⟨.null⟩

namespace Datum

/-- The whole number that a datum counts as, where it is one. -/
def wholeValue? : Datum → Option Int
  | .bool b => some (if b then 1 else 0)
  | .int n => some n
  | .float (.finite negative significand exponent) =>
    let (num, den) := unscale 2 (-exponent) significand 1
    if num % den = 0 then some (if negative then -(num / den : Nat) else (num / den : Nat))
    else none
  | _ => none

/-- What keys have in common that are one: numbers their value, date-times with an offset their instant, and tuples
what their items have in common. -/
inductive Mark where
  | null
  | whole (value : Int)
  | float (value : Binary)
  | text (value : String)
  | bytes (value : Bytes)
  | date (value : Date)
  | moment (value : Moment)
  | instant (seconds : Int) (micro : Nat)
  /-- The tuple of no items. -/
  | unit
  /-- A tuple, by its first item and the tuple of the others. -/
  | pair (first rest : Mark)
  deriving DecidableEq

mutual

/-- The mark of a datum. Lists, sets and mappings are no keys and have none, and so has no tuple that holds one. -/
def mark? (datum : Datum) : Option Mark :=
  match datum.wholeValue? with
  | some n => some (.whole n)
  | none =>
    match datum with
    | .null => some .null
    | .float x => some (.float x)
    | .str s => some (.text s)
    | .bytes b => some (.bytes b)
    | .date d => some (.date d)
    | .moment m => some (.moment m)
    | .zoned z => some (.instant ((z.moment.seconds : Int) - z.offset) z.moment.clock.micro)
    | .tuple items => marks? items
    | _ => none

/-- The mark of the tuple of some items. -/
def marks? : List Datum → Option Mark
  | [] => some .unit
  | item :: rest =>
    match mark? item, marks? rest with
    | some first, some rest => some (.pair first rest)
    | _, _ => none

end

/-- Whether two data are one and the same key. -/
def same (a b : Datum) : Bool :=
  match a.mark?, b.mark? with
  | some m, some n => m == n
  | _, _ => false

/-- The entries of a mapping with one more: a key that is there already keeps its place and takes the
new value. -/
def entry {α : Type} (entries : List (Datum × α)) (key : Datum) (value : α) : List (Datum × α) :=
  match entries with
  | [] => [(key, value)]
  | (k, v) :: rest => if k.same key then (k, value) :: rest else (k, v) :: entry rest key value

/-- The entries of a mapping from a list in which keys may be repeated. -/
def entries {α : Type} (pairs : List (Datum × α)) : List (Datum × α) :=
  pairs.foldl (fun all p => entry all p.1 p.2) []

/-- The display form of a moment: its fields, the seconds and the microseconds only where they are
needed, and the offset where there is one. -/
def displayMoment (moment : Moment) (offset : Option Int) : String :=
  let clock := moment.clock
  let fields := [moment.date.year, moment.date.month, moment.date.day, clock.hour, clock.minute]
  let seconds :=
    if clock.micro ≠ 0 then [clock.second, clock.micro]
    else if clock.second ≠ 0 then [clock.second] else []
  let zone :=
    match offset with
    | none => []
    | some 0 => ["tzinfo=datetime.timezone.utc"]
    | some seconds => ["tzinfo=datetime.timezone(" ++ spanText seconds ++ ")"]
  "datetime.datetime(" ++
    String.intercalate ", " ((fields ++ seconds).map toString ++ zone) ++ ")"

/-- What stands between the brackets of a tuple, in which a comma follows a single item. -/
def tupleText : List String → String
  | [item] => item ++ ","
  | items => String.intercalate ", " items

mutual

/-- The display form of a datum. -/
def display : Datum → String
  | .null => "None"
  | .bool b => if b then "True" else "False"
  | .int n => toString n
  | .float x => x.text
  | .str s => quote s
  | .bytes b => quoteBytes b
  | .date d => s!"datetime.date({d.year}, {d.month}, {d.day})"
  | .moment m => displayMoment m none
  | .zoned z => displayMoment z.moment (some z.offset)
  | .list items => "[" ++ String.intercalate ", " (displayAll items) ++ "]"
  | .tuple items => "(" ++ tupleText (displayAll items) ++ ")"
  | .set items =>
    if items.isEmpty then "set()"
    else "\x7b" ++ String.intercalate ", " (displayAll items) ++ "\x7d"
  | .map entries => "\x7b" ++ String.intercalate ", " (displayEntries entries) ++ "\x7d"
  | .again shape => shape.ellipsis

/-- The display forms of data. -/
def displayAll : List Datum → List String
  | [] => []
  | item :: rest => display item :: displayAll rest

/-- The display forms of the entries of a mapping. -/
def displayEntries : List (Datum × Datum) → List String
  | [] => []
  | (key, value) :: rest => (display key ++ ": " ++ display value) :: displayEntries rest

end

/-- The plain form of a datum. -/
def plain : Datum → String
  | .str s => s
  | .date d => d.text
  | .moment m => m.text " "
  | .zoned z => z.text " "
  | other => other.display

mutual

/-- Whether no whole number in a datum has more digits than are written. -/
def readable : Datum → Bool
  | .int n => n.natAbs < Nat.pow 10 digitLimit
  | .list items | .tuple items | .set items => readableAll items
  | .map entries => readableEntries entries
  | _ => true

/-- Whether all data in a list are readable. -/
def readableAll : List Datum → Bool
  | [] => true
  | item :: rest => readable item && readableAll rest

/-- Whether all keys and values in a mapping are readable. -/
def readableEntries : List (Datum × Datum) → Bool
  | [] => true
  | (key, value) :: rest => readable key && readable value && readableEntries rest

end

/-- Whether a datum stands for nothing: null, false, zero, or an empty text or collection. -/
def isEmpty : Datum → Bool
  | .null => true
  | .bool b => !b
  | .int n => n == 0
  | .float x => x.isZero
  | .str s => s.isEmpty
  | .bytes b => b.isEmpty
  | .list items | .tuple items | .set items => items.isEmpty
  | .map entries => entries.isEmpty
  | _ => false

end Datum

end Lookup
