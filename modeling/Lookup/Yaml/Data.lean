import Lookup.Datum
import Lookup.Number.Loose
import Lookup.Settings.Document
import Lookup.Text.Base64
import Lookup.Text.Case
import Lookup.Yaml.Node

/-!
# The data of a document

Scalars become data of their types, sequences lists, and mappings mappings, one for each node. Flaws are
looked for level by level: one that is nearer to the top of the document comes before one that is deeper.

## Main definitions

* `scalarDatum` — the datum of a scalar
* `Node.flaws` — the flaws on each level of a node
* `Node.document` — the document of a node without flaws
* `read` — the document in a text
-/

namespace Lookup.Yaml

open Number Text Time

/-! ### Scalars -/

/-- The whole numbers between colons. -/
def wholeParts? (text : List Char) : Option (List Int) := (fields ':' text).mapM (looseWhole? 10)

/-- A whole number in one of the notations of the language. -/
def intDatum (text : String) : Except Flaw Datum :=
  let body := text.toList.filter (· ≠ '_')
  let signed (value? : Option Int) : Except Flaw Datum :=
    match value? with
    | some value => .ok (.int (if body.head? = some '-' then -value else value))
    | none => .error (.fault .badScalar)
  match body, dropSign body with
  | [], _ | _, [] => .error (.fault .emptyNumber)
  | _, ['0'] => .ok (.int 0)
  | _, '0' :: 'b' :: digits => signed (looseWhole? 2 digits)
  | _, '0' :: 'x' :: digits => signed (looseWhole? 16 digits)
  | _, '0' :: digits => signed (looseWhole? 8 ('0' :: digits))
  | _, digits =>
    if digits.contains ':' then
      signed ((wholeParts? digits).map fun parts =>
        parts.foldl (fun value part => value * 60 + part) 0)
    else signed (looseWhole? 10 digits)

/-- What parts between colons, the last one first, make up together with `total`: each counts sixty times as
much as the one before it, the first one `unit`. A unit must be in the range of the numbers. -/
def addSixtieths (unit : Nat) (total : Binary) : List Binary → Option Binary
  | [] => some total
  | part :: rest =>
    match Binary.ofNat? unit with
    | none => none
    | some factor => addSixtieths (unit * 60) (total.sum (part.product factor)) rest

/-- A number in one of the notations of the language. -/
def floatDatum (text : String) : Except Flaw Datum :=
  let body := lower (text.toList.filter (· ≠ '_'))
  let signed (value : Binary) : Except Flaw Datum :=
    .ok (.float (if body.head? = some '-' then value.negate else value))
  match body with
  | [] => .error (.fault .emptyNumber)
  | _ =>
    let digits := dropSign body
    if digits = ".inf".toList then signed (.infinite false)
    else if digits = ".nan".toList then .ok (.float .nan)
    else if digits.contains ':' then
      match (fields ':' digits).mapM looseFloat? with
      | none => .error (.fault .badScalar)
      | some parts =>
        match addSixtieths 1 (.finite false 0 binary64.lowest) parts.reverse with
        | some value => signed value
        | none => .error (.fault .hugeNumber)
    else
      match looseFloat? digits with
      | some value => signed value
      | none => .error (.fault .badScalar)

/-- A timestamp as a date or a date-time. -/
def timestampDatum (text : String) : Except Flaw Datum :=
  let body := if endsWith "\n" text then text.toList.dropLast else text.toList
  match Stamp.read? body with
  | none => .error (.fault .badTimestamp)
  | some stamp =>
    match stamp.time? with
    | none =>
      match Date.of stamp.year stamp.month stamp.day with
      | .ok date => .ok (.date date)
      | .error _ => .error (.fault .badScalar)
    | some time =>
      match time.offset?.map Offset.of?, stamp.moment? time with
      | none, some moment => .ok (.moment moment)
      | some (some offset), some moment => .ok (.zoned ⟨moment, .fixed offset, offset.seconds⟩)
      | _, _ => .error (.fault .badScalar)

/-- The datum of a scalar of a type that only a scalar has. -/
def scalarDatum (type : NodeType) (text : String) : Except Flaw Datum :=
  match type with
  | .null => .ok .null
  | .bool =>
    match truthWords.lookup (lowerString text) with
    | some value => .ok (.bool value)
    | none => .error (.fault .badBoolean)
  | .int => intDatum text
  | .float => floatDatum text
  | .binary =>
    if text.toList.any fun c => 128 ≤ c.toNat then .error .invalid
    else
      match decodeBase64? text.toList with
      | some bytes => .ok (.bytes bytes)
      | none => .error .invalid
  | .timestamp => timestampDatum text
  | .str => .ok (.str text)
  | _ => .error .invalid

/-! ### Flaws -/

/-- The lists of two nodes joined level by level. -/
def joinLevels : List (List Flaw) → List (List Flaw) → List (List Flaw)
  | [], levels => levels
  | levels, [] => levels
  | a :: as, b :: bs => (a ++ b) :: joinLevels as bs

/-- The types of which a node is built only when what is above it has been. -/
def NodeType.isCollection (type : NodeType) : Bool :=
  type ∈ [.seq, .map, .set, .orderedMap, .pairs]

/-- The text of a scalar, or that of a mapping's own value. -/
def Node.text? : Node → Option String
  | .scalar _ text => some text
  | .mapping _ _ entries _ => ownValue? entries
  | _ => none
where
  /-- The text of the first value whose key marks it as a mapping's own. -/
  ownValue? : List (Node × Node) → Option String
    | [] => none
    | (key, value) :: rest => if key.type = .value then value.text? else ownValue? rest

/-- The datum of a node that is no collection. The mark of a mapping's own value is a text where it is a
key. -/
def Node.datum (isKey : Bool) (node : Node) : Except Flaw Datum :=
  match node.text? with
  | none => .error .invalid
  | some text =>
    match node with
    | .scalar .value _ => if isKey then .ok (.str text) else scalarDatum .value text
    | _ => scalarDatum node.type text

/-- The flaw of a node itself that is no collection. -/
def ownFlaws (datum : Except Flaw Datum) : List (List Flaw) :=
  match datum with
  | .ok _ => []
  | .error flaw => [[flaw]]

/-- A flaw one level below a node. -/
def flawBelow : List (List Flaw) := [[], [.invalid]]

mutual

/-- The flaws on each level of a node, from the node itself downwards. -/
def Node.flaws (isKey : Bool) : Node → List (List Flaw)
  | .scalar type text =>
    if type.isCollection then flawBelow else ownFlaws (Node.datum isKey (.scalar type text))
  | .sequence number type items =>
    match type with
    | .seq => [] :: itemFlaws items
    | .orderedMap | .pairs => [] :: pairFlaws items
    | type =>
      if type.isCollection then flawBelow else ownFlaws (Node.datum isKey (.sequence number type items))
  | .mapping number type entries sound =>
    match type with
    | .map | .set => [] :: (if sound then entryFlaws entries else [[.invalid]])
    | type =>
      if type.isCollection then flawBelow
      else ownFlaws (Node.datum isKey (.mapping number type entries sound))
  | .loop _ => []

/-- The flaws of several nodes. -/
def itemFlaws : List Node → List (List Flaw)
  | [] => []
  | item :: rest => joinLevels (item.flaws false) (itemFlaws rest)

/-- The flaws of the keys and values of entries. A key must not be a collection. -/
def entryFlaws : List (Node × Node) → List (List Flaw)
  | [] => []
  | (key, value) :: rest =>
    let ofKey := joinLevels (key.flaws true) (if key.type.isCollection then [[.invalid]] else [])
    joinLevels (joinLevels ofKey (value.flaws false)) (entryFlaws rest)

/-- The flaws of mappings of one entry each. -/
def pairFlaws : List Node → List (List Flaw)
  | [] => []
  | .mapping _ _ [(key, value)] _ :: rest =>
    joinLevels (joinLevels (key.flaws false) (value.flaws false)) (pairFlaws rest)
  | _ :: rest => joinLevels [[.invalid]] (pairFlaws rest)

end

/-! ### Documents -/

/-- A place of a document: a node by its number, or an item of it that is a pair. -/
abbrev Spot := Nat × Option Nat

mutual

/-- The places in a node that are not among `seen`, with the nodes that are there. -/
def Node.spots (seen : List (Spot × Node)) : Node → List (Spot × Node)
  | .scalar _ _ | .loop _ => seen
  | .sequence number type items =>
    if seen.any fun entry => entry.1 = (number, none) then seen
    else
      let seen := seen ++ [((number, none), .sequence number type items)]
      match type with
      | .seq => itemSpots seen items
      | .orderedMap | .pairs => pairSpots number 0 seen items
      | _ => seen
  | .mapping number type entries sound =>
    if type ≠ .map ∨ (seen.any fun entry => entry.1 = (number, none)) then seen
    else entrySpots (seen ++ [((number, none), .mapping number type entries sound)]) entries

/-- The places in several nodes. -/
def itemSpots (seen : List (Spot × Node)) : List Node → List (Spot × Node)
  | [] => seen
  | item :: rest => itemSpots (item.spots seen) rest

/-- The places in the values of entries. -/
def entrySpots (seen : List (Spot × Node)) : List (Node × Node) → List (Spot × Node)
  | [] => seen
  | (_, value) :: rest => entrySpots (value.spots seen) rest

/-- The places in mappings of one entry each, which are pairs. -/
def pairSpots (number index : Nat) (seen : List (Spot × Node)) : List Node → List (Spot × Node)
  | [] => seen
  | .mapping pair type [(key, value)] sound :: rest =>
    let seen := seen ++ [((number, some index), .mapping pair type [(key, value)] sound)]
    pairSpots number (index + 1) (value.spots (key.spots seen)) rest
  | _ :: rest => pairSpots number (index + 1) seen rest

end

section

variable (spots : List (Spot × Node))

/-- The part at a place. -/
def partAt (spot : Spot) : Part spots.length :=
  match spots.findFinIdx? fun entry => entry.1 = spot with
  | some place => .place place
  | none => .datum .null

/-- The datum of a key. -/
def Node.key (node : Node) : Datum := (node.datum true).toOption.getD .null

/-- The part that a node is. A set has no parts but keys. -/
def Node.part (node : Node) : Part spots.length :=
  match node with
  | .mapping _ .set entries _ =>
    .datum (.set ((Datum.entries (entries.map fun entry => (entry.1.key, ()))).map (·.1)))
  | .sequence number .seq _ | .sequence number .orderedMap _ | .sequence number .pairs _
  | .mapping number .map _ _ | .loop number => partAt spots (number, none)
  | node => .datum ((node.datum false).toOption.getD .null)

/-- The collection of a node at a place. -/
def Node.collection (spot : Spot) (node : Node) : Collection spots.length :=
  match spot, node with
  | (_, some _), .mapping _ _ [(key, value)] _ => .tuple [key.part spots, value.part spots]
  | (number, none), .sequence _ .orderedMap items | (number, none), .sequence _ .pairs items =>
    .list ((List.range items.length).map fun index => partAt spots (number, some index))
  | (_, none), .sequence _ _ items => .list (items.map fun item => item.part spots)
  | (_, none), .mapping _ _ entries _ =>
    .map (Datum.entries (entries.map fun entry => (entry.1.key, entry.2.part spots)))
  | _, _ => .list []

end

/-- The document of a node. -/
def Node.document (node : Node) : Document :=
  let spots := node.spots []
  ⟨spots.length, fun place => (spots.get place).2.collection spots (spots.get place).1, node.part spots⟩

/-- What a text holds as a document, null where there is none. What is wrong with a text that is none is said
by `complain`. -/
def read (complain : String → String) (text : String) : Except Unread Document :=
  let unread (flaw : Flaw) : Except Unread Document :=
    match flaw with
    | .invalid => .error (.invalid (complain text))
    | .fault fault => .error (.fault fault)
  match readDocument text.toList with
  | .error flaw => unread flaw
  | .ok none => .ok (.ofDatum .null)
  | .ok (some node) =>
    match (node.flaws false).flatten.head? with
    | some flaw => unread flaw
    | none => .ok node.document

end Lookup.Yaml
