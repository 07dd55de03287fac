import Lookup.Yaml.Lexer
import Lookup.Yaml.NodeType

/-!
# The nodes of a document

A document is made of scalars, sequences and mappings. Sequences and mappings have numbers. An alias stands
for the node of its anchor, whose number it has. The entries of a mapping that is merged into another one
come before the other's own.

## Main definitions

* `Node` — the nodes
* `mergeEntries` — the entries of a mapping with those merged into it
* `Reading` — the state of reading nodes from tokens
* `readDocument` — the node of a document
-/

namespace Lookup.Yaml

/-- A node of a document. -/
inductive Node where
  | scalar (type : NodeType) (text : String)
  | sequence (number : Nat) (type : NodeType) (items : List Node)
  /-- A mapping, and whether all that is merged into it are mappings. -/
  | mapping (number : Nat) (type : NodeType) (entries : List (Node × Node)) (sound : Bool)
  /-- An alias for the node of a number that it is itself a part of. -/
  | loop (number : Nat)

/-- The type of a node. -/
def Node.type : Node → NodeType
  | .scalar type _ | .sequence _ type _ | .mapping _ type _ _ => type
  | .loop _ => .map

/-- The entries of the mappings in a list, those of the last mapping first, if there are only
mappings. -/
def mappingEntries? : List Node → Option (List (Node × Node))
  | [] => some []
  | .mapping _ _ entries true :: rest => (mappingEntries? rest).map (· ++ entries)
  | _ => none

/-- The entries that the value of a merge key brings in. -/
def mergedEntries? : Node → Option (List (Node × Node))
  | .mapping _ _ entries true => some entries
  | .sequence _ _ items => mappingEntries? items
  | .loop _ => some []
  | _ => none

/-- The entries of a mapping with those that its merge keys bring in before its own, and whether all of
them do. -/
def mergeEntries (entries : List (Node × Node)) : List (Node × Node) × Bool :=
  let merges := entries.filter fun entry => entry.1.type = .merge
  let own := entries.filter fun entry => entry.1.type ≠ .merge
  match merges.mapM fun entry => mergedEntries? entry.2 with
  | some merged => (merged.flatten ++ own, true)
  | none => (own, false)

/-- The mapping of a type with the given entries as they are written. -/
def Node.ofEntries (number : Nat) (type : NodeType) (entries : List (Node × Node)) : Node :=
  let (entries, sound) := mergeEntries entries
  .mapping number type entries sound

/-- The node where nothing is written. -/
def Node.empty : Node := .scalar .null ""

/-! ### Reading nodes -/

/-- The state of reading nodes. -/
structure Reading where
  /-- The tokens that are left. -/
  tokens : List Token
  /-- What is wrong after the last token. -/
  flaw? : Option Flaw
  /-- The anchors with their nodes. -/
  anchors : List (String × Node)
  /-- The next number. -/
  count : Nat
  /-- What the handles of tags stand for. -/
  handles : List (String × String)

/-- A computation that reads nodes. -/
abbrev Reader := StateT Reading (Except Flaw)

namespace Reader

/-- Ends reading at a break of the rules. -/
def invalid {α : Type} : Reader α := throw .invalid

/-- The next token; none at the end. -/
def peek : Reader (Option Token) := do
  let state ← get
  match state.tokens, state.flaw? with
  | token :: _, _ => pure (some token)
  | [], some flaw => throw flaw
  | [], none => pure none

/-- Goes on after the next token. -/
def skip : Reader Unit := modify fun state => { state with tokens := state.tokens.tail }

/-- Goes on after the next token if it is the given one. -/
def accept (token : Token) : Reader Bool := do
  if (← peek) = some token then
    skip
    pure true
  else pure false

/-- Whether the next token is one of those given. -/
def at? (tokens : List Token) : Reader Bool := do
  match ← peek with
  | some token => pure (tokens.contains token)
  | none => pure false

/-- The anchor that comes next, if one does. -/
def anchor? : Reader (Option String) := do
  match ← peek with
  | some (.anchor name) =>
    skip
    pure (some name)
  | _ => pure none

/-- The tag that comes next, if one does. -/
def tag? : Reader (Option (Option String × String)) := do
  match ← peek with
  | some (.tag handle? rest) =>
    skip
    pure (some (handle?, rest))
  | _ => pure none

/-- The whole text of a tag. -/
def tagText (handle? : Option String) (rest : String) : Reader String := do
  match handle? with
  | none => pure rest
  | some handle =>
    match (← get).handles.lookup handle with
    | some start => pure (start ++ rest)
    | none => invalid

/-- The anchor and the tag in front of a node, in either order. -/
def properties : Reader (Option String × Option String) := do
  let first ← anchor?
  let tag ← tag?
  let anchor ← if first.isNone ∧ tag.isSome then anchor? else pure first
  match tag with
  | none => pure (anchor, none)
  | some (handle?, rest) => pure (anchor, some (← tagText handle? rest))

/-- Notes the node of an anchor. -/
def bindAnchor (name? : Option String) (node : Node) : Reader Unit :=
  match name? with
  | none => pure ()
  | some name => modify fun state => { state with anchors := (name, node) :: state.anchors }

/-- The number of a node that begins. In the node itself its anchor leads back to it. -/
def begin (name? : Option String) : Reader Nat := do
  let number := (← get).count
  modify fun state => { state with count := number + 1 }
  bindAnchor name? (.loop number)
  pure number

/-- The node of an alias. -/
def aliased (name : String) : Reader Node := do
  match (← get).anchors.lookup name with
  | none => invalid
  | some node => pure node

/-- The type of a node with a tag, or of one without that is of the type `default`. -/
def typeOf (tag? : Option String) (default : NodeType) : NodeType :=
  match tag? with
  | none | some "!" => default
  | some tag => .ofTag tag

/-- The type of a scalar. -/
def scalarType (tag? : Option String) (text : String) (plain : Bool) : NodeType :=
  match tag? with
  | none => if plain then plainType text else .str
  | some "!" => plainType text
  | some tag => .ofTag tag

/-- A node of which only an anchor or a tag is written. -/
def missing (name? tag? : Option String) : Reader Node :=
  if name?.isNone ∧ tag?.isNone then invalid
  else pure (.scalar (scalarType tag? "" true) "")

mutual

/-- A node. A node in a block may be a block collection, and a value in a mapping may be a sequence
that is not indented. -/
def node (fuel : Nat) (block indentless : Bool) : Reader Node := do
  match fuel with
  | 0 => invalid
  | fuel + 1 =>
    match ← peek with
    | some (.alias name) =>
      skip
      aliased name
    | _ =>
      let (name?, tag?) ← properties
      match name? with
      | some name => if ((← get).anchors.lookup name).isSome then invalid
      | none => pure ()
      let result ← content fuel block indentless name? tag?
      bindAnchor name? result
      pure result

/-- What follows the anchor and the tag of a node. -/
def content (fuel : Nat) (block indentless : Bool) (name? tag? : Option String) :
    Reader Node := do
  match fuel with
  | 0 => invalid
  | fuel + 1 =>
    match ← peek with
    | some (.scalar text plain) =>
      skip
      pure (.scalar (scalarType tag? text plain) text)
    | some .flowSequenceStart =>
      skip
      let number ← begin name?
      (Node.sequence number (typeOf tag? .seq)) <$> flowItems fuel true
    | some .flowMappingStart =>
      skip
      let number ← begin name?
      (Node.ofEntries number (typeOf tag? .map)) <$> flowEntries fuel true
    | some .blockEntry =>
      if indentless then
        let number ← begin name?
        (Node.sequence number (typeOf tag? .seq)) <$> blockItems fuel true
      else missing name? tag?
    | some .blockSequenceStart =>
      if block then
        skip
        let number ← begin name?
        (Node.sequence number (typeOf tag? .seq)) <$> blockItems fuel false
      else missing name? tag?
    | some .blockMappingStart =>
      if block then
        skip
        let number ← begin name?
        (Node.ofEntries number (typeOf tag? .map)) <$> blockEntries fuel
      else missing name? tag?
    | _ => missing name? tag?

/-- The items of a block sequence. One that is not indented ends without a mark. -/
def blockItems (fuel : Nat) (indentless : Bool) : Reader (List Node) := do
  match fuel with
  | 0 => invalid
  | fuel + 1 =>
    if ← accept .blockEntry then
      -- An entry with nothing written ends where the next one or the mapping around it goes on.
      let ends := if indentless then [.blockEntry, .key, .value, .blockEnd]
        else [.blockEntry, .blockEnd]
      let item ← if ← at? ends then pure .empty else node fuel true false
      let rest ← blockItems fuel indentless
      pure (item :: rest)
    else if indentless then pure []
    else if ← accept .blockEnd then pure []
    else invalid

/-- The entries of a block mapping. -/
def blockEntries (fuel : Nat) : Reader (List (Node × Node)) := do
  match fuel with
  | 0 => invalid
  | fuel + 1 =>
    if ← accept .key then
      let key ← blockPart fuel
      let value ←
        if ← accept .value then blockPart fuel else pure .empty
      let rest ← blockEntries fuel
      pure ((key, value) :: rest)
    else if ← accept .blockEnd then pure []
    else invalid

/-- A key or a value of a block mapping. -/
def blockPart (fuel : Nat) : Reader Node := do
  match fuel with
  | 0 => invalid
  | fuel + 1 =>
    if ← at? [.key, .value, .blockEnd] then pure .empty else node fuel true true

/-- The items of a flow sequence. An item may be a single entry of a mapping. -/
def flowItems (fuel : Nat) (first : Bool) : Reader (List Node) := do
  match fuel with
  | 0 => invalid
  | fuel + 1 =>
    if ← accept .flowSequenceEnd then pure []
    else
      unless first do
        unless ← accept .flowEntry do invalid
      if ← accept .flowSequenceEnd then pure []
      else
        let item ←
          if ← accept .key then
            let number ← begin none
            let key ← flowPart fuel [.value, .flowEntry, .flowSequenceEnd]
            let value ←
              if ← accept .value then flowPart fuel [.flowEntry, .flowSequenceEnd]
              else pure .empty
            pure (Node.ofEntries number .map [(key, value)])
          else node fuel false false
        let rest ← flowItems fuel false
        pure (item :: rest)

/-- The entries of a flow mapping. An item without a mark is a key. -/
def flowEntries (fuel : Nat) (first : Bool) : Reader (List (Node × Node)) := do
  match fuel with
  | 0 => invalid
  | fuel + 1 =>
    if ← accept .flowMappingEnd then pure []
    else
      unless first do
        unless ← accept .flowEntry do invalid
      if ← accept .flowMappingEnd then pure []
      else
        let entry ←
          if ← accept .key then
            let key ← flowPart fuel [.value, .flowEntry, .flowMappingEnd]
            let value ←
              if ← accept .value then flowPart fuel [.flowEntry, .flowMappingEnd]
              else pure .empty
            pure (key, value)
          else
            let key ← node fuel false false
            pure (key, .empty)
        let rest ← flowEntries fuel false
        pure (entry :: rest)

/-- A key or a value in a flow collection, empty before one of the given tokens. -/
def flowPart (fuel : Nat) (ends : List Token) : Reader Node := do
  match fuel with
  | 0 => invalid
  | fuel + 1 => if ← at? ends then pure .empty else node fuel false false

end

/-! ### Documents -/

/-- The handles that tags may use without a directive. -/
def defaultHandles : List (String × String) := [("!", "!"), ("!!", tagStart)]

/-- Reads directives: whether one has stated the version, and what handles stand for. -/
def directives (fuel : Nat) (versioned : Bool) (handles : List (String × String)) :
    Reader (List (String × String)) := do
  match fuel with
  | 0 => invalid
  | fuel + 1 =>
    match ← peek with
    | some (.version major) =>
      skip
      if versioned ∨ major ≠ 1 then invalid else directives fuel true handles
    | some (.handle handle start) =>
      skip
      if (handles.lookup handle).isSome then invalid
      else directives fuel versioned ((handle, start) :: handles)
    | some .directive =>
      skip
      directives fuel versioned handles
    | _ => pure handles

/-- Goes on after marks of the end of a document. -/
def skipEnds (fuel : Nat) : Reader Unit := do
  match fuel with
  | 0 => pure ()
  | fuel + 1 => if ← accept .documentEnd then skipEnds fuel

/-- A document with directives or a mark at its start. -/
def markedDocument (fuel : Nat) : Reader Node := do
  let handles ← directives fuel false []
  unless ← accept .documentStart do invalid
  modify fun state => { state with handles := handles ++ defaultHandles }
  match ← peek with
  | none | some (.version _) | some (.handle _ _) | some .directive | some .documentStart
  | some .documentEnd => pure .empty
  | _ => node fuel true false

/-- The only document, if there is one. -/
def onlyDocument (fuel : Nat) : Reader (Option Node) := do
  match ← peek with
  | none => pure none
  | some (.version _) | some (.handle _ _) | some .directive | some .documentStart =>
    let result ← markedDocument fuel
    finish result
  | _ =>
    modify fun state => { state with handles := defaultHandles }
    let result ← node fuel true false
    finish result
where
  /-- A document after which none may follow. -/
  finish (result : Node) : Reader (Option Node) := do
    skipEnds fuel
    match ← peek with
    | none => pure (some result)
    | some _ => invalid

end Reader

/-- The node of the only document in a text, if there is one. -/
def readDocument (text : List Char) : Except Flaw (Option Node) :=
  if !text.all isAllowed then .error .invalid
  else
    let (tokens, flaw?) := tokens (unifyBreaks text)
    ((Reader.onlyDocument (4 * tokens.length + 8)).run ⟨tokens, flaw?, [], 0, []⟩).map (·.1)

end Lookup.Yaml
