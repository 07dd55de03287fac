import Lookup.Text.Encoding
import Lookup.Yaml.ScalarText

/-!
# The tokens of a text

The tokens are found from left to right. Outside of flow collections the columns at which collections
start are kept on a stack, and a line that starts further to the left closes those to its right. A
scalar, an alias or a collection may turn out to be a key when a colon follows on its line: it is kept
as a possible key, and the token for the key is put in front of it then.

## Main definitions

* `Lexer` — how far a text has been read
* `Lexer.step` — reading one more token
* `tokens` — the tokens of a text, and the flaw that ends them
-/

namespace Lookup.Yaml

open Text

/-! ### Names, tags and directives -/

/-- Whether a character may stand in the name of an anchor, a handle or a directive. -/
def isNameChar (c : Char) : Bool := c.isAlphanum || c = '-' || c = '_'

/-- The name of an anchor or an alias. -/
def anchorName (rest : List Placed) : Except Flaw (String × List Placed) :=
  let (name, after) := takeText isNameChar rest
  let ends := isGap (next after) || next after ∈ ['?', ':', ',', ']', '\x7d', '%', '@', '\x60']
  if name = [] ∨ !ends then .error .invalid else .ok (String.ofList name, after)

/-- Whether a character may stand in a tag. -/
def isTagChar (c : Char) : Bool :=
  c.isAlphanum ||
    c ∈ ['-', ';', '/', '?', ':', '@', '&', '=', '+', '$', ',', '_', '.', '!', '~', '*', '\x27',
      '(', ')', '[', ']']

/-- The characters of a tag, and the bytes that are written in hexadecimal digits. -/
def tagPieces : List Placed → Except Flaw (List (Char ⊕ UInt8) × List Placed)
  | [] => .ok ([], [])
  | p :: rest =>
    if p.char = '%' then
      match rest with
      | a :: b :: more =>
        match hexValue? a.char, hexValue? b.char with
        | some high, some low =>
          (tagPieces more).map fun (pieces, rest) =>
            (.inr (UInt8.ofNat (high * 16 + low)) :: pieces, rest)
        | _, _ => .error .invalid
      | _ => .error .invalid
    else if isTagChar p.char then
      (tagPieces rest).map fun (pieces, rest) => (.inl p.char :: pieces, rest)
    else .ok ([], p :: rest)

/-- The text of the pieces of a tag, of which the bytes just read are `held`, the last one first. -/
def joinPieces? (held : Bytes) : List (Char ⊕ UInt8) → Option (List Char)
  | [] => decodeUtf8? held.reverse
  | .inr b :: rest => joinPieces? (b :: held) rest
  | .inl c :: rest =>
    match decodeUtf8? held.reverse, joinPieces? [] rest with
    | some text, some more => some (text ++ c :: more)
    | _, _ => none

/-- The rest of a tag after its handle. -/
def tagRest (rest : List Placed) : Except Flaw (String × List Placed) :=
  match tagPieces rest with
  | .error flaw => .error flaw
  | .ok (pieces, after) =>
    match joinPieces? [] pieces with
    | none => .error .invalid
    | some text =>
      if pieces.isEmpty then .error .invalid else .ok (String.ofList text, after)

/-- A handle: an exclamation mark, or a name between two. -/
def tagHandle : List Placed → Except Flaw (String × List Placed)
  | p :: rest =>
    if p.char ≠ '!' then .error .invalid
    else if next rest = ' ' then .ok ("!", rest)
    else
      let (name, after) := takeText isNameChar rest
      if next after = '!' then .ok (String.ofList ('!' :: name ++ ['!']), after.tail)
      else .error .invalid
  | [] => .error .invalid

/-- A tag, whose exclamation mark comes next. -/
def tagToken (rest : List Placed) : Except Flaw (Token × List Placed) :=
  let after := rest.tail
  let finish (handle? : Option String) : String × List Placed → Except Flaw (Token × List Placed) :=
    fun (text, rest) =>
      if isSpaceOrEnd (next rest) then .ok (.tag handle? text, rest) else .error .invalid
  if next after = '<' then
    match tagRest after.tail with
    | .error flaw => .error flaw
    | .ok (text, rest) =>
      if next rest = '>' then finish none (text, rest.tail) else .error .invalid
  else if isGap (next after) then finish none ("!", after)
  else
    -- A second exclamation mark in the word ends a handle.
    let (word, _) := takeText (fun c => !isSpaceOrEnd c) after
    if word.contains '!' then
      match tagHandle rest with
      | .error flaw => .error flaw
      | .ok (handle, rest) => (tagRest rest).bind (finish (some handle))
    else (tagRest after).bind (finish (some "!"))

/-- A number in a directive. -/
def directiveNumber (rest : List Placed) : Except Flaw (Nat × List Placed) :=
  let (digits, after) := takeText Char.isDigit rest
  if digits = [] then .error .invalid
  else if digitLimit < digits.length then .error (.fault .badScalar)
  else .ok (digits.foldl (fun n c => n * 10 + (c.toNat - 48)) 0, after)

/-- What comes after spaces. -/
def skipSpaces (rest : List Placed) : List Placed := (takeText (fun c => c = ' ') rest).2

/-- The version that a directive states. -/
def versionToken (rest : List Placed) : Except Flaw (Token × List Placed) :=
  match directiveNumber (skipSpaces rest) with
  | .error flaw => .error flaw
  | .ok (major, rest) =>
    if next rest ≠ '.' then .error .invalid
    else
      match directiveNumber rest.tail with
      | .error flaw => .error flaw
      | .ok (_, rest) =>
        if isSpaceOrEnd (next rest) then .ok (.version major, rest) else .error .invalid

/-- The handle and what it stands for in a directive. -/
def handleToken (rest : List Placed) : Except Flaw (Token × List Placed) :=
  match tagHandle (skipSpaces rest) with
  | .error flaw => .error flaw
  | .ok (handle, rest) =>
    if next rest ≠ ' ' then .error .invalid
    else
      match tagRest (skipSpaces rest) with
      | .error flaw => .error flaw
      | .ok (start, rest) =>
        if isSpaceOrEnd (next rest) then .ok (.handle handle start, rest) else .error .invalid

/-- A directive, whose percent sign comes next. -/
def directiveToken (rest : List Placed) : Except Flaw (Token × List Placed) :=
  let (name, after) := takeText isNameChar rest.tail
  if name = [] ∨ !isSpaceOrEnd (next after) then .error .invalid
  else
    let token :=
      if name = "YAML".toList then versionToken after
      else if name = "TAG".toList then handleToken after
      else .ok (.directive, (takeText (fun c => !isLineEnd c) after).2)
    match token with
    | .error flaw => .error flaw
    | .ok (token, rest) => (restOfLine rest).map fun rest => (token, rest)

/-! ### The state of reading -/

/-- A place where a key may have started. -/
structure PossibleKey where
  /-- The number of tokens before it. -/
  before : Nat
  /-- Whether nothing but a key may stand there. -/
  required : Bool
  index : Nat
  line : Nat
  column : Nat

/-- How far a text has been read. -/
structure Lexer where
  /-- What is left of the text. -/
  rest : List Placed
  /-- The tokens so far, the last one first. -/
  found : List Token
  /-- The number of flow collections that are open. -/
  flow : Nat
  /-- The columns of the block collections that are open, the innermost first. -/
  indents : List Nat
  /-- Whether a key may start at the next token. -/
  keyAllowed : Bool
  /-- The possible keys by the number of flow collections around them. -/
  keys : List (Nat × PossibleKey)

namespace Lexer

/-- The column of the innermost block collection, one less than the least where there is none. -/
def indent (lexer : Lexer) : Int := (lexer.indents.head?.map Int.ofNat).getD (-1)

/-- The column of what comes next. -/
def column (lexer : Lexer) : Nat := (here lexer.rest).column

/-- Adds a token. -/
def emit (lexer : Lexer) (token : Token) : Lexer := { lexer with found := token :: lexer.found }

/-- Puts tokens in front of the last ones, so that `before` tokens come before them. -/
def insertAt (lexer : Lexer) (before : Nat) (tokens : List Token) : Lexer :=
  let later := lexer.found.length - before
  { lexer with
    found := lexer.found.take later ++ tokens.reverse ++ lexer.found.drop later }

/-- Goes on after a number of characters. -/
def skip (lexer : Lexer) (count : Nat) : Lexer := { lexer with rest := lexer.rest.drop count }

/-- Drops the possible key at the present depth, which must not be required. -/
def dropKey (lexer : Lexer) : Except Flaw Lexer :=
  match lexer.keys.lookup lexer.flow with
  | none => .ok lexer
  | some key =>
    if key.required then .error .invalid
    else .ok { lexer with keys := lexer.keys.filter fun entry => entry.1 ≠ lexer.flow }

/-- Notes that a key may start here, if one may. -/
def saveKey (lexer : Lexer) : Except Flaw Lexer :=
  if !lexer.keyAllowed then .ok lexer
  else
    lexer.dropKey.map fun lexer =>
      let place := here lexer.rest
      -- A block collection is open here, so that only its next key can follow.
      let required := lexer.flow = 0 ∧ lexer.indents.head? = some place.column
      let key : PossibleKey :=
        ⟨lexer.found.length, required, place.index, place.line, place.column⟩
      { lexer with keys := (lexer.flow, key) :: lexer.keys }

/-- The most characters in a key that is not marked as one. -/
def keyLimit : Nat := 1024

/-- Drops the possible keys that started on an earlier line or too long ago; none of them must be
required. -/
def dropStale (lexer : Lexer) : Except Flaw Lexer :=
  let place := here lexer.rest
  let stale (key : PossibleKey) : Bool :=
    key.line ≠ place.line || key.index + keyLimit < place.index
  if lexer.keys.any fun entry => stale entry.2 && entry.2.required then .error .invalid
  else .ok { lexer with keys := lexer.keys.filter fun entry => !stale entry.2 }

/-- Closes the block collections that start to the right of a column, unless in a flow collection. -/
def unwind (lexer : Lexer) (column : Int) : Lexer :=
  if lexer.flow ≠ 0 then lexer
  else
    -- Inner collections end first, so that their ends are added first.
    let closed := lexer.indents.takeWhile fun indent : Nat => column < (indent : Int)
    { lexer with
      found := closed.map (fun _ => Token.blockEnd) ++ lexer.found
      indents := lexer.indents.drop closed.length }

/-- Opens a block collection at a column, unless one that starts there or further to the right is open:
the tokens to be added for it. -/
def openBlock (lexer : Lexer) (column : Nat) (token : Token) : Lexer × List Token :=
  if lexer.indent < column then
    ({ lexer with indents := column :: lexer.indents }, [token])
  else (lexer, [])

/-! ### Reading tokens -/

/-- Goes on after blanks, comments and line breaks: what is left, and whether a line was broken. -/
def skipGap (comment : Bool) : List Placed → Bool × List Placed
  | [] => (false, [])
  | p :: rest =>
    if isBreak p.char then (true, (skipGap false rest).2)
    else if p.char = endMark then (false, p :: rest)
    else if comment then skipGap true rest
    else if p.char = ' ' then skipGap false rest
    else if p.char = '#' then skipGap true rest
    else (false, p :: rest)

/-- Goes on to the next token. -/
def toToken (lexer : Lexer) : Lexer :=
  let place := here lexer.rest
  -- A byte order mark counts only where the text begins.
  let rest := if place.index = 0 ∧ place.char = orderMark then lexer.rest.tail else lexer.rest
  let (broken, rest) := skipGap false rest
  { lexer with rest := rest, keyAllowed := lexer.keyAllowed || (broken && lexer.flow = 0) }

/-- Reads a mark between documents. -/
def documentMark (lexer : Lexer) (token : Token) : Except Flaw Lexer :=
  (lexer.unwind (-1)).dropKey.map fun lexer =>
    (({ lexer with keyAllowed := false } : Lexer).skip 3).emit token

/-- Reads a directive. -/
def directive (lexer : Lexer) : Except Flaw Lexer :=
  match (lexer.unwind (-1)).dropKey with
  | .error flaw => .error flaw
  | .ok lexer =>
    (directiveToken lexer.rest).map fun (token, rest) =>
      ({ lexer with keyAllowed := false, rest := rest } : Lexer).emit token

/-- Reads the start of a flow collection. -/
def flowStart (lexer : Lexer) (token : Token) : Except Flaw Lexer :=
  lexer.saveKey.map fun lexer =>
    (({ lexer with flow := lexer.flow + 1, keyAllowed := true } : Lexer).skip 1).emit token

/-- Reads the end of a flow collection. -/
def flowEnd (lexer : Lexer) (token : Token) : Except Flaw Lexer :=
  if lexer.flow = 0 then .error .invalid
  else
    lexer.dropKey.map fun lexer =>
      (({ lexer with flow := lexer.flow - 1, keyAllowed := false } : Lexer).skip 1).emit token

/-- Reads the mark between entries of a flow collection. -/
def flowEntry (lexer : Lexer) : Except Flaw Lexer :=
  lexer.dropKey.map fun lexer =>
    (({ lexer with keyAllowed := true } : Lexer).skip 1).emit .flowEntry

/-- Reads the mark of an entry of a block sequence. -/
def blockEntry (lexer : Lexer) : Except Flaw Lexer :=
  if lexer.flow = 0 ∧ !lexer.keyAllowed then .error .invalid
  else
    let (lexer, opening) :=
      if lexer.flow = 0 then lexer.openBlock lexer.column .blockSequenceStart else (lexer, [])
    ({ lexer with found := opening ++ lexer.found } : Lexer).dropKey.map fun lexer =>
      (({ lexer with keyAllowed := true } : Lexer).skip 1).emit .blockEntry

/-- Reads the mark of a key. -/
def keyMark (lexer : Lexer) : Except Flaw Lexer :=
  if lexer.flow = 0 ∧ !lexer.keyAllowed then .error .invalid
  else
    let (lexer, opening) :=
      if lexer.flow = 0 then lexer.openBlock lexer.column .blockMappingStart else (lexer, [])
    ({ lexer with found := opening ++ lexer.found } : Lexer).dropKey.map fun lexer =>
      (({ lexer with keyAllowed := lexer.flow = 0 } : Lexer).skip 1).emit .key

/-- Reads the mark of a value. What may have been a key at the present depth is one. -/
def valueMark (lexer : Lexer) : Except Flaw Lexer :=
  match lexer.keys.lookup lexer.flow with
  | some key =>
    let lexer := { lexer with keys := lexer.keys.filter fun entry => entry.1 ≠ lexer.flow }
    let (lexer, opening) :=
      if lexer.flow = 0 then lexer.openBlock key.column .blockMappingStart else (lexer, [])
    -- The mark of the key belongs in front of what has been read since.
    let lexer := lexer.insertAt key.before (opening ++ [.key])
    .ok ((({ lexer with keyAllowed := false } : Lexer).skip 1).emit .value)
  | none =>
    if lexer.flow = 0 ∧ !lexer.keyAllowed then .error .invalid
    else
      let (lexer, opening) :=
        if lexer.flow = 0 then lexer.openBlock lexer.column .blockMappingStart else (lexer, [])
      let lexer := { lexer with found := opening ++ lexer.found, keyAllowed := lexer.flow = 0 }
      .ok ((lexer.skip 1).emit .value)

/-- Reads a token after which no key may start and which may start one itself. -/
def keyLike (lexer : Lexer) (read : List Placed → Except Flaw (Token × List Placed)) :
    Except Flaw Lexer :=
  match lexer.saveKey with
  | .error flaw => .error flaw
  | .ok lexer =>
    (read lexer.rest).map fun (token, rest) =>
      ({ lexer with keyAllowed := false, rest := rest } : Lexer).emit token

/-- Reads a block of lines. -/
def block (lexer : Lexer) (folded : Bool) : Except Flaw Lexer :=
  match lexer.dropKey with
  | .error flaw => .error flaw
  | .ok lexer =>
    (blockText folded lexer.indent lexer.rest.tail).map fun (text, rest) =>
      ({ lexer with keyAllowed := true, rest := rest } : Lexer).emit
        (.scalar (String.ofList text) false)

/-- Reads a scalar between quotes. -/
def quoted (lexer : Lexer) (double : Bool) : Except Flaw Lexer :=
  lexer.keyLike fun rest =>
    (quotedText double rest.tail).map fun (text, rest) =>
      (.scalar (String.ofList text) false, rest)

/-- Reads a plain scalar. A key may start after it if its last line was broken. -/
def plain (lexer : Lexer) : Except Flaw Lexer :=
  lexer.saveKey.map fun lexer =>
    let (text, broken, rest) := plainText (lexer.flow ≠ 0) (lexer.indent + 1) lexer.rest
    ({ lexer with keyAllowed := broken, rest := rest } : Lexer).emit
      (.scalar (String.ofList text) true)

/-- Whether a plain scalar may start with a character, given the character after it. -/
def startsPlain (flow : Bool) (c after : Char) : Bool :=
  let marks : List Char :=
    ['-', '?', ':', ',', '[', ']', '\x7b', '\x7d', '#', '&', '*', '!', '|', '>', '\x27', '\x22',
      '%', '@', '\x60']
  (!isGap c && !marks.contains c) ||
    (!isGap after && (c = '-' || (!flow && (c = '?' || c = ':'))))

/-- Reads the token that comes next. -/
def readToken (lexer : Lexer) : Except Flaw Lexer :=
  let rest := lexer.rest
  let c := next rest
  let after := next rest.tail
  let flow := lexer.flow ≠ 0
  -- Marks at the start of a line come first, since they may also begin a plain scalar.
  if c = '%' ∧ lexer.column = 0 then lexer.directive
  else if lexer.column = 0 ∧ startsWithMark '-' rest then lexer.documentMark .documentStart
  else if lexer.column = 0 ∧ startsWithMark '.' rest then lexer.documentMark .documentEnd
  else if c = '[' then lexer.flowStart .flowSequenceStart
  else if c = '\x7b' then lexer.flowStart .flowMappingStart
  else if c = ']' then lexer.flowEnd .flowSequenceEnd
  else if c = '\x7d' then lexer.flowEnd .flowMappingEnd
  else if c = ',' then lexer.flowEntry
  else if c = '-' ∧ isGap after then lexer.blockEntry
  else if c = '?' ∧ (flow ∨ isGap after) then lexer.keyMark
  else if c = ':' ∧ (flow ∨ isGap after) then lexer.valueMark
  else if c = '*' then
    lexer.keyLike fun rest => (anchorName rest.tail).map fun (name, rest) => (.alias name, rest)
  else if c = '&' then
    lexer.keyLike fun rest => (anchorName rest.tail).map fun (name, rest) => (.anchor name, rest)
  else if c = '!' then lexer.keyLike tagToken
  else if c = '|' ∧ !flow then lexer.block false
  else if c = '>' ∧ !flow then lexer.block true
  else if c = '\x27' then lexer.quoted false
  else if c = '\x22' then lexer.quoted true
  else if startsPlain flow c after then lexer.plain
  else .error .invalid

/-- Reads the end of the text. -/
def finish (lexer : Lexer) : Except Flaw Lexer := (lexer.unwind (-1)).dropKey

/-- Goes on to the next token; all possible keys and open block collections that it ends are seen
to. -/
def advance (lexer : Lexer) : Except Flaw Lexer :=
  lexer.toToken.dropStale.map fun lexer => lexer.unwind lexer.column

/-- Reads tokens up to the end, `fuel` of them at most: the tokens and the flaw that ends them. -/
def run (fuel : Nat) (lexer : Lexer) : List Token × Option Flaw :=
  match fuel with
  | 0 => (lexer.found.reverse, some .invalid)
  | fuel + 1 =>
    match lexer.advance with
    | .error flaw => (lexer.found.reverse, some flaw)
    | .ok lexer =>
      if next lexer.rest = endMark then
        match lexer.finish with
        | .error flaw => (lexer.found.reverse, some flaw)
        | .ok lexer => (lexer.found.reverse, none)
      else
        match lexer.readToken with
        | .error flaw => (lexer.found.reverse, some flaw)
        | .ok lexer => run fuel lexer

end Lexer

/-- The tokens of a text, and the flaw that ends them before the end of the text. -/
def tokens (text : List Char) : List Token × Option Flaw :=
  let rest := place text
  Lexer.run (rest.length + 1) ⟨rest, [], 0, [], true, []⟩

end Lookup.Yaml
