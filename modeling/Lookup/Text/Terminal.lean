import Lookup.Text.Identifier

/-!
# Control sequences of terminals

A text may hold sequences that a terminal obeys instead of showing them. They begin with the escape
character. What is not written to a terminal is written without the sequences for colours and for the
cursor; the width of a text is that of what a terminal shows.

## Main definitions

* `colourLength?` — the length of a sequence for colours or the cursor
* `dropColours` — a text without such sequences
* `controlLength?`, `linkAt?` — any control sequence, and a link with its shown text
* `shown` — what a terminal shows of a text
-/

namespace Lookup.Text

/-- The escape character. -/
def escapeChar : Char := '\x1b'

/-- Whether the code point of a character lies in a range. -/
def within (low high : Nat) (c : Char) : Bool := low ≤ c.toNat && c.toNat ≤ high

/-- The length of the sequence for colours or the cursor with which a text begins: parameters between
a bracket and a letter. -/
def colourLength? (text : List Char) : Option Nat :=
  match text with
  | '\x1b' :: '[' :: rest =>
    let parameters := rest.takeWhile fun c => c.isDigit || c = ';' || c = '?'
    match rest.drop parameters.length with
    | c :: _ => if c.isAlpha then some (parameters.length + 3) else none
    | [] => none
  | _ => none

/-- A text without the sequences for colours and the cursor, its first `skip` characters left out. -/
def dropColoursAfter (skip : Nat) : List Char → List Char
  | [] => []
  | c :: rest =>
    match skip with
    | skip + 1 => dropColoursAfter skip rest
    | 0 =>
      match colourLength? (c :: rest) with
      | some length => dropColoursAfter (length - 1) rest
      | none => c :: dropColoursAfter 0 rest

/-- A text without the sequences for colours and the cursor. -/
def dropColours (text : String) : String := String.ofList (dropColoursAfter 0 text.toList)

/-- The length of the control sequence with which a text begins: parameters, intermediates and a
final character after a bracket. -/
def controlLength? (text : List Char) : Option Nat :=
  match text with
  | '\x1b' :: '[' :: rest =>
    let parameters := rest.takeWhile (within 0x30 0x3F)
    let after := rest.drop parameters.length
    let intermediates := after.takeWhile (within 0x20 0x2F)
    match after.drop intermediates.length with
    | c :: _ =>
      if within 0x40 0x7E c then some (parameters.length + intermediates.length + 3) else none
    | [] => none
  | _ => none

/-! ### Links -/

/-- Where a reader of the parameters of a link stands. -/
inductive LinkState where
  /-- Before a parameter. -/
  | start
  /-- In a name. -/
  | name
  /-- Behind the equals sign. -/
  | equals
  /-- Behind the first character of a value. -/
  | value
  /-- Behind a later character of a value, the last of which may begin another name. -/
  | valueOrName
  deriving DecidableEq, Repr

/-- Whether a character may stand in a name or a value. -/
def isWordChar (c : Char) : Bool := identifierContinue.contains c

/-- Where a reader stands after one more character. -/
def LinkState.next? (state : LinkState) (c : Char) : Option LinkState :=
  if isWordChar c then
    match state with
    | .start | .name => some .name
    | .equals => some .value
    | .value | .valueOrName => some .valueOrName
  else if c = '=' then
    match state with
    | .name | .valueOrName => some .equals
    | _ => none
  else if c = ':' then
    match state with
    | .value | .valueOrName => some .start
    | _ => none
  else none

/-- Whether a text is a list of parameters of a link, each a name and a value joined by an equals sign;
colons may stand behind them. -/
def isLinkParameters (text : List Char) : Bool :=
  match text.foldlM LinkState.next? .start with
  | some .start | some .value | some .valueOrName => true
  | _ => false

/-- The text without `mark` in front. -/
def dropMark? (mark text : List Char) : Option (List Char) :=
  if mark.isPrefixOf text then some (text.drop mark.length) else none

/-- A part of a link up to the next escape character, which may not be empty, and what follows the
mark there. -/
def linkPart? (mark text : List Char) : Option (List Char × List Char) :=
  let part := text.takeWhile fun c => c ≠ escapeChar
  if part = [] then none else (dropMark? mark (text.drop part.length)).map fun rest => (part, rest)

/-- The text that is shown of the link with which a text begins, and what follows the link. -/
def linkAt? (text : List Char) : Option (List Char × List Char) := do
  let rest ← dropMark? [escapeChar, ']', '8', ';'] text
  let parameters := rest.takeWhile fun c => c ≠ ';'
  let rest ← dropMark? [';'] (rest.drop parameters.length)
  if isLinkParameters parameters then
    let (_, rest) ← linkPart? [escapeChar, '\\'] rest
    linkPart? [escapeChar, ']', '8', ';', ';', escapeChar, '\\'] rest
  else none

/-! ### Shown text -/

/-- The length of the control sequence or link with which a text begins, and what is shown of it. -/
def sequence? (text : List Char) : Option (Nat × List Char) :=
  match controlLength? text with
  | some length => some (length, [])
  | none => (linkAt? text).map fun (part, rest) => (text.length - rest.length, part)

/-- What a terminal shows of a text, its first `skip` characters left out. -/
def shownAfter (skip : Nat) : List Char → List Char
  | [] => []
  | c :: rest =>
    match skip with
    | skip + 1 => shownAfter skip rest
    | 0 =>
      match sequence? (c :: rest) with
      | some (length, part) => part ++ shownAfter (length - 1) rest
      | none => c :: shownAfter 0 rest

/-- What a terminal shows of a text. -/
def shown (text : List Char) : List Char := shownAfter 0 text

/-- Whether a text holds a control sequence or a link. -/
def hasSequence : List Char → Bool
  | [] => false
  | c :: rest => (sequence? (c :: rest)).isSome || hasSequence rest

end Lookup.Text
