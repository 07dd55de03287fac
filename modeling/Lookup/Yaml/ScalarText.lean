import Lookup.Text.Encoding
import Lookup.Text.Hex
import Lookup.Yaml.Placed
import Lookup.Yaml.Token

/-!
# The texts of scalars

A scalar is plain, stands between quotes, or is a block of lines. Line breaks within plain and quoted
scalars are folded: one becomes a space, and of several the first is dropped.

## Main definitions

* `plainText` — a plain scalar
* `quotedText` — a scalar between quotes
* `blockText` — a block of lines, kept or folded
-/

namespace Lookup.Yaml

open Text

/-- What a broken line is joined by when `breaks` follow its own break. -/
def foldBreak (own : Char) (breaks : List Char) : List Char :=
  (if own ≠ '\n' then [own] else if breaks = [] then [' '] else []) ++ breaks

/-! ### Plain scalars -/

/-- Whether a character is a mark in flow collections. -/
def isFlowMark (c : Char) : Bool := c ∈ [',', '[', ']', '\x7b', '\x7d']

/-- Whether a plain scalar ends before a character, given the character after it. -/
def endsPlain (flow : Bool) (c after : Char) : Bool :=
  isGap c || (c = ':' && (isGap after || (flow && isFlowMark after))) ||
    (flow && (isFlowMark c || c = '?'))

/-- A word of a plain scalar. -/
def plainWord (flow : Bool) : List Placed → List Char × List Placed
  | [] => ([], [])
  | p :: rest =>
    if endsPlain flow p.char (next rest) then ([], p :: rest)
    else
      let (text, rest) := plainWord flow rest
      (p.char :: text, rest)

/-- The line breaks after the first one within a plain scalar, unless a mark between documents cuts it
short. -/
def plainBreaks : List Placed → Option (List Char) × List Placed
  | [] => (some [], [])
  | p :: rest =>
    if p.char = ' ' then plainBreaks rest
    else if isBreak p.char then
      if atDocumentMark rest then (none, rest)
      else
        let (breaks, rest) := plainBreaks rest
        (breaks.map (p.char :: ·), rest)
    else (some [], p :: rest)

/-- What joins two words of a plain scalar, whether a line was broken, and what comes after. Nothing
joins them where the scalar ends. -/
def plainJoint (rest : List Placed) : List Char × Bool × List Placed :=
  let (blanks, rest) := takeText (fun c => c = ' ') rest
  match rest with
  | p :: after =>
    if isBreak p.char then
      if atDocumentMark after then ([], true, after)
      else
        match plainBreaks after with
        | (some breaks, rest) => (foldBreak p.char breaks, true, rest)
        | (none, rest) => ([], true, rest)
    else (blanks, false, rest)
  | [] => (blanks, false, rest)

/-- The words of a plain scalar from a place on, `joint` being what joins them to what comes before,
and whether the last line was broken; `fuel` bounds their number. -/
def plainWords (flow : Bool) (indent : Int) (fuel : Nat) (joint : List Char) (broken : Bool)
    (rest : List Placed) : List Char × Bool × List Placed :=
  match fuel with
  | 0 => ([], broken, rest)
  | fuel + 1 =>
    if next rest = '#' then ([], broken, rest)
    else
      -- A word that is empty stands where the scalar has ended.
      let (word, after) := plainWord flow rest
      if word = [] then ([], broken, rest)
      else
        let (following, broken, after) := plainJoint after
        if following = [] ∨ next after = '#' ∨ (!flow ∧ (here after).column < indent) then
          (joint ++ word, broken, after)
        else
          let (text, broken, after) := plainWords flow indent fuel following broken after
          (joint ++ word ++ text, broken, after)

/-- A plain scalar, whether the last line was broken, and what comes after. Outside of flow collections
the scalar ends where a line starts before the column `indent`. -/
def plainText (flow : Bool) (indent : Int) (rest : List Placed) : List Char × Bool × List Placed :=
  plainWords flow indent (rest.length + 1) [] false rest

/-! ### Quoted scalars -/

/-- The line breaks after the first one within quotes, where no mark between documents may stand at the
start of a line. -/
def quotedBreaks (lineStart : Bool) : List Placed → Except Flaw (List Char × List Placed)
  | [] => .ok ([], [])
  | p :: rest =>
    if lineStart && atDocumentMark (p :: rest) then .error .invalid
    else if p.char = ' ' || p.char = '\t' then quotedBreaks false rest
    else if isBreak p.char then
      (quotedBreaks true rest).map fun (breaks, rest) => (p.char :: breaks, rest)
    else .ok ([], p :: rest)

/-- The characters that a letter after a backslash stands for. -/
def escapes : List (Char × Char) :=
  [('0', '\x00'), ('a', '\x07'), ('b', '\x08'), ('t', '\t'), ('\t', '\t'), ('n', '\n'),
   ('v', '\x0b'), ('f', '\x0c'), ('r', '\r'), ('e', '\x1b'), (' ', ' '), ('\x22', '\x22'),
   ('\\', '\\'), ('/', '/'), ('N', '\u0085'), ('_', '\u00a0'), ('L', lineSeparator),
   ('P', paragraphSeparator)]

/-- The number of hexadecimal digits after a letter that announces a code point. -/
def escapeDigits? : Char → Option Nat
  | 'x' => some 2
  | 'u' => some 4
  | 'U' => some 8
  | _ => none

/-- The character of a code point, which may be that of half of a character. -/
def character (code : Nat) : Except Flaw Char :=
  if code < 0x110000 then .ok (if h : code.isValidChar then Char.ofNatAux code h else half code)
  else if code < 0x80000000 then .error (.fault .noCharacter)
  else .error (.fault .hugeCharacter)

/-- What stands after a backslash within quotes, and what comes after it. -/
def escaped (rest : List Placed) : Except Flaw (List Char × List Placed) :=
  match rest with
  | [] => .error .invalid
  | p :: after =>
    match escapes.lookup p.char, escapeDigits? p.char with
    | some c, _ => .ok ([c], after)
    | none, some count =>
      match (after.take count).mapM fun p => hexValue? p.char with
      | none => .error .invalid
      | some values =>
        (character (values.foldl (fun n value => n * 16 + value) 0)).map fun c =>
          ([c], after.drop count)
    | none, none => if isBreak p.char then quotedBreaks true after else .error .invalid

/-- What a gap within quotes stands for. -/
def quotedGap (rest : List Placed) : Except Flaw (List Char × List Placed) :=
  let (blanks, rest) := takeText (fun c => c = ' ' || c = '\t') rest
  match rest with
  | [] => .error .invalid
  | p :: after =>
    if p.char = endMark then .error .invalid
    else if isBreak p.char then
      (quotedBreaks true after).map fun (breaks, rest) => (foldBreak p.char breaks, rest)
    else .ok (blanks, rest)

/-- The text up to the closing quote; `fuel` bounds the number of its pieces. -/
def quotedFrom (double : Bool) (fuel : Nat) (rest : List Placed) :
    Except Flaw (List Char × List Placed) :=
  match fuel, rest with
  | 0, _ | _, [] => .error .invalid
  | fuel + 1, p :: after =>
    let more (piece : List Char) (rest : List Placed) : Except Flaw (List Char × List Placed) :=
      (quotedFrom double fuel rest).map fun (text, rest) => (piece ++ text, rest)
    if p.char = (if double then '\x22' else '\x27') then
      -- Between single quotes a quote is written twice.
      if !double && next after = '\x27' then more ['\x27'] after.tail
      else .ok ([], after)
    else if isGap p.char then
      match quotedGap rest with
      | .error flaw => .error flaw
      | .ok (piece, rest) => more piece rest
    else if double && p.char = '\\' then
      match escaped after with
      | .error flaw => .error flaw
      | .ok (piece, rest) => more piece rest
    else more [p.char] after

/-- The text between quotes, of which the first one has been read, and what comes after. -/
def quotedText (double : Bool) (rest : List Placed) : Except Flaw (List Char × List Placed) :=
  quotedFrom double (rest.length + 1) rest

/-! ### Blocks -/

/-- What becomes of the line breaks at the end of a block. -/
inductive Chomping where
  /-- One is kept. -/
  | clip
  /-- None is kept. -/
  | strip
  /-- All are kept. -/
  | keep
  deriving DecidableEq, Repr

/-- The chomping that a character asks for. -/
def Chomping.of? : Char → Option Chomping
  | '+' => some .keep
  | '-' => some .strip
  | _ => none

/-- The number of columns that a digit asks for. -/
def increment? (c : Char) : Option Nat := if c.isDigit then some (c.toNat - 48) else none

/-- The chomping and the indentation at the head of a block, in either order. -/
def blockHead (rest : List Placed) : Chomping × Option Nat × List Placed :=
  match Chomping.of? (next rest), increment? (next rest) with
  | some chomping, _ =>
    match increment? (next rest.tail) with
    | some n => (chomping, some n, rest.tail.tail)
    | none => (chomping, none, rest.tail)
  | none, some n =>
    match Chomping.of? (next rest.tail) with
    | some chomping => (chomping, some n, rest.tail.tail)
    | none => (.clip, some n, rest.tail)
  | none, none => (.clip, none, rest)

/-- What comes after a line on which nothing but a comment may still stand. -/
def restOfLine (rest : List Placed) : Except Flaw (List Placed) :=
  let (_, rest) := takeText (fun c => c = ' ') rest
  let (_, rest) := if next rest = '#' then takeText (fun c => !isLineEnd c) rest else ([], rest)
  match rest with
  | [] => .ok []
  | p :: after =>
    if isBreak p.char then .ok after else if p.char = endMark then .ok rest else .error .invalid

/-- The line breaks before the first line of a block with text, and the greatest column that spaces
lead to on the way. -/
def leadingBreaks : List Placed → List Char × Nat × List Placed
  | [] => ([], 0, [])
  | p :: rest =>
    if p.char = ' ' then
      let (breaks, column, rest) := leadingBreaks rest
      (breaks, max (p.column + 1) column, rest)
    else if isBreak p.char then
      let (breaks, column, rest) := leadingBreaks rest
      (p.char :: breaks, column, rest)
    else ([], 0, p :: rest)

/-- The line breaks before a line of a block whose lines start at the column `indent`. -/
def blockBreaks (indent : Nat) : List Placed → List Char × List Placed
  | [] => ([], [])
  | p :: rest =>
    if p.char = ' ' && p.column < indent then blockBreaks indent rest
    else if isBreak p.char then
      let (breaks, rest) := blockBreaks indent rest
      (p.char :: breaks, rest)
    else ([], p :: rest)

/-- The lines of a block after `breaks`: their text, the break of the last line, the breaks after it,
and what comes then; `fuel` bounds their number. -/
def blockLines (folded : Bool) (indent fuel : Nat) (breaks : List Char) (rest : List Placed) :
    List Char × List Char × List Char × List Placed :=
  match fuel with
  | 0 => ([], [], breaks, rest)
  | fuel + 1 =>
    if (here rest).column ≠ indent ∨ next rest = endMark then ([], [], breaks, rest)
    else
      let blank (c : Char) : Bool := c = ' ' || c = '\t'
      let (line, after) := takeText (fun c => !isLineEnd c) rest
      let (own, after) :=
        match after with
        | p :: more => if isBreak p.char then ([p.char], more) else ([], after)
        | [] => ([], [])
      let (following, after) := blockBreaks indent after
      if (here after).column = indent ∧ next after ≠ endMark then
        -- A single break between two lines of text is folded, others stay.
        let joint :=
          if folded && own = ['\n'] && !blank (next rest) && !blank (next after) then
            if following = [] then [' '] else []
          else own
        let (text, last, trailing, after) := blockLines folded indent fuel following after
        (breaks ++ line ++ joint ++ text, last, trailing, after)
      else (breaks ++ line, own, following, after)

/-- The text of a block, whose mark has been read, within lines indented to the column `indent`. -/
def blockText (folded : Bool) (indent : Int) (rest : List Placed) :
    Except Flaw (List Char × List Placed) :=
  let (chomping, increment?, rest) := blockHead rest
  if increment? = some 0 ∨ !isSpaceOrEnd (next rest) then .error .invalid
  else
    (restOfLine rest).map fun rest =>
      -- Without a digit at the head the first line with text sets the indentation.
      let least := max 1 (indent + 1).toNat
      let (breaks, indent, rest) :=
        match increment? with
        | some n =>
          let indent := least + n - 1
          let (breaks, rest) := blockBreaks indent rest
          (breaks, indent, rest)
        | none =>
          let (breaks, column, rest) := leadingBreaks rest
          (breaks, max least column, rest)
      let (text, last, trailing, rest) :=
        blockLines folded indent (rest.length + 1) breaks rest
      let tail :=
        match chomping with
        | .strip => []
        | .clip => last
        | .keep => last ++ trailing
      (text ++ tail, rest)

end Lookup.Yaml
