/-!
# Characters of a document in their places

A document is read as a list of characters, each with its place: how many characters come before it,
and its line and column. A NUL character stands at the end, so that there always is a next character.

## Main definitions

* `Placed`, `place` — characters with their places
* `isBreak`, `isGap` — line breaks, and what separates words
* `unifyBreaks` — a text with one kind of ordinary line break
* `isAllowed` — the characters that a document may hold
-/

namespace Lookup.Yaml

/-- A character in its place. -/
structure Placed where
  char : Char
  /-- The number of characters before it. -/
  index : Nat
  line : Nat
  /-- The number of characters before it on its line, marks of byte order aside. -/
  column : Nat

/-- Stands at the end of a document, in which it cannot occur. -/
def endMark : Char := '\x00'

/-- The mark of byte order. -/
def orderMark : Char := Char.ofNat 0xFEFF

/-- The line separator. -/
def lineSeparator : Char := Char.ofNat 0x2028

/-- The paragraph separator. -/
def paragraphSeparator : Char := Char.ofNat 0x2029

/-- Whether a character breaks a line. -/
def isBreak (c : Char) : Bool := c = '\n' || c = lineSeparator || c = paragraphSeparator

/-- Whether a character breaks a line or ends the document. -/
def isLineEnd (c : Char) : Bool := c = endMark || isBreak c

/-- Whether a character is a space, breaks a line or ends the document. -/
def isSpaceOrEnd (c : Char) : Bool := c = ' ' || isLineEnd c

/-- Whether a character separates words: a space, a tab, a line break or the end. -/
def isGap (c : Char) : Bool := c = '\t' || isSpaceOrEnd c

/-- The text with a line feed for each carriage return, pair of both, and next-line character. -/
def unifyBreaks : List Char → List Char
  | [] => []
  | '\r' :: '\n' :: rest => '\n' :: unifyBreaks rest
  | c :: rest => (if c = '\r' ∨ c.toNat = 0x85 then '\n' else c) :: unifyBreaks rest

/-- Whether a document may hold a character. -/
def isAllowed (c : Char) : Bool :=
  let n := c.toNat
  n = 0x9 || n = 0xA || n = 0xD || (0x20 ≤ n && n ≤ 0x7E) || n = 0x85 ||
    (0xA0 ≤ n && n ≤ 0xD7FF) || (0xE000 ≤ n && n ≤ 0xFFFD) || 0x10000 ≤ n

/-- The characters of a text with their places, counted from the given place, and the end. -/
def placeFrom (index line column : Nat) : List Char → List Placed
  | [] => [⟨endMark, index, line, column⟩]
  | c :: rest =>
    ⟨c, index, line, column⟩ ::
      if isBreak c then placeFrom (index + 1) (line + 1) 0 rest
      else placeFrom (index + 1) line (if c = orderMark then column else column + 1) rest

/-- The characters of a text with their places, and the end. -/
def place (text : List Char) : List Placed := placeFrom 0 0 0 text

/-- The next character. -/
def next : List Placed → Char
  | [] => endMark
  | p :: _ => p.char

/-- The place of the next character. -/
def here : List Placed → Placed
  | [] => ⟨endMark, 0, 0, 0⟩
  | p :: _ => p

/-- The text up to the first character outside of a class, and what comes from there on. -/
def takeText (keep : Char → Bool) : List Placed → List Char × List Placed
  | [] => ([], [])
  | p :: rest =>
    if keep p.char then
      let (text, rest) := takeText keep rest
      (p.char :: text, rest)
    else ([], p :: rest)

/-- Whether a line starts with the given three characters and then a gap. -/
def startsWithMark (mark : Char) : List Placed → Bool
  | a :: b :: c :: rest => a.char = mark && b.char = mark && c.char = mark && isGap (next rest)
  | _ => false

/-- Whether a mark between documents comes next, the start of a line assumed. -/
def atDocumentMark (rest : List Placed) : Bool :=
  startsWithMark '-' rest || startsWithMark '.' rest

end Lookup.Yaml
