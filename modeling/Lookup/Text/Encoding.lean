import Lookup.Text.Basic

/-!
# Bytes and the encodings of text

Bytes are decoded in one of five encodings. A sequence of bytes that is no text of the encoding is
refused by the strict decoders; the lenient UTF-8 decoder puts the replacement character U+FFFD
where a longest piece of a character breaks off.

## Main definitions

* `Bytes` — a string of bytes
* `half`, `isHalf` — what stands for half of a character
* `utf8Pieces` — the characters and the broken pieces of a byte string
* `decodeUtf8?`, `decodeUtf8Lossy`, `encodeUtf8` — UTF-8
* `Encoding` — the encodings by name, with `Encoding.decode?`
-/

namespace Lookup.Text

/-- A string of bytes. -/
abbrev Bytes := List UInt8

/-! ### Halves of characters -/

/-- Stands for half of a character in a text. A code point from 0xD800 to 0xDFFF is that of no character, and
the private character 0x100000 places behind stands for what a text may have there nevertheless. -/
def half (code : Nat) : Char := Char.ofNat (0x10D800 + code % 0x800)

/-- Whether a character stands for half of one. -/
def isHalf (c : Char) : Bool := 0x10D800 ≤ c.toNat && c.toNat < 0x10E000

/-! ### UTF-8 -/

/-- Where a UTF-8 decoder stands inside a character: how many bytes are still owed after the next
one, the range of the next byte, and the value so far. -/
structure Unfinished where
  /-- The bytes owed after the next one. -/
  owed : Nat
  /-- The least value of the next byte. -/
  low : Nat
  /-- The greatest value of the next byte. -/
  high : Nat
  /-- The bits read so far. -/
  value : Nat

/-- What the first byte of a character begins: a whole character, a character with more bytes to
come, or nothing. -/
def utf8Start (b : Nat) : Except Unit (Char ⊕ Unfinished) :=
  if b < 0x80 then .ok (.inl (Char.ofNat b))
  else if b < 0xC2 then .error ()
  else if b < 0xE0 then .ok (.inr ⟨0, 0x80, 0xBF, b - 0xC0⟩)
  else if b < 0xF0 then
    .ok (.inr ⟨1, if b = 0xE0 then 0xA0 else 0x80, if b = 0xED then 0x9F else 0xBF, b - 0xE0⟩)
  else if b < 0xF5 then
    .ok (.inr ⟨2, if b = 0xF0 then 0x90 else 0x80, if b = 0xF4 then 0x8F else 0xBF, b - 0xF0⟩)
  else .error ()

/-- The characters of a byte string, with `none` for each longest piece that begins a character and
breaks off, and for each byte that begins none. -/
def utf8Pieces : Option Unfinished → Bytes → List (Option Char)
  | none, [] => []
  | some _, [] => [none]
  | none, b :: rest =>
    match utf8Start b.toNat with
    | .ok (.inl c) => some c :: utf8Pieces none rest
    | .ok (.inr p) => utf8Pieces (some p) rest
    | .error () => none :: utf8Pieces none rest
  | some p, b :: rest =>
    -- Only the second byte has a range of its own; it rules out longer forms and surrogates.
    if p.low ≤ b.toNat ∧ b.toNat ≤ p.high then
      let value := p.value * 64 + (b.toNat - 0x80)
      match p.owed with
      | 0 => some (Char.ofNat value) :: utf8Pieces none rest
      | owed + 1 => utf8Pieces (some ⟨owed, 0x80, 0xBF, value⟩) rest
    else
      match utf8Start b.toNat with
      | .ok (.inl c) => none :: some c :: utf8Pieces none rest
      | .ok (.inr q) => none :: utf8Pieces (some q) rest
      | .error () => none :: none :: utf8Pieces none rest

/-- The text of a byte string that is UTF-8 throughout. -/
def decodeUtf8? (bytes : Bytes) : Option (List Char) := (utf8Pieces none bytes).mapM id

/-- The text of a byte string, broken pieces replaced by U+FFFD. -/
def decodeUtf8Lossy (bytes : Bytes) : List Char :=
  (utf8Pieces none bytes).map fun piece => piece.getD (Char.ofNat 0xFFFD)

/-- The UTF-8 bytes of a text. -/
def encodeUtf8 (text : List Char) : Bytes := text.flatMap String.utf8EncodeChar

/-! ### UTF-16 -/

/-- The 16-bit units of a byte string of even length. -/
def units? (bigEndian : Bool) : Bytes → Option (List Nat)
  | [] => some []
  | [_] => none
  | a :: b :: rest =>
    let unit := if bigEndian then a.toNat * 256 + b.toNat else b.toNat * 256 + a.toNat
    (units? bigEndian rest).map (unit :: ·)

/-- The text of 16-bit units whose surrogates stand in pairs. -/
def joinUnits? : List Nat → Option (List Char)
  | [] => some []
  | [u] => if 0xD800 ≤ u ∧ u < 0xE000 then none else some [Char.ofNat u]
  | u :: v :: rest =>
    if 0xD800 ≤ u ∧ u < 0xDC00 then
      if 0xDC00 ≤ v ∧ v < 0xE000 then
        (joinUnits? rest).map (Char.ofNat (0x10000 + (u - 0xD800) * 0x400 + (v - 0xDC00)) :: ·)
      else none
    else if 0xDC00 ≤ u ∧ u < 0xE000 then none
    else (joinUnits? (v :: rest)).map (Char.ofNat u :: ·)

/-- The text of UTF-16 bytes, in the order that a byte order mark gives, else little end first. -/
def decodeUtf16? : Bytes → Option (List Char)
  | 0xFF :: 0xFE :: rest => (units? false rest).bind joinUnits?
  | 0xFE :: 0xFF :: rest => (units? true rest).bind joinUnits?
  | bytes => (units? false bytes).bind joinUnits?

/-! ### Encodings by name -/

/-- The encodings that a text can be read in. -/
inductive Encoding where
  /-- UTF-8. -/
  | utf8
  /-- UTF-8 after an optional signature U+FEFF, which is dropped. -/
  | utf8Signed
  /-- ISO 8859-1: each byte is the code point of its value. -/
  | latin1
  /-- ASCII: bytes below 128. -/
  | ascii
  /-- UTF-16 with an optional byte order mark, which is dropped. -/
  | utf16
  deriving DecidableEq, Repr

/-- The text of a byte string in an encoding, if it is one. -/
def Encoding.decode? : Encoding → Bytes → Option (List Char)
  | .utf8, bytes => decodeUtf8? bytes
  | .utf8Signed, 0xEF :: 0xBB :: 0xBF :: bytes => decodeUtf8? bytes
  | .utf8Signed, bytes => decodeUtf8? bytes
  | .latin1, bytes => some (bytes.map fun b => Char.ofNat b.toNat)
  | .ascii, bytes =>
    bytes.mapM fun b => if b.toNat < 0x80 then some (Char.ofNat b.toNat) else none
  | .utf16, bytes => decodeUtf16? bytes

/-- The names of each encoding, in lower case with underscores. -/
def Encoding.names : List (Encoding × List String) :=
  [(.utf8, ["utf_8", "utf8", "u8", "utf", "cp65001", "utf8_ucs2", "utf8_ucs4"]),
   (.utf8Signed, ["utf_8_sig"]),
   (.latin1, ["latin_1", "latin1", "latin", "l1", "iso8859", "iso8859_1", "iso_8859_1", "8859",
     "cp819", "csisolatin1", "ibm819", "iso_8859_1_1987", "iso_ir_100"]),
   (.ascii, ["ascii", "us_ascii", "us", "646", "ansi_x3.4_1968", "ansi_x3_4_1968",
     "ansi_x3.4_1986", "cp367", "csascii", "ibm367", "iso646_us", "iso_646.irv_1991",
     "iso_ir_6"]),
   (.utf16, ["utf_16", "utf16", "u16"])]

/-- An encoding's name in lower case, each run of characters other than letters, digits and dots
made one underscore, none at the end. -/
def plainName (name : List Char) : List Char :=
  let rec go (gap : Bool) (started : Bool) : List Char → List Char
    | [] => []
    | c :: rest =>
      if c.isAlphanum || c = '.' then
        let tail := c.toLower :: go false true rest
        if gap && started then '_' :: tail else tail
      else go true started rest
  go false false name

/-- The encoding of a name, letter case and the kind of separators aside. -/
def Encoding.ofName? (name : String) : Option Encoding :=
  let plain := String.ofList (plainName name.toList)
  (Encoding.names.find? fun entry => entry.2.contains plain).map (·.1)

end Lookup.Text
