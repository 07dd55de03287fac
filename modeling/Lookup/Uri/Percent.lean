import Lookup.Text.Encoding
import Lookup.Text.Hex

/-!
# Percent encoding

A byte that a URI does not show as it is stands there as a percent sign and two hexadecimal digits.
Encoding writes the UTF-8 bytes of a text in capital digits. Decoding reads digits of either case and
leaves a percent sign that no two digits follow. Bytes are joined to characters within each stretch
of ASCII characters; broken characters are replaced.

## Main definitions

* `encodePercent` — the encoded text
* `decodePercent` — the decoded text
-/

namespace Lookup.Uri

open Text

/-- The characters that stand for themselves in the path of a URI. -/
def isPlain (c : Char) : Bool := c.isAlphanum || c ∈ ['_', '.', '-', '~', '/']

/-- A byte in an encoded path. -/
def encodeByte (b : UInt8) : List Char :=
  let c := Char.ofNat b.toNat
  if b.toNat < 128 && isPlain c then [c] else '%' :: hexUpper 2 b.toNat

/-- A text encoded as the path of a URI. -/
def encodePercent (text : List Char) : List Char := (encodeUtf8 text).flatMap encodeByte

/-- The bytes of an encoded stretch of ASCII characters. -/
def percentBytes : List Char → Bytes
  | [] => []
  | '%' :: a :: b :: rest =>
    match hexValue? a, hexValue? b with
    | some high, some low => UInt8.ofNat (high * 16 + low) :: percentBytes rest
    | _, _ => UInt8.ofNat '%'.toNat :: percentBytes (a :: b :: rest)
  | c :: rest => UInt8.ofNat c.toNat :: percentBytes rest

/-- Decodes a text whose ASCII characters just read are `held`, the last one first. -/
def decodeFrom (held : List Char) : List Char → List Char
  | [] => decodeUtf8Lossy (percentBytes held.reverse)
  | c :: rest =>
    if c.toNat < 128 then decodeFrom (c :: held) rest
    else decodeUtf8Lossy (percentBytes held.reverse) ++ c :: decodeFrom [] rest

/-- The text that an encoded text stands for. -/
def decodePercent (text : List Char) : List Char := decodeFrom [] text

end Lookup.Uri
