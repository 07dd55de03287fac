import Lookup.Text.Encoding

/-!
# Base 64

Bytes are written six bits at a time, each as one of sixty-four letters. Other characters are passed
over. Equals signs fill up the last group of four letters, and nothing counts after them.

## Main definitions

* `decodeBase64?` — the bytes that a text stands for
-/

namespace Lookup.Text

/-- The six bits that a letter stands for. -/
def sixBits? (c : Char) : Option Nat :=
  if c.isUpper then some (c.toNat - 65)
  else if c.isLower then some (c.toNat - 71)
  else if c.isDigit then some (c.toNat + 4)
  else if c = '+' then some 62
  else if c = '/' then some 63
  else none

/-- The bytes of a text from a place within a group of four letters on: `place` letters of the group
have been read, `bits` is what the last of them left over, and `fills` equals signs have just come. -/
def base64From (place bits fills : Nat) : List Char → Option Bytes
  | [] => if place = 0 then some [] else none
  | c :: rest =>
    if c = '=' then
      if 2 ≤ place then
        if 4 ≤ place + fills + 1 then some [] else base64From place bits (fills + 1) rest
      else base64From place bits fills rest
    else
      match sixBits? c with
      | none => base64From place bits fills rest
      | some value =>
        match place with
        | 0 => base64From 1 value 0 rest
        | 1 =>
          (base64From 2 (value % 16) 0 rest).map (UInt8.ofNat (bits * 4 + value / 16) :: ·)
        | 2 => (base64From 3 (value % 4) 0 rest).map (UInt8.ofNat (bits * 16 + value / 4) :: ·)
        | _ => (base64From 0 0 0 rest).map (UInt8.ofNat (bits * 64 + value) :: ·)

/-- The bytes that a text stands for. -/
def decodeBase64? (text : List Char) : Option Bytes := base64From 0 0 0 text

end Lookup.Text
