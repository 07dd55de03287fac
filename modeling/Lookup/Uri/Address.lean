import Lookup.Text.Basic
import Lookup.Text.Hex

/-!
# Network addresses

The literal addresses that a URI may name as its host.

## Main definitions

* `isAddress4` — four decimal octets between dots
* `isAddress6` — groups of hexadecimal digits between colons
* `isFutureAddress` — an address of a later version
-/

namespace Lookup.Uri

open Text

/-- Whether a text is a decimal number up to 255 without zeros in front. -/
def isOctet (text : List Char) : Bool :=
  !text.isEmpty && text.all Char.isDigit && text.length ≤ 3 &&
    (text == ['0'] || text.head? != some '0') &&
    text.foldl (fun n c => n * 10 + (c.toNat - 48)) 0 ≤ 255

/-- Whether a text is an address of version 4. -/
def isAddress4 (text : List Char) : Bool :=
  let octets := fields '.' text
  octets.length == 4 && octets.all isOctet

/-- Whether a text is a group of an address of version 6, of up to four hexadecimal digits. -/
def isGroup (text : List Char) : Bool :=
  text.length ≤ 4 && text.all fun c => (hexValue? c).isSome

/-- Whether a text is a group with a digit at least. -/
def isFullGroup (text : List Char) : Bool := !text.isEmpty && isGroup text

/-- The groups between colons, an address of version 4 at the end counting as two; `none` if the text
at the end has dots and is no such address. -/
def groups? (text : List Char) : Option (List (List Char)) :=
  let parts := fields ':' text
  let last := parts.getLast?.getD []
  if parts.length < 3 then none
  else if last.contains '.' then
    if isAddress4 last then some (parts.dropLast ++ [['0'], ['0']]) else none
  else some parts

/-- Whether groups make up an address: eight of them, or fewer with one gap, which may be at either
end. -/
def areGroups (parts : List (List Char)) : Bool :=
  let inner := parts.tail.dropLast
  match inner.countP (·.isEmpty) with
  | 0 => parts.length == 8 && parts.all isFullGroup
  | 1 =>
    let gap := inner.findIdx (·.isEmpty)
    let high := parts.take (gap + 1)
    let low := parts.drop (gap + 2)
    let high := if high == [[]] then [] else high
    let low := if low == [[]] then [] else low
    high.length + low.length < 8 && parts.length ≤ 9 && high.all isFullGroup && low.all isFullGroup
  | _ => false

/-- Whether a text is an address of version 6, which may have a scope after a percent sign. -/
def isAddress6 (text : List Char) : Bool :=
  let (address, sound) :=
    match cut '%' text with
    | none => (text, true)
    | some (address, scope) => (address, !scope.isEmpty && !scope.contains '%')
  sound &&
    match groups? address with
    | some parts => areGroups parts
    | none => false

/-- Whether a text is an address of a later version: its number in hexadecimal digits after a `v`, and
more after a dot. -/
def isFutureAddress (text : List Char) : Bool :=
  match text with
  | 'v' :: rest =>
    let digits := rest.takeWhile fun c => (hexValue? c).isSome
    match rest.drop digits.length with
    | '.' :: more => !digits.isEmpty && !more.isEmpty && !more.contains '\n'
    | _ => false
  | _ => false

end Lookup.Uri
