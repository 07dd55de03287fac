import Lookup.Text.Case
import Lookup.Text.Quoted
import Lookup.Uri.Address
import Lookup.Uri.Percent

/-!
# Uniform resource identifiers

A URI is split into a scheme, a host and a path; a query and a fragment are dropped. Control
characters and spaces in front are ignored, as are tabs and line ends anywhere.

## Main definitions

* `Uri`, `Uri.read` — identifiers and their reading
* `Uri.Fault` — why a text is no URI
-/

namespace Lookup

open Text

/-- The parts of a URI. -/
structure Uri where
  /-- The scheme in lower case; empty where there is none. -/
  scheme : String
  /-- The host with what belongs to it; empty where there is none. -/
  host : String
  /-- The path as it is written. -/
  path : String
  deriving DecidableEq, Repr

namespace Uri

/-- Why a text is no URI. -/
inductive Fault where
  /-- The host has a bracket without its partner. -/
  | brackets
  /-- The host in brackets starts like an address of a later version and is none. -/
  | futureAddress
  /-- The host in brackets is an address of version 4. -/
  | address4
  /-- The host in brackets is no address. -/
  | noAddress (host : String)
  /-- The host has a character that is equivalent to one that separates the parts of a URI. -/
  | equivalent (host : String)
  deriving DecidableEq, Repr

/-- The wording of a fault. -/
def Fault.message : Fault → String
  | .brackets => "Invalid IPv6 URL"
  | .futureAddress => "IPvFuture address is invalid"
  | .address4 => "An IPv4 address cannot be in brackets"
  | .noAddress host => quote host ++ " does not appear to be an IPv4 or IPv6 address"
  | .equivalent host =>
    "netloc '" ++ host ++ "' contains invalid characters under NFKC normalization"

/-- The characters that are equivalent to texts with one of `/?#@:`. -/
def equivalents : List Nat :=
  [0x2047, 0x2048, 0x2049, 0x2100, 0x2101, 0x2105, 0x2106, 0x2A74, 0xFE13, 0xFE16, 0xFE55, 0xFE56,
   0xFE5F, 0xFE6B, 0xFF03, 0xFF0F, 0xFF1A, 0xFF1F, 0xFF20]

/-- The fault of a host in brackets, if it has one. -/
def bracketFault? (host : List Char) : Option Fault :=
  if host.head? = some 'v' then if isFutureAddress host then none else some .futureAddress
  else if isAddress4 host then some .address4
  else if isAddress6 host then none
  else some (.noAddress (String.ofList host))

/-- The fault in the brackets of a host, if there is one. -/
def hostFault? (host : List Char) : Option Fault :=
  match cut '[' host, host.contains ']' with
  | none, false => none
  | some (_, after), true =>
    bracketFault? (((cut ']' after).map (·.1)).getD after)
  | _, _ => some .brackets

/-- The fault of the characters of a host, if there is one. -/
def equivalentFault? (host : List Char) : Option Fault :=
  if host.any fun c => equivalents.contains c.toNat then some (.equivalent (String.ofList host))
  else none

/-- Whether a character may stand in a scheme. -/
def isSchemeChar (c : Char) : Bool := c.isAlphanum || c ∈ ['+', '-', '.']

/-- The scheme of a text in lower case and the text after it; no scheme if what stands before the
first colon is none. -/
def takeScheme (text : List Char) : List Char × List Char :=
  match cut ':' text with
  | some (c :: more, rest) =>
    if c.isAlpha && (c :: more).all isSchemeChar then ((c :: more).map Char.toLower, rest)
    else ([], text)
  | _ => ([], text)

/-- The host after two slashes and the text after it. -/
def takeHost : List Char → List Char × List Char
  | '/' :: '/' :: rest => rest.span fun c => c ∉ ['/', '?', '#']
  | text => ([], text)

/-- The URI of a text. -/
def read (text : List Char) : Except Fault Uri :=
  let text := (text.dropWhile fun c => c.toNat ≤ 32).filter fun c => c ∉ ['\t', '\r', '\n']
  let (scheme, text) := takeScheme text
  let (host, text) := takeHost text
  match hostFault? host, equivalentFault? host with
  | some fault, _ => .error fault
  | none, some fault => .error fault
  | none, none =>
    let path := text.takeWhile fun c => c ∉ ['?', '#']
    .ok ⟨String.ofList scheme, String.ofList host, String.ofList path⟩

end Uri

end Lookup
