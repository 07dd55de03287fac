import Lookup.Files.Archive
import Lookup.Files.Inflate

/-!
# The bytes of archives

An archive ends in a record that says where the list of its members lies. The list says of each member
where it lies, how it is packed and what checksum it has. Anything may stand in front of an archive;
the places are counted from where it begins.

## Main definitions

* `checksum` — the checksum of bytes
* `findEnd?`, `Span` — the record at the end of an archive, and where it says that the list lies
* `Entry`, `readEntries` — what the list says of the members
* `Entry.member` — the members themselves
* `Archive.ofBytes?` — the archive that bytes hold
-/

namespace Lookup.Files

open Text

/-! ### Checksums -/

/-- The polynomial of the checksum, its bits in reverse. -/
def checksumPolynomial : Nat := 0xEDB88320

/-- The remainder of a number of bits that is divided by the polynomial. -/
def reduceBits : Nat → Nat → Nat
  | 0, n => n
  | count + 1, n =>
    reduceBits count (if n % 2 = 1 then (n / 2) ^^^ checksumPolynomial else n / 2)

/-- The cyclic redundancy checksum of thirty-two bits. -/
def checksum (bytes : Bytes) : Nat :=
  (bytes.foldl (fun sum b => reduceBits 8 ((sum ^^^ b.toNat) % 256) ^^^ (sum / 256)) 0xFFFFFFFF) ^^^
    0xFFFFFFFF

/-! ### Numbers and names -/

/-- The number in so many bytes at a place, the lowest byte first; bytes that are missing are zero. -/
def numberAt (data : Array UInt8) (place : Nat) : Nat → Nat
  | 0 => 0
  | width + 1 => ((data[place]?).getD 0).toNat + 256 * numberAt data (place + 1) width

/-- So many bytes at a place, as far as there are any. -/
def bytesAt (data : Array UInt8) (place count : Nat) : Bytes :=
  (data.extract place (place + count)).toList

/-- The characters of the bytes from 128 on in names that are not marked as UTF-8. -/
def upperCharacters : List Char :=
  ("ÇüéâäàåçêëèïîìÄÅÉæÆôöòûùÿÖÜ¢£¥₧ƒáíóúñÑªº¿⌐¬½¼¡«»░▒▓│┤╡╢╖╕╣║╗╝╜╛┐└┴┬├─┼╞╟╚╔╩╦╠═╬╧╨╤╥╙╘╒╓╫╪┘┌█▄▌▐▀" ++
    "αßΓπΣσµτΦΘΩδ∞φε∩≡±≥≤⌠⌡÷≈°∙·√ⁿ²■\xa0").toList

/-- The name that bytes spell, which may be marked as UTF-8. -/
def memberName? (marked : Bool) (bytes : Bytes) : Option String :=
  if marked then (decodeUtf8? bytes).map String.ofList
  else
    some (String.ofList (bytes.map fun b =>
      if b.toNat < 0x80 then Char.ofNat b.toNat
      else (upperCharacters[b.toNat - 0x80]?).getD ' '))

/-- Whether the bit of a value is set in flags. -/
def hasFlag (flags bit : Nat) : Bool := flags / bit % 2 = 1

/-- The flag of members that are encrypted. -/
def encryptedFlag : Nat := 0x1

/-- The flag of members that are patches of others. -/
def patchFlag : Nat := 0x20

/-- The flag of members that are encrypted by stronger means. -/
def strongFlag : Nat := 0x40

/-- The flag of names that are UTF-8. -/
def utf8Flag : Nat := 0x800

/-! ### The end record -/

/-- The mark of the end record. -/
def endMark : Nat := 0x06054B50

/-- The mark of an entry in the list of members. -/
def entryMark : Nat := 0x02014B50

/-- The mark of the header of a member. -/
def headerMark : Nat := 0x04034B50

/-- The length of the end record. -/
def endLength : Nat := 22

/-- The longest comment behind the end record. -/
def commentLimit : Nat := 0xFFFF

/-- The length of an entry in the list of members, apart from what is of variable length. -/
def entryLength : Nat := 46

/-- The length of the header of a member, apart from what is of variable length. -/
def headerLength : Nat := 30

/-- The latest version of the format that is provided for. -/
def versionLimit : Nat := 63

/-- Where the list of members lies, and where the archive begins. -/
structure Span where
  /-- The place of the list. -/
  list : Nat
  /-- The length of the list. -/
  length : Nat
  /-- The place at which the list would lie if nothing stood in front of the archive. -/
  offset : Nat
  deriving DecidableEq, Repr

/-- The place behind the list. -/
def Span.finish (span : Span) : Nat := span.list + span.length

/-- The place of what would lie at a place if nothing stood in front of the archive. There is none in
front of the file. -/
def Span.shift? (span : Span) (place : Nat) : Option Nat :=
  if place + span.list < span.offset then none else some (place + span.list - span.offset)

/-- The last place, from `place` down for so many places, where the mark of the end record stands. -/
def findMark? (data : Array UInt8) : Nat → Nat → Option Nat
  | 0, _ => none
  | count + 1, place =>
    if numberAt data place 4 = endMark then some place
    else if place = 0 then none
    else findMark? data count (place - 1)

/-- The place of the end record: at the end if it has no comment, or where its mark comes last. -/
def findEnd? (data : Array UInt8) : Option Nat :=
  let last := data.size - endLength
  if data.size < endLength then none
  else if numberAt data last 4 = endMark ∧ numberAt data (last + 20) 2 = 0 then some last
  else
    (findMark? data (endLength + commentLimit - 2) (data.size - 4)).filter fun place => place ≤ last

/-- Where the members are listed according to the end record. There is no such place if the list does
not fit in front of the record. -/
def Span.ofEnd? (data : Array UInt8) (place : Nat) : Option Span :=
  let length := numberAt data (place + 12) 4
  if place < length then none else some ⟨place - length, length, numberAt data (place + 16) 4⟩

/-! ### The list of members -/

/-- What the list says of a member. -/
structure Entry where
  /-- The name, with all its characters. -/
  name : String
  flags : Nat
  /-- How the bytes are packed. -/
  method : Nat
  /-- The checksum of the bytes. -/
  sum : Nat
  /-- The number of packed bytes. -/
  packed : Nat
  /-- The number of bytes. -/
  size : Nat
  /-- The place of the member's header, if nothing stood in front of the archive. -/
  header : Nat

/-- What is wrong with the extra fields of an entry: none may be longer than what is left. -/
def extraError? : Nat → Bytes → Option ArchiveError
  | 0, _ => none
  | fuel + 1, extra =>
    if extra.length < 4 then none
    else
      let data := extra.toArray
      let kind := numberAt data 0 2
      let length := numberAt data 2 2
      if extra.length < length + 4 then some (.badExtra kind length)
      else extraError? fuel (extra.drop (length + 4))

/-- The entry at a place of the list, of which nothing stands from `finish` on, and the place behind
it. -/
def readEntry (data : Array UInt8) (finish place : Nat) : Except Defect (Entry × Nat) :=
  -- Bytes that are missing at the end of a name or an extra field are not missed.
  let field (place count : Nat) : Bytes := bytesAt data place (min count (finish - place))
  if finish < place + entryLength then .error (.error .cutDirectory)
  else if numberAt data place 4 ≠ entryMark then .error (.error .badDirectory)
  else
    let flags := numberAt data (place + 8) 2
    let nameLength := numberAt data (place + 28) 2
    let extraLength := numberAt data (place + 30) 2
    let extra := field (place + entryLength + nameLength) extraLength
    match memberName? (hasFlag flags utf8Flag) (field (place + entryLength) nameLength) with
    | none => .error (.fault .undecodable)
    | some name =>
      if versionLimit < numberAt data (place + 6) 1 then .error (.fault .unsupported)
      else
        match extraError? extra.length extra with
        | some error => .error (.error error)
        | none =>
          .ok (⟨name, flags, numberAt data (place + 10) 2, numberAt data (place + 16) 4,
              numberAt data (place + 20) 4, numberAt data (place + 24) 4,
              numberAt data (place + 42) 4⟩,
            place + entryLength + nameLength + extraLength + numberAt data (place + 32) 2)

/-- The entries of the list from a place on, of which there are at most `fuel`. -/
def readEntries (data : Array UInt8) (finish : Nat) : Nat → Nat → Except Defect (List Entry)
  | 0, _ => .error (.error .badDirectory)
  | fuel + 1, place =>
    if finish ≤ place then .ok []
    else
      match readEntry data finish place with
      | .error defect => .error defect
      | .ok (entry, next) => (readEntries data finish fuel next).map (entry :: ·)

/-! ### Members -/

/-- Entries with the place that each must not reach beyond: the header that comes next, or the list if none
does. Of headers at one place, the one listed first comes last. -/
def boundEntries (list : Nat) (entries : List Entry) : List (Entry × Nat) :=
  let indexed := entries.zipIdx
  indexed.map fun (entry, index) =>
    let behind := indexed.filter fun (other, place) =>
      entry.header < other.header || (entry.header = other.header && place < index)
    (entry, ((behind.map fun (other, _) => other.header).min?).getD list)

/-- What reading packed bytes comes to: the bytes, and what is wrong with them. `available` are those of the
bytes that the file has. -/
def Entry.unpack (entry : Entry) (available : Bytes) : Bytes × Option Defect :=
  let isCut := available.length < entry.packed
  let checked (bytes : Bytes) : Bytes × Option Defect :=
    let bytes := bytes.take entry.size
    (bytes,
      if checksum bytes = entry.sum then none
      else some (.error (.badChecksum (storedName entry.name))))
  if isCut ∧ available = [] then ([], some (.fault .cutOff))
  else if entry.method = 0 then
    if isCut ∧ available.length < entry.size then (available, some (.fault .cutOff))
    else checked available
  else
    match inflate available with
    | (bytes, some .corrupt) => (bytes, some (.fault .corrupt))
    | (bytes, some .ended) =>
      if isCut ∧ bytes.length < entry.size then (bytes, some (.fault .cutOff)) else checked bytes
    | (bytes, none) => checked bytes

/-- Why the member of an entry cannot be opened, where its header is at a place and it must not reach beyond
another one. -/
def Entry.barrier? (data : Array UInt8) (entry : Entry) (header limit : Nat) : Option Defect :=
  let name := bytesAt data (header + headerLength) (numberAt data (header + 26) 2)
  -- What is missing at the end of the file is not missed.
  let content := min data.size
    (header + headerLength + numberAt data (header + 26) 2 + numberAt data (header + 28) 2)
  if data.size < header + headerLength then some (.error .cutHeader)
  else if numberAt data header 4 ≠ headerMark then some (.error .badHeader)
  else if hasFlag entry.flags patchFlag || hasFlag entry.flags strongFlag then
    some (.fault .unsupported)
  else
    match memberName? (hasFlag (numberAt data (header + 6) 2) utf8Flag) name with
    | none => some (.fault .undecodable)
    | some found =>
      if found ≠ entry.name then some (.error (.otherName entry.name name))
      else if limit < content + entry.packed then some (.error (.overlap entry.name))
      else if hasFlag entry.flags encryptedFlag then some (.fault .encrypted)
      else if entry.method = 0 ∨ entry.method = 8 then none
      else some (.fault .unsupported)

/-- The member of an entry that must not reach beyond a place. -/
def Entry.member (data : Array UInt8) (span : Span) (entry : Entry) (limit? : Option Nat) : Member :=
  match span.shift? entry.header with
  -- There is nothing in front of the file.
  | none => ⟨storedName entry.name, [], some (.error (.other "[Errno 22] Invalid argument")), none⟩
  | some header =>
    let content :=
      header + headerLength + numberAt data (header + 26) 2 + numberAt data (header + 28) 2
    let (bytes, flaw?) := entry.unpack (bytesAt data content entry.packed)
    -- A place in front of the file bounds everything.
    ⟨storedName entry.name, bytes, entry.barrier? data header (limit?.getD 0), flaw?⟩

/-- The members of entries. -/
def readMembers (data : Array UInt8) (span : Span) (entries : List Entry) : List Member :=
  (boundEntries span.offset entries).map fun (entry, limit) =>
    entry.member data span (span.shift? limit)

/-- The archive that bytes hold. -/
def Archive.ofBytes? (bytes : Bytes) : Option Archive :=
  let data := bytes.toArray
  (findEnd? data).map fun place =>
    match Span.ofEnd? data place with
    | none => ⟨[], some (.error .badOffset)⟩
    | some span =>
      match readEntries data span.finish (span.length + 1) span.list with
      | .error defect => ⟨[], some defect⟩
      | .ok entries => ⟨readMembers data span entries, none⟩

end Lookup.Files
