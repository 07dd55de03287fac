import Lookup.Text.Encoding
import Lookup.Text.Hex
import Lookup.Text.Quoted

/-!
# Archives

An archive is a list of named members. A name that ends in a slash names a directory. Besides the
directories that are members, an archive has those that its names imply: all directories on the way
to a member. What lies in a directory is found by comparing names. So a member whose name is empty, or
has nothing but slashes, is a directory in the top and the top itself, and a walk through it does not
come to an end.

## Main definitions

* `ArchiveError`, `ArchiveFault`, `Defect` — what may be wrong with archives
* `Member`, `Archive` — members and archives, with what is wrong with them
* `Archive.names` — the names of the members, then of the implied directories
* `Archive.children` — what lies in a directory
* `Trail`, `Archive.walk` — the files below a directory
* `Member.read` — the bytes of a member
-/

namespace Lookup.Files

open Text

/-! ### Defects -/

/-- Why an archive or a member cannot be read, where that is reported as an error of archives. -/
inductive ArchiveError where
  /-- The file is no archive. -/
  | noArchive
  /-- The list of members would begin before the file does. -/
  | badOffset
  /-- The list of members ends within an entry. -/
  | cutDirectory
  /-- The list of members is damaged. -/
  | badDirectory
  /-- An extra field of a kind is longer than what is left of it. -/
  | badExtra (kind length : Nat)
  /-- The file ends within the header of a member. -/
  | cutHeader
  /-- There is no header where that of a member is said to be. -/
  | badHeader
  /-- The name in the header of a member is not the one that is listed. -/
  | otherName (listed : String) (header : Bytes)
  /-- A member reaches into what comes behind it. -/
  | overlap (member : String)
  /-- The bytes of a member do not have their checksum. -/
  | badChecksum (member : String)
  /-- An error that comes with its own wording. -/
  | other (text : String)
  deriving DecidableEq, Repr

/-- The text of an archive error. -/
def ArchiveError.message : ArchiveError → String
  | .noArchive => "File is not a zip file"
  | .badOffset => "Bad offset for central directory"
  | .cutDirectory => "Truncated central directory"
  | .badDirectory => "Bad magic number for central directory"
  | .badExtra kind length =>
    "Corrupt extra field " ++ String.ofList (hex 4 kind) ++ " (size=" ++ toString length ++ ")"
  | .cutHeader => "Truncated file header"
  | .badHeader => "Bad magic number for file header"
  | .otherName listed header =>
    "File name in directory " ++ quote listed ++ " and header " ++ quoteBytes header ++ " differ."
  | .overlap member => "Overlapped entries: " ++ quote member ++ " (possible zip bomb)"
  | .badChecksum member => "Bad CRC-32 for file " ++ quote member
  | .other text => text

/-- Why an archive or a member cannot be read, where that is let through as it is. -/
inductive ArchiveFault where
  /-- Reading it takes what is not provided. -/
  | unsupported
  /-- A name that is marked as UTF-8 is not UTF-8. -/
  | undecodable
  /-- A member is encrypted. -/
  | encrypted
  /-- The packed bytes of a member stand for no bytes. -/
  | corrupt
  /-- The file ends within the bytes of a member. -/
  | cutOff
  deriving DecidableEq, Repr

/-- What is wrong with an archive or a member. -/
inductive Defect where
  | error (error : ArchiveError)
  | fault (fault : ArchiveFault)
  deriving DecidableEq, Repr

/-! ### Archives -/

/-- A member of an archive. -/
structure Member where
  /-- The name, in which directories are separated by slashes. -/
  name : String
  /-- The bytes that reading yields. -/
  bytes : Bytes
  /-- Why the member cannot be opened. -/
  barrier? : Option Defect
  /-- Why the bytes of the member cannot be read to the end. -/
  flaw? : Option Defect
  deriving DecidableEq, Repr

/-- Whether a member is encrypted. -/
def Member.encrypted (member : Member) : Bool := member.barrier? = some (.fault .encrypted)

/-- Whether nothing is wrong with a member, except that it may be encrypted. -/
def Member.intact (member : Member) : Bool :=
  (member.barrier?.isNone || member.encrypted) && member.flaw?.isNone

/-- An archive. -/
structure Archive where
  /-- The members, in the order in which they are listed. -/
  members : List Member
  /-- What is wrong with the list of members. -/
  defect? : Option Defect
  deriving DecidableEq, Repr

/-- Whether the list of members itself is sound. -/
def Archive.sound (archive : Archive) : Bool := archive.defect?.isNone

/-- The name of a member as it is kept: it ends before the first NUL. -/
def storedName (name : String) : String :=
  String.ofList (name.toList.takeWhile fun c => c ≠ '\x00')

/-- A member as it is stored. -/
def Member.stored (name : String) (bytes : Bytes) : Member := ⟨storedName name, bytes, none, none⟩

/-- The text without slashes at its end. -/
def trimSlashes (text : List Char) : List Char := trimEnd (fun c => c = '/') text

/-- The part of a name before its last slash, slashes at its end dropped unless it has nothing
else. -/
def parentName (name : List Char) : List Char :=
  let head := (name.reverse.dropWhile fun c => c ≠ '/').reverse
  if head.all fun c => c = '/' then head else trimSlashes head

theorem parentName_length_le (name : List Char) : (parentName name).length ≤ name.length := by
  have hdrop : ∀ (p : Char → Bool) (l : List Char), (l.dropWhile p).length ≤ l.length :=
    fun p l => (List.dropWhile_suffix p).sublist.length_le
  have hhead : (name.reverse.dropWhile fun c => decide (c ≠ '/')).reverse.length ≤ name.length := by
    simpa using hdrop (fun c => decide (c ≠ '/')) name.reverse
  unfold parentName
  simp only
  split
  · exact hhead
  · refine Nat.le_trans ?_ hhead
    simpa [trimSlashes, trimEnd] using
      hdrop (fun c => decide (c = '/')) (name.reverse.dropWhile fun c => decide (c ≠ '/'))

/-- The names of the directories on the way to a name, from the innermost outwards; `fuel` bounds
their number. -/
def ancestors (fuel : Nat) (name : List Char) : List (List Char) :=
  match fuel with
  | 0 => []
  | fuel + 1 =>
    let parent := parentName name
    if trimSlashes parent = [] then [] else parent :: ancestors fuel parent

/-- The names that are not among `seen`, without repetitions, each at its first place. -/
def distinct (seen : List String) : List String → List String
  | [] => []
  | name :: rest =>
    if seen.contains name then distinct seen rest else name :: distinct (name :: seen) rest

namespace Archive

/-- The names of the members. -/
def memberNames (archive : Archive) : List String := archive.members.map (·.name)

/-- The directories that the names imply and that are no members. -/
def impliedDirectories (archive : Archive) : List String :=
  let names := archive.memberNames
  let all := names.flatMap fun name =>
    let trimmed := trimSlashes name.toList
    (ancestors trimmed.length trimmed).map fun parent => String.ofList (parent ++ ['/'])
  distinct names all

/-- The names of the members, then of the implied directories. -/
def names (archive : Archive) : List String := archive.memberNames ++ archive.impliedDirectories

/-- Whether a name is that of a directory. -/
def isDirectory (name : String) : Bool := endsWith "/" name

/-- Whether a name is one of the top: it is empty, or has nothing but slashes. -/
def isTop (name : String) : Bool := trimSlashes name.toList = []

/-- The last component of a name, in which dots count as no component. That of the empty name is the name of the
archive's own file. -/
def lastComponent (file name : String) : String :=
  if name = "" then file
  else ((split '/' name).filter fun part => part ≠ "" ∧ part ≠ ".").getLast?.getD ""

/-- The names that lie in a directory of the archive in a file, in the order of their last components. The directory is
given by its name, or by the empty text for the top. A member with a name of the top lies in the top itself. -/
def children (archive : Archive) (file directory : String) : List String :=
  let inside := archive.names.filter fun name =>
    parentName (trimSlashes name.toList) = trimSlashes directory.toList
  inside.mergeSort fun a b => precedes (lastComponent file a) (lastComponent file b)

end Archive

/-- What a walk through an archive comes to. -/
structure Trail where
  /-- The names of the files. -/
  names : List String
  /-- Whether the walk does not end after them. -/
  endless : Bool
  deriving DecidableEq, Repr

/-- Walks one after the other, none of them behind one that does not end. -/
def Trail.join : List Trail → Trail
  | [] => ⟨[], false⟩
  | first :: rest =>
    if first.endless then first
    else
      let others := Trail.join rest
      ⟨first.names ++ others.names, others.endless⟩

namespace Archive

/-- The walk below a directory, no deeper than `depth`. A name of the top leads back to the top, from where the walk
goes on as `again` does. -/
def walkWithin (archive : Archive) (file : String) (again : Trail) (depth : Nat) (directory : String) : Trail :=
  match depth with
  | 0 => ⟨[], false⟩
  | depth + 1 =>
    Trail.join ((archive.children file directory).map fun name =>
      if isTop name then again
      else if isDirectory name then walkWithin archive file again depth name
      else ⟨[name], false⟩)

/-- The length of the longest name, which no path through directories exceeds. -/
def longest (archive : Archive) : Nat :=
  (archive.names.map fun name => name.length).foldl max 0

/-- A walk from the top that is stopped when it has come back there for the `rounds`-th time. -/
def walkTop (archive : Archive) (file : String) (rounds : Nat) : Trail :=
  match rounds with
  | 0 => ⟨[], true⟩
  | rounds + 1 => archive.walkWithin file (walkTop archive file rounds) (archive.longest + 1) ""

/-- The walk below a directory of the archive in a file. The directory is given by its name, or by the empty text for
the top. A walk that leads back to the top does so again and again: it is let through the top `rounds + 1` times more,
and does not come to an end. -/
def walk (archive : Archive) (file : String) (rounds : Nat) (directory : String) : Trail :=
  archive.walkWithin file (archive.walkTop file (rounds + 1)) (archive.longest + 1) directory

/-- The member of a name: the last one where there are several. -/
def member? (archive : Archive) (name : String) : Option Member :=
  archive.members.reverse.find? fun member => member.name = name

end Archive

/-- The bytes that are read ahead at least, when only some are wanted. -/
def readAhead : Nat := 4096

/-- The bytes of a member. Its flaw is known once all bytes have been read. -/
def Member.read (member : Member) : Except Defect Bytes :=
  match member.flaw? with
  | none => .ok member.bytes
  | some defect => .error defect

/-- The first bytes of a member. Its flaw is found when reading ahead reaches the end. -/
def Member.readFirst (member : Member) (count : Nat) : Except Defect Bytes :=
  if max count readAhead < member.bytes.length then .ok (member.bytes.take count)
  else member.read.map (·.take count)

end Lookup.Files
