import Lookup.Error.Basic
import Lookup.Files.Tree
import Lookup.Resource.Basic

/-!
# Mounts

A mount is a place that holds the files of a package: a directory, or an archive with a directory
inside. It is identified by a location, which is a URI.

## Main definitions

* `Mount`, `Mount.ofLocation` — mounts and their locations
* `fileUri` — the URI of a path
* `Mount.walk` — the resources of a mount
* `Run` — what a computation comes to before it ends or fails
-/

namespace Lookup

open Files Text

/-- What a computation comes to, one after the other, and what cuts it short. -/
structure Run (α ε : Type) where
  items : List α
  failure? : Option ε

/-- A directory that holds a package. -/
structure DirectoryMount where
  /-- The directory of the package. -/
  root : Path
  /-- The text of the directory from which names are reckoned. -/
  base : String
  deriving DecidableEq, Repr

/-- An archive that holds a package. -/
structure ArchiveMount where
  /-- The file of the archive. -/
  archive : Path
  /-- The location of the archive. -/
  base : String
  /-- The directory of the package inside the archive. -/
  inner : String
  deriving DecidableEq, Repr

/-- A place that holds a package. -/
inductive Mount where
  | directory (mount : DirectoryMount)
  | archive (mount : ArchiveMount)
  deriving DecidableEq, Repr

/-! ### Locations -/

/-- The scheme of directories. -/
def fileScheme : List Char := "file".toList

/-- The scheme of archives. -/
def archiveScheme : List Char := "zip".toList

/-- What stands between an archive and a directory inside. -/
def archiveSeparator : List Char := "!/".toList

/-- The URI of an absolute path. -/
def fileUri (path : Path) : String :=
  "file://" ++ String.ofList (Uri.encodePercent path.text.toList)

/-- The path that a URI names. -/
def filePath (uri : List Char) : Except ResourceError Path :=
  let malformed := ResourceError.malformed (String.ofList uri)
  match Uri.read uri with
  | .error fault => .error (malformed (.uri fault))
  | .ok parts =>
    if parts.scheme = String.ofList fileScheme ∧ parts.host ∈ ["", "localhost"] ∧
        parts.path ≠ "" then
      .ok (Path.ofText (String.ofList (Uri.decodePercent parts.path.toList)))
    else .error (malformed .notFile)

/-- The components that are left when `depth` are taken away from the end. Where there are too few,
as many as are missing are put back. -/
def keepComponents (components : List String) (depth : Nat) : List String :=
  let count := components.length
  components.take (if depth ≤ count then count - depth else 2 * count - depth)

/-- The directory from which names are reckoned, given the directory of a package: the package's own
components are taken away again. -/
def DirectoryMount.basePath (root : Path) (package : String) : Path :=
  let depth := ((fields '/' package.toList).filter fun part => part ≠ []).length
  if depth = 0 then root else Path.ofComponents (keepComponents root.components depth)

/-- The directory mount of a location for a package path. -/
def DirectoryMount.ofLocation (location : List Char) (package : String) :
    Except ResourceError DirectoryMount :=
  match filePath location with
  | .error error => .error error
  | .ok root => .ok ⟨root, dropTrailingSlash (DirectoryMount.basePath root package).text⟩

/-- The archive mount of a location. -/
def ArchiveMount.ofLocation (location : List Char) : Except ResourceError ArchiveMount :=
  match cutAt archiveSeparator (location.drop (archiveScheme.length + 1)) with
  | none => .error (.malformed (String.ofList location) .missingSeparator)
  | some (uri, inner) =>
    match filePath uri with
    | .error error => .error error
    | .ok path =>
      let inner := trimBoth (fun c => c = '/') (Uri.decodePercent inner)
      .ok ⟨path, String.ofList (archiveScheme ++ ':' :: uri ++ ['!']), String.ofList inner⟩

/-- The mount of a location for a package path. -/
def Mount.ofLocation (location package : String) : Except ResourceError Mount :=
  match cut ':' location.toList with
  | none => .error (.malformed location .missingScheme)
  | some (scheme, _) =>
    if scheme = fileScheme then
      (DirectoryMount.ofLocation location.toList package).map .directory
    else if scheme = archiveScheme then (ArchiveMount.ofLocation location.toList).map .archive
    else .error (.malformed location (.unsupportedScheme (String.ofList scheme)))

/-! ### Walks -/

variable {ε : Type}

/-- The failure of an activity at what the system or an archive reports. -/
def Failure.during (activity : Activity) (cause : Cause) : Failure ε :=
  .error (.resource (.failed activity cause))

/-- The failure of an activity at opening a file. -/
def Failure.opening (activity : Activity) : Disk.OpenError → Failure ε
  | .nul => .fault .nulInPath
  | .system refusal => .during activity (.system refusal)

/-- The failure of an activity at what is wrong with an archive or a member. -/
def Failure.defective (activity : Activity) : Defect → Failure ε
  | .error reported => .during activity (.archive reported)
  | .fault escaping => .fault (.archive escaping)

/-- The resource of a file in a directory mount. -/
def DirectoryMount.resource (mount : DirectoryMount) (file : Path) : Resource :=
  ⟨"file:" ++ file.text,
    canonicalName (String.ofList (file.text.toList.drop mount.base.length))⟩

/-- The resources that a walk through a directory mount comes to. -/
def DirectoryMount.collect (mount : DirectoryMount) : List Disk.Found → Run Resource (Failure ε)
  | [] => ⟨[], none⟩
  | .file path :: rest =>
    let run := collect mount rest
    ⟨mount.resource path :: run.items, run.failure?⟩
  | .error error :: _ => ⟨[], some (.opening (.walking mount.root.text) error)⟩

/-- The resources of a directory mount. -/
def DirectoryMount.walk (mount : DirectoryMount) (disk : Disk) : Run Resource (Failure ε) :=
  mount.collect (disk.walk mount.root)

/-- The archive in a file that an activity opens. -/
def openArchive (disk : Disk) (activity : Activity) (path : Path) : Except (Failure ε) Archive :=
  match disk.content path with
  | .error error => .error (.opening activity error)
  | .ok content =>
    match content.archive with
    | none => .error (.during activity (.archive .noArchive))
    | some archive =>
      match archive.defect? with
      | none => .ok archive
      | some defect => .error (.defective activity defect)

/-- The name of the file of an archive. -/
def ArchiveMount.file (mount : ArchiveMount) : String := mount.archive.names.getLast?.getD ""

/-- Where a walk through an archive starts: members are listed below the directory, which has a slash at its end. -/
def ArchiveMount.start (mount : ArchiveMount) : String := if mount.inner = "" then "" else mount.inner ++ "/"

/-- The resource of a member in an archive mount. -/
def ArchiveMount.resource (mount : ArchiveMount) (name : String) : Resource := ⟨mount.base, canonicalName name⟩

/-- The resources that a walk through an archive mount comes to. -/
def ArchiveMount.collect (mount : ArchiveMount) (trail : Trail) : Run Resource (Failure ε) :=
  ⟨trail.names.map mount.resource, if trail.endless then some (.fault .endless) else none⟩

/-- The resources of an archive mount. -/
def ArchiveMount.walk (mount : ArchiveMount) (disk : Disk) : Run Resource (Failure ε) :=
  match openArchive disk (.readingArchive mount.archive.text) mount.archive with
  | .error failure => ⟨[], some failure⟩
  | .ok archive => mount.collect (archive.walk mount.file disk.rounds mount.start)

/-- The resources of a mount, in order. -/
def Mount.walk (mount : Mount) (disk : Disk) : Run Resource (Failure ε) :=
  match mount with
  | .directory mount => mount.walk disk
  | .archive mount => mount.walk disk

end Lookup
