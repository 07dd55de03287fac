import Lookup.Log
import Lookup.Resource.Mount

/-!
# The search path

Packages and resources are looked up along a search path of directories and archives. An empty entry
stands for the current directory.

## Main definitions

* `searchEntries` — the entries as absolute paths
* `isArchive` — whether a path leads to an archive
* `mountLocations` — the locations that hold a package, in order
-/

namespace Lookup

open Files Text

variable {ε : Type}

/-- The entries of a search path as absolute paths without components that step back. -/
def searchEntries (disk : Disk) (entries : List String) : List Path :=
  entries.map fun entry => (Path.ofText entry).absolute disk.cwd

/-- Whether a path leads to an archive. -/
def isArchive (disk : Disk) (path : Path) : Except SystemError Bool :=
  disk.check
    (fun node => match node with | .file content => content.archive.isSome | _ => false) path

/-- Whether an archive has a member below a package path, or any member for the empty path. -/
def exposes (archive : Archive) (package : String) : Bool :=
  if package = "" then !archive.memberNames.isEmpty
  else archive.memberNames.any (startsWith (package ++ "/"))

/-- The location of a package in an entry of the search path, if the entry holds the package. -/
def entryLocation? (disk : Disk) (activity : Activity) (package : String) (entry : Path) :
    Except (Failure ε) (Option String) :=
  match disk.isDirectory entry with
  | .error error => .error (.during activity (.system error))
  | .ok true =>
    let candidate := if package = "" then entry else entry.append (Path.ofText package)
    match disk.isDirectory candidate with
    | .error error => .error (.during activity (.system error))
    | .ok true => .ok (some (fileUri candidate))
    | .ok false => .ok none
  | .ok false =>
    match isArchive disk entry with
    | .error error => .error (.during activity (.system error))
    | .ok false => .ok none
    | .ok true =>
      (openArchive disk activity entry).map fun archive =>
        if exposes archive package then
          some (String.ofList archiveScheme ++ ":" ++ fileUri entry ++
            String.ofList archiveSeparator ++ package)
        else none

/-- The locations that hold a package, in the order of the search path. -/
def mountLocations (disk : Disk) (entries : List String) (package : String) :
    Except (Failure ε) (List String) :=
  ((searchEntries disk entries).mapM
    (entryLocation? disk (.enumerating package) (packagePath package))).map (·.filterMap id)

end Lookup
