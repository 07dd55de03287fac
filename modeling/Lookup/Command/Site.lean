import Lookup.Command.Answer

/-!
# What a request reads

A request reads few of all files. Its sites say which: a program that answers it from a real file
system has to know no more than what is there.

## Main definitions

* `Site` — a path, with or without all that is below it
* `Request.sites` — the sites that a request reads
-/

namespace Lookup.Command

open Files

/-- A path that is read. -/
structure Site where
  path : Path
  /-- Whether all that is below the path is read as well. -/
  deep : Bool
  deriving DecidableEq, Repr

/-- The sites in an entry of the search path when a package is scanned. -/
def packageSites (package : String) (entry : Path) : List Site :=
  [⟨entry, false⟩, ⟨entry.append (Path.ofText (packagePath package)), true⟩]

/-- The sites in an entry of the search path when a resource is read. -/
def resourceSites (name : String) (entry : Path) : List Site :=
  [⟨entry, false⟩, ⟨entry.append (Path.ofText (lookupName name)), false⟩]

/-- The sites where settings are looked for. -/
def settingsSites (world : World) (settings? : Option String) : List Site :=
  match settings? with
  | some path => [⟨Path.ofText path, false⟩]
  | none =>
    match settingsPlaces (ε := Empty) world with
    | .ok places => places.map fun place => ⟨place, false⟩
    | .error _ => []

/-- The sites that a request reads. -/
def Request.sites (world : World) : Request → List Site
  | .mounts package path | .scan package path _ _ =>
    (searchEntries world.disk (world.entries path)).flatMap (packageSites package)
  | .cat name path => (searchEntries world.disk (world.entries path)).flatMap (resourceSites name)
  | .get _ _ _ settings? _ | .list settings? _ _ => settingsSites world settings?

end Lookup.Command
