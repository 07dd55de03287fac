import Lookup.Files.Tree
import Lookup.Property.Store
import Lookup.Settings.Document
import Lookup.Time.ZoneDatabase

/-!
# The world around the library

## Main definitions

* `World` — what the library sees
* `World.entries` — the entries that are searched
* `World.expandHome` — a path with the home directory in place of a tilde
-/

namespace Lookup

open Files

/-- What the library sees of the world. -/
structure World where
  disk : Disk
  /-- The environment variables. -/
  environment : Store
  /-- The search path where none is given. -/
  searchPath : List String
  /-- The current user. -/
  user : String
  /-- The users with their home directories. -/
  homes : List (String × String)
  /-- The zone database. -/
  zones : Time.ZoneDatabase
  /-- The reader of settings documents. -/
  reader : String → Except Unread Document

/-- The entries that are searched where a path is given: those of the path, or those of the search path
where it is empty. -/
def World.entries (world : World) (path : List String) : List String :=
  if path = [] then world.searchPath else path

/-- The home directory that a component with a tilde in front names. -/
def World.home? (world : World) (component : String) : Option String :=
  if component = "~" then
    match world.environment.get? "HOME" with
    | some home => some home
    | none => world.homes.lookup world.user
  else world.homes.lookup (String.ofList (component.toList.drop 1))

/-- The text of a home directory without slashes at its end; the root where nothing is left. -/
def homeText (home : String) : String :=
  let trimmed := trimSlashes home.toList
  if trimmed = [] then "/" else String.ofList trimmed

/-- A relative path whose first component starts with a tilde, with the home directory that it names;
`none` if there is no such directory. Any other path stays as it is. -/
def World.expandHome (world : World) (path : Path) : Option Path :=
  match path.root, path.names with
  | .here, first :: rest =>
    if !Text.startsWith "~" first then some path
    else
      match world.home? first with
      | none => none
      | some home =>
        let home := homeText home
        if Text.startsWith "~" home then none
        else
          let base := Path.ofText home
          some ⟨base.root, base.names ++ rest⟩
  | _, _ => some path

end Lookup
