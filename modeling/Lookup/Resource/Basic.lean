import Lookup.Text.Basic
import Lookup.Text.Identifier
import Lookup.Text.Quoted

/-!
# Resources and their names

A resource is a file found below a mounted package. Its name is the path from the mount's base, with
slashes between the components and none in front.

## Main definitions

* `Resource` — a file with its name and its location
* `dropLeadingSlash`, `dropTrailingSlash`, `canonicalName` — slashes of either kind
* `packagePath` — the path of a package
* `moduleName?` — the module that a file holds
-/

namespace Lookup

open Text

/-- A file that was found. -/
structure Resource where
  /-- Where the bytes are: the path of the file, or the location of the archive. -/
  location : String
  /-- The path from the base of the mount. -/
  name : String
  deriving DecidableEq, Repr

/-- The form in which messages show a resource. -/
def Resource.shown (resource : Resource) : String :=
  "Resource(location=" ++ quote resource.location ++ ", name=" ++ quote resource.name ++ ")"

/-! ### Slashes -/

/-- Whether a character is a slash of either kind. -/
def isSlash (c : Char) : Bool := c = '/' || c = '\\'

/-- The text without one slash in front. -/
def dropLeading : List Char → List Char
  | [] => []
  | c :: rest => if isSlash c then rest else c :: rest

/-- The text without one slash of either kind in front. -/
def dropLeadingSlash (text : String) : String := String.ofList (dropLeading text.toList)

/-- The text without one slash of either kind at its end. -/
def dropTrailingSlash (text : String) : String :=
  String.ofList (dropLeading text.toList.reverse).reverse

/-- The text with backslashes turned and without one slash in front. -/
def canonicalName (text : String) : String :=
  String.ofList (dropLeading (exchange '\\' '/' text.toList))

/-! ### Packages -/

/-- The components of a package: what stands between dots and slashes of either kind. -/
def packageComponents (package : String) : List (List Char) :=
  (fields '/' (exchange '\\' '/' (exchange '.' '/' package.toList))).filter fun part => part ≠ []

/-- The path of a package, its components between slashes. -/
def packagePath (package : String) : String :=
  String.ofList (join ['/'] (packageComponents package))

/-! ### Modules -/

/-- The end of the names of files that hold modules. -/
def moduleSuffix : List Char := ".py".toList

/-- The name of the file that holds a package itself. -/
def packageFile : List Char := "__init__".toList

/-- The name of the module that a file holds: its path with dots for slashes, or that of its directory
for the file of a package. Only files whose components are identifiers hold modules. -/
def moduleName? (name : String) : Option String :=
  let text := name.toList
  if !moduleSuffix.isSuffixOf text then none
  else
    let parts := fields '/' (text.take (text.length - moduleSuffix.length))
    let parts := if parts.getLast? = some packageFile then parts.dropLast else parts
    if parts.isEmpty || !parts.all isIdentifier then none
    else some (String.ofList (join ['.'] parts))

end Lookup
