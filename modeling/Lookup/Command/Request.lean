import Lookup.Value.Tag

/-!
# Requests

A command line asks for something, in a form in which the answer is to be printed.

## Main definitions

* `Request`, `Invocation` — what is asked for, and how it is to be printed
-/

namespace Lookup.Command

/-- What is asked for. -/
inductive Request where
  /-- The locations that mount a package along a path; none stands for the search path. -/
  | mounts (package : String) (path : List String)
  /-- The resources of a package whose names have an ending, or the modules among them. -/
  | scan (package : String) (path : List String) (ending? : Option String) (modules : Bool)
  /-- The text of a resource. -/
  | cat (name : String) (path : List String)
  /-- A property, as a value of a type where one is given. -/
  | get (key : String) (tag? : Option Tag) (default? : Option String) (settings? : Option String)
      (pairs : List String)
  /-- All properties as they are stored. -/
  | list (settings? : Option String) (pairs : List String) (bare : Bool)
  deriving DecidableEq, Repr

/-- A request with how it is to be answered. -/
structure Invocation where
  /-- Whether the answer is to be a JSON document. -/
  json : Bool
  /-- Whether advice is wanted with an error. -/
  verbose : Bool
  request : Request
  deriving DecidableEq, Repr

end Lookup.Command
