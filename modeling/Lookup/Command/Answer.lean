import Lookup.Command.Request
import Lookup.Error.Advice
import Lookup.Json
import Lookup.Property.Resolver
import Lookup.Resource.Read
import Lookup.Resource.Scan
import Lookup.Settings.Load

/-!
# Answering requests

A request is answered from the world around the library, or it ends in trouble that is told to the
user, or in a failure that is let through. What is logged on the way is kept with the answer.

## Main definitions

* `Answer` — what a request is answered with
* `Trouble`, `Stop` — why there is no answer
* `Request.answer` — the answer to a request, with the records that are logged
-/

namespace Lookup.Command

open Files Text

variable {ε : Type}

/-- What a request is answered with. -/
inductive Answer where
  /-- The locations that mount a package. -/
  | mounts (package : String) (locations : List String)
  /-- The resources of a package. -/
  | resources (package : String) (found : List Resource)
  /-- The modules of a package. -/
  | modules (package : String) (names : List String)
  /-- The text of a resource. -/
  | content (name text : String)
  /-- The value of a property. -/
  | property (key : String) (value : Value)
  /-- The properties of a store. -/
  | properties (store : Store)

/-- Trouble that is told to the user. -/
inductive Trouble where
  /-- An operation failed. -/
  | failed (operation : String) (context : Context) (error : Error)
  /-- The settings could not be loaded. -/
  | settings (error : Error)
  /-- A property is not in the store. -/
  | undefined (key : String)

/-- Why there is no answer. -/
inductive Stop (ε : Type) where
  /-- Trouble that is told to the user. -/
  | trouble (trouble : Trouble)
  /-- A failure that is let through. -/
  | escape (failure : Failure ε)

/-- The end of an operation that a failure stops. Only errors of the library are told to the user. -/
def Stop.during (tell : Error → Trouble) : Failure ε → Stop ε
  | .error error => .trouble (tell error)
  | failure => .escape failure

/-- A result with the records that are logged on the way to it. -/
abbrev Logged (α : Type) := List LogRecord × α

/-! ### Resources -/

/-- A record of the commands for resources. -/
def resourceRecord (message : String) : LogRecord := ⟨.info, "autumnctl.resources", message⟩

/-- The answer to the request for the locations that mount a package. -/
def answerMounts (world : World) (package : String) (path : List String) :
    Logged (Except (Stop ε) Answer) :=
  ([resourceRecord ("Resolving mounts for '" ++ package ++ "'")],
    match mountLocations (ε := ε) world.disk (world.entries path) package with
    | .ok locations => .ok (.mounts package locations)
    | .error failure => .error (.during (.failed "list mounts" ⟨some package, none⟩) failure))

/-- Whether the name of a resource has the ending that is asked for. Every name has the empty one. -/
def hasEnding (ending? : Option String) (resource : Resource) : Bool :=
  endsWith (ending?.getD "") resource.name

/-- What is listed of the resources found. -/
def listing (package : String) (modules : Bool) (found : List Resource) : Answer :=
  if modules then .modules package (found.filterMap fun resource => moduleName? resource.name)
  else .resources package found

/-- The number of lines that an answer lists. -/
def Answer.count : Answer → Nat
  | .mounts _ locations => locations.length
  | .resources _ found => found.length
  | .modules _ names => names.length
  | .content _ _ => 1
  | .property _ _ => 1
  | .properties store => store.size

/-- The answer to the request for the resources or the modules of a package. -/
def answerScan (world : World) (package : String) (path : List String) (ending? : Option String)
    (modules : Bool) : Logged (Except (Stop ε) Answer) :=
  let first := resourceRecord ("Scanning namespace '" ++ package ++ "'")
  let run : Run ScanStep (Failure ε) := scan world.disk (world.entries path) package
  let records := first :: run.items.map ScanStep.record
  match run.failure? with
  | some failure =>
    (records, .error (.during (.failed "scan resources" ⟨some package, none⟩) failure))
  | none =>
    let answer := listing package modules (run.resources.filter (hasEnding ending?))
    (records ++ [resourceRecord ("Found " ++ toString answer.count ++ " resources")], .ok answer)

/-- The answer to the request for the text of a resource. -/
def answerCat (world : World) (name : String) (path : List String) :
    Logged (Except (Stop ε) Answer) :=
  let (records, text) := readText (ε := ε) world.disk (world.entries path) name "utf-8"
  (records,
    match text with
    | .ok text => .ok (.content name text)
    | .error failure => .error (.during (.failed "read resource" ⟨none, none⟩) failure))

/-! ### Properties -/

/-- A record of the commands for properties. -/
def propertyRecord (message : String) : LogRecord := ⟨.info, "autumnctl.props", message⟩

/-- The settings of a file with those of the command line over them. -/
def explicitSettings (world : World) (settings? : Option String) (pairs : List String) :
    Except (Failure ε) Store :=
  match loadSettings world (settings?.map Path.ofText) with
  | .error failure => .error failure
  | .ok settings => putPairs settings pairs

/-- The resolver of a file of settings and those of the command line over an environment. -/
def loadResolver (world : World) (environment : Store) (settings? : Option String)
    (pairs : List String) : Logged (Except (Stop ε) (Resolver ε)) :=
  let first := propertyRecord "Loading settings..."
  match explicitSettings world settings? pairs with
  | .error failure => ([first], .error (.during .settings failure))
  | .ok settings =>
    let second := propertyRecord ("Loaded " ++ toString settings.size ++ " settings")
    match Resolver.build world.zones environment settings [] with
    | .error failure => ([first, second], .error (.escape failure))
    | .ok resolver => (first :: second :: resolver.records, .ok resolver)

/-- The value of a property as a type. -/
def propertyValue (resolver : Resolver ε) (key : String) (tag? : Option Tag)
    (default? : Option String) : Except (Stop ε) Answer :=
  let stop : Failure ε → Stop ε := .during (.failed "resolve property" ⟨none, some key⟩)
  match resolver.get key default? with
  | .error failure => .error (stop failure)
  | .ok none => .error (.trouble (.undefined key))
  | .ok (some text) =>
    match tag? with
    | none => .ok (.property key (.text text))
    | some tag =>
      match resolver.convert (.tag tag) text with
      | .error failure => .error (stop failure)
      | .ok value => .ok (.property key value)

/-- The answer to the request for a property. -/
def answerGet (world : World) (key : String) (tag? : Option Tag) (default? settings? : Option String)
    (pairs : List String) : Logged (Except (Stop ε) Answer) :=
  let (records, resolver) := loadResolver (ε := ε) world world.environment settings? pairs
  (records,
    match resolver with
    | .error stop => .error stop
    | .ok resolver => propertyValue resolver key tag? default?)

/-- The answer to the request for all properties, without the environment if `bare`. -/
def answerList (world : World) (settings? : Option String) (pairs : List String) (bare : Bool) :
    Logged (Except (Stop ε) Answer) :=
  let environment := if bare then .empty else world.environment
  let (records, resolver) := loadResolver (ε := ε) world environment settings? pairs
  (records, resolver.map fun resolver => .properties resolver.store)

/-- The answer to a request, with the records that are logged. -/
def Request.answer (world : World) : Request → Logged (Except (Stop ε) Answer)
  | .mounts package path => answerMounts world package path
  | .scan package path ending? modules => answerScan world package path ending? modules
  | .cat name path => answerCat world name path
  | .get key tag? default? settings? pairs => answerGet world key tag? default? settings? pairs
  | .list settings? pairs bare => answerList world settings? pairs bare

end Lookup.Command
