import Lookup.Error.Basic
import Lookup.Settings.Flatten
import Lookup.World

/-!
# Loading settings

The settings file is the one that the environment names, or the first that exists in the places for
settings of the user and of the system. There need not be one.

## Main definitions

* `settingsPlaces` — the paths at which the settings file is looked for
* `settingsPath` — the path of the settings file
* `settingsOf` — the settings in a document
* `loadSettings` — the settings in a file
* `ofPairs` — the settings of a list of pairs
-/

namespace Lookup

open Files Text

variable {ε : Type}

/-- The failure of settings. -/
def ConfigError.failure (error : ConfigError) : Failure ε := .error (.config error)

/-- Whether a path leads to a file. -/
def checkFile (world : World) (path : Path) : Except (Failure ε) Bool :=
  (world.disk.isFile path).mapError fun
    | .refused errno _ => .fault (.system errno)
    | .other _ => .fault .nulInPath

/-- A path in which a tilde is expanded. -/
def expandHome (world : World) (path : Path) : Except (Failure ε) Path :=
  match world.expandHome path with
  | some path => .ok path
  | none => .error (.fault .unknownUser)

/-- The file of settings below a directory for settings. -/
def settingsFileIn (directory : Path) : Path := (directory.child "autumn").child "settings.yaml"

/-- The first path of a list that leads to a file. -/
def firstFile (world : World) : List Path → Except (Failure ε) (Option Path)
  | [] => .ok none
  | path :: rest =>
    match checkFile world path with
    | .error failure => .error failure
    | .ok true => .ok (some path)
    | .ok false => firstFile world rest

/-- The directories of the system's settings. -/
def systemDirectories (world : World) : List String :=
  let all := (world.environment.get? "XDG_CONFIG_DIRS").getD "/etc/xdg"
  (split ':' all).filter (· ≠ "")

/-- The path that the environment names as that of the settings file; empty where it names none. -/
def overridePath (world : World) : String := (world.environment.get? "AUTUMN_CONFIG").getD ""

/-- The paths at which the settings file is looked for: the one that the environment names, or the ones
in the places for settings. -/
def settingsPlaces (world : World) : Except (Failure ε) (List Path) :=
  if overridePath world ≠ "" then (expandHome world (Path.ofText (overridePath world))).map ([·])
  else
    let user := (world.environment.get? "XDG_CONFIG_HOME").getD "~/.config"
    (expandHome world (Path.ofText user)).map fun directory =>
      settingsFileIn directory ::
        (systemDirectories world).map fun name => settingsFileIn (Path.ofText name)

/-- The path of the settings file, if there is one. A file that the environment names must exist. -/
def settingsPath (world : World) : Except (Failure ε) (Option Path) :=
  match settingsPlaces world with
  | .error failure => .error failure
  | .ok places =>
    match firstFile world places, places with
    | .ok none, place :: _ =>
      if overridePath world ≠ "" then .error (ConfigError.overrideMissing place.text).failure
      else .ok none
    | path?, _ => path?

/-- The settings in a document at a path. -/
def settingsOf (path : Path) (document : Document) : Except (Failure ε) Store :=
  -- Nothing at all, and anything that stands for nothing, counts as no settings.
  if document.isEmpty then .ok .empty
  else
    match document.entries? with
    | none => .error (ConfigError.notMapping path.text).failure
    | some entries =>
      match document.tree entries with
      | .error fault => .error (.fault fault)
      | .ok tree => .ok (flatten "" tree)

/-- The settings that the text of a file at a path holds. -/
def readSettings (world : World) (path : Path) (text : String) : Except (Failure ε) Store :=
  match world.reader text with
  | .error (.invalid complaint) => .error (ConfigError.invalid path.text complaint).failure
  | .error (.fault fault) => .error (.fault fault)
  | .ok document => settingsOf path document

/-- The text with a line feed for each carriage return and each pair of both. -/
def lineFeeds : List Char → List Char
  | [] => []
  | '\r' :: '\n' :: rest => '\n' :: lineFeeds rest
  | c :: rest => (if c = '\r' then '\n' else c) :: lineFeeds rest

/-- The settings in the file at a path. -/
def loadFile (world : World) (path : Path) : Except (Failure ε) Store :=
  match world.disk.content path with
  | .error .nul => .error (.fault .nulInPath)
  | .error (.system error) => .error (ConfigError.unreadable error).failure
  | .ok content =>
    match decodeUtf8? content.bytes with
    | none => .error (.fault .undecodable)
    | some text => readSettings world path (String.ofList (lineFeeds text))

/-- The settings in the file at a path, or in the settings file, where there is one. -/
def loadSettings (world : World) (path? : Option Path) : Except (Failure ε) Store :=
  let path : Except (Failure ε) (Option Path) :=
    match path? with
    | some path => .ok (some path)
    | none => settingsPath world
  match path with
  | .error failure => .error failure
  | .ok none => .ok .empty
  | .ok (some path) => loadFile world path

/-- The settings that a list of pairs puts over others. -/
def putPairs (settings : Store) : List String → Except (Failure ε) Store
  | [] => .ok settings
  | pair :: rest =>
    match readPair? pair with
    | some (key, value) => putPairs (settings.insert key value) rest
    | none => .error (ConfigError.badPair pair).failure

/-- The settings of a list of pairs, of which the last one for a key counts. -/
def ofPairs (pairs : List String) : Except (Failure ε) Store := putPairs .empty pairs

end Lookup
