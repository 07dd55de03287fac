import Lookup.Command.Builtin
import Lookup.Command.Run
import Lookup.Command.Site
import Lookup.Files.Zip
import Lookup.Time.Almanac
import Lookup.Yaml.Data

/-!
# The program

Reads what the command line needs of the environment and the files, runs it, and prints what comes of
it.
-/

namespace Lookup

open Files Text Command

/-! ### The environment -/

/-- The text of a file of the system, and nothing where there is no such file. -/
def systemText (path : String) : IO (List Char) := do
  try
    let bytes ← IO.FS.readBinFile path
    pure (decodeUtf8Lossy bytes.toList)
  catch _ => pure []

/-- The environment variables. -/
def readEnvironment : IO Store := do
  let text ← systemText "/proc/self/environ"
  pure (.ofList ((fields '\x00' text).filterMap fun entry =>
    (cut '=' entry).map fun (name, value) => (String.ofList name, String.ofList value)))

/-- The users with their numbers and their home directories. -/
def readUsers : IO (List (String × String × String)) := do
  let text ← systemText "/etc/passwd"
  pure ((fields '\n' text).filterMap fun line =>
    match (fields ':' line).map String.ofList with
    | [name, _, number, _, _, home, _] => some (name, number, home)
    | _ => none)

/-- The number of the current user. -/
def readUserNumber : IO String := do
  let text ← systemText "/proc/self/status"
  let line? := (fields '\n' text).find? fun line => "Uid:".toList.isPrefixOf line
  pure (((line?.map (fields '\t')).getD [])[1]?.map String.ofList |>.getD "")

/-! ### Files -/

/-- The content of a file. -/
def readContent (path : String) : IO Content := do
  let bytes ← IO.FS.readBinFile path
  pure ⟨bytes.toList, Archive.ofBytes? bytes.toList⟩

/-- The directory at a path with all that is below it. Links to directories are kept as links. -/
partial def readDirectory (path : String) : IO Node := do
  let here ← IO.FS.realPath path
  let entries ← here.readDir
  let nodes ← entries.toList.filterMapM fun entry => do
    try
      let kind := (← entry.path.symlinkMetadata).type
      let target ← IO.FS.realPath entry.path
      let node ←
        if ← target.isDir then
          if kind == .dir then readDirectory target.toString else pure (.link target.toString)
        else pure (.file (← readContent target.toString))
      pure (some (entry.fileName, node))
    catch _ => pure none
  pure (.directory nodes)

/-- The disk with what is at a site of the system. -/
def readSite (disk : Disk) (site : Site) : IO Disk := do
  try
    let here ← IO.FS.realPath site.path.text
    if ← here.isDir then
      if site.deep then pure (disk.put site.path (← readDirectory here.toString))
      else pure (disk.makeDirectory site.path)
    else pure (disk.put site.path (.file (← readContent here.toString)))
  catch _ => pure disk

/-! ### Runs -/

/-- The world without files that are read later. -/
def readWorld : IO World := do
  let environment ← readEnvironment
  let users ← readUsers
  let number ← readUserNumber
  let user := ((users.find? fun entry => entry.2.1 = number).map (·.1)).getD ""
  let cwd := Path.ofText (← IO.currentDir).toString
  let disk := (⟨.directory [], [], 0⟩ : Disk).makeDirectory cwd
  pure ⟨disk.change cwd, environment, [""], user, users.map fun entry => (entry.1, entry.2.2),
    Time.almanac, Yaml.read fun _ => "not a settings document"⟩

/-- The world with the files that a command line reads. -/
def World.withFiles (world : World) (line : List String) : IO World :=
  match Invocation.read world.disk line with
  | .error _ => pure world
  | .ok invocation => do
    let disk ← (invocation.request.sites world).foldlM readSite world.disk
    pure { world with disk := disk }

end Lookup

/-- Runs the program on a command line. -/
def main (line : List String) : IO UInt32 := do
  let world ← (← Lookup.readWorld).withFiles line
  match (Lookup.Command.run (ε := Empty) .builtin world line).2 with
  | .ok outcome =>
    IO.print outcome.output
    IO.eprint outcome.errors
    pure (UInt32.ofNat outcome.status)
  | .error _ =>
    IO.eprintln "The run was cut short by a fault."
    pure 1
