import Lookup.Resource.SearchPath

/-!
# Scanning packages

A scan enters the mounts of a package one after the other and finds the resources of each. What it
comes to before a failure counts.

## Main definitions

* `ScanStep` — entering a mount or finding a resource
* `scan` — the steps through all mounts of a package
* `Run.collect` — the results of a function on the resources that are found
-/

namespace Lookup

open Files

variable {ε : Type}

/-- A step of a scan. -/
inductive ScanStep where
  /-- The mount at a location is entered. -/
  | entered (location : String)
  /-- A resource is found. -/
  | found (resource : Resource)
  deriving DecidableEq, Repr

/-- The record that is logged for a step. -/
def ScanStep.record : ScanStep → LogRecord
  | .entered location => ⟨.info, "autumnio.scanner", "scan path: " ++ location⟩
  | .found resource => ⟨.debug, "autumnio.scanner", "found resource: " ++ resource.shown⟩

/-- The resource that a step finds. -/
def ScanStep.resource? : ScanStep → Option Resource
  | .entered _ => none
  | .found resource => some resource

/-- The steps through the mount at a location. -/
def scanMount (disk : Disk) (package location : String) : Run ScanStep (Failure ε) :=
  match Mount.ofLocation location package with
  | .error error => ⟨[.entered location], some (.error (.resource error))⟩
  | .ok mount =>
    let run : Run Resource (Failure ε) := mount.walk disk
    ⟨.entered location :: run.items.map .found, run.failure?⟩

/-- The steps through the mounts at locations, up to the first failure. -/
def scanMounts (disk : Disk) (package : String) : List String → Run ScanStep (Failure ε)
  | [] => ⟨[], none⟩
  | location :: rest =>
    let first : Run ScanStep (Failure ε) := scanMount disk package location
    match first.failure? with
    | some failure => ⟨first.items, some failure⟩
    | none =>
      let others := scanMounts disk package rest
      ⟨first.items ++ others.items, others.failure?⟩

/-- The steps through all mounts of a package along a search path. -/
def scan (disk : Disk) (entries : List String) (package : String) : Run ScanStep (Failure ε) :=
  match mountLocations disk entries package with
  | .error failure => ⟨[], some failure⟩
  | .ok locations => scanMounts disk (packagePath package) locations

/-- The resources that a scan finds. -/
def Run.resources (run : Run ScanStep (Failure ε)) : List Resource :=
  run.items.filterMap ScanStep.resource?

/-- Goes through steps with a function that may select a result for each resource or fail: the steps
gone through, and the results or the failure. -/
def collectSteps {α : Type} (select : Resource → Except ε (Option α)) (failure? : Option (Failure ε)) :
    List ScanStep → List ScanStep × Except (Failure ε) (List α)
  | [] =>
    match failure? with
    | some failure => ([], .error failure)
    | none => ([], .ok [])
  | .entered location :: rest =>
    let (steps, results) := collectSteps select failure? rest
    (.entered location :: steps, results)
  | .found resource :: rest =>
    match select resource with
    | .error error => ([.found resource], .error (.foreign error))
    | .ok result? =>
      let (steps, results) := collectSteps select failure? rest
      (.found resource :: steps, results.map (result?.toList ++ ·))

/-- The results of a function on the resources that are found, with the steps gone through. -/
def Run.collect {α : Type} (run : Run ScanStep (Failure ε))
    (select : Resource → Except ε (Option α)) :
    List ScanStep × Except (Failure ε) (List α) :=
  collectSteps select run.failure? run.items

end Lookup
