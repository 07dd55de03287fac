import Lookup.Proofs.Resource.Location
import Lookup.Proofs.Resource.Rooted
import Lookup.Proofs.Resource.Scan

/-!
# The path of a package as its canonical form

The path of a package has slashes only between its components and no other separators, and packages have the same
path if they have the same components. Such packages are found in the same places, and scans of them come to the
same, but for the name of the package that a failure of finding the places repeats. From the directory of a package
the way back up leads to the entry in which it was found.

## Main definitions

* `packageParts` — what stands between the separators of a package
* `IsCanonical` — texts that separate components by single slashes
* `Failure.naming`, `Run.naming` — a failure with another name for the package

## Main results

* `packagePath_eq_self_iff` — the canonical texts are those that are their own path
* `packagePath_eq_iff` — packages with the same path
* `mountLocations_naming`, `scan_naming` — the places of packages with the same path, and scans of them
* `packagePath_canonical` — all this together, with the way back up
-/

namespace Lookup

open Files Text

variable {package other : String}

/-! ### Components -/

/-- The characters that separate the components of a package. -/
def isPackageSeparator (c : Char) : Bool := c = '.' || c = '/' || c = '\\'

/-- What stands between the separators of a package, unless nothing does. -/
def packageParts (package : String) : List (List Char) :=
  (package.toList.splitOnP isPackageSeparator).filter fun part => part ≠ []

/-- Turning two separators into the third one and splitting there is splitting at all three. -/
theorem fields_exchange_eq_splitOnP (text : List Char) :
    fields '/' (exchange '\\' '/' (exchange '.' '/' text)) = text.splitOnP isPackageSeparator := by
  rw [fields_eq_splitOn]
  -- A character becomes a slash exactly if it separates, so both sides split at the same places.
  induction text with
  | nil => rfl
  | cons d rest ih =>
    have hcons : exchange '\\' '/' (exchange '.' '/' (d :: rest)) =
        (if isPackageSeparator d then '/' else d) :: exchange '\\' '/' (exchange '.' '/' rest) := by
      simp only [exchange, List.map_cons, isPackageSeparator, Bool.or_eq_true, decide_eq_true_eq]
      congr 1
      split_ifs <;> simp_all
    rw [hcons, List.splitOn_cons_eq_if_modifyHead, List.splitOnP_cons_eq_if_modifyHead, ih]
    by_cases hd : isPackageSeparator d = true
    · simp [hd]
    · have hslash : d ≠ '/' := by
        rintro rfl
        exact hd rfl
      simp [hd, hslash]

theorem packageComponents_eq_packageParts (package : String) : packageComponents package = packageParts package := by
  rw [packageComponents, fields_exchange_eq_splitOnP, packageParts]

/-! ### The canonical form -/

/-- A text that separates components by single slashes and by nothing else. -/
structure IsCanonical (text : List Char) : Prop where
  dot_notMem : '.' ∉ text
  backslash_notMem : '\\' ∉ text
  head?_ne : text.head? ≠ some '/'
  getLast?_ne : text.getLast? ≠ some '/'
  not_doubled : ¬ ['/', '/'] <:+: text

theorem isCanonical_packagePath (package : String) : IsCanonical (packagePath package).toList := by
  have hpart : ∀ {c}, c ∈ (packagePath package).toList → c = '/' ∨ ∃ part ∈ packageComponents package, c ∈ part := by
    intro c hc
    rw [packagePath, String.toList_ofList] at hc
    exact (mem_join hc).imp_left List.mem_singleton.1
  have hslashes : (packagePath package).toList.head? ≠ some '/' ∧ (packagePath package).toList.getLast? ≠ some '/' ∧
      ¬ ['/', '/'] <:+: (packagePath package).toList := by
    by_cases hnil : packageComponents package = []
    · rw [packagePath, hnil]
      simp [join]
    · -- The fields of the path are the components, none of which is empty.
      have hfields : fields '/' (packagePath package).toList = packageComponents package := by
        rw [packagePath, String.toList_ofList]
        exact fields_join (fun part hpart => (isPackageComponent hpart).slash_notMem) hnil
      have hnone : [] ∉ fields '/' (packagePath package).toList := by
        rw [hfields]
        exact fun hmem => (isPackageComponent hmem).ne_nil rfl
      rw [nil_mem_fields_iff] at hnone
      simp only [not_or] at hnone
      exact hnone.2
  refine ⟨fun hdot => ?_, fun hback => ?_, hslashes.1, hslashes.2.1, hslashes.2.2⟩
  · obtain hslash | ⟨part, hmem, hc⟩ := hpart hdot
    · exact absurd hslash (by decide)
    · exact (isPackageComponent hmem).dot_notMem hc
  · obtain hslash | ⟨part, hmem, hc⟩ := hpart hback
    · exact absurd hslash (by decide)
    · exact (isPackageComponent hmem).backslash_notMem hc

/-- The canonical texts are the packages that are their own path. -/
theorem packagePath_eq_self_iff : packagePath package = package ↔ IsCanonical package.toList := by
  constructor
  · intro h
    exact h ▸ isCanonical_packagePath package
  · intro h
    by_cases hempty : package.toList = []
    · rw [String.toList_eq_nil_iff.1 hempty]
      rfl
    · have hnone : [] ∉ fields '/' package.toList := by
        rw [nil_mem_fields_iff]
        simp only [not_or]
        exact ⟨hempty, h.head?_ne, h.getLast?_ne, h.not_doubled⟩
      have hcomponents : packageComponents package = fields '/' package.toList := by
        rw [packageComponents, exchange_eq_self h.dot_notMem, exchange_eq_self h.backslash_notMem,
          List.filter_eq_self]
        exact fun part hpart => decide_eq_true fun hnil => hnone (hnil ▸ hpart)
      rw [packagePath, hcomponents, join_fields, String.ofList_toList]

theorem packagePath_packagePath (package : String) : packagePath (packagePath package) = packagePath package :=
  packagePath_eq_self_iff.2 (isCanonical_packagePath package)

/-- Packages have the same path exactly if they have the same components. -/
theorem packagePath_eq_iff : packagePath package = packagePath other ↔ packageParts package = packageParts other := by
  rw [← packageComponents_eq_packageParts, ← packageComponents_eq_packageParts]
  constructor
  · intro h
    rw [← fields_packagePath package, h, fields_packagePath]
  · intro h
    rw [packagePath, h, packagePath]

/-! ### Names in failures -/

/-- An activity with another name for the package whose places are looked for. -/
def Activity.naming (package : String) : Activity → Activity
  | .enumerating _ => .enumerating package
  | activity => activity

variable {ε : Type}

/-- A failure with another name for the package whose places are looked for. -/
def Failure.naming (package : String) : Failure ε → Failure ε
  | .error (.resource (.failed activity cause)) => .error (.resource (.failed (activity.naming package) cause))
  | failure => failure

/-- A run whose failure has another name for that package. -/
def Run.naming {α : Type} (package : String) (run : Run α (Failure ε)) : Run α (Failure ε) :=
  ⟨run.items, run.failure?.map (.naming package)⟩

variable {disk : Disk} {activity : Activity}

@[simp] theorem Failure.naming_during (activity : Activity) (cause : Cause) :
    (Failure.during activity cause : Failure ε).naming package = .during (activity.naming package) cause := rfl

@[simp] theorem Failure.naming_opening (activity : Activity) (error : Disk.OpenError) :
    (Failure.opening activity error : Failure ε).naming package = .opening (activity.naming package) error := by
  cases error <;> rfl

@[simp] theorem Failure.naming_defective (activity : Activity) (defect : Defect) :
    (Failure.defective activity defect : Failure ε).naming package = .defective (activity.naming package) defect := by
  cases defect <;> rfl

theorem openArchive_naming (disk : Disk) (activity : Activity) (package : String) (path : Path) :
    (openArchive disk activity path : Except (Failure ε) _).mapError (.naming package) =
      openArchive disk (activity.naming package) path := by
  rw [openArchive, openArchive]
  cases disk.content path with
  | error error => simp [Except.mapError]
  | ok content =>
    dsimp only
    cases content.archive with
    | none => rfl
    | some archive =>
      dsimp only
      cases archive.defect? with
      | none => rfl
      | some defect => simp [Except.mapError]

theorem entryLocation?_naming (path : String) (entry : Path) :
    (entryLocation? disk activity path entry : Except (Failure ε) _).mapError (.naming package) =
      entryLocation? disk (activity.naming package) path entry := by
  rw [entryLocation?, entryLocation?]
  -- The activity stands in the failure of each step and nowhere else.
  rcases disk.isDirectory entry with error | _ | _
  · rfl
  · dsimp only
    rcases isArchive disk entry with error | _ | _
    · rfl
    · rfl
    · dsimp only
      rw [← openArchive_naming]
      cases (openArchive disk activity entry : Except (Failure ε) _) <;> rfl
  · dsimp only
    rcases disk.isDirectory (if path = "" then entry else entry.append (Path.ofText path)) with error | _ | _
    · rfl
    · rfl
    · rfl

/-! ### Places and scans -/

/-- Packages with the same path are found in the same places. -/
theorem mountLocations_naming (h : packagePath package = packagePath other) (disk : Disk) (entries : List String) :
    (mountLocations disk entries other : Except (Failure ε) _) =
      (mountLocations disk entries package).mapError (.naming other) := by
  have hentry : (entryLocation? disk (.enumerating other) (packagePath other) : Path → Except (Failure ε) _) =
      fun entry =>
        (entryLocation? disk (.enumerating package) (packagePath package) entry).mapError (.naming other) := by
    funext entry
    rw [entryLocation?_naming, h]
    rfl
  rw [mountLocations, mountLocations, hentry, mapM_mapError]
  cases ((searchEntries disk entries).mapM
    (entryLocation? disk (.enumerating package) (packagePath package)) : Except (Failure ε) _) <;> rfl

theorem Run.naming_eq_self_iff {α : Type} {run : Run α (Failure ε)} :
    run.naming package = run ↔ run.failure?.map (.naming package) = run.failure? := by
  obtain ⟨items, failure?⟩ := run
  simp [Run.naming]

theorem DirectoryMount.naming_collect (mount : DirectoryMount) (found : List Disk.Found) :
    (mount.collect found : Run Resource (Failure ε)).naming package = mount.collect found := by
  induction found with
  | nil => rfl
  | cons first rest ih =>
    cases first with
    | file path =>
      rw [DirectoryMount.collect]
      conv_rhs => rw [← ih]
      rfl
    | error error => cases error <;> rfl

/-- No failure of going through a mount has the name of a package. -/
theorem Mount.naming_walk (mount : Mount) (disk : Disk) (package : String) :
    (mount.walk disk : Run Resource (Failure ε)).naming package = mount.walk disk := by
  cases mount with
  | directory mount => exact mount.naming_collect (disk.walk mount.root)
  | archive mount =>
    have hopen := openArchive_naming (ε := ε) disk (.readingArchive mount.archive.text) package mount.archive
    rw [Mount.walk, ArchiveMount.walk]
    cases harchive : (openArchive disk (.readingArchive mount.archive.text) mount.archive : Except (Failure ε) _) with
    | error failure =>
      rw [harchive] at hopen
      have hfailure : failure.naming package = failure := Except.error.inj (hopen.trans harchive)
      simp only [Run.naming, Option.map_some, hfailure]
    | ok archive =>
      dsimp only [Run.naming, ArchiveMount.collect]
      split <;> rfl

/-- Nor has any failure of scanning a place. -/
theorem naming_scanMount (disk : Disk) (package path location : String) :
    (scanMount disk path location : Run ScanStep (Failure ε)).naming package = scanMount disk path location := by
  rw [scanMount]
  rcases Mount.ofLocation_cases location path with
    ⟨-, fault, hmount⟩ | ⟨uri, -, ⟨error, herror, hmount⟩ | ⟨mount, -, hmount⟩⟩
  · rw [hmount]
    rfl
  · obtain ⟨fault, rfl⟩ := filePath_error herror
    rw [hmount]
    rfl
  · rw [hmount]
    have hwalk := mount.naming_walk (ε := ε) disk package
    dsimp only
    conv_rhs => rw [← hwalk]
    rfl

theorem naming_scanMounts (path : String) (locations : List String) :
    (scanMounts disk path locations : Run ScanStep (Failure ε)).naming package = scanMounts disk path locations := by
  induction locations with
  | nil => rfl
  | cons location rest ih =>
    have hfirst := Run.naming_eq_self_iff.1
      (naming_scanMount (ε := ε) disk package path location)
    have hrest := Run.naming_eq_self_iff.1 ih
    rw [Run.naming_eq_self_iff, scanMounts]
    cases hfailure : (scanMount disk path location : Run ScanStep (Failure ε)).failure? with
    | some failure =>
      rw [hfailure] at hfirst
      exact hfirst
    | none => exact hrest

/-- Scans of packages with the same path come to the same, but for the name of the package in a failure. -/
theorem scan_naming (h : packagePath package = packagePath other) (disk : Disk) (entries : List String) :
    (scan disk entries other : Run ScanStep (Failure ε)) = (scan disk entries package).naming other := by
  rw [scan, scan, mountLocations_naming h]
  cases (mountLocations disk entries package : Except (Failure ε) _) with
  | error failure => rfl
  | ok locations =>
    dsimp only [Except.mapError]
    rw [naming_scanMounts, h]

/-- The results on what is found depend on the failure of the scan only in how they fail. -/
theorem collect_naming {α : Type} (run : Run ScanStep (Failure ε)) (select : Resource → Except ε (Option α)) :
    (run.naming package).collect select =
      ((run.collect select).1, (run.collect select).2.mapError (.naming package)) := by
  obtain ⟨steps, failure?⟩ := run
  rw [Run.naming, Run.collect, Run.collect]
  dsimp only
  induction steps with
  | nil => cases failure? <;> rfl
  | cons step rest ih =>
    cases step with
    | entered location => simp only [collectSteps, ih]
    | found resource =>
      rw [collectSteps, collectSteps, ih]
      cases select resource with
      | error error => rfl
      | ok result? =>
        dsimp only
        cases (collectSteps select failure? rest).2 <;> rfl

/-! ### The way back up -/

/-- The path of a package below an entry is read back from its URI, and what is left without the components of the
package is the entry. -/
theorem exists_basePath_eq {entry : Path} (hentry : entry.IsNormal) (package : String) :
    ∃ root, filePath (fileUri (entry.append (Path.ofText (packagePath package)))).toList = .ok root ∧
      DirectoryMount.basePath root (packagePath package) = entry ∧
      DirectoryMount.ofLocation (fileUri (entry.append (Path.ofText (packagePath package)))).toList
        (packagePath package) = .ok ⟨root, dropTrailingSlash entry.text⟩ := by
  rw [ofText_packagePath, Path.append_relative]
  exact ⟨_, filePath_fileUri (hentry.below fun _ => isComponent_packageNames),
    basePath_below hentry.isAbsolute package, directoryMount_ofLocation hentry package⟩

/-- The path of a package is a canonical form. It has no dots and backslashes and no slashes at its ends or behind
another one, and it is its own path. Packages have the same path exactly if they have the same components, and then
they have the same places and scans along every search path, except that a failure of looking for the places repeats
the name of the package as it is given. In every directory the path leads to one from which the way back up by as many
components is the way to that directory. -/
theorem packagePath_canonical (package : String) :
    IsCanonical (packagePath package).toList ∧
    packagePath (packagePath package) = packagePath package ∧
    (∀ other, packagePath package = packagePath other ↔ packageParts package = packageParts other) ∧
    (∀ other, packageParts package = packageParts other → ∀ disk entries,
      (mountLocations disk entries other : Except (Failure ε) _) =
        (mountLocations disk entries package).mapError (.naming other) ∧
      (scan disk entries other : Run ScanStep (Failure ε)) = (scan disk entries package).naming other ∧
      ∀ (α : Type) (select : Resource → Except ε (Option α)),
        (scan disk entries other).collect select = (((scan disk entries package).collect select).1,
          ((scan disk entries package).collect select).2.mapError (.naming other))) ∧
    ∀ entry : Path, entry.IsNormal →
      ∃ root, filePath (fileUri (entry.append (Path.ofText (packagePath package)))).toList = .ok root ∧
        DirectoryMount.basePath root (packagePath package) = entry ∧
        DirectoryMount.ofLocation (fileUri (entry.append (Path.ofText (packagePath package)))).toList
          (packagePath package) = .ok ⟨root, dropTrailingSlash entry.text⟩ := by
  refine ⟨isCanonical_packagePath package, packagePath_packagePath package, fun other => packagePath_eq_iff, ?_, ?_⟩
  · intro other hparts disk entries
    have hpath := packagePath_eq_iff.2 hparts
    have hscan : (scan disk entries other : Run ScanStep (Failure ε)) = (scan disk entries package).naming other :=
      scan_naming hpath disk entries
    refine ⟨mountLocations_naming hpath disk entries, hscan, fun α select => ?_⟩
    rw [hscan, collect_naming]
  · intro entry hentry
    exact exists_basePath_eq hentry package

/-- Separators in front of a package, behind it or doubled do not count, and the way back up from its directory leads
to the entry. -/
theorem packagePath_canonical_escapeDisk :
    (mountLocations escapeDisk ["d\\"] "a%41" : Except (Failure Empty) _) =
      (mountLocations escapeDisk ["d\\"] ".a%41//").mapError (.naming "a%41") ∧
    (scanNames escapeDisk ["d\\"] "a%41" : Except (Failure Empty) _) =
      (scanNames escapeDisk ["d\\"] ".a%41//").mapError (.naming "a%41") ∧
    ∃ root, filePath (fileUri ⟨.slash, ["d\\", "a%41"]⟩).toList = .ok root ∧
      DirectoryMount.basePath root (packagePath ".a%41//") = ⟨.slash, ["d\\"]⟩ := by
  obtain ⟨-, -, -, hsame, hback⟩ := packagePath_canonical (ε := Empty) ".a%41//"
  obtain ⟨root, hroot, hbase, -⟩ := hback ⟨.slash, ["d\\"]⟩ ⟨rfl, by decide⟩
  obtain ⟨hlocations, hscan, -⟩ := hsame "a%41" (by decide +kernel) escapeDisk ["d\\"]
  refine ⟨hlocations, ?_, root, hroot, hbase⟩
  rw [scanNames, scanNames, hscan, collect_naming]

end Lookup
