import Lookup.Proofs.Files.Limits
import Lookup.Proofs.Resource.Fault

/-!
# Scans along joined search paths

A scan first finds out where a package lies and only then goes through it. Where no path is too long for
the system and no member of an archive is the top, the one thing that can go wrong is that an archive on the
search path cannot be opened, and that ends the scan before its first step. So the results along one search
path and another behind it are the results along both, one after the other.

## Main definitions

* `scanResults` — the results of a scan for a function that never fails
* `CannotOpen` — archives that cannot be opened
* `WithinLimits` — search paths along which no path is too long

## Main results

* `scan_of_defect`, `scan_of_openable` — how scans end
* `scanResults_append` — results along joined search paths, and exactly when and how they fail
-/

namespace Lookup

open Files Text

variable {ε : Type} {disk : Disk} {entry : Path} {package location : String} {activity : Activity}
  {defect : Defect}

/-- The results that a scan of a package yields for a function that never fails. -/
def scanResults {α : Type} (disk : Disk) (entries : List String) (package : String)
    (select : Resource → Option α) : Except (Failure ε) (List α) :=
  ((scan disk entries package).collect fun resource => .ok (select resource)).2

/-! ### Archives that cannot be opened -/

/-- An entry of the search path that is no directory but an archive, which cannot be opened. -/
def CannotOpen (disk : Disk) (entry : Path) : Prop :=
  disk.isDirectory entry = .ok false ∧ isArchive disk entry = .ok true ∧
    ∀ (ε : Type) (activity : Activity) (archive : Archive),
      openArchive disk activity entry ≠ (.ok archive : Except (Failure ε) Archive)

/-- The archives that cannot be opened are those with which something is wrong. -/
theorem cannotOpen_iff : CannotOpen disk entry ↔ ∃ defect, archiveDefect? disk entry = some defect := by
  constructor
  · rintro ⟨-, harchive, hopen⟩
    by_contra hnone
    rw [not_exists, ← Option.eq_none_iff_forall_ne_some] at hnone
    obtain ⟨archive, hok⟩ : ∃ archive, openArchive disk (.reading "") entry =
        (.ok archive : Except (Failure Empty) _) := exists_openArchive_eq_ok harchive hnone _
    exact hopen _ _ _ hok
  · rintro ⟨defect, h⟩
    refine ⟨isDirectory_of_isArchive (isArchive_of_defect h), isArchive_of_defect h, ?_⟩
    intro ε activity archive hok
    rw [openArchive_of_defect h] at hok
    cases hok

/-! ### One entry -/

/-- An entry of the search path below which the directory of a package and all that is in it have paths
that are not too long. If it is an archive, no member is the top. -/
structure EntryWithinLimits (disk : Disk) (package : String) (entry : Path) : Prop where
  isNormal : entry.IsNormal
  length : Node.tooLong entry = false
  fits : disk.Fits (entry.below (packageNames package))
  straight : ∀ content archive, disk.content entry = .ok content → content.archive = some archive →
    ¬ archive.IsCircular

namespace EntryWithinLimits

variable (hroot : disk.root.HasShortNames) (hentry : EntryWithinLimits disk package entry)

include hroot hentry

theorem resolve_ne : disk.resolve entry ≠ .error (.refused .nameTooLong) := by
  refine Disk.resolve_ne_nameTooLong hroot.targets hentry.isNormal ?_ hentry.length
  intro hlong
  exact hentry.fits.names (Node.hasLongName_append.2 (.inl hlong))

theorem resolve_below_ne :
    disk.resolve (entry.below (packageNames package)) ≠ .error (.refused .nameTooLong) :=
  Disk.resolve_ne_nameTooLong hroot.targets (hentry.isNormal.below fun _ => isComponent_packageNames)
    hentry.fits.names hentry.fits.length

/-- Whether an entry holds a package is found out, unless it is an archive that cannot be opened. -/
theorem exists_entryLocation?_eq_ok (h : archiveDefect? disk entry = none) (activity : Activity) :
    ∃ location?, entryLocation? disk activity (packagePath package) entry =
      (.ok location? : Except (Failure ε) _) := by
  obtain ⟨directory, hdirectory⟩ := Disk.exists_isDirectory_eq_ok (hentry.resolve_ne hroot)
  cases directory with
  | true =>
    obtain ⟨holds, hholds⟩ := Disk.exists_isDirectory_eq_ok (hentry.resolve_below_ne hroot)
    rw [entryLocation?_directory hdirectory, hholds]
    exact ⟨_, rfl⟩
  | false =>
    obtain ⟨archive, harchive⟩ : ∃ archive, isArchive disk entry = .ok archive :=
      Disk.exists_check_eq_ok _ (hentry.resolve_ne hroot)
    cases archive with
    | true =>
      obtain ⟨archive, hopen⟩ := exists_openArchive_eq_ok (ε := ε) harchive h activity
      rw [entryLocation?_archive hdirectory harchive, hopen]
      exact ⟨_, rfl⟩
    | false =>
      simp only [entryLocation?, hdirectory, harchive]
      exact ⟨none, rfl⟩

/-- A location that was found is accepted, and its mount can be gone through. -/
theorem failure?_scanMount (hdisk : disk.IsSound)
    (h : entryLocation? disk activity (packagePath package) entry =
      (.ok (some location) : Except (Failure ε) _)) :
    (scanMount disk (packagePath package) location : Run ScanStep (Failure ε)).failure? = none := by
  rw [Option.eq_none_iff_forall_ne_some]
  intro failure hfailure
  rcases exists_of_failure?_scanMount hentry.isNormal h hfailure with
    ⟨place, entries, error, hresolve, herror, -⟩ | ⟨hback, -⟩
  · exact Disk.error_notMem_walk hdisk hroot
      (hentry.isNormal.below fun _ => isComponent_packageNames) hentry.fits hresolve error herror
  · obtain ⟨content, archive, hcontent, harchive, hcircular⟩ := hback.exists_isCircular hentry.isNormal h
    exact hentry.straight content archive hcontent harchive hcircular

end EntryWithinLimits

/-! ### Search paths -/

/-- A search path along which no name and no path that a scan of a package uses is too long, and no member of
an archive is the top: its name is neither empty nor made of slashes. -/
structure WithinLimits (disk : Disk) (entries : List String) (package : String) : Prop where
  root : disk.root.HasShortNames
  length : ∀ entry ∈ searchEntries disk entries, Node.tooLong entry = false
  fits : ∀ entry ∈ searchEntries disk entries, disk.Fits (entry.below (packageNames package))
  straight : ∀ entry ∈ searchEntries disk entries, ∀ content archive, disk.content entry = .ok content →
    content.archive = some archive → ¬ archive.IsCircular

variable {entries first second : List String}

theorem WithinLimits.entryWithinLimits (h : WithinLimits disk entries package) (hdisk : disk.IsSound) :
    ∀ entry ∈ searchEntries disk entries, EntryWithinLimits disk package entry := by
  intro entry hentry
  refine ⟨?_, h.length entry hentry, h.fits entry hentry, h.straight entry hentry⟩
  obtain ⟨text, -, rfl⟩ := List.mem_map.1 hentry
  exact Path.isNormal_absolute hdisk.cwd text

/-- The locations of entries are found up to the first archive that cannot be opened. -/
theorem mapM_entryLocation? (hroot : disk.root.HasShortNames) {items : List Path}
    (hitems : ∀ entry ∈ items, EntryWithinLimits disk package entry) (activity : Activity) :
    (∃ defect, items.findSome? (archiveDefect? disk) = some defect ∧
      items.mapM (entryLocation? disk activity (packagePath package)) =
        (.error (.defective activity defect) : Except (Failure ε) _)) ∨
    (items.findSome? (archiveDefect? disk) = none ∧
      ∃ found, items.mapM (entryLocation? disk activity (packagePath package)) =
        (.ok found : Except (Failure ε) _)) := by
  induction items with
  | nil => exact .inr ⟨rfl, [], rfl⟩
  | cons entry rest ih =>
    rw [List.mapM_cons]
    cases hdefect : archiveDefect? disk entry with
    | some defect =>
      refine .inl ⟨defect, List.findSome?_cons_of_isSome ?_ |>.trans hdefect, ?_⟩
      · rw [hdefect]
        rfl
      · rw [entryLocation?_of_defect hdefect]
        rfl
    | none =>
      obtain ⟨location?, hlocation⟩ :=
        (hitems entry List.mem_cons_self).exists_entryLocation?_eq_ok (ε := ε) hroot hdefect activity
      have hfind : (entry :: rest).findSome? (archiveDefect? disk) =
          rest.findSome? (archiveDefect? disk) := by
        rw [List.findSome?_cons, hdefect]
      rw [hfind, hlocation]
      rcases ih fun other hother => hitems other (List.mem_cons_of_mem _ hother) with
        ⟨defect, hrest, hmap⟩ | ⟨hrest, found, hmap⟩
      · exact .inl ⟨defect, hrest, by rw [hmap]; rfl⟩
      · exact .inr ⟨hrest, location? :: found, by rw [hmap]; rfl⟩

/-- Going through mounts does not fail if none of them does. -/
theorem failure?_scanMounts {locations : List String}
    (h : ∀ location ∈ locations,
      (scanMount disk package location : Run ScanStep (Failure ε)).failure? = none) :
    (scanMounts disk package locations : Run ScanStep (Failure ε)).failure? = none := by
  induction locations with
  | nil => rfl
  | cons location rest ih =>
    simp only [scanMounts, h location List.mem_cons_self]
    exact ih fun other hother => h other (List.mem_cons_of_mem _ hother)

/-- Going through mounts and then through more of them. -/
theorem scanMounts_append {locations : List String} (more : List String)
    (h : (scanMounts disk package locations : Run ScanStep (Failure ε)).failure? = none) :
    (scanMounts disk package (locations ++ more) : Run ScanStep (Failure ε)) =
      ⟨(scanMounts disk package locations : Run ScanStep (Failure ε)).items ++
        (scanMounts disk package more : Run ScanStep (Failure ε)).items,
        (scanMounts disk package more : Run ScanStep (Failure ε)).failure?⟩ := by
  induction locations with
  | nil => rfl
  | cons location rest ih =>
    rw [scanMounts] at h
    rw [List.cons_append, scanMounts, scanMounts]
    split
    · next failure hfailure => simp [hfailure] at h
    · next hnone =>
      simp only [hnone] at h
      simp only [ih h, List.append_assoc]

/-- The mounts are not found if an archive cannot be opened. -/
theorem mountLocations_of_defect (hdisk : disk.IsSound) (h : WithinLimits disk entries package)
    (hdefect : (searchEntries disk entries).findSome? (archiveDefect? disk) = some defect) :
    mountLocations disk entries package =
      (.error (.defective (.enumerating package) defect) : Except (Failure ε) _) := by
  rcases mapM_entryLocation? (ε := ε) h.root (h.entryWithinLimits hdisk) (.enumerating package) with
    ⟨other, hother, hmap⟩ | ⟨hnone, -⟩
  · obtain rfl := Option.some.inj (hother.symm.trans hdefect)
    rw [mountLocations, hmap]
    rfl
  · rw [hnone] at hdefect
    cases hdefect

/-- An archive that cannot be opened ends a scan before its first step. -/
theorem scan_of_defect (hdisk : disk.IsSound) (h : WithinLimits disk entries package)
    (hdefect : (searchEntries disk entries).findSome? (archiveDefect? disk) = some defect) :
    scan disk entries package =
      (⟨[], some (.defective (.enumerating package) defect)⟩ : Run ScanStep (Failure ε)) := by
  rw [scan, mountLocations_of_defect hdisk h hdefect]

/-- A scan goes through all mounts if every archive can be opened. -/
theorem scan_of_openable (hdisk : disk.IsSound) (h : WithinLimits disk entries package)
    (hnone : (searchEntries disk entries).findSome? (archiveDefect? disk) = none) :
    ∃ locations, mountLocations disk entries package = (.ok locations : Except (Failure ε) _) ∧
      (scanMounts disk (packagePath package) locations : Run ScanStep (Failure ε)).failure? = none := by
  rcases mapM_entryLocation? (ε := ε) h.root (h.entryWithinLimits hdisk) (.enumerating package) with
    ⟨defect, hdefect, -⟩ | ⟨-, found, hmap⟩
  · rw [hnone] at hdefect
    cases hdefect
  · have hlocations : mountLocations disk entries package =
        (.ok (found.filterMap id) : Except (Failure ε) _) := by
      simp only [mountLocations, hmap, Except.map]
    refine ⟨_, hlocations, failure?_scanMounts fun location hlocation => ?_⟩
    obtain ⟨holders, hsub, hholders⟩ := exists_holders hlocations
    obtain ⟨entry, hentry, hfound⟩ := exists_of_mem_forall₂ hholders hlocation
    exact (h.entryWithinLimits hdisk entry (hsub.subset hentry)).failure?_scanMount h.root hdisk hfound

/-! ### Joined search paths -/

theorem searchEntries_append (disk : Disk) (first second : List String) :
    searchEntries disk (first ++ second) = searchEntries disk first ++ searchEntries disk second :=
  List.map_append

theorem WithinLimits.append (hfirst : WithinLimits disk first package)
    (hsecond : WithinLimits disk second package) : WithinLimits disk (first ++ second) package where
  root := hfirst.root
  length := by
    intro entry hentry
    rw [searchEntries_append] at hentry
    exact (List.mem_append.1 hentry).elim (hfirst.length entry) (hsecond.length entry)
  fits := by
    intro entry hentry
    rw [searchEntries_append] at hentry
    exact (List.mem_append.1 hentry).elim (hfirst.fits entry) (hsecond.fits entry)
  straight := by
    intro entry hentry
    rw [searchEntries_append] at hentry
    exact (List.mem_append.1 hentry).elim (hfirst.straight entry) (hsecond.straight entry)

/-- The locations along joined search paths are those along the first and those along the second. -/
theorem mountLocations_append {locations more : List String}
    (hfirst : mountLocations disk first package = (.ok locations : Except (Failure ε) _))
    (hsecond : mountLocations disk second package = (.ok more : Except (Failure ε) _)) :
    mountLocations disk (first ++ second) package = (.ok (locations ++ more) : Except (Failure ε) _) := by
  rw [mountLocations] at hfirst hsecond
  rw [mountLocations, searchEntries_append, List.mapM_append]
  cases hfound : (searchEntries disk first).mapM (entryLocation? disk (.enumerating package)
      (packagePath package) : Path → Except (Failure ε) _) with
  | error failure => simp [hfound, Except.map] at hfirst
  | ok found =>
    cases hothers : (searchEntries disk second).mapM (entryLocation? disk (.enumerating package)
        (packagePath package) : Path → Except (Failure ε) _) with
    | error failure => simp [hothers, Except.map] at hsecond
    | ok others =>
      rw [hfound] at hfirst
      rw [hothers] at hsecond
      rw [← Except.ok.inj hfirst, ← Except.ok.inj hsecond, ← List.filterMap_append]
      rfl

/-- The results of a scan in which every archive can be opened are those on all resources. -/
theorem scanResults_of_locations {α : Type} {locations : List String} (select : Resource → Option α)
    (hlocations : mountLocations disk entries package = (.ok locations : Except (Failure ε) _))
    (hfailure : (scanMounts disk (packagePath package) locations :
      Run ScanStep (Failure ε)).failure? = none) :
    (scanResults disk entries package select : Except (Failure ε) _) =
      .ok ((scanMounts disk (packagePath package) locations :
        Run ScanStep (Failure ε)).resources.filterMap select) := by
  simp only [scanResults, scan, hlocations, Run.collect, collectSteps_select, hfailure, Run.resources]

theorem scanResults_of_defect {α : Type} (select : Resource → Option α) (hdisk : disk.IsSound)
    (h : WithinLimits disk entries package)
    (hdefect : (searchEntries disk entries).findSome? (archiveDefect? disk) = some defect) :
    (scanResults disk entries package select : Except (Failure ε) _) =
      .error (.defective (.enumerating package) defect) := by
  rw [scanResults, scan_of_defect hdisk h hdefect]
  rfl

/-- The results along joined search paths are those along the first and then those along the second. -/
theorem scanResults_append {α : Type} (select : Resource → Option α) (hdisk : disk.IsSound)
    (hfirst : WithinLimits disk first package) (hsecond : WithinLimits disk second package) :
    (scanResults disk (first ++ second) package select : Except (Failure ε) _) = (do
      let results ← scanResults disk first package select
      let more ← scanResults disk second package select
      return results ++ more) := by
  have happend : (searchEntries disk (first ++ second)).findSome? (archiveDefect? disk) =
      ((searchEntries disk first).findSome? (archiveDefect? disk)).or
        ((searchEntries disk second).findSome? (archiveDefect? disk)) := by
    rw [searchEntries_append, List.findSome?_append]
  cases hdefect : (searchEntries disk first).findSome? (archiveDefect? disk) with
  | some defect =>
    -- The first archive that cannot be opened is on the first search path.
    rw [hdefect] at happend
    rw [scanResults_of_defect select hdisk (hfirst.append hsecond) happend,
      scanResults_of_defect select hdisk hfirst hdefect]
    rfl
  | none =>
    -- The first search path is gone through, and the second one decides how the scan ends.
    obtain ⟨locations, hlocations, hfailure⟩ := scan_of_openable (ε := ε) hdisk hfirst hdefect
    rw [hdefect, Option.none_or] at happend
    rw [scanResults_of_locations select hlocations hfailure]
    cases hother : (searchEntries disk second).findSome? (archiveDefect? disk) with
    | some defect =>
      rw [scanResults_of_defect select hdisk (hfirst.append hsecond) (happend.trans hother),
        scanResults_of_defect select hdisk hsecond hother]
      rfl
    | none =>
      obtain ⟨more, hmore, hcomplete⟩ := scan_of_openable (ε := ε) hdisk hsecond hother
      have hboth := scanMounts_append more hfailure
      rw [scanResults_of_locations select hmore hcomplete,
        scanResults_of_locations select (mountLocations_append hlocations hmore)
          (by rw [hboth]; exact hcomplete), hboth]
      simp only [Run.resources, List.filterMap_append]
      rfl

/-- A scan fails exactly if an archive on the search path cannot be opened. -/
theorem scanResults_fails_iff {α : Type} (select : Resource → Option α) (hdisk : disk.IsSound)
    (h : WithinLimits disk entries package) :
    (∃ failure : Failure ε, scanResults disk entries package select = .error failure) ↔
      ∃ entry ∈ searchEntries disk entries, CannotOpen disk entry := by
  simp only [cannotOpen_iff]
  cases hdefect : (searchEntries disk entries).findSome? (archiveDefect? disk) with
  | some defect =>
    obtain ⟨entry, hentry, hfound⟩ := List.exists_of_findSome?_eq_some hdefect
    exact iff_of_true ⟨_, scanResults_of_defect select hdisk h hdefect⟩ ⟨entry, hentry, defect, hfound⟩
  | none =>
    obtain ⟨locations, hlocations, hfailure⟩ := scan_of_openable (ε := ε) hdisk h hdefect
    refine iff_of_false ?_ ?_
    · rintro ⟨failure, herror⟩
      rw [scanResults_of_locations select hlocations hfailure] at herror
      cases herror
    · rintro ⟨entry, hentry, defect, hfound⟩
      rw [List.findSome?_eq_none_iff.1 hdefect entry hentry] at hfound
      cases hfound

/-- What a scan fails with is the defect of the first archive that has one, before its first step. -/
theorem scan_of_error {α : Type} {select : Resource → Option α} {failure : Failure ε}
    (hdisk : disk.IsSound) (h : WithinLimits disk entries package)
    (herror : scanResults disk entries package select = .error failure) :
    ∃ defect, (searchEntries disk entries).findSome? (archiveDefect? disk) = some defect ∧
      failure = .defective (.enumerating package) defect ∧
      scan disk entries package = ⟨[], some failure⟩ := by
  cases hdefect : (searchEntries disk entries).findSome? (archiveDefect? disk) with
  | some defect =>
    rw [scanResults_of_defect select hdisk h hdefect] at herror
    obtain rfl := Except.error.inj herror
    exact ⟨defect, rfl, rfl, scan_of_defect hdisk h hdefect⟩
  | none =>
    obtain ⟨locations, hlocations, hfailure⟩ := scan_of_openable (ε := ε) hdisk h hdefect
    rw [scanResults_of_locations select hlocations hfailure] at herror
    cases herror

/-- Scanning takes joined search paths to joined results, for every function that never fails. A scan
fails exactly if an archive on the search path cannot be opened. Then it fails before the function is
called at all, and the error is one of reading resources unless what is wrong with the first such archive
is let through. A scan whose mounts were found does not fail later. -/
theorem scanResults_isHomomorphism {α : Type} (select : Resource → Option α) (hdisk : disk.IsSound)
    (hfirst : WithinLimits disk first package) (hsecond : WithinLimits disk second package) :
    ((scanResults disk (first ++ second) package select : Except (Failure ε) _) = (do
      let results ← scanResults disk first package select
      let more ← scanResults disk second package select
      return results ++ more)) ∧
    ((∃ failure : Failure ε, scanResults disk first package select = .error failure) ↔
      ∃ entry ∈ searchEntries disk first, CannotOpen disk entry) ∧
    (∀ failure : Failure ε, scanResults disk first package select = .error failure →
      (∀ (β : Type) (mapper : Resource → Except ε (Option β)),
        (scan disk first package).collect mapper = ([], .error failure)) ∧
      ((∃ reported, (searchEntries disk first).findSome? (archiveDefect? disk) = some (.error reported) ∧
          failure = .error (.resource (.failed (.enumerating package) (.archive reported)))) ∨
        ∃ escaping, (searchEntries disk first).findSome? (archiveDefect? disk) = some (.fault escaping) ∧
          failure = .fault (.archive escaping))) ∧
    (∀ locations, mountLocations disk first package = (.ok locations : Except (Failure ε) _) →
      (scan disk first package : Run ScanStep (Failure ε)).failure? = none) := by
  refine ⟨scanResults_append select hdisk hfirst hsecond, scanResults_fails_iff select hdisk hfirst, ?_, ?_⟩
  · intro failure herror
    obtain ⟨defect, hdefect, hfailure, hscan⟩ := scan_of_error hdisk hfirst herror
    constructor
    · intro β mapper
      rw [hscan]
      rfl
    · cases defect with
      | error reported => exact .inl ⟨reported, hdefect, hfailure⟩
      | fault escaping => exact .inr ⟨escaping, hdefect, hfailure⟩
  · intro locations hlocations
    cases hdefect : (searchEntries disk first).findSome? (archiveDefect? disk) with
    | some defect =>
      -- Then the mounts would not have been found.
      rw [mountLocations_of_defect hdisk hfirst hdefect] at hlocations
      cases hlocations
    | none =>
      obtain ⟨others, hothers, hfailure⟩ := scan_of_openable (ε := ε) hdisk hfirst hdefect
      simp only [scan, hothers, hfailure]

/-- A directory with a file beside an archive that takes what is not provided. -/
def crackedDisk : Disk :=
  ⟨.directory
    [("d", .directory [("f", .file ⟨[], none⟩)]),
      ("v", .file ⟨[], some ⟨[], some (.fault .unsupported)⟩⟩)], [], 0⟩

theorem isSound_crackedDisk : crackedDisk.IsSound where
  root := by
    refine Node.isSound_directory (by decide) (by decide) fun entry hentry => ?_
    rcases List.mem_pair.1 hentry with rfl | rfl
    · refine Node.isSound_directory (by decide) (by decide) fun entry hentry => ?_
      obtain rfl := List.mem_singleton.1 hentry
      exact Node.isSound_file _
    · exact Node.isSound_file _
  cwd := by decide

theorem hasShortNames_crackedDisk : crackedDisk.root.HasShortNames := by
  refine Node.hasShortNames_directory (by decide) fun entry hentry => ?_
  rcases List.mem_pair.1 hentry with rfl | rfl
  · refine Node.hasShortNames_directory (by decide) fun entry hentry => ?_
    obtain rfl := List.mem_singleton.1 hentry
    exact Node.hasShortNames_file _
  · exact Node.hasShortNames_file _

theorem withinLimits_crackedDisk_archive : WithinLimits crackedDisk ["v"] "" where
  root := hasShortNames_crackedDisk
  length := by decide
  fits := by
    intro entry hentry
    have hentries : searchEntries crackedDisk ["v"] = [⟨.slash, ["v"]⟩] := rfl
    rw [hentries] at hentry
    obtain rfl := List.mem_singleton.1 hentry
    have hresolve : crackedDisk.resolve ⟨.slash, ["v"]⟩ =
        .ok (["v"], .file ⟨[], some ⟨[], some (.fault .unsupported)⟩⟩) := rfl
    refine Disk.fits_of_resolve (by decide) hresolve fun names found hat => ?_
    rw [Node.eq_nil_of_at?_file hat]
    decide
  straight := by
    intro entry hentry content archive hcontent harchive
    have hentries : searchEntries crackedDisk ["v"] = [⟨.slash, ["v"]⟩] := rfl
    rw [hentries] at hentry
    obtain rfl := List.mem_singleton.1 hentry
    have hheld : crackedDisk.content ⟨.slash, ["v"]⟩ =
        .ok ⟨[], some ⟨[], some (.fault .unsupported)⟩⟩ := rfl
    obtain rfl := Except.ok.inj (hheld.symm.trans hcontent)
    obtain rfl := Option.some.inj harchive
    decide

theorem withinLimits_crackedDisk_directory : WithinLimits crackedDisk ["d"] "" where
  root := hasShortNames_crackedDisk
  length := by decide
  fits := by
    intro entry hentry
    have hentries : searchEntries crackedDisk ["d"] = [⟨.slash, ["d"]⟩] := rfl
    rw [hentries] at hentry
    obtain rfl := List.mem_singleton.1 hentry
    have hresolve : crackedDisk.resolve ⟨.slash, ["d"]⟩ =
        .ok (["d"], .directory [("f", .file ⟨[], none⟩)]) := rfl
    refine Disk.fits_of_resolve (by decide) hresolve fun names found hat => ?_
    cases names with
    | nil => decide
    | cons name rest =>
      obtain ⟨child, hchild, hrest⟩ := Node.exists_mem_of_at?_cons hat
      obtain ⟨rfl, rfl⟩ := Prod.mk.inj (List.mem_singleton.1 hchild)
      rw [Node.eq_nil_of_at?_file hrest]
      decide
  straight := by
    intro entry hentry content archive hcontent
    have hentries : searchEntries crackedDisk ["d"] = [⟨.slash, ["d"]⟩] := rfl
    rw [hentries] at hentry
    obtain rfl := List.mem_singleton.1 hentry
    cases hcontent

/-- The archive in front of the directory ends the scan with what is let through, so that no function is
called. -/
theorem scanResults_crackedDisk :
    (scanResults crackedDisk (["v"] ++ ["d"]) "" (fun resource => some resource.name) =
      (.error (.fault (.archive .unsupported)) : Except (Failure Empty) _)) ∧
    (∃ entry ∈ searchEntries crackedDisk ["v"], CannotOpen crackedDisk entry) ∧
    ∀ mapper : Resource → Except Empty (Option String),
      (scan crackedDisk ["v"] "").collect mapper = ([], .error (.fault (.archive .unsupported))) := by
  obtain ⟨happend, hfails, hrefused, -⟩ := scanResults_isHomomorphism (ε := Empty)
    (fun resource => some resource.name) isSound_crackedDisk withinLimits_crackedDisk_archive
    withinLimits_crackedDisk_directory
  have herror : scanResults crackedDisk ["v"] "" (fun resource => some resource.name) =
      (.error (.fault (.archive .unsupported)) : Except (Failure Empty) _) := rfl
  refine ⟨?_, hfails.1 ⟨_, herror⟩, (hrefused _ herror).1 String⟩
  rw [happend, herror]
  rfl

end Lookup
