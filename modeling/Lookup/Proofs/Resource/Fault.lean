import Lookup.Proofs.Resource.Holder
import Lookup.Proofs.Resource.Scan

/-!
# Failures that are let through

What keeps resources from being found or read is reported as an error of the library, with two
exceptions: an archive or a member may be such that what is wrong with it is let through as it is, and an
archive may lead a walk back to its start, again and again, until that is stopped.

## Main definitions

* `archiveDefect?` — what is wrong with the archive at a path
* `Failure.IsReported` — failures that are errors of the library
* `MountsStopAt`, `LocateStopsAt` — searches that come to an archive whose fault is let through
* `ScanTurnsBack` — scans that come to an archive through which a walk does not end
* `IsUnreadable` — resources whose text is not read because of what is let through

## Main results

* `openArchive_of_defect`, `exists_openArchive_eq_ok` — archives are opened unless something is wrong
* `mountLocations_unreported_iff` — when the search for mounts is let through
* `scan_unreported_iff` — when a scan is let through
* `readText_unreported_iff` — when the text of a resource is let through
-/

namespace Lookup

open Files Text

variable {ε : Type} {disk : Disk} {entry : Path} {package location name : String} {activity : Activity}
  {defect : Defect} {failure : Failure ε}

/-! ### Archives -/

/-- What is wrong with the archive at a path, if there is an archive and something is wrong with it. -/
def archiveDefect? (disk : Disk) (path : Path) : Option Defect :=
  match disk.content path with
  | .ok content => content.archive.bind Archive.defect?
  | .error _ => none

/-- Something is wrong with the archive that a file holds. -/
theorem exists_of_archiveDefect? (h : archiveDefect? disk entry = some defect) :
    ∃ place content archive, disk.resolve entry = .ok (place, .file content) ∧
      content.archive = some archive ∧ archive.defect? = some defect := by
  rw [archiveDefect?] at h
  cases hcontent : disk.content entry with
  | error error => simp [hcontent] at h
  | ok content =>
    rw [hcontent] at h
    obtain ⟨archive, harchive, hdefect⟩ := Option.bind_eq_some_iff.1 h
    rw [Disk.content] at hcontent
    split at hcontent
    · next place found hresolve =>
      obtain rfl := Except.ok.inj hcontent
      exact ⟨place, found, archive, hresolve, harchive, hdefect⟩
    · simp at hcontent
    · simp at hcontent

theorem content_of_resolve {place : List String} {content : Content}
    (h : disk.resolve entry = .ok (place, .file content)) : disk.content entry = .ok content := by
  rw [Disk.content, h]

/-- Opening an archive fails at what is wrong with it. -/
theorem openArchive_of_defect (h : archiveDefect? disk entry = some defect) :
    openArchive disk activity entry = (.error (.defective activity defect) : Except (Failure ε) _) := by
  obtain ⟨place, content, archive, hresolve, harchive, hdefect⟩ := exists_of_archiveDefect? h
  simp only [openArchive, content_of_resolve hresolve, harchive, hdefect]

/-- An archive with which nothing is wrong can be opened. -/
theorem exists_openArchive_eq_ok (harchive : isArchive disk entry = .ok true)
    (h : archiveDefect? disk entry = none) (activity : Activity) :
    ∃ archive, openArchive disk activity entry = (.ok archive : Except (Failure ε) _) := by
  obtain ⟨place, content, hresolve, hsome⟩ := isArchive_eq_true_iff.1 harchive
  obtain ⟨archive, hcontent⟩ := Option.isSome_iff_exists.1 hsome
  refine ⟨archive, openArchive_eq_ok_iff.2 ⟨content, content_of_resolve hresolve, hcontent, ?_⟩⟩
  simp only [archiveDefect?, content_of_resolve hresolve, hcontent] at h
  exact Archive.sound_iff.2 h

theorem isArchive_of_defect (h : archiveDefect? disk entry = some defect) :
    isArchive disk entry = .ok true := by
  obtain ⟨place, content, archive, hresolve, harchive, -⟩ := exists_of_archiveDefect? h
  exact isArchive_eq_true_iff.2 ⟨place, content, hresolve, Option.isSome_iff_exists.2 ⟨archive, harchive⟩⟩

/-- An archive that cannot be opened has no location. -/
theorem entryLocation?_of_defect (h : archiveDefect? disk entry = some defect) :
    entryLocation? disk activity (packagePath package) entry =
      (.error (.defective activity defect) : Except (Failure ε) _) := by
  have harchive := isArchive_of_defect h
  rw [entryLocation?_archive (isDirectory_of_isArchive harchive) harchive, openArchive_of_defect h]
  rfl

/-- Opening an archive fails only at what is wrong with it. -/
theorem exists_of_openArchive_eq_error (harchive : isArchive disk entry = .ok true)
    (h : openArchive disk activity entry = .error failure) :
    ∃ defect, archiveDefect? disk entry = some defect ∧ failure = .defective activity defect := by
  cases hdefect : archiveDefect? disk entry with
  | some defect =>
    rw [openArchive_of_defect hdefect] at h
    exact ⟨defect, rfl, (Except.error.inj h).symm⟩
  | none =>
    obtain ⟨archive, hopen⟩ := exists_openArchive_eq_ok (ε := ε) harchive hdefect activity
    rw [hopen] at h
    cases h

/-! ### Errors of the library -/

/-- A failure that is an error of the library. -/
def Failure.IsReported (failure : Failure ε) : Prop := ∃ error, failure = .error error

theorem Failure.isReported_during (activity : Activity) (cause : Cause) :
    (Failure.during activity cause : Failure ε).IsReported := ⟨_, rfl⟩

/-- What is wrong with an archive or a member is reported, or it is a fault. -/
theorem Failure.defective_cases (activity : Activity) (defect : Defect) :
    (Failure.defective activity defect : Failure ε).IsReported ∨
      ∃ escaping, defect = .fault escaping ∧
        (Failure.defective activity defect : Failure ε) = .fault (.archive escaping) := by
  cases defect with
  | error reported => exact .inl ⟨_, rfl⟩
  | fault escaping => exact .inr ⟨escaping, rfl, rfl⟩

theorem Failure.not_isReported_fault (fault : Fault) : ¬ (Failure.fault fault : Failure ε).IsReported := by
  rintro ⟨error, herror⟩
  cases herror

/-- An archive that fails to be opened without an error of the library has a fault. -/
theorem archiveDefect?_of_openArchive (harchive : isArchive disk entry = .ok true)
    (h : openArchive disk activity entry = .error failure) (hfailure : ¬ failure.IsReported) :
    ∃ escaping, archiveDefect? disk entry = some (.fault escaping) ∧
      failure = .fault (.archive escaping) := by
  obtain ⟨defect, hdefect, rfl⟩ := exists_of_openArchive_eq_error harchive h
  rcases Failure.defective_cases activity defect with hreported | ⟨escaping, rfl, hfault⟩
  · exact absurd hreported hfailure
  · exact ⟨escaping, hdefect, hfault⟩

/-! ### Search paths -/

/-- Entries of which one is an archive whose fault is let through, and all before it pass. -/
def StopsAt (disk : Disk) (passes : Path → Prop) (entries : List Path) (escaping : ArchiveFault) : Prop :=
  ∃ before entry after, entries = before ++ entry :: after ∧ (∀ other ∈ before, passes other) ∧
    archiveDefect? disk entry = some (.fault escaping)

/-- An entry is let through only where it is an archive with a fault. -/
theorem archiveDefect?_of_entryLocation? (h : entryLocation? disk activity package entry = .error failure)
    (hfailure : ¬ failure.IsReported) :
    ∃ escaping, archiveDefect? disk entry = some (.fault escaping) ∧
      failure = .fault (.archive escaping) := by
  rw [entryLocation?] at h
  split at h
  · exact absurd ⟨_, (Except.error.inj h).symm⟩ hfailure
  · dsimp only at h
    split at h
    · exact absurd ⟨_, (Except.error.inj h).symm⟩ hfailure
    · cases h
    · cases h
  · split at h
    · exact absurd ⟨_, (Except.error.inj h).symm⟩ hfailure
    · cases h
    · next harchive =>
      cases hopen : (openArchive disk activity entry : Except (Failure ε) _) with
      | error other =>
        rw [hopen] at h
        obtain rfl := Except.error.inj h
        exact archiveDefect?_of_openArchive harchive hopen hfailure
      | ok archive =>
        rw [hopen] at h
        cases h

/-- The search for the mounts of a package comes to an archive whose fault is let through. -/
def MountsStopAt (ε : Type) (disk : Disk) (entries : List String) (package : String)
    (escaping : ArchiveFault) : Prop :=
  StopsAt disk (fun other => ∃ location?, entryLocation? disk (.enumerating package)
    (packagePath package) other = (.ok location? : Except (Failure ε) _)) (searchEntries disk entries)
    escaping

/-- The search for the mounts of a package is let through exactly where it comes to an archive with a
fault. -/
theorem mountLocations_unreported_iff {entries : List String} :
    mountLocations disk entries package = .error failure ∧ ¬ failure.IsReported ↔
      ∃ escaping, failure = .fault (.archive escaping) ∧ MountsStopAt ε disk entries package escaping := by
  have hmap : mountLocations disk entries package = .error failure ↔
      (searchEntries disk entries).mapM (entryLocation? disk (.enumerating package)
        (packagePath package)) = .error failure := by
    rw [mountLocations]
    cases (searchEntries disk entries).mapM (entryLocation? disk (.enumerating package)
      (packagePath package) : Path → Except (Failure ε) _) <;> simp [Except.map]
  rw [hmap, mapM_eq_error_iff]
  constructor
  · rintro ⟨⟨before, entry, after, hentries, hbefore, hentry⟩, hfailure⟩
    obtain ⟨escaping, hdefect, heq⟩ := archiveDefect?_of_entryLocation? hentry hfailure
    exact ⟨escaping, heq, before, entry, after, hentries, hbefore, hdefect⟩
  · rintro ⟨escaping, rfl, before, entry, after, hentries, hbefore, hdefect⟩
    exact ⟨⟨before, entry, after, hentries, hbefore, entryLocation?_of_defect hdefect⟩,
      Failure.not_isReported_fault _⟩

/-! ### Scans -/

/-- At a location is an archive that leads a walk back to its start. -/
def TurnsBack (ε : Type) (disk : Disk) (package location : String) : Prop :=
  ∃ mount archive, Mount.ofLocation location package = .ok (.archive mount) ∧
    openArchive disk (.readingArchive mount.archive.text) mount.archive =
      (.ok archive : Except (Failure ε) _) ∧
    archive.LeadsBack (trimSlashes mount.inner.toList)

theorem TurnsBack.failure?_scanMount (h : TurnsBack ε disk package location) :
    (scanMount disk package location : Run ScanStep (Failure ε)).failure? = some (.fault .endless) := by
  obtain ⟨mount, archive, hmount, hopen, hback⟩ := h
  rcases mount.walk_cases hopen with ⟨hnot, -⟩ | ⟨-, hwalk⟩
  · exact absurd hback hnot
  · simp only [scanMount, hmount, Mount.walk, hwalk]

/-- An entry whose location leads a walk back to its start is an archive with a member that is the top. -/
theorem TurnsBack.exists_isCircular (h : TurnsBack ε disk (packagePath package) location)
    (hentry : entry.IsNormal)
    (hlocation : entryLocation? disk activity (packagePath package) entry =
      (.ok (some location) : Except (Failure ε) _)) :
    ∃ content archive, disk.content entry = .ok content ∧ content.archive = some archive ∧
      archive.IsCircular := by
  obtain ⟨mount, archive, hmount, hopen, hback⟩ := h
  rcases entryLocation?_eq_some hlocation with ⟨-, -, rfl⟩ | ⟨-, rfl, -⟩
  · rw [mount_ofLocation_directory hentry] at hmount
    cases Except.ok.inj hmount
  · rw [mount_ofLocation_archive hentry] at hmount
    obtain rfl := Mount.archive.inj (Except.ok.inj hmount)
    obtain ⟨content, hcontent, harchive, -⟩ := openArchive_eq_ok_iff.1 hopen
    exact ⟨content, archive, hcontent, harchive, hback.2⟩

/-- Going through a mount that was found fails only at an error that the walk through a directory comes
to, or where an archive leads the walk back to its start. -/
theorem exists_of_failure?_scanMount (hentry : entry.IsNormal)
    (hlocation : entryLocation? disk activity (packagePath package) entry =
      (.ok (some location) : Except (Failure ε) _))
    (h : (scanMount disk (packagePath package) location : Run ScanStep (Failure ε)).failure? =
      some failure) :
    (∃ place entries error,
      disk.resolve (entry.below (packageNames package)) = .ok (place, .directory entries) ∧
      .error error ∈ disk.walk (entry.below (packageNames package)) ∧
      failure = .opening (.walking (entry.below (packageNames package)).text) error) ∨
    TurnsBack ε disk (packagePath package) location ∧ failure = .fault .endless := by
  rcases entryLocation?_eq_some hlocation with ⟨-, hpackage, rfl⟩ | ⟨-, rfl, archive, hopen, -⟩
  · obtain ⟨place, entries, hresolve⟩ := Disk.isDirectory_eq_true_iff.1 hpackage
    simp only [scanMount, mount_ofLocation_directory hentry] at h
    obtain ⟨error, herror, rfl⟩ := DirectoryMount.exists_of_failure?_collect _ h
    exact .inl ⟨place, entries, error, hresolve, herror, rfl⟩
  · -- Whether an archive can be opened does not depend on what it is opened for.
    have hwalk : openArchive disk (.readingArchive entry.text) entry =
        (.ok archive : Except (Failure ε) _) := openArchive_eq_ok_iff.2 (openArchive_eq_ok_iff.1 hopen)
    obtain ⟨mount, hmount, rfl⟩ : ∃ mount : ArchiveMount,
        Mount.ofLocation (archiveLocation entry package) (packagePath package) = .ok (.archive mount) ∧
        mount.archive = entry := ⟨_, mount_ofLocation_archive hentry package, rfl⟩
    simp only [scanMount, hmount, Mount.walk] at h
    rcases mount.walk_cases hwalk with ⟨-, hends⟩ | ⟨hback, hends⟩
    · rw [hends] at h
      cases h
    · rw [hends] at h
      exact .inr ⟨⟨mount, archive, hmount, hwalk, hback⟩, (Option.some.inj h).symm⟩

/-- Going through mounts fails where going through one of them does, after others that do not fail. -/
theorem failure?_scanMounts_eq_some_iff {locations : List String} :
    (scanMounts disk package locations : Run ScanStep (Failure ε)).failure? = some failure ↔
      ∃ before location after, locations = before ++ location :: after ∧
        (∀ other ∈ before,
          (scanMount disk package other : Run ScanStep (Failure ε)).failure? = none) ∧
        (scanMount disk package location : Run ScanStep (Failure ε)).failure? = some failure := by
  constructor
  · intro h
    induction locations with
    | nil => cases h
    | cons first rest ih =>
      rw [scanMounts] at h
      split at h
      · next other hother =>
        exact ⟨[], first, rest, rfl, fun _ hmem => absurd hmem List.not_mem_nil, hother.trans h⟩
      · next hnone =>
        obtain ⟨before, location, after, rfl, hbefore, hfailure⟩ := ih h
        exact ⟨first :: before, location, after, rfl, List.forall_mem_cons.2 ⟨hnone, hbefore⟩, hfailure⟩
  · rintro ⟨before, location, after, rfl, hbefore, hfailure⟩
    induction before with
    | nil => simp only [List.nil_append, scanMounts, hfailure]
    | cons first rest ih =>
      obtain ⟨hfirst, hrest⟩ := List.forall_mem_cons.1 hbefore
      simpa only [List.cons_append, scanMounts, hfirst] using ih hrest

/-- A scan finds all mounts and goes through some of them, and comes to an archive that leads the walk back to
its start. -/
def ScanTurnsBack (ε : Type) (disk : Disk) (entries : List String) (package : String) : Prop :=
  ∃ before location after,
    mountLocations disk entries package = (.ok (before ++ location :: after) : Except (Failure ε) _) ∧
    (∀ other ∈ before,
      (scanMount disk (packagePath package) other : Run ScanStep (Failure ε)).failure? = none) ∧
    TurnsBack ε disk (packagePath package) location

theorem scan_of_mountLocations_eq_ok {entries locations : List String}
    (h : mountLocations disk entries package = (.ok locations : Except (Failure ε) _)) :
    (scan disk entries package : Run ScanStep (Failure ε)) =
      scanMounts disk (packagePath package) locations := by
  rw [scan, h]

/-- A scan is let through exactly where the search for mounts is, which is before its first step, or where an
archive leads it back to its start. -/
theorem scan_unreported_iff {entries : List String} (hcwd : ∀ name ∈ disk.cwd, IsComponent name) :
    (scan disk entries package : Run ScanStep (Failure ε)).failure? = some failure ∧
        ¬ failure.IsReported ↔
      mountLocations disk entries package = .error failure ∧ ¬ failure.IsReported ∨
      failure = .fault .endless ∧ ScanTurnsBack ε disk entries package := by
  cases hlocations : (mountLocations disk entries package : Except (Failure ε) _) with
  | error other =>
    simp [scan, hlocations, ScanTurnsBack]
  | ok locations =>
    rw [scan_of_mountLocations_eq_ok hlocations, failure?_scanMounts_eq_some_iff]
    simp only [reduceCtorEq, false_and, false_or]
    constructor
    · rintro ⟨⟨before, location, after, rfl, hbefore, hmount⟩, hfailure⟩
      obtain ⟨holders, hsub, hholders⟩ := exists_holders hlocations
      obtain ⟨entry, hentry, hfound⟩ := exists_of_mem_forall₂ hholders (List.mem_append_right _ List.mem_cons_self)
      obtain ⟨text, -, rfl⟩ := List.mem_map.1 (hsub.subset hentry)
      rcases exists_of_failure?_scanMount (Path.isNormal_absolute hcwd text) hfound hmount with
        ⟨place, entries, error, hresolve, herror, rfl⟩ | ⟨hback, rfl⟩
      · obtain ⟨refusal, rfl⟩ := Disk.exists_system_of_error_mem_walk hresolve herror
        exact absurd (Failure.isReported_during _ _) hfailure
      · exact ⟨rfl, before, location, after, hlocations, hbefore, hback⟩
    · rintro ⟨rfl, before, location, after, hother, hbefore, hback⟩
      obtain rfl := Except.ok.inj (hlocations.symm.trans hother)
      exact ⟨⟨before, location, after, rfl, hbefore, hback.failure?_scanMount⟩,
        Failure.not_isReported_fault _⟩

/-! ### Single resources -/

/-- An archive that cannot be opened does not say what it holds. -/
theorem holder?_of_defect (h : archiveDefect? disk entry = some defect) :
    holder? disk name entry = (.error (.defective (.reading name) defect) : Except (Failure ε) _) := by
  have harchive := isArchive_of_defect h
  simp only [holder?, isDirectory_of_isArchive harchive, harchive, openArchive_of_defect h]
  rfl

/-- Looking into an entry is let through only where it is an archive with a fault. -/
theorem archiveDefect?_of_holder? (h : holder? disk name entry = .error failure)
    (hfailure : ¬ failure.IsReported) :
    ∃ escaping, archiveDefect? disk entry = some (.fault escaping) ∧
      failure = .fault (.archive escaping) := by
  rw [holder?] at h
  split at h
  · exact absurd ⟨_, (Except.error.inj h).symm⟩ hfailure
  · split at h
    · cases h
    dsimp only at h
    split at h
    · exact absurd ⟨_, (Except.error.inj h).symm⟩ hfailure
    · cases h
    · next hfile =>
      -- What is a file can be opened.
      obtain ⟨content, hcontent⟩ := exists_content_of_isFile hfile
      rw [hcontent] at h
      cases h
  · split at h
    · exact absurd ⟨_, (Except.error.inj h).symm⟩ hfailure
    · cases h
    · next harchive =>
      cases hopen : (openArchive disk (.reading name) entry : Except (Failure ε) _) with
      | error other =>
        rw [hopen] at h
        obtain rfl := Except.error.inj h
        exact archiveDefect?_of_openArchive harchive hopen hfailure
      | ok archive =>
        rw [hopen] at h
        cases h

/-- The search for a resource in entries is let through exactly where it comes to an archive with a
fault. -/
theorem locateIn_unreported_iff {entries : List Path} :
    locateIn disk name entries = .error failure ∧ ¬ failure.IsReported ↔
      ∃ escaping, failure = .fault (.archive escaping) ∧
        StopsAt disk (fun other => holder? disk name other = (.ok none : Except (Failure ε) _))
          entries escaping := by
  constructor
  · rintro ⟨h, hfailure⟩
    induction entries with
    | nil => exact absurd ⟨_, (Except.error.inj h).symm⟩ hfailure
    | cons entry rest ih =>
      rw [locateIn] at h
      split at h
      · next other hentry =>
        obtain rfl := Except.error.inj h
        obtain ⟨escaping, hdefect, heq⟩ := archiveDefect?_of_holder? hentry hfailure
        exact ⟨escaping, heq, [], entry, rest, rfl, fun _ hother => absurd hother List.not_mem_nil,
          hdefect⟩
      · cases h
      · next hnone =>
        obtain ⟨escaping, heq, before, found, after, rfl, hbefore, hdefect⟩ := ih h
        refine ⟨escaping, heq, entry :: before, found, after, rfl, ?_, hdefect⟩
        intro other hother
        rcases List.mem_cons.1 hother with rfl | hother
        · exact hnone
        · exact hbefore other hother
  · rintro ⟨escaping, rfl, before, entry, after, rfl, hbefore, hdefect⟩
    refine ⟨?_, Failure.not_isReported_fault _⟩
    induction before with
    | nil =>
      rw [List.nil_append, locateIn, holder?_of_defect hdefect]
      rfl
    | cons first rest ih =>
      rw [List.cons_append, locateIn, hbefore first List.mem_cons_self]
      exact ih fun other hother => hbefore other (List.mem_cons_of_mem _ hother)

/-! ### Texts -/

/-- The bytes of what holds a resource, unless something keeps them from being read. -/
def Holder.HasBytes (bytes : Bytes) : Holder → Prop
  | .file _ content => bytes = content.bytes
  | .member _ _ entry => entry.barrier? = none ∧ entry.flaw? = none ∧ bytes = entry.bytes

/-- Why the text of a resource that was found is not read, where that is let through. -/
inductive IsUnreadable (holder : Holder) : Fault → Prop
  /-- A member cannot be opened. -/
  | barrier {archive : Path} {inner : String} {member : Member} {escaping : ArchiveFault}
      (hmember : holder = .member archive inner member)
      (hbarrier : member.barrier? = some (.fault escaping)) : IsUnreadable holder (.archive escaping)
  /-- A member cannot be read to the end. -/
  | flaw {archive : Path} {inner : String} {member : Member} {escaping : ArchiveFault}
      (hmember : holder = .member archive inner member) (hopen : member.barrier? = none)
      (hflaw : member.flaw? = some (.fault escaping)) : IsUnreadable holder (.archive escaping)
  /-- The bytes are not UTF-8. -/
  | undecodable {bytes : Bytes} (hbytes : holder.HasBytes bytes) (hne : bytes ≠ [])
      (hdecode : decodeUtf8? bytes = none) : IsUnreadable holder .undecodable

theorem decodeAs_utf8_eq_error_iff {bytes : Bytes} :
    decodeAs "utf-8" bytes = .error failure ↔
      bytes ≠ [] ∧ decodeUtf8? bytes = none ∧ failure = .fault .undecodable := by
  have hname : Encoding.ofName? "utf-8" = some .utf8 := by decide
  cases bytes with
  | nil => simp [decodeAs]
  | cons byte rest =>
    simp only [decodeAs, hname, Encoding.decode?, List.isEmpty_cons, Bool.false_eq_true, if_false]
    cases hdecode : decodeUtf8? (byte :: rest) with
    | none => simp [eq_comm]
    | some text => simp

/-- The text of what holds a resource. -/
def Holder.text (name : String) (holder : Holder) : Except (Failure ε) String := do
  let stream ← holder.stream
  let bytes ← (stream.readAll).mapError (ReadError.failure (.reading name))
  decodeAs "utf-8" bytes

theorem readText_of_locate {entries : List String} {holder : Holder}
    (h : locate disk entries name = (.ok holder : Except (Failure ε) _)) :
    (readText disk entries name "utf-8" : _ × Except (Failure ε) _).2 = holder.text (lookupName name) := by
  simp only [readText, readBytes, openResource, h, Holder.text]
  cases (holder.stream : Except (Failure ε) _) <;> rfl

theorem text_file (path : Path) (content : Content) :
    ((Holder.file path content).text name : Except (Failure ε) String) =
      decodeAs "utf-8" content.bytes := rfl

/-- The text of a member is that of its bytes, unless something is wrong with the member. -/
theorem text_member (archive : Path) (inner : String) (member : Member) :
    ((Holder.member archive inner member).text name : Except (Failure ε) String) =
      match member.barrier?, member.flaw? with
      | some defect, _ => .error (.defective (.reading inner) defect)
      | none, some defect => .error (.defective (.reading name) defect)
      | none, none => decodeAs "utf-8" member.bytes := by
  rw [Holder.text, Holder.stream]
  cases member.barrier? with
  | some defect => rfl
  | none =>
    simp only [Stream.readAll, Stream.read, Member.read, bind, Except.bind]
    cases member.flaw? with
    | none => rfl
    | some defect => cases defect <;> rfl

/-- The text of what holds a resource is let through exactly where it cannot be read. -/
theorem text_unreported_iff {holder : Holder} :
    holder.text name = .error failure ∧ ¬ failure.IsReported ↔
      ∃ fault, IsUnreadable holder fault ∧ failure = .fault fault := by
  constructor
  · rintro ⟨h, hfailure⟩
    cases holder with
    | file path content =>
      rw [text_file] at h
      obtain ⟨hne, hdecode, rfl⟩ := decodeAs_utf8_eq_error_iff.1 h
      exact ⟨_, .undecodable rfl hne hdecode, rfl⟩
    | member archive inner member =>
      rw [text_member] at h
      cases hbarrier : member.barrier? with
      | some defect =>
        simp only [hbarrier, Except.error.injEq] at h
        rcases Failure.defective_cases (ε := ε) (.reading inner) defect with hreported | ⟨escaping, rfl, heq⟩
        · exact absurd (h ▸ hreported) hfailure
        · exact ⟨_, .barrier rfl hbarrier, h.symm.trans heq⟩
      | none =>
        cases hflaw : member.flaw? with
        | some defect =>
          simp only [hbarrier, hflaw, Except.error.injEq] at h
          rcases Failure.defective_cases (ε := ε) (.reading name) defect with
            hreported | ⟨escaping, rfl, heq⟩
          · exact absurd (h ▸ hreported) hfailure
          · exact ⟨_, .flaw rfl hbarrier hflaw, h.symm.trans heq⟩
        | none =>
          simp only [hbarrier, hflaw] at h
          obtain ⟨hne, hdecode, rfl⟩ := decodeAs_utf8_eq_error_iff.1 h
          exact ⟨_, .undecodable ⟨hbarrier, hflaw, rfl⟩ hne hdecode, rfl⟩
  · rintro ⟨fault, hunreadable, rfl⟩
    refine ⟨?_, Failure.not_isReported_fault _⟩
    cases hunreadable with
    | barrier hmember hbarrier =>
      rw [hmember, text_member, hbarrier]
      rfl
    | flaw hmember hopen hflaw =>
      rw [hmember, text_member, hopen, hflaw]
      rfl
    | @undecodable bytes hbytes hne hdecode =>
      have herror : decodeAs "utf-8" bytes = .error (.fault .undecodable : Failure ε) :=
        decodeAs_utf8_eq_error_iff.2 ⟨hne, hdecode, rfl⟩
      cases holder with
      | file path content =>
        rw [text_file, ← show bytes = content.bytes from hbytes, herror]
      | member archive inner member =>
        obtain ⟨hbarrier, hflaw, heq⟩ := hbytes
        rw [text_member, hbarrier, hflaw, ← heq]
        exact herror

/-- The search for a resource comes to an archive whose fault is let through. -/
def LocateStopsAt (ε : Type) (disk : Disk) (entries : List String) (name : String)
    (escaping : ArchiveFault) : Prop :=
  StopsAt disk (fun other => holder? disk (lookupName name) other = (.ok none : Except (Failure ε) _))
    (searchEntries disk entries) escaping

/-- The text of a resource is let through exactly where the search for it is, or where it is found and
cannot be read. -/
theorem readText_unreported_iff {entries : List String} :
    (readText disk entries name "utf-8").2 = .error failure ∧ ¬ failure.IsReported ↔
      (∃ escaping, failure = .fault (.archive escaping) ∧ LocateStopsAt ε disk entries name escaping) ∨
      ∃ holder fault, locate disk entries name = (.ok holder : Except (Failure ε) _) ∧
        IsUnreadable holder fault ∧ failure = .fault fault := by
  simp only [LocateStopsAt]
  rw [← locateIn_unreported_iff]
  cases hlocate : (locate disk entries name : Except (Failure ε) _) with
  | error other =>
    have htext : (readText disk entries name "utf-8" : _ × Except (Failure ε) _).2 = .error other := by
      simp only [readText, readBytes, openResource, hlocate]
      rfl
    rw [locate] at hlocate
    simp [htext, hlocate]
  | ok holder =>
    rw [readText_of_locate hlocate, text_unreported_iff]
    rw [locate] at hlocate
    simp [hlocate]

end Lookup
