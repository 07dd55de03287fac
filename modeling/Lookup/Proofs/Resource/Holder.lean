import Lookup.Proofs.Files.Limits
import Lookup.Proofs.Files.Multiplicity
import Lookup.Proofs.Files.Reach
import Lookup.Proofs.Resource.Location
import Lookup.Proofs.Resource.Mount
import Lookup.Resource.Read

/-!
# What an entry holds and what its mount lists

An entry of the search path is read in one way and walked in another. Both agree on plain entries: what the
walk of the mount lists is held by the entry, at the same location, and what the entry holds below the
package is listed by a walk that does not fail, provided that a directory holds no link to a directory.

## Main definitions

* `Holder.location` — the location of what holds a resource
* `Failure.IsRefusal` — failures at a path that exceeds the limits of the system
* `Archive.IsPlain`, `Node.HasPlainNames`, `IsPlainEntry` — archives, trees and entries with plain names
* `Mounts` — the mount of a package in an entry
* `HoldsUnlessRefused` — entries that hold what is listed

## Main results

* `IsPlainEntry.isRefusal` — looking into an entry fails only at a path that exceeds the limits
* `IsPlainEntry.exists_read` — what an entry holds can be read
* `IsPlainEntry.exists_held` — what is listed is held
* `IsPlainEntry.exists_listed` — what is held is listed
-/

namespace Lookup

open Files Text

variable {ε : Type} {disk : Disk} {entry : Path} {name package : String} {names rest : List String}
  {holder : Holder} {mount : Mount} {resource : Resource}

/-- The location of what holds a resource. -/
def Holder.location : Holder → String
  | .file path _ => "file:" ++ path.text
  | .member archive _ _ => archiveBase archive

/-- A failure of looking up a name in an entry, since the system refuses a path for a length: the path of
the entry, or the one that the name leads to from it. -/
def Failure.IsRefusal (disk : Disk) (name : String) (entry : Path) (failure : Failure ε) : Prop :=
  ∃ activity path, (path = entry ∨ path = entry.append (Path.ofText name)) ∧ disk.ExceedsLimits path ∧
    disk.resolve path = .error (.refused .nameTooLong) ∧
    failure = .during activity (.system (.refused .nameTooLong path.text))

/-- A sound archive whose members can be read and have names of plain components. -/
structure Files.Archive.IsPlain (archive : Archive) : Prop where
  sound : archive.sound = true
  intact : ∀ member ∈ archive.members, member.intact = true
  unencrypted : ∀ member ∈ archive.members, member.encrypted = false
  named : ∀ name ∈ archive.memberNames, ∃ path, path ≠ [] ∧ (∀ part ∈ path, IsPlainPart part) ∧
    (name = fileName path ∨ name = directoryName path)

/-- Nothing keeps an intact member from being opened and read, unless it is encrypted. -/
theorem Files.Member.readable {member : Member} (hintact : member.intact = true)
    (hunencrypted : member.encrypted = false) : member.barrier? = none ∧ member.flaw? = none := by
  simpa [Member.intact, hunencrypted] using hintact

/-- A tree in which no name holds a backslash. -/
def Files.Node.HasPlainNames (node : Node) : Prop :=
  ∀ names found, node.at? names = some found → ∀ name ∈ names, '\\' ∉ name.toList

theorem Files.Node.hasPlainNames_file (content : Content) : (Node.file content).HasPlainNames := by
  intro names found h
  rw [Node.eq_nil_of_at?_file h]
  exact fun name hname => absurd hname List.not_mem_nil

/-- A directory has plain names if its entries have plain names and hold only such. -/
theorem Files.Node.hasPlainNames_directory {entries : List (String × Node)}
    (hnames : ∀ entry ∈ entries, '\\' ∉ entry.1.toList)
    (hentries : ∀ entry ∈ entries, entry.2.HasPlainNames) :
    (Node.directory entries).HasPlainNames := by
  intro names found h
  cases names with
  | nil => exact fun name hname => absurd hname List.not_mem_nil
  | cons first rest =>
    obtain ⟨child, hchild, hrest⟩ := Node.exists_mem_of_at?_cons h
    intro name hname
    rcases List.mem_cons.1 hname with rfl | hname
    · exact hnames _ hchild
    · exact hentries _ hchild rest found hrest name hname

/-- An entry of the search path without a backslash. If it is an archive, that is a plain one. -/
structure IsPlainEntry (disk : Disk) (entry : Path) : Prop where
  isNormal : entry.IsNormal
  backslash_notMem : '\\' ∉ entry.text.toList
  isPlain : ∀ content archive, disk.content entry = .ok content → content.archive = some archive →
    archive.IsPlain

/-! ### Looking into an entry -/

/-- A path at which a check fails is refused for a length. -/
theorem check_eq_error {property : Node → Bool} {path : Path} {error : SystemError}
    (h : disk.check property path = .error error) :
    disk.resolve path = .error (.refused .nameTooLong) ∧ error = .refused .nameTooLong path.text := by
  rw [Disk.check] at h
  split at h
  · simp at h
  · next hresolve => exact ⟨hresolve, (Except.error.inj h).symm⟩
  · simp at h

/-- A check of the path of an entry, or of the one that a name leads to from it, fails by a refusal. -/
theorem isRefusal_of_check {property : Node → Bool} {path : Path} {error : SystemError}
    (hpath : path = entry ∨ path = entry.append (Path.ofText name))
    (h : disk.check property path = .error error) (activity : Activity) :
    (Failure.during activity (.system error) : Failure ε).IsRefusal disk name entry := by
  obtain ⟨hresolve, rfl⟩ := check_eq_error h
  exact ⟨activity, path, hpath, Disk.exceedsLimits_of_resolve hresolve, hresolve, rfl⟩

theorem exists_content_of_isFile {path : Path} (h : disk.isFile path = .ok true) :
    ∃ content, disk.content path = .ok content := by
  obtain ⟨place, content, hresolve⟩ := Disk.isFile_eq_true_iff.1 h
  exact ⟨content, by rw [Disk.content, hresolve]⟩

theorem isArchive_eq_true_iff : isArchive disk entry = .ok true ↔
    ∃ place content, disk.resolve entry = .ok (place, .file content) ∧
      content.archive.isSome = true := by
  rw [isArchive, Disk.check_eq_true_iff]
  constructor
  · rintro ⟨place, node, hresolve, hnode⟩
    cases node with
    | file content => exact ⟨place, content, hresolve, hnode⟩
    | directory | link => cases hnode
  · rintro ⟨place, content, hresolve, hsome⟩
    exact ⟨place, _, hresolve, hsome⟩

/-- An archive is a file and no directory. -/
theorem isDirectory_of_isArchive (h : isArchive disk entry = .ok true) :
    disk.isDirectory entry = .ok false := by
  obtain ⟨place, content, hresolve, -⟩ := isArchive_eq_true_iff.1 h
  rw [Disk.isDirectory, Disk.check, hresolve]

theorem Files.Archive.exists_member? {archive : Archive} (h : name ∈ archive.memberNames) :
    ∃ member, archive.member? name = some member := by
  obtain ⟨member, hmember, rfl⟩ := List.mem_map.1 h
  rw [← Option.isSome_iff_exists, Archive.member?, List.find?_isSome]
  exact ⟨member, List.mem_reverse.2 hmember, by simp⟩

/-- The name of a path leads from a directory along the path. -/
theorem append_ofText_fileName (hnames : ∀ part ∈ names, IsComponent part) :
    entry.append (Path.ofText (fileName names)) = entry.below names := by
  rw [fileName, Path.ofText_intercalate hnames, Path.append_relative]

theorem fileName_ne_empty (hnames : ∀ part ∈ names, IsComponent part) (hne : names ≠ []) :
    fileName names ≠ "" := fun hempty =>
  fileName_ne_nil hnames hne (String.toList_eq_nil_iff.2 hempty)

/-- A directory holds a file below it by the name of its path. -/
theorem holder?_directory (hdirectory : disk.isDirectory entry = .ok true)
    (hnames : ∀ part ∈ names, IsComponent part) (hne : names ≠ [])
    (hfile : disk.isFile (entry.below names) = .ok true) :
    ∃ content, holder? disk (fileName names) entry =
      (.ok (some (.file (entry.below names) content)) : Except (Failure ε) _) := by
  obtain ⟨content, hcontent⟩ := exists_content_of_isFile hfile
  refine ⟨content, ?_⟩
  simp only [holder?, hdirectory, if_neg (fileName_ne_empty hnames hne), append_ofText_fileName hnames,
    hfile, hcontent]

/-- A directory refuses a name if what is below it by that name cannot be looked up. -/
theorem holder?_directory_eq_error {error : SystemError} (hdirectory : disk.isDirectory entry = .ok true)
    (hnames : ∀ part ∈ names, IsComponent part) (hne : names ≠ [])
    (hfile : disk.isFile (entry.below names) = .error error) :
    (holder? disk (fileName names) entry : Except (Failure ε) _) =
      .error (.during (.reading (fileName names)) (.system error)) := by
  simp only [holder?, hdirectory, if_neg (fileName_ne_empty hnames hne), append_ofText_fileName hnames,
    hfile]

/-- An archive holds the members that are no directories. -/
theorem holder?_archive {archive : Archive} (harchive : isArchive disk entry = .ok true)
    (hopen : (openArchive disk (.reading name) entry : Except (Failure ε) _) = .ok archive) :
    (holder? disk name entry : Except (Failure ε) _) =
      .ok (if Archive.isDirectory name then none
        else (archive.member? name).map (.member entry name)) := by
  simp only [holder?, isDirectory_of_isArchive harchive, harchive, hopen]
  rfl

/-- What an entry holds is a file below a directory or a member of an archive. -/
theorem holder?_eq_some (h : holder? disk name entry = (.ok (some holder) : Except (Failure ε) _)) :
    (disk.isDirectory entry = .ok true ∧ disk.isFile (entry.append (Path.ofText name)) = .ok true ∧
      ∃ content, holder = .file (entry.append (Path.ofText name)) content) ∨
    (isArchive disk entry = .ok true ∧ Archive.isDirectory name = false ∧
      ∃ archive member, openArchive disk (.reading name) entry = (.ok archive : Except (Failure ε) _) ∧
        archive.member? name = some member ∧ holder = .member entry name member) := by
  -- An entry is looked into as an archive only if it is no directory.
  rcases hdirectory : disk.isDirectory entry with error | _ | _
  · simp [holder?, hdirectory] at h
  · rcases harchive : isArchive disk entry with error | _ | _
    · simp [holder?, hdirectory, harchive] at h
    · simp [holder?, hdirectory, harchive] at h
    · cases hopen : (openArchive disk (.reading name) entry : Except (Failure ε) _) with
      | error failure => simp [holder?, hdirectory, harchive, hopen, Except.map] at h
      | ok archive =>
        rw [holder?_archive harchive hopen] at h
        split at h
        · simp at h
        · next hname =>
          obtain ⟨member, hmember, heq⟩ := Option.map_eq_some_iff.1 (Except.ok.inj h)
          exact .inr ⟨rfl, by simpa using hname, archive, member, rfl, hmember, heq.symm⟩
  · simp only [holder?, hdirectory] at h
    split at h
    · simp at h
    rcases hfile : disk.isFile (entry.append (Path.ofText name)) with error | _ | _
    · simp [hfile] at h
    · simp [hfile] at h
    · obtain ⟨content, hcontent⟩ := exists_content_of_isFile hfile
      simp only [hfile, hcontent, Except.ok.injEq, Option.some.injEq] at h
      exact .inl ⟨rfl, rfl, content, h.symm⟩

/-- The mount of a package in an entry. -/
def Mounts (ε : Type) (disk : Disk) (package : String) (entry : Path) (mount : Mount) : Prop :=
  ∃ location, entryLocation? disk (.enumerating package) (packagePath package) entry =
      (.ok (some location) : Except (Failure ε) _) ∧
    Mount.ofLocation location (packagePath package) = .ok mount

/-- The mount of a package without an escape is the directory of the package, or that directory inside an
archive. -/
theorem Mounts.eq (h : Mounts ε disk package entry mount) (hnormal : entry.IsNormal)
    (hpackage : '%' ∉ package.toList) :
    (disk.isDirectory entry = .ok true ∧
      disk.isDirectory (entry.below (packageNames package)) = .ok true ∧
      mount = .directory ⟨entry.below (packageNames package), dropTrailingSlash entry.text⟩) ∨
    (isArchive disk entry = .ok true ∧
      mount = .archive ⟨entry, archiveBase entry, packagePath package⟩ ∧
      ∃ archive, (openArchive disk (.enumerating package) entry : Except (Failure ε) _) = .ok archive ∧
        exposes archive (packagePath package) = true) := by
  obtain ⟨location, hlocation, hmount⟩ := h
  rcases entryLocation?_eq_some hlocation with ⟨hdirectory, hbelow, rfl⟩ | ⟨harchive, rfl, hexposes⟩
  · obtain rfl := Except.ok.inj ((mount_ofLocation_directory hnormal package).symm.trans hmount)
    exact .inl ⟨hdirectory, hbelow, rfl⟩
  · have hread := mount_ofLocation_archive hnormal package
    rw [(ofList_trimBoth_decodePercent_eq_iff package).2 (not_hasEscape_packagePath hpackage)] at hread
    obtain rfl := Except.ok.inj (hread.symm.trans hmount)
    exact .inr ⟨harchive, rfl, hexposes⟩

/-- An entry holds what is listed under the name of a resource, at the location of the resource, unless it
cannot be looked up. -/
def HoldsUnlessRefused (ε : Type) (disk : Disk) (entry : Path) (resource : Resource) : Prop :=
  (∃ failure : Failure ε, holder? disk resource.name entry = .error failure) ∨
    ∃ holder, holder? disk resource.name entry = (.ok (some holder) : Except (Failure ε) _) ∧
      holder.location = resource.location

theorem HoldsUnlessRefused.holder?_ne_none (h : HoldsUnlessRefused ε disk entry resource) :
    holder? disk resource.name entry ≠ (.ok none : Except (Failure ε) _) := by
  rcases h with ⟨failure, hfailure⟩ | ⟨found, hfound, -⟩
  · simp [hfailure]
  · simp [hfound]

theorem HoldsUnlessRefused.location_eq (h : HoldsUnlessRefused ε disk entry resource)
    (hheld : holder? disk resource.name entry = (.ok (some holder) : Except (Failure ε) _)) :
    holder.location = resource.location := by
  rcases h with ⟨failure, hfailure⟩ | ⟨found, hfound, hlocation⟩
  · simp [hfailure] at hheld
  · rw [hfound] at hheld
    obtain rfl := Option.some.inj (Except.ok.inj hheld)
    exact hlocation

namespace IsPlainEntry

variable (h : IsPlainEntry disk entry)

include h

/-- A plain archive can be opened for any activity. -/
theorem exists_openArchive (harchive : isArchive disk entry = .ok true) :
    ∃ archive, archive.IsPlain ∧
      ∀ activity, openArchive disk activity entry = (.ok archive : Except (Failure ε) _) := by
  obtain ⟨place, content, hresolve, hsome⟩ := isArchive_eq_true_iff.1 harchive
  obtain ⟨archive, hcontent⟩ := Option.isSome_iff_exists.1 hsome
  have hread : disk.content entry = .ok content := by rw [Disk.content, hresolve]
  have hplain := h.isPlain content archive hread hcontent
  exact ⟨archive, hplain, fun activity =>
    openArchive_eq_ok_iff.2 ⟨content, hread, hcontent, hplain.sound⟩⟩

/-- Looking into a plain entry fails only at a path that the system refuses for a length. -/
theorem isRefusal {failure : Failure ε} (hfailure : holder? disk name entry = .error failure) :
    failure.IsRefusal disk name entry := by
  rcases hdirectory : disk.isDirectory entry with error | _ | _
  · simp only [holder?, hdirectory, Except.error.injEq] at hfailure
    exact hfailure ▸ isRefusal_of_check (.inl rfl) hdirectory _
  · rcases harchive : isArchive disk entry with error | _ | _
    · simp only [holder?, hdirectory, harchive, Except.error.injEq] at hfailure
      exact hfailure ▸ isRefusal_of_check (.inl rfl) harchive _
    · simp [holder?, hdirectory, harchive] at hfailure
    · obtain ⟨archive, -, hopen⟩ := h.exists_openArchive harchive
      rw [holder?_archive harchive (hopen _)] at hfailure
      simp at hfailure
  · simp only [holder?, hdirectory] at hfailure
    split at hfailure
    · simp at hfailure
    rcases hfile : disk.isFile (entry.append (Path.ofText name)) with error | _ | _
    · simp only [hfile, Except.error.injEq] at hfailure
      exact hfailure ▸ isRefusal_of_check (.inr rfl) hfile _
    · simp [hfile] at hfailure
    · obtain ⟨content, hcontent⟩ := exists_content_of_isFile hfile
      simp [hfile, hcontent] at hfailure

/-- What a plain entry holds can be opened and read to the end. -/
theorem exists_read (hheld : holder? disk name entry = (.ok (some holder) : Except (Failure ε) _)) :
    ∃ stream bytes, holder.stream = (.ok stream : Except (Failure ε) _) ∧ stream.read = .ok bytes := by
  rcases holder?_eq_some hheld with ⟨-, -, content, rfl⟩ | ⟨-, -, archive, member, hopen, hmember, rfl⟩
  · exact ⟨.file content.bytes, content.bytes, rfl, rfl⟩
  · obtain ⟨content, hcontent, harchive, -⟩ := openArchive_eq_ok_iff.1 hopen
    have hplain := h.isPlain content archive hcontent harchive
    have hmem : member ∈ archive.members := List.mem_reverse.1 (List.mem_of_find?_eq_some hmember)
    obtain ⟨hbarrier, hflaw⟩ := Member.readable (hplain.intact member hmem) (hplain.unencrypted member hmem)
    refine ⟨.member member, member.bytes, ?_, ?_⟩
    · rw [Holder.stream, hbarrier]
    · rw [Stream.read, Member.read, hflaw]

/-! ### What is listed is held -/

/-- What a walk through the directory of a package lists is held by the entry, unless it cannot be looked
up. -/
theorem exists_held_directory (hdisk : disk.IsSound)
    (hnames : disk.root.HasPlainNames)
    (hdirectory : disk.isDirectory entry = .ok true)
    (hresource : resource ∈ ((DirectoryMount.mk (entry.below (packageNames package))
      (dropTrailingSlash entry.text)).walk disk : Run Resource (Failure ε)).items) :
    ∃ rest, rest ≠ [] ∧ (∀ part ∈ rest, IsPlainPart part) ∧
      resource.name = fileName (packageNames package ++ rest) ∧
      HoldsUnlessRefused ε disk entry resource := by
  obtain ⟨file, hfile, rfl⟩ := DirectoryMount.exists_of_mem_collect _ hresource
  obtain ⟨place, rest, found, hne, rfl, hat⟩ := Disk.exists_at?_of_file_mem_walk hdisk hfile
  have hrest : ∀ part ∈ rest, IsPlainPart part := by
    intro part hpart
    have hmem := List.mem_append_right place hpart
    have hname := hdisk.root.isFileName hat part hmem
    exact ⟨hname.toIsComponent, hname.ne_dotdot, hnames _ _ hat part hmem⟩
  have hall := isPlainPart_append package hrest
  have hcomponent : ∀ part ∈ packageNames package ++ rest, IsComponent part := fun part hpart =>
    (hall part hpart).toIsComponent
  have hnonempty : packageNames package ++ rest ≠ [] := List.append_ne_nil_of_right_ne_nil _ hne
  rw [← Path.below_append] at hfile ⊢
  have hname := name_resource_eq_fileName h.isNormal h.backslash_notMem hnonempty hall
    (entry.below (packageNames package))
  have hroot : (entry.below (packageNames package)).IsNormal :=
    h.isNormal.below fun _ => isComponent_packageNames
  refine ⟨rest, hne, hrest, hname, ?_⟩
  rw [HoldsUnlessRefused, hname]
  rcases Disk.isFile_of_file_mem_walk hdisk hroot hfile with hisFile | hisFile
  · obtain ⟨content, hheld⟩ := holder?_directory (ε := ε) hdirectory hcomponent hnonempty hisFile
    exact .inr ⟨.file (entry.below (packageNames package ++ rest)) content, hheld, rfl⟩
  · rw [holder?_directory_eq_error hdirectory hcomponent hnonempty hisFile]
    exact .inl ⟨_, rfl⟩

/-- What a walk through an archive lists is held by the entry. -/
theorem exists_held_archive (harchive : isArchive disk entry = .ok true)
    (hresource : resource ∈ ((ArchiveMount.mk entry (archiveBase entry) (packagePath package)).walk disk :
      Run Resource (Failure ε)).items) :
    ∃ rest, rest ≠ [] ∧ (∀ part ∈ rest, IsPlainPart part) ∧
      resource.name = fileName (packageNames package ++ rest) ∧
      HoldsUnlessRefused ε disk entry resource := by
  obtain ⟨archive, hplain, hopen⟩ := h.exists_openArchive harchive
  rw [ArchiveMount.walk, hopen] at hresource
  obtain ⟨name, hname, rfl⟩ := List.mem_map.1 hresource
  obtain ⟨hmember, hfile, directories, hway⟩ := Archive.mem_files_iff.1 (Archive.names_walk_subset hname)
  rw [ArchiveMount.start_mk, trimSlashes_directoryName fun _ => isComponent_packageNames] at hway
  -- The name of the member is that of a path, which goes down from the package.
  obtain ⟨path, hne, hpath, rfl | rfl⟩ := hplain.named name hmember
  · obtain ⟨rest, hrest, rfl⟩ := hway.exists_eq_append (fun part hpart => (hpath part hpart).toIsComponent)
      fun _ => isComponent_packageNames
    obtain ⟨member, hfound⟩ := Archive.exists_member? hmember
    have hcanonical := canonicalName_fileName hpath
    refine ⟨rest, hrest, fun part hpart => hpath part (List.mem_append_right _ hpart), hcanonical, ?_⟩
    simp only [HoldsUnlessRefused, ArchiveMount.resource, hcanonical]
    rw [holder?_archive harchive (hopen _), hfile, hfound]
    exact .inr ⟨_, rfl, rfl⟩
  · rw [isDirectory_directoryName hne] at hfile
    exact absurd hfile (by simp)

/-- What the mount of a package in a plain entry lists is held by the entry, at the same location. -/
theorem exists_held (hdisk : disk.IsSound)
    (hnames : disk.root.HasPlainNames)
    (hpackage : '%' ∉ package.toList) (hmount : Mounts ε disk package entry mount)
    (hresource : resource ∈ (mount.walk disk : Run Resource (Failure ε)).items) :
    ∃ rest, rest ≠ [] ∧ (∀ part ∈ rest, IsPlainPart part) ∧
      resource.name = fileName (packageNames package ++ rest) ∧
      HoldsUnlessRefused ε disk entry resource := by
  rcases hmount.eq h.isNormal hpackage with ⟨hdirectory, -, rfl⟩ | ⟨harchive, rfl, -⟩
  · exact h.exists_held_directory hdisk hnames hdirectory hresource
  · exact h.exists_held_archive harchive hresource

/-! ### What is held is listed -/

/-- A file that a directory holds below a package is listed by a walk that does not fail. -/
theorem exists_listed_directory (hdisk : disk.IsSound) (hlinks : ¬ disk.HasDirectoryLink entry)
    (hne : rest ≠ []) (hrest : ∀ part ∈ rest, IsPlainPart part)
    (hdirectory : disk.isDirectory entry = .ok true)
    (hfile : disk.isFile (entry.below (packageNames package ++ rest)) = .ok true) :
    ∃ mount, Mounts ε disk package entry mount ∧
      ((mount.walk disk : Run Resource (Failure ε)).failure? = none →
        ∃ resource ∈ (mount.walk disk : Run Resource (Failure ε)).items,
          resource.name = fileName (packageNames package ++ rest)) := by
  have hall := isPlainPart_append package hrest
  have hcomponent : ∀ part ∈ packageNames package ++ rest, IsComponent part := fun part hpart =>
    (hall part hpart).toIsComponent
  obtain ⟨place, entries, hresolve⟩ := Disk.isDirectory_eq_true_iff.1 hdirectory
  obtain ⟨reached, content, hreached⟩ := Disk.isFile_eq_true_iff.1 hfile
  have hbelow : disk.isDirectory (entry.below (packageNames package)) = .ok true :=
    Disk.isDirectory_eq_true_iff.2
      (Disk.exists_resolve_of_append h.isNormal hresolve hcomponent hne hreached)
  let mount : DirectoryMount := ⟨entry.below (packageNames package), dropTrailingSlash entry.text⟩
  have hlocation : entryLocation? disk (.enumerating package) (packagePath package) entry =
      (.ok (some (fileUri (entry.below (packageNames package)))) : Except (Failure ε) _) := by
    rw [entryLocation?_directory hdirectory, hbelow]
    rfl
  refine ⟨.directory mount, ⟨_, hlocation, mount_ofLocation_directory h.isNormal package⟩, ?_⟩
  intro hfailure
  have herrors : ∀ error, .error error ∉ disk.walk (entry.below (packageNames package)) := by
    intro error hmem
    obtain ⟨other, -, hother⟩ := mount.exists_failure (ε := ε) ⟨error, hmem⟩
    exact absurd (hother.symm.trans hfailure) (by simp)
  have hwalk := Disk.file_mem_walk_of_isFile h.isNormal hresolve hdisk hlinks
    (fun part hpart => ⟨hcomponent part hpart, (hall part hpart).ne_dotdot⟩) hne hfile herrors
  refine ⟨_, mount.mem_collect hwalk hfailure, ?_⟩
  exact name_resource_eq_fileName h.isNormal h.backslash_notMem
    (List.append_ne_nil_of_right_ne_nil _ hne) hall _

/-- A member that an archive holds below a package is listed. -/
theorem exists_listed_archive (hpackage : '%' ∉ package.toList) (hne : rest ≠ [])
    (hrest : ∀ part ∈ rest, IsPlainPart part) (harchive : isArchive disk entry = .ok true)
    {archive : Archive} {member : Member}
    (hopen : ∀ activity, openArchive disk activity entry = (.ok archive : Except (Failure ε) _))
    (hmember : archive.member? (fileName (packageNames package ++ rest)) = some member) :
    ∃ mount, Mounts ε disk package entry mount ∧
      ((mount.walk disk : Run Resource (Failure ε)).failure? = none →
        ∃ resource ∈ (mount.walk disk : Run Resource (Failure ε)).items,
          resource.name = fileName (packageNames package ++ rest)) := by
  have hall := isPlainPart_append package hrest
  have hcomponent : ∀ part ∈ packageNames package ++ rest, IsComponent part := fun part hpart =>
    (hall part hpart).toIsComponent
  have hmem : fileName (packageNames package ++ rest) ∈ archive.memberNames := by
    have hfound := List.find?_some hmember
    rw [← of_decide_eq_true hfound]
    exact List.mem_map_of_mem (List.mem_reverse.1 (List.mem_of_find?_eq_some hmember))
  have hlocation : entryLocation? disk (.enumerating package) (packagePath package) entry =
      (.ok (some (archiveLocation entry package)) : Except (Failure ε) _) := by
    rw [entryLocation?_archive (isDirectory_of_isArchive harchive) harchive, hopen, Except.map,
      if_pos (exposes_of_mem_memberNames hne hmem)]
  have hmount := mount_ofLocation_archive h.isNormal package
  rw [(ofList_trimBoth_decodePercent_eq_iff package).2 (not_hasEscape_packagePath hpackage)] at hmount
  generalize hpacked : ArchiveMount.mk entry (archiveBase entry) (packagePath package) = packed at hmount
  have hopens : openArchive disk (.readingArchive packed.archive.text) packed.archive =
      (.ok archive : Except (Failure ε) _) := hpacked ▸ hopen _
  refine ⟨.archive packed, ⟨_, hlocation, hmount⟩, fun hfailure => ?_⟩
  have hway := Way.exists_of_append hcomponent hne
  rw [← trimSlashes_directoryName fun _ => isComponent_packageNames] at hway
  rw [Mount.walk] at hfailure ⊢
  rcases packed.walk_cases hopens with ⟨-, hwalk⟩ | ⟨-, hwalk⟩
  · refine ⟨packed.resource (fileName (packageNames package ++ rest)), ?_, canonicalName_fileName hall⟩
    rw [hwalk, ← hpacked, ArchiveMount.start_mk]
    exact List.mem_map_of_mem (Archive.mem_files_iff.2 ⟨hmem, isDirectory_fileName hcomponent, hway⟩)
  · rw [hwalk] at hfailure
    cases hfailure

/-- What is held below a package is listed by the mount of the package, unless the walk fails or a
directory holds a link to a directory. -/
theorem exists_listed (hdisk : disk.IsSound) (hlinks : ¬ disk.HasDirectoryLink entry)
    (hpackage : '%' ∉ package.toList) (hne : rest ≠ []) (hrest : ∀ part ∈ rest, IsPlainPart part)
    (hheld : holder? disk (fileName (packageNames package ++ rest)) entry =
      (.ok (some holder) : Except (Failure ε) _)) :
    ∃ mount, Mounts ε disk package entry mount ∧
      ((mount.walk disk : Run Resource (Failure ε)).failure? = none →
        ∃ resource ∈ (mount.walk disk : Run Resource (Failure ε)).items,
          resource.name = fileName (packageNames package ++ rest)) := by
  rcases holder?_eq_some hheld with ⟨hdirectory, hfile, -⟩ | ⟨harchive, -, archive, member, hopen, hmember, -⟩
  · rw [append_ofText_fileName fun part hpart => (isPlainPart_append _ hrest part hpart).toIsComponent]
      at hfile
    exact h.exists_listed_directory hdisk hlinks hne hrest hdirectory hfile
  · have hanyOpen : ∀ activity, openArchive disk activity entry = (.ok archive : Except (Failure ε) _) :=
      fun activity => openArchive_eq_ok_iff.2 (openArchive_eq_ok_iff.1 hopen)
    exact h.exists_listed_archive hpackage hne hrest harchive hanyOpen hmember

end IsPlainEntry

end Lookup
