import Lookup.Proofs.Resource.Concatenation

/-!
# The first match decides

A resource is read from the first entry of the search path that holds it. All entries in front of that one are
passed over: those at which there is nothing, files that are no archives, and directories and archives that do
not hold it. What comes behind it does not matter, whatever the reader makes of the resource. An entry that
cannot be looked into ends the search, before any reader is called.

## Main definitions

* `Lacks`, `Holds`, `Refuses` — what an entry may be to a resource
* `entryPath` — the path of an entry

## Main results

* `lacks_or_holds_or_refuses` — an entry is one of these, or an archive with a fault
* `holder?_eq_none_iff`, `holder?_eq_some_iff` — what looking into an entry comes to
* `exists_of_locateIn_eq_ok` — what a search finds is in the first entry that holds it
* `openResource_of_holds` — the first entry that holds a resource decides
* `openResource_of_refuses` — an entry that cannot be looked into ends the search
* `openResource_of_lacks` — a resource that no entry holds is not found
* `openResource_firstMatch` — the three together, with what becomes of the errors of a reader
* `not_forall_openResource_firstMatch` — paths that are too long and faults are exceptions
-/

namespace Lookup

open Files Text

variable {ε α : Type} {disk : Disk} {name : String} {entry : Path} {holder : Holder} {cause : Cause}
  {content : Content} {archive : Archive}

/-! ### Entries -/

/-- An entry that has not the resource of a name. -/
inductive Lacks (disk : Disk) (name : String) (entry : Path) : Prop
  /-- There is neither a directory nor a file. -/
  | missing (notDirectory : disk.isDirectory entry = .ok false) (notFile : disk.isFile entry = .ok false)
  /-- A file is no archive. -/
  | file {content : Content} (isFile : disk.content entry = .ok content) (plain : content.archive = none)
  /-- A directory has no regular file of the name. -/
  | directory (isDirectory : disk.isDirectory entry = .ok true)
      (absent : disk.isFile (entry.append (Path.ofText name)) = .ok false)
  /-- An archive that can be opened has no member of the name other than a directory. -/
  | archive {content : Content} {archive : Archive} (isFile : disk.content entry = .ok content)
      (isArchive : content.archive = some archive) (openable : archive.defect? = none)
      (absent : Archive.isDirectory name = true ∨ archive.member? name = none)

/-- What has the resource of a name in an entry. -/
inductive Holds (disk : Disk) (name : String) (entry : Path) : Holder → Prop
  /-- A directory has a regular file of the name. -/
  | file {content : Content} (isDirectory : disk.isDirectory entry = .ok true)
      (isFile : disk.content (entry.append (Path.ofText name)) = .ok content) :
      Holds disk name entry (.file (entry.append (Path.ofText name)) content)
  /-- An archive that can be opened has a member of the name that is no directory. -/
  | member {content : Content} {archive : Archive} {member : Member}
      (isFile : disk.content entry = .ok content) (isArchive : content.archive = some archive)
      (openable : archive.defect? = none) (notDirectory : Archive.isDirectory name = false)
      (found : archive.member? name = some member) : Holds disk name entry (.member entry name member)

/-- Why an entry cannot be looked into for the resource of a name. -/
inductive Refuses (disk : Disk) (name : String) (entry : Path) : Cause → Prop
  /-- The system refuses the path of the entry. -/
  | entry {error : SystemError} (refused : disk.isDirectory entry = .error error) :
      Refuses disk name entry (.system error)
  /-- The system refuses the path of the name in a directory. -/
  | name {error : SystemError} (isDirectory : disk.isDirectory entry = .ok true)
      (refused : disk.isFile (entry.append (Path.ofText name)) = .error error) :
      Refuses disk name entry (.system error)
  /-- An archive is damaged. -/
  | archive {content : Content} {archive : Archive} {reported : ArchiveError}
      (isFile : disk.content entry = .ok content) (isArchive : content.archive = some archive)
      (damaged : archive.defect? = some (.error reported)) : Refuses disk name entry (.archive reported)

theorem exists_resolve_of_content (h : disk.content entry = .ok content) :
    ∃ place, disk.resolve entry = .ok (place, .file content) := by
  rw [Disk.content] at h
  split at h
  · next place found hresolve =>
    obtain rfl := Except.ok.inj h
    exact ⟨place, hresolve⟩
  · cases h
  · cases h

/-- A file is no directory, and an archive if its content is one. -/
theorem checks_of_content (h : disk.content entry = .ok content) :
    disk.isDirectory entry = .ok false ∧ disk.isFile entry = .ok true ∧
      isArchive disk entry = .ok content.archive.isSome := by
  obtain ⟨place, hresolve⟩ := exists_resolve_of_content h
  refine ⟨?_, ?_, ?_⟩
  · rw [Disk.isDirectory, Disk.check, hresolve]
  · rw [Disk.isFile, Disk.check, hresolve]
  · rw [isArchive, Disk.check, hresolve]

/-- What is no file is no archive. -/
theorem isArchive_of_isFile (h : disk.isFile entry = .ok false) : isArchive disk entry = .ok false := by
  rw [Disk.isFile, Disk.check] at h
  rw [isArchive, Disk.check]
  split at h
  · next place node hresolve =>
    cases node with
    | file content => cases h
    | directory | link => rfl
  · cases h
  · rfl

/-- The system refuses a path for every check alike. -/
theorem check_eq_error_of_check {property : Node → Bool} {error : SystemError}
    (h : disk.check property entry = .error error) (other : Node → Bool) :
    disk.check other entry = .error error := by
  rw [Disk.check] at h ⊢
  split at h
  · cases h
  · exact h
  · cases h

/-- A directory has no file of the empty name. -/
theorem isFile_append_empty (h : disk.isDirectory entry = .ok true) :
    disk.isFile (entry.append (Path.ofText "")) = .ok false := by
  obtain ⟨place, entries, hresolve⟩ := Disk.isDirectory_eq_true_iff.1 h
  have hempty : Path.ofText "" = ⟨.here, []⟩ := by decide
  rw [hempty, Path.append_relative, Path.below_nil, Disk.isFile, Disk.check, hresolve]

theorem openArchive_of_openable {activity : Activity} (hcontent : disk.content entry = .ok content)
    (harchive : content.archive = some archive) (hdefect : archive.defect? = none) :
    openArchive disk activity entry = (.ok archive : Except (Failure ε) _) :=
  openArchive_eq_ok_iff.2 ⟨content, hcontent, harchive, Archive.sound_iff.2 hdefect⟩

theorem Lacks.holder?_eq (h : Lacks disk name entry) :
    holder? disk name entry = (.ok none : Except (Failure ε) _) := by
  cases h with
  | missing notDirectory notFile =>
    simp only [holder?, notDirectory, isArchive_of_isFile notFile]
  | file isFile plain =>
    obtain ⟨hdirectory, -, harchive⟩ := checks_of_content isFile
    simp only [holder?, hdirectory, harchive, plain, Option.isSome_none]
  | directory isDirectory absent =>
    simp only [holder?, isDirectory, absent, ite_self]
  | archive isFile isArchive openable absent =>
    obtain ⟨-, -, harchive⟩ := checks_of_content isFile
    rw [isArchive, Option.isSome_some] at harchive
    rw [holder?_archive harchive (openArchive_of_openable isFile isArchive openable)]
    rcases absent with hdirectory | hnone
    · rw [if_pos hdirectory]
    · rw [hnone, Option.map_none, ite_self]

theorem Holds.holder?_eq (h : Holds disk name entry holder) :
    holder? disk name entry = (.ok (some holder) : Except (Failure ε) _) := by
  cases h with
  | file isDirectory isFile =>
    obtain ⟨-, hfile, -⟩ := checks_of_content isFile
    -- The directory itself would be what the empty name leads to.
    have hne : name ≠ "" := by
      rintro rfl
      rw [isFile_append_empty isDirectory] at hfile
      cases hfile
    simp only [holder?, isDirectory, if_neg hne, hfile, isFile]
  | member isFile isArchive openable notDirectory found =>
    obtain ⟨-, -, harchive⟩ := checks_of_content isFile
    rw [isArchive, Option.isSome_some] at harchive
    rw [holder?_archive harchive (openArchive_of_openable isFile isArchive openable), notDirectory, found]
    rfl

theorem Refuses.holder?_eq (h : Refuses disk name entry cause) :
    holder? disk name entry = (.error (.during (.reading name) cause) : Except (Failure ε) _) := by
  cases h with
  | entry refused => simp only [holder?, refused]
  | name isDirectory refused =>
    have hne : name ≠ "" := by
      rintro rfl
      rw [isFile_append_empty isDirectory] at refused
      cases refused
    simp only [holder?, isDirectory, if_neg hne, refused]
  | @archive content archive reported isFile isArchive damaged =>
    -- A damaged archive is noticed when it is opened, whatever the name is.
    have hdefect : archiveDefect? disk entry = some (.error reported) := by
      simp only [archiveDefect?, isFile, isArchive, Option.bind_some, damaged]
    exact holder?_of_defect hdefect

/-- An entry has a resource, has it not, or cannot be looked into. -/
theorem lacks_or_holds_or_refuses (disk : Disk) (name : String) (entry : Path) :
    Lacks disk name entry ∨ (∃ holder, Holds disk name entry holder) ∨
      (∃ cause, Refuses disk name entry cause) ∨
      ∃ escaping, archiveDefect? disk entry = some (.fault escaping) := by
  -- The cases are those of `holder?`: a directory is asked for the name, and anything else for an archive.
  rcases hdirectory : disk.isDirectory entry with error | _ | _
  · exact .inr (.inr (.inl ⟨_, .entry hdirectory⟩))
  · rcases hfile : disk.isFile entry with error | _ | _
    · -- A path that is refused as a file would have been refused as a directory.
      rw [Disk.isDirectory, check_eq_error_of_check hfile _] at hdirectory
      cases hdirectory
    · exact .inl (.missing hdirectory hfile)
    · obtain ⟨content, hcontent⟩ := exists_content_of_isFile hfile
      cases harchive : content.archive with
      | none => exact .inl (.file hcontent harchive)
      | some archive =>
        rcases hdefect : archive.defect? with _ | reported | escaping
        · cases hname : Archive.isDirectory name with
          | true => exact .inl (.archive hcontent harchive hdefect (.inl hname))
          | false =>
            cases hmember : archive.member? name with
            | none => exact .inl (.archive hcontent harchive hdefect (.inr hmember))
            | some member => exact .inr (.inl ⟨_, .member hcontent harchive hdefect hname hmember⟩)
        · exact .inr (.inr (.inl ⟨_, .archive hcontent harchive hdefect⟩))
        · refine .inr (.inr (.inr ⟨escaping, ?_⟩))
          simp only [archiveDefect?, hcontent, harchive, Option.bind_some, hdefect]
  · rcases hfile : disk.isFile (entry.append (Path.ofText name)) with error | _ | _
    · exact .inr (.inr (.inl ⟨_, .name hdirectory hfile⟩))
    · exact .inl (.directory hdirectory hfile)
    · obtain ⟨content, hcontent⟩ := exists_content_of_isFile hfile
      exact .inr (.inl ⟨_, .file hdirectory hcontent⟩)

/-- Looking into an archive with a fault ends in an error. -/
theorem holder?_of_fault {escaping : ArchiveFault} (h : archiveDefect? disk entry = some (.fault escaping)) :
    holder? disk name entry = (.error (.fault (.archive escaping)) : Except (Failure ε) _) :=
  holder?_of_defect h

theorem holder?_eq_none_iff :
    holder? disk name entry = (.ok none : Except (Failure ε) _) ↔ Lacks disk name entry := by
  refine ⟨fun h => ?_, fun h => h.holder?_eq⟩
  rcases lacks_or_holds_or_refuses disk name entry with hlacks | ⟨holder, hholds⟩ | ⟨cause, hrefuses⟩ |
    ⟨escaping, hfault⟩
  · exact hlacks
  · simp [hholds.holder?_eq] at h
  · simp [hrefuses.holder?_eq] at h
  · simp [holder?_of_fault hfault] at h

theorem holder?_eq_some_iff :
    holder? disk name entry = (.ok (some holder) : Except (Failure ε) _) ↔ Holds disk name entry holder := by
  refine ⟨fun h => ?_, fun h => h.holder?_eq⟩
  rcases lacks_or_holds_or_refuses disk name entry with hlacks | ⟨found, hholds⟩ | ⟨cause, hrefuses⟩ |
    ⟨escaping, hfault⟩
  · simp [hlacks.holder?_eq] at h
  · rw [hholds.holder?_eq] at h
    exact Option.some.inj (Except.ok.inj h) ▸ hholds
  · simp [hrefuses.holder?_eq] at h
  · simp [holder?_of_fault hfault] at h

/-- Only a directory holds a resource as a file, at the path of the name behind its own. -/
theorem holds_file_iff {path : Path} : Holds disk name entry (.file path content) ↔
    disk.isDirectory entry = .ok true ∧ path = entry.append (Path.ofText name) ∧
      disk.content path = .ok content := by
  constructor
  · intro h
    generalize hholder : Holder.file path content = holder at h
    cases h with
    | file isDirectory isFile =>
      obtain ⟨rfl, rfl⟩ := Holder.file.inj hholder
      exact ⟨isDirectory, rfl, isFile⟩
    | member => exact Holder.noConfusion hholder
  · rintro ⟨isDirectory, rfl, isFile⟩
    exact .file isDirectory isFile

/-! ### Searching -/

section

variable {before : List Path}

/-- A search passes over entries that have not what is searched. -/
theorem locateIn_append_of_lacks (hbefore : ∀ other ∈ before, Lacks disk name other) (after : List Path) :
    (locateIn disk name (before ++ after) : Except (Failure ε) _) = locateIn disk name after := by
  induction before with
  | nil => rfl
  | cons first rest ih =>
    have hfirst := (hbefore first List.mem_cons_self).holder?_eq (ε := ε)
    simp only [List.cons_append, locateIn, hfirst]
    exact ih fun other hother => hbefore other (List.mem_cons_of_mem _ hother)

theorem locateIn_of_holds (hentry : Holds disk name entry holder) (after : List Path) :
    locateIn disk name (entry :: after) = (.ok holder : Except (Failure ε) _) := by
  simp only [locateIn, hentry.holder?_eq]

/-- What a search finds is held by an entry, and all entries before it have it not. -/
theorem exists_of_locateIn_eq_ok {items : List Path}
    (h : locateIn disk name items = (.ok holder : Except (Failure ε) _)) :
    ∃ before entry after, items = before ++ entry :: after ∧ (∀ other ∈ before, Lacks disk name other) ∧
      Holds disk name entry holder := by
  induction items with
  | nil => cases h
  | cons first rest ih =>
    rw [locateIn] at h
    rcases hfirst : (holder? disk name first : Except (Failure ε) _) with failure | _ | found
    · simp [hfirst] at h
    · rw [hfirst] at h
      obtain ⟨before, entry, after, rfl, hbefore, hentry⟩ := ih h
      exact ⟨first :: before, entry, after, rfl,
        List.forall_mem_cons.2 ⟨holder?_eq_none_iff.1 hfirst, hbefore⟩, hentry⟩
    · rw [hfirst] at h
      obtain rfl := Except.ok.inj h
      exact ⟨[], first, rest, rfl, by simp, holder?_eq_some_iff.1 hfirst⟩

/-- A search ends at the first entry that cannot be looked into. -/
theorem exists_locateIn_eq_error
    (hbefore : ∀ other ∈ before, Lacks disk name other ∨ ∃ cause, Refuses disk name other cause)
    (hentry : Refuses disk name entry cause) (after : List Path) :
    ∃ other ∈ before ++ [entry], ∃ cause, Refuses disk name other cause ∧
      ∀ ε : Type, locateIn disk name (before ++ entry :: after) =
        (.error (.during (.reading name) cause) : Except (Failure ε) _) := by
  -- An entry in front may be refused as well; the search then ends there, for another cause.
  induction before with
  | nil =>
    refine ⟨entry, by simp, cause, hentry, fun ε => ?_⟩
    simp only [List.nil_append, locateIn, hentry.holder?_eq]
  | cons first rest ih =>
    rcases hbefore first List.mem_cons_self with hlacks | ⟨other, hother⟩
    · obtain ⟨refusing, hmem, reason, hrefuses, hlocate⟩ :=
        ih fun other hother => hbefore other (List.mem_cons_of_mem _ hother)
      refine ⟨refusing, List.mem_cons_of_mem _ hmem, reason, hrefuses, fun ε => ?_⟩
      simp only [List.cons_append, locateIn, hlacks.holder?_eq]
      exact hlocate ε
    · refine ⟨first, by simp, other, hother, fun ε => ?_⟩
      simp only [List.cons_append, locateIn, hother.holder?_eq]

end

/-! ### Opening resources -/

/-- The path of an entry of the search path. -/
def entryPath (disk : Disk) (entry : String) : Path := (Path.ofText entry).absolute disk.cwd

theorem searchEntries_cons (disk : Disk) (entry : String) (rest : List String) :
    searchEntries disk (entry :: rest) = entryPath disk entry :: searchEntries disk rest := rfl

section

variable {entry name : String} {before after entries : List String}

/-- A property of all entries before one is one of their paths. -/
theorem forall_mem_searchEntries {P : Path → Prop} :
    (∀ path ∈ searchEntries disk entries, P path) ↔ ∀ entry ∈ entries, P (entryPath disk entry) :=
  List.forall_mem_map

/-- Where the first entry that is not passed over holds a resource, opening it comes to the reader's result. -/
theorem openResource_of_holds
    (hbefore : ∀ other ∈ before, Lacks disk (lookupName name) (entryPath disk other))
    (hentry : Holds disk (lookupName name) (entryPath disk entry) holder) (after : List String)
    (reader : Stream → Except (ReadError ε) α) :
    openResource disk (before ++ entry :: after) name reader =
      ([holder.record], holder.stream.bind fun stream =>
        (reader stream).mapError (ReadError.failure (.reading (lookupName name)))) := by
  have hlocate : locate disk (before ++ entry :: after) name = (.ok holder : Except (Failure ε) _) := by
    rw [locate, searchEntries_append, locateIn_append_of_lacks (forall_mem_searchEntries.2 hbefore),
      searchEntries_cons, locateIn_of_holds hentry]
  simp only [openResource, hlocate]
  cases holder.stream (ε := ε) <;> rfl

/-- An entry that cannot be looked into ends the search if no entry before it holds the resource or lets a
fault through. No reader is called. -/
theorem openResource_of_refuses
    (hbefore : ∀ other ∈ before, Lacks disk (lookupName name) (entryPath disk other) ∨
      ∃ cause, Refuses disk (lookupName name) (entryPath disk other) cause)
    (hentry : Refuses disk (lookupName name) (entryPath disk entry) cause) (after : List String) :
    ∃ other ∈ before ++ [entry], ∃ cause, Refuses disk (lookupName name) (entryPath disk other) cause ∧
      ∀ (ε α : Type) (reader : Stream → Except (ReadError ε) α),
        openResource disk (before ++ entry :: after) name reader =
          ([], .error (.during (.reading (lookupName name)) cause)) := by
  have hpaths := forall_mem_searchEntries (P := fun path => Lacks disk (lookupName name) path ∨
    ∃ cause, Refuses disk (lookupName name) path cause).2 hbefore
  obtain ⟨path, hmem, reason, hrefuses, hlocate⟩ :=
    exists_locateIn_eq_error hpaths hentry (searchEntries disk after)
  have hmap :
      searchEntries disk before ++ [entryPath disk entry] = searchEntries disk (before ++ [entry]) := by
    rw [searchEntries_append]
    rfl
  rw [hmap] at hmem
  obtain ⟨other, hother, rfl⟩ := List.mem_map.1 hmem
  refine ⟨other, hother, reason, hrefuses, fun ε α reader => ?_⟩
  simp only [openResource, locate, searchEntries_append, searchEntries_cons, hlocate ε]

/-- A resource that no entry has is not found, under the name by which it is looked up. -/
theorem openResource_of_lacks (h : ∀ entry ∈ entries, Lacks disk (lookupName name) (entryPath disk entry))
    (reader : Stream → Except (ReadError ε) α) :
    openResource disk entries name reader =
      ([], .error (.error (.resource (.notFound (lookupName name))))) := by
  have hlocate := locateIn_append_of_lacks (ε := ε) (forall_mem_searchEntries.2 h) []
  rw [List.append_nil] at hlocate
  simp only [openResource, locate, hlocate, locateIn]

end

/-- Opening a resource comes to what opening it in the first entry that holds it does, and an error that its
reader reports becomes one of reading the resource. An entry that cannot be looked into and comes first ends the
search with such an error, whoever the reader is, unless a fault is let through before it. A resource that no
entry has is not found, under its name with backslashes turned and without a slash in front. -/
theorem openResource_firstMatch (disk : Disk) (name entry : String) (before after : List String) :
    ((∀ other ∈ before, Lacks disk (lookupName name) (entryPath disk other)) →
      ∀ holder, Holds disk (lookupName name) (entryPath disk entry) holder →
        ∀ (ε α : Type) (reader : Stream → Except (ReadError ε) α),
          openResource disk (before ++ entry :: after) name reader = openResource disk [entry] name reader ∧
          ∀ stream cause, holder.stream = (.ok stream : Except (Failure ε) _) →
            reader stream = .error (.cause cause) →
              openResource disk (before ++ entry :: after) name reader =
                ([holder.record], .error (.during (.reading (lookupName name)) cause))) ∧
    ((∀ other ∈ before, Lacks disk (lookupName name) (entryPath disk other) ∨
        ∃ cause, Refuses disk (lookupName name) (entryPath disk other) cause) →
      (∃ cause, Refuses disk (lookupName name) (entryPath disk entry) cause) →
        ∃ other ∈ before ++ [entry], ∃ cause, Refuses disk (lookupName name) (entryPath disk other) cause ∧
          ∀ (ε α : Type) (reader : Stream → Except (ReadError ε) α),
            openResource disk (before ++ entry :: after) name reader =
              ([], .error (.during (.reading (lookupName name)) cause))) ∧
    ((∀ other ∈ before, Lacks disk (lookupName name) (entryPath disk other)) →
      ∀ (ε α : Type) (reader : Stream → Except (ReadError ε) α),
        openResource disk before name reader =
          ([], .error (.error (.resource (.notFound (lookupName name)))))) := by
  refine ⟨fun hbefore holder hentry ε α reader => ?_, fun hbefore hentry => ?_,
    fun h ε α => openResource_of_lacks h⟩
  · have hopen := openResource_of_holds hbefore hentry after reader
    have halone := openResource_of_holds (List.forall_mem_nil _) hentry [] reader
    refine ⟨hopen.trans halone.symm, fun stream cause hstream hreader => ?_⟩
    rw [hopen, hstream]
    simp only [Except.bind, hreader, Except.mapError, ReadError.failure]
  · obtain ⟨cause, hcause⟩ := hentry
    exact openResource_of_refuses hbefore hcause after

/-- A disk with a file that is no archive, directories with and without a file, and archives: an empty one, a
damaged one and one that takes what is not provided. -/
def matchDisk : Disk :=
  ⟨.directory
    [("a", .file ⟨[], some ⟨[], none⟩⟩), ("d", .directory [("x", .directory [])]),
      ("e", .directory [("x", .file ⟨[1], none⟩)]), ("p", .file ⟨[], none⟩),
      ("u", .file ⟨[], some ⟨[], some (.fault .unsupported)⟩⟩),
      ("v", .file ⟨[], some ⟨[], some (.error .badDirectory)⟩⟩)], [], 0⟩

theorem lacks_matchDisk :
    ∀ other ∈ ["n", "p", "d", "a"], Lacks matchDisk (lookupName "/x") (entryPath matchDisk other) := by
  intro other hother
  simp only [List.mem_cons, List.not_mem_nil, or_false] at hother
  rcases hother with rfl | rfl | rfl | rfl
  · exact .missing rfl rfl
  · have hcontent : matchDisk.content (entryPath matchDisk "p") = .ok ⟨[], none⟩ := rfl
    exact .file hcontent rfl
  · exact .directory rfl rfl
  · have hcontent : matchDisk.content (entryPath matchDisk "a") = .ok ⟨[], some ⟨[], none⟩⟩ := rfl
    exact .archive hcontent rfl rfl (.inr rfl)

theorem holds_matchDisk :
    Holds matchDisk (lookupName "/x") (entryPath matchDisk "e") (.file ⟨.slash, ["e", "x"]⟩ ⟨[1], none⟩) :=
  .file rfl rfl

theorem refuses_matchDisk :
    Refuses matchDisk (lookupName "/x") (entryPath matchDisk "v") (.archive .badDirectory) := by
  have hcontent : matchDisk.content (entryPath matchDisk "v") =
      .ok ⟨[], some ⟨[], some (.error .badDirectory)⟩⟩ := rfl
  exact .archive hcontent rfl rfl

/-- The damaged archive is not noticed behind the directory that holds the file, and ends the search in front of
it. -/
theorem openResource_matchDisk :
    openResource matchDisk (["n", "p", "d", "a"] ++ "e" :: ["v"]) "/x" (Stream.readAll (ε := Empty)) =
      ([⟨.debug, "autumnio.classpath", "reading /e/x"⟩], .ok [1]) ∧
    (∃ cause,
      openResource matchDisk (["n", "p", "d", "a"] ++ "v" :: ["e"]) "/x" (Stream.readAll (ε := Empty)) =
        ([], .error (.during (.reading "x") cause))) ∧
    openResource matchDisk ["n", "p", "d", "a"] "/x" (Stream.readAll (ε := Empty)) =
      ([], .error (.error (.resource (.notFound "x")))) := by
  obtain ⟨hholds, -, hlacks⟩ := openResource_firstMatch matchDisk "/x" "e" ["n", "p", "d", "a"] ["v"]
  obtain ⟨-, hrefuses, -⟩ := openResource_firstMatch matchDisk "/x" "v" ["n", "p", "d", "a"] ["e"]
  obtain ⟨-, -, cause, -, hrefused⟩ := hrefuses (fun other hother => .inl (lacks_matchDisk other hother))
    ⟨_, refuses_matchDisk⟩
  exact ⟨(hholds lacks_matchDisk _ holds_matchDisk Empty Bytes _).1.trans rfl,
    ⟨cause, (hrefused Empty Bytes _).trans rfl⟩, (hlacks lacks_matchDisk Empty Bytes _).trans rfl⟩

/-- The system refuses an entry that is too long. -/
theorem resolve_matchDisk_of_long {long : String} (hcomponent : IsComponent long) (hdotdot : long ≠ "..")
    (hnul : '\x00' ∉ long.toList) (hlong : Node.componentLimit < long.utf8ByteSize) :
    matchDisk.resolve (entryPath matchDisk long) = .error (.refused .nameTooLong) := by
  have hnames : ∀ name ∈ [long], IsComponent name := fun name hname =>
    List.mem_singleton.1 hname ▸ hcomponent
  have hpath : entryPath matchDisk long = (⟨.slash, []⟩ : Path).below [long] := by
    have hsettle : Path.settle [long] = [long] := by simp [Path.settle, hdotdot]
    have htext := Path.ofText_intercalate hnames
    rw [String.intercalate_singleton] at htext
    rw [entryPath, htext]
    exact congrArg (Files.Path.mk .slash) hsettle
  have hroot : matchDisk.resolve ⟨.slash, []⟩ = .ok ([], matchDisk.root) := rfl
  rw [hpath]
  exact Disk.resolve_below_of_long ⟨rfl, by simp⟩ hroot hnames hdotdot
    (fun name hname => List.mem_singleton.1 hname ▸ hnul) hlong

/-- An entry at which nothing is may be too long for the system, and an archive may let a fault through in front
of one that is damaged. -/
theorem not_forall_openResource_firstMatch :
    (¬ ∀ (disk : Disk) (name entry : String) (before after : List String),
      (∀ other ∈ before, (∀ found, disk.resolve (entryPath disk other) ≠ .ok found) ∨
        Lacks disk (lookupName name) (entryPath disk other)) →
      (∃ holder, Holds disk (lookupName name) (entryPath disk entry) holder) →
        openResource disk (before ++ entry :: after) name (Stream.readAll (ε := Empty)) =
          openResource disk [entry] name Stream.readAll) ∧
    ¬ ∀ (disk : Disk) (name entry : String) (before after : List String),
      (∀ other ∈ before, ¬ ∃ holder, Holds disk (lookupName name) (entryPath disk other) holder) →
      (∃ cause, Refuses disk (lookupName name) (entryPath disk entry) cause) →
        ∃ cause, openResource disk (before ++ entry :: after) name (Stream.readAll (ε := Empty)) =
          ([], .error (.during (.reading (lookupName name)) cause)) := by
  constructor
  · -- The reader is never called, so there is not even a record of reading.
    intro h
    obtain ⟨long, hcomponent, hdotdot, hnul, hlong⟩ := Node.exists_isComponent_long
    have hresolve := resolve_matchDisk_of_long hcomponent hdotdot hnul hlong
    have hrefused : matchDisk.isDirectory (entryPath matchDisk long) =
        .error (.refused .nameTooLong (entryPath matchDisk long).text) := by
      rw [Disk.isDirectory, Disk.check, hresolve]
    obtain ⟨-, -, cause, -, hopen⟩ :=
      openResource_of_refuses (List.forall_mem_nil _) (.entry hrefused) ["e"]
    have hsame := h matchDisk "/x" "e" [long] [] (by simp [hresolve]) ⟨_, holds_matchDisk⟩
    have hread : openResource matchDisk ["e"] "/x" (Stream.readAll (ε := Empty)) =
        ([⟨.debug, "autumnio.classpath", "reading /e/x"⟩], .ok [1]) := rfl
    rw [hread] at hsame
    have hrecords := congrArg Prod.fst ((hopen Empty Bytes Stream.readAll).symm.trans hsame)
    cases hrecords
  · -- The fault of the first archive leaves the search before the damaged one is looked into.
    intro h
    have hbefore : ∀ other ∈ ["u"],
        ¬ ∃ holder, Holds matchDisk (lookupName "/x") (entryPath matchDisk other) holder := by
      intro other hother
      obtain rfl := List.mem_singleton.1 hother
      rintro ⟨holder, hholds⟩
      have hholder := hholds.holder?_eq (ε := Empty)
      cases hholder
    obtain ⟨cause, hcause⟩ := h matchDisk "/x" "v" ["u"] ["e"] hbefore ⟨_, refuses_matchDisk⟩
    have hfault : openResource matchDisk ["u", "v", "e"] "/x" (Stream.readAll (ε := Empty)) =
        ([], .error (.fault (.archive .unsupported))) := rfl
    have herror := congrArg Prod.snd (hfault.symm.trans hcause)
    cases herror

end Lookup
