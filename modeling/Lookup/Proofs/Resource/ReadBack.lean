import Lookup.Proofs.Resource.Holder
import Lookup.Proofs.Resource.Scan

/-!
# Reading what a scan finds

Whatever a scan of a plain search path finds can be opened by its name, unless the system refuses the path
of an entry, or the one that the name leads to from it, for a length. What is opened then is the first
resource of that name that the scan finds, provided that no directory on the search path holds a symbolic
link to a directory.

## Main definitions

* `IsPlainSearchPath` — search paths of plain entries
* `IsFirstFound` — what holds a resource is where the scan finds the name first

## Main results

* `findsFirst_of_find?` — the entry in which a scan finds a name first
* `holder?_of_locateIn_append` — looking up a name in an entry that may hold it
* `openResource_of_mem_scan` — what is found is opened
-/

namespace Lookup

open Files Text

variable {ε : Type} {disk : Disk} {name package : String} {entry : Path} {entries : List String}
  {before after items : List Path} {resource first : Resource} {holder : Holder}

/-! ### Plain search paths -/

/-- A search path without backslashes, in a tree without backslashes, whose archives are plain. -/
structure IsPlainSearchPath (disk : Disk) (entries : List String) : Prop where
  cwd : ∀ name ∈ disk.cwd, '\\' ∉ name.toList
  entry : ∀ text ∈ entries, '\\' ∉ text.toList
  names : disk.root.HasPlainNames
  archive : ∀ entry ∈ searchEntries disk entries, ∀ content archive,
    disk.content entry = .ok content → content.archive = some archive → archive.IsPlain

theorem Files.Path.mem_text_absolute {cwd : List String} {text : String} {c : Char}
    (h : c ∈ ((ofText text).absolute cwd).text.toList) :
    c = '/' ∨ (∃ name ∈ cwd, c ∈ name.toList) ∨ c ∈ text.toList := by
  have habsolute := isAbsolute_absolute cwd (ofText text)
  have hofText : ∀ name ∈ (ofText text).names, ∀ d ∈ name.toList, d ∈ text.toList := by
    intro name hname d hd
    obtain ⟨part, hpart, rfl⟩ := List.mem_map.1 (List.mem_filter.1 hname).1
    rw [← join_fields '/' text.toList]
    exact mem_join_of_mem hpart (by simpa using hd)
  rw [toList_text_of_isAbsolute habsolute] at h
  rcases List.mem_append.1 h with hroot | hjoin
  · left
    rcases root_eq_of_isAbsolute habsolute with heq | heq <;> simpa [heq, Root.text] using hroot
  rcases mem_join hjoin with hslash | ⟨part, hpart, hc⟩
  · exact .inl (List.mem_singleton.1 hslash)
  obtain ⟨name, hname, rfl⟩ := List.mem_map.1 hpart
  right
  rw [absolute] at hname
  split at hname
  · exact .inr (hofText name (mem_of_mem_settle hname) c hc)
  · rcases List.mem_append.1 (mem_of_mem_settle hname) with hmem | hmem
    · exact .inl ⟨name, hmem, hc⟩
    · exact .inr (hofText name hmem c hc)

theorem IsPlainSearchPath.isPlainEntry (h : IsPlainSearchPath disk entries) (hdisk : disk.IsSound)
    (hentry : entry ∈ searchEntries disk entries) : IsPlainEntry disk entry := by
  obtain ⟨text, htext, rfl⟩ := List.mem_map.1 hentry
  refine ⟨Path.isNormal_absolute hdisk.cwd text, fun hback => ?_, h.archive _ hentry⟩
  rcases Path.mem_text_absolute hback with hslash | ⟨name, hname, hmem⟩ | hmem
  · exact absurd hslash (by decide)
  · exact h.cwd name hname hmem
  · exact h.entry text htext hmem

/-! ### Looking up a name -/

/-- A lookup fails where an entry does, or if no entry holds the name. -/
theorem locateIn_eq_error {failure : Failure ε} (h : locateIn disk name items = .error failure) :
    (∃ entry ∈ items, holder? disk name entry = .error failure) ∨
      ∀ entry ∈ items, holder? disk name entry = (.ok none : Except (Failure ε) _) := by
  induction items with
  | nil => exact .inr fun entry hentry => absurd hentry List.not_mem_nil
  | cons entry rest ih =>
    rw [locateIn] at h
    rcases hholder : (holder? disk name entry : Except (Failure ε) _) with other | _ | holder
    · rw [hholder] at h
      exact .inl ⟨entry, List.mem_cons_self, by rw [hholder, Except.error.inj h]⟩
    · rw [hholder] at h
      rcases ih h with ⟨other, hother, hfailure⟩ | hnone
      · exact .inl ⟨other, List.mem_cons_of_mem _ hother, hfailure⟩
      · refine .inr fun other hother => ?_
        rcases List.mem_cons.1 hother with rfl | hother
        · exact hholder
        · exact hnone other hother
    · simp [hholder] at h

theorem locateIn_eq_ok (h : locateIn disk name items = (.ok holder : Except (Failure ε) _)) :
    ∃ entry ∈ items, holder? disk name entry = (.ok (some holder) : Except (Failure ε) _) := by
  induction items with
  | nil => simp [locateIn] at h
  | cons entry rest ih =>
    rw [locateIn] at h
    rcases hholder : (holder? disk name entry : Except (Failure ε) _) with other | _ | found
    · simp [hholder] at h
    · rw [hholder] at h
      obtain ⟨other, hother, hheld⟩ := ih h
      exact ⟨other, List.mem_cons_of_mem _ hother, hheld⟩
    · rw [hholder] at h
      exact ⟨entry, List.mem_cons_self, by rw [hholder, Except.ok.inj h]⟩

/-- What is located is held by an entry that is not without it, if no entry before holds the name. -/
theorem holder?_of_locateIn_append
    (hbefore : ∀ other ∈ before, ∀ found,
      holder? disk name other ≠ (.ok (some found) : Except (Failure ε) _))
    (hentry : holder? disk name entry ≠ (.ok none : Except (Failure ε) _))
    (h : locateIn disk name (before ++ entry :: after) = (.ok holder : Except (Failure ε) _)) :
    holder? disk name entry = (.ok (some holder) : Except (Failure ε) _) := by
  induction before with
  | nil =>
    rw [List.nil_append, locateIn] at h
    rcases hholder : (holder? disk name entry : Except (Failure ε) _) with failure | _ | found
    · simp [hholder] at h
    · exact absurd hholder hentry
    · rw [hholder] at h
      rw [Except.ok.inj h]
  | cons other before ih =>
    rw [List.cons_append, locateIn] at h
    rcases hholder : (holder? disk name other : Except (Failure ε) _) with failure | _ | found
    · simp [hholder] at h
    · rw [hholder] at h
      exact ih (fun other hother => hbefore other (List.mem_cons_of_mem _ hother)) h
    · exact absurd hholder (hbefore other List.mem_cons_self found)

/-! ### The first resource of a name -/

/-- The resources of several mounts are those of the first and, unless that fails, those of the rest. -/
theorem resources_scanMounts_cons {location path : String} {locations : List String} {mount : Mount}
    (hmount : Mount.ofLocation location path = .ok mount) :
    (scanMounts disk path (location :: locations) : Run ScanStep (Failure ε)).resources =
      (mount.walk disk : Run Resource (Failure ε)).items ++
        match (mount.walk disk : Run Resource (Failure ε)).failure? with
        | some _ => []
        | none => (scanMounts disk path locations : Run ScanStep (Failure ε)).resources := by
  have hitems : ∀ items : List Resource,
      (ScanStep.entered location :: items.map .found).filterMap ScanStep.resource? = items := by
    intro items
    rw [List.filterMap_cons_none rfl, List.filterMap_map]
    exact List.filterMap_some
  rw [scanMounts, scanMount, hmount]
  simp only
  cases (mount.walk disk : Run Resource (Failure ε)).failure? with
  | some failure => rw [Run.resources, hitems, List.append_nil]
  | none => rw [Run.resources, List.filterMap_append, hitems]; rfl

/-- The mount of an entry, if there is one, is walked to the end without coming to a name. -/
def IsWalkedWithout (ε : Type) (disk : Disk) (package name : String) (entry : Path) : Prop :=
  ∀ mount, Mounts ε disk package entry mount →
    (mount.walk disk : Run Resource (Failure ε)).failure? = none ∧
      ∀ resource ∈ (mount.walk disk : Run Resource (Failure ε)).items, resource.name ≠ name

theorem isWalkedWithout_of_none
    (hlocation : entryLocation? disk (.enumerating package) (packagePath package) entry =
      (.ok none : Except (Failure ε) _)) : IsWalkedWithout ε disk package name entry := by
  rintro mount ⟨location, hother, -⟩
  simp [hlocation] at hother

theorem isWalkedWithout_of_mount {mount : Mount} (hmounts : Mounts ε disk package entry mount)
    (hfailure : (mount.walk disk : Run Resource (Failure ε)).failure? = none)
    (hitems : ∀ resource ∈ (mount.walk disk : Run Resource (Failure ε)).items, resource.name ≠ name) :
    IsWalkedWithout ε disk package name entry := by
  intro other hother
  obtain ⟨location, hlocation, hmount⟩ := hmounts
  obtain ⟨otherLocation, hotherLocation, hotherMount⟩ := hother
  obtain rfl : location = otherLocation := by simpa using hlocation.symm.trans hotherLocation
  obtain rfl := Except.ok.inj (hmount.symm.trans hotherMount)
  exact ⟨hfailure, hitems⟩

/-- An entry that is walked without coming to a name does not hold it, since it would list it. -/
theorem IsWalkedWithout.holder?_ne_some {rest : List String} (hdisk : disk.IsSound)
    (hplain : IsPlainEntry disk entry) (hlinks : ¬ disk.HasDirectoryLink entry)
    (hpackage : '%' ∉ package.toList) (hne : rest ≠ []) (hrest : ∀ part ∈ rest, IsPlainPart part)
    (h : IsWalkedWithout ε disk package (fileName (packageNames package ++ rest)) entry)
    (found : Holder) :
    holder? disk (fileName (packageNames package ++ rest)) entry ≠
      (.ok (some found) : Except (Failure ε) _) := by
  intro hfound
  obtain ⟨mount, hmount, hlisted⟩ := hplain.exists_listed hdisk hlinks hpackage hne hrest hfound
  obtain ⟨hcomplete, hwithout⟩ := h mount hmount
  obtain ⟨listed, hmem, hname⟩ := hlisted hcomplete
  exact hwithout listed hmem hname

/-- One of several entries has a resource, and those before it are walked without coming to its name. -/
def FindsFirst (ε : Type) (disk : Disk) (package : String) (first : Resource) (items : List Path) :
    Prop :=
  ∃ before entry after, items = before ++ entry :: after ∧
    (∃ mount, Mounts ε disk package entry mount ∧
      first ∈ (mount.walk disk : Run Resource (Failure ε)).items) ∧
    ∀ other ∈ before, IsWalkedWithout ε disk package first.name other

theorem FindsFirst.cons (h : FindsFirst ε disk package first items)
    (hentry : IsWalkedWithout ε disk package first.name entry) :
    FindsFirst ε disk package first (entry :: items) := by
  obtain ⟨before, found, after, rfl, hfound, hbefore⟩ := h
  refine ⟨entry :: before, found, after, rfl, hfound, ?_⟩
  intro other hother
  rcases List.mem_cons.1 hother with rfl | hother
  · exact hentry
  · exact hbefore other hother

/-- The first resource of a name that a scan finds lies in an entry such that those before it are walked
without coming to the name. -/
theorem findsFirst_of_find? {locations : List (Option String)}
    (hlocations : List.Forall₂ (fun entry location? =>
      entryLocation? disk (.enumerating package) (packagePath package) entry =
        (.ok location? : Except (Failure ε) _)) items locations)
    (hfind : (scanMounts disk (packagePath package) (locations.filterMap id) :
      Run ScanStep (Failure ε)).resources.find? (fun other => other.name = name) = some first) :
    FindsFirst ε disk package first items := by
  obtain rfl : first.name = name := by simpa using List.find?_some hfind
  induction hlocations with
  | nil => simp [scanMounts, Run.resources] at hfind
  | @cons entry location? items locations hlocation _ ih =>
    cases location? with
    | none => exact FindsFirst.cons (ih hfind) (isWalkedWithout_of_none hlocation)
    | some location =>
      have hcons : (some location :: locations).filterMap id = location :: locations.filterMap id := rfl
      rw [hcons] at hfind
      cases hmount : Mount.ofLocation location (packagePath package) with
      | error error =>
        simp [scanMounts, scanMount, hmount, Run.resources, ScanStep.resource?] at hfind
      | ok mount =>
        rw [resources_scanMounts_cons hmount, List.find?_append] at hfind
        cases hitems : (mount.walk disk : Run Resource (Failure ε)).items.find?
            fun other => other.name = first.name with
        | some found =>
          rw [hitems, Option.some_or] at hfind
          obtain rfl := Option.some.inj hfind
          exact ⟨[], entry, items, rfl,
            ⟨mount, ⟨location, hlocation, hmount⟩, List.mem_of_find?_eq_some hitems⟩,
            fun other hother => absurd hother List.not_mem_nil⟩
        | none =>
          rw [hitems, Option.none_or] at hfind
          cases hfailure : (mount.walk disk : Run Resource (Failure ε)).failure? with
          | some failure => simp [hfailure] at hfind
          | none =>
            rw [hfailure] at hfind
            exact FindsFirst.cons (ih hfind)
              (isWalkedWithout_of_mount ⟨location, hlocation, hmount⟩ hfailure (by simpa using hitems))

/-- A scan that finds a resource looks up the entries of the search path in order. -/
theorem exists_locations_of_mem_scan
    (h : resource ∈ (scan disk entries package : Run ScanStep (Failure ε)).resources) :
    ∃ locations, List.Forall₂ (fun entry location? =>
        entryLocation? disk (.enumerating package) (packagePath package) entry =
          (.ok location? : Except (Failure ε) _)) (searchEntries disk entries) locations ∧
      (scan disk entries package : Run ScanStep (Failure ε)) =
        scanMounts disk (packagePath package) (locations.filterMap id) := by
  cases hlocations : (searchEntries disk entries).mapM
      (entryLocation? disk (.enumerating package) (packagePath package) :
        Path → Except (Failure ε) _) with
  | error failure => simp [scan, mountLocations, hlocations, Except.map, Run.resources] at h
  | ok locations =>
    refine ⟨locations, forall₂_of_mapM_eq_ok hlocations, ?_⟩
    rw [scan, mountLocations, hlocations]
    rfl

/-! ### Opening what is found -/

/-- What holds a resource of a name is where the scan finds the name first. -/
structure IsFirstFound (ε : Type) (disk : Disk) (entries : List String) (package name : String)
    (holder : Holder) (first : Resource) (entry : Path) : Prop where
  find?_eq : (scan disk entries package : Run ScanStep (Failure ε)).resources.find?
    (fun other => other.name = name) = some first
  mem : entry ∈ searchEntries disk entries
  listed : ∃ mount, Mounts ε disk package entry mount ∧
    first ∈ (mount.walk disk : Run Resource (Failure ε)).items
  held : holder? disk name entry = (.ok (some holder) : Except (Failure ε) _)
  location_eq : holder.location = first.location

section Found

variable (hdisk : disk.IsSound) (hplain : IsPlainSearchPath disk entries)
  (hpackage : '%' ∉ package.toList)
  (h : resource ∈ (scan disk entries package : Run ScanStep (Failure ε)).resources)

include hdisk hplain hpackage h

/-- A resource that is found has a plain name, is below the package, and is held by an entry, unless that
cannot be looked up. -/
theorem exists_held_of_mem_scan :
    ∃ rest, rest ≠ [] ∧ (∀ part ∈ rest, IsPlainPart part) ∧
      resource.name = fileName (packageNames package ++ rest) ∧
      ∃ entry ∈ searchEntries disk entries, HoldsUnlessRefused ε disk entry resource := by
  obtain ⟨entry, hentry, location, mount, hlocation, hmount, hresource⟩ := exists_of_mem_scan h
  obtain ⟨rest, hne, hrest, hname, hheld⟩ := (hplain.isPlainEntry hdisk hentry).exists_held hdisk
    hplain.names hpackage ⟨location, hlocation, hmount⟩ hresource
  exact ⟨rest, hne, hrest, hname, entry, hentry, hheld⟩

/-- The name of a resource that is found is looked up as it is. -/
theorem locate_eq_of_mem_scan :
    (locate disk entries resource.name : Except (Failure ε) _) =
      locateIn disk resource.name (searchEntries disk entries) := by
  obtain ⟨rest, -, hrest, hname, -⟩ := exists_held_of_mem_scan hdisk hplain hpackage h
  rw [locate, lookupName, hname, canonicalName_fileName (isPlainPart_append _ hrest)]

/-- A resource that is found is located and can be read, unless a path is refused. -/
theorem exists_read_of_mem_scan :
    (∃ entry ∈ searchEntries disk entries, ∃ failure : Failure ε,
      locate disk entries resource.name = .error failure ∧ failure.IsRefusal disk resource.name entry) ∨
      ∃ holder stream bytes, locate disk entries resource.name = (.ok holder : Except (Failure ε) _) ∧
        holder.stream = (.ok stream : Except (Failure ε) _) ∧ stream.read = .ok bytes := by
  rw [locate_eq_of_mem_scan hdisk hplain hpackage h]
  cases hlocate : (locateIn disk resource.name (searchEntries disk entries) :
      Except (Failure ε) _) with
  | ok holder =>
    obtain ⟨entry, hentry, hheld⟩ := locateIn_eq_ok hlocate
    obtain ⟨stream, bytes, hread⟩ := (hplain.isPlainEntry hdisk hentry).exists_read hheld
    exact .inr ⟨holder, stream, bytes, rfl, hread⟩
  | error failure =>
    rcases locateIn_eq_error hlocate with ⟨entry, hentry, hfailure⟩ | hnone
    · exact .inl ⟨entry, hentry, failure, rfl, (hplain.isPlainEntry hdisk hentry).isRefusal hfailure⟩
    · -- The entry in which the resource was found cannot be without it.
      obtain ⟨rest, -, -, -, entry, hentry, hheld⟩ := exists_held_of_mem_scan hdisk hplain hpackage h
      exact absurd (hnone entry hentry) hheld.holder?_ne_none

/-- What is located is where the scan finds the name first, if no directory holds a link to a directory. -/
theorem exists_isFirstFound_of_mem_scan
    (hlinks : ∀ entry ∈ searchEntries disk entries, ¬ disk.HasDirectoryLink entry)
    (hlocate : locate disk entries resource.name = (.ok holder : Except (Failure ε) _)) :
    ∃ first entry, IsFirstFound ε disk entries package resource.name holder first entry := by
  rw [locate_eq_of_mem_scan hdisk hplain hpackage h] at hlocate
  obtain ⟨first, hfind⟩ : ∃ first, (scan disk entries package : Run ScanStep (Failure ε)).resources.find?
      (fun other => other.name = resource.name) = some first := by
    rw [← Option.isSome_iff_exists, List.find?_isSome]
    exact ⟨resource, h, by simp⟩
  have hname : first.name = resource.name := by simpa using List.find?_some hfind
  obtain ⟨locations, hlocations, hscan⟩ := exists_locations_of_mem_scan h
  have hfindIn := hfind
  rw [hscan] at hfindIn
  obtain ⟨before, entry, after, hentries, ⟨mount, hmount, hfirst⟩, hbefore⟩ :=
    findsFirst_of_find? hlocations hfindIn
  have hmem : entry ∈ searchEntries disk entries := by
    rw [hentries]
    exact List.mem_append_right _ List.mem_cons_self
  obtain ⟨rest, hne, hrest, hpath, hheld⟩ :=
    (hplain.isPlainEntry hdisk hmem).exists_held hdisk hplain.names hpackage hmount hfirst
  have hnotHeld : ∀ other ∈ before, ∀ found,
      holder? disk first.name other ≠ (.ok (some found) : Except (Failure ε) _) := by
    intro other hother
    have hotherMem : other ∈ searchEntries disk entries := by
      rw [hentries]
      exact List.mem_append_left _ hother
    rw [hpath]
    exact IsWalkedWithout.holder?_ne_some hdisk (hplain.isPlainEntry hdisk hotherMem)
      (hlinks other hotherMem) hpackage hne hrest (hpath ▸ hbefore other hother)
  -- So the lookup comes to the entry in which the scan finds the name first.
  rw [hentries, ← hname] at hlocate
  have hholder := holder?_of_locateIn_append hnotHeld hheld.holder?_ne_none hlocate
  rw [← hname]
  exact ⟨first, entry, hname ▸ hfind, hmem, ⟨mount, hmount, hfirst⟩, hholder, hheld.location_eq hholder⟩

/-- A resource that a scan finds is not missing when it is opened by its name. If no directory on the search
path holds a link to a directory, what is opened is the first resource of that name that the scan finds,
unless the system refuses the path of an entry, or the one that the name leads to from it, for a length. -/
theorem openResource_of_mem_scan :
    (∀ (α : Type) (reader : Stream → Except (ReadError ε) α) (name : String),
      (openResource disk entries resource.name reader).2 ≠ .error (.error (.resource (.notFound name)))) ∧
    ((∀ entry ∈ searchEntries disk entries, ¬ disk.HasDirectoryLink entry) →
      (∃ entry ∈ searchEntries disk entries, ∃ failure : Failure ε,
        locate disk entries resource.name = .error failure ∧ failure.IsRefusal disk resource.name entry) ∨
      ∃ holder stream bytes first entry,
        locate disk entries resource.name = (.ok holder : Except (Failure ε) _) ∧
        holder.stream = (.ok stream : Except (Failure ε) _) ∧ stream.read = .ok bytes ∧
        IsFirstFound ε disk entries package resource.name holder first entry ∧
        ∀ (α : Type) (reader : Stream → α), (openResource disk entries resource.name
          fun stream => (.ok (reader stream) : Except (ReadError ε) α)).2 = .ok (reader stream)) := by
  have hread := exists_read_of_mem_scan hdisk hplain hpackage h
  constructor
  · intro α reader name
    rw [openResource]
    rcases hread with ⟨entry, -, failure, hfailure, activity, path, -, -, -, rfl⟩ |
      ⟨holder, stream, bytes, hlocate, hstream, -⟩
    · rw [hfailure]
      simp [Failure.during]
    · rw [hlocate]
      simp only [hstream]
      rcases reader stream with (cause | fault | error) | result
      · simp [Except.mapError, ReadError.failure, Failure.during]
      · simp [Except.mapError, ReadError.failure]
      · simp [Except.mapError, ReadError.failure]
      · simp [Except.mapError]
  · intro hlinks
    rcases hread with hrefused | ⟨holder, stream, bytes, hlocate, hstream, hbytes⟩
    · exact .inl hrefused
    · obtain ⟨first, entry, hfirst⟩ :=
        exists_isFirstFound_of_mem_scan hdisk hplain hpackage h hlinks hlocate
      refine .inr ⟨holder, stream, bytes, first, entry, hlocate, hstream, hbytes, hfirst, ?_⟩
      intro α reader
      rw [openResource, hlocate]
      simp only [hstream, Except.mapError]

end Found

/-- An archive with one member. -/
def shelfArchive : Archive := ⟨[.stored "a/x" [1]], none⟩

/-- A directory with a file of the same path as that member. -/
def shelfTree : Node := .directory [("a", .directory [("x", .file ⟨[2], none⟩)])]

/-- The archive and the directory side by side. -/
def shelfDisk : Disk :=
  ⟨.directory [("z", .file ⟨[], some shelfArchive⟩), ("d", shelfTree)], [], 0⟩

theorem isPlain_shelfArchive : shelfArchive.IsPlain where
  sound := rfl
  intact := by decide
  unencrypted := by decide
  named := by
    intro name hname
    have hnames : shelfArchive.memberNames = ["a/x"] := by decide
    rw [hnames] at hname
    obtain rfl := List.mem_singleton.1 hname
    exact ⟨["a", "x"], by decide, by decide, .inl rfl⟩

theorem isSound_shelfTree : shelfTree.IsSound := by
  refine Node.isSound_directory (by decide) (by decide) fun entry hentry => ?_
  obtain rfl := List.mem_singleton.1 hentry
  refine Node.isSound_directory (by decide) (by decide) fun entry hentry => ?_
  obtain rfl := List.mem_singleton.1 hentry
  exact Node.isSound_file _

theorem isLinkFree_shelfTree : shelfTree.IsLinkFree := by
  refine Node.isLinkFree_directory fun entry hentry => ?_
  obtain rfl := List.mem_singleton.1 hentry
  refine Node.isLinkFree_directory fun entry hentry => ?_
  obtain rfl := List.mem_singleton.1 hentry
  exact Node.isLinkFree_file _

theorem hasPlainNames_shelfTree : shelfTree.HasPlainNames := by
  refine Node.hasPlainNames_directory (by decide) fun entry hentry => ?_
  obtain rfl := List.mem_singleton.1 hentry
  refine Node.hasPlainNames_directory (by decide) fun entry hentry => ?_
  obtain rfl := List.mem_singleton.1 hentry
  exact Node.hasPlainNames_file _

theorem isSound_shelfDisk : shelfDisk.IsSound where
  root := by
    refine Node.isSound_directory (by decide) (by decide) fun entry hentry => ?_
    rcases List.mem_pair.1 hentry with rfl | rfl
    · exact Node.isSound_file _
    · exact isSound_shelfTree
  cwd := by decide

theorem searchEntries_shelfDisk :
    searchEntries shelfDisk ["z", "d"] = [⟨.slash, ["z"]⟩, ⟨.slash, ["d"]⟩] := rfl

theorem isPlainSearchPath_shelfDisk : IsPlainSearchPath shelfDisk ["z", "d"] where
  cwd := by decide
  entry := by decide
  names := by
    refine Node.hasPlainNames_directory (by decide) fun entry hentry => ?_
    rcases List.mem_pair.1 hentry with rfl | rfl
    · exact Node.hasPlainNames_file _
    · exact hasPlainNames_shelfTree
  archive := by
    intro entry hentry content archive hcontent harchive
    rw [searchEntries_shelfDisk] at hentry
    rcases List.mem_pair.1 hentry with rfl | rfl
    · have hread : shelfDisk.content ⟨.slash, ["z"]⟩ = .ok ⟨[], some shelfArchive⟩ := rfl
      obtain rfl := Except.ok.inj (hread.symm.trans hcontent)
      obtain rfl := Option.some.inj harchive
      exact isPlain_shelfArchive
    · have hread : shelfDisk.content ⟨.slash, ["d"]⟩ =
          .error (.system (.refused .isDirectory "/d")) := rfl
      exact absurd (hread.symm.trans hcontent) (by simp)

theorem not_hasDirectoryLink_shelfDisk :
    ∀ entry ∈ searchEntries shelfDisk ["z", "d"], ¬ shelfDisk.HasDirectoryLink entry := by
  intro entry hentry
  rw [searchEntries_shelfDisk] at hentry
  rcases List.mem_pair.1 hentry with rfl | rfl
  · have hresolve : shelfDisk.resolve ⟨.slash, ["z"]⟩ =
        .ok (["z"], .file ⟨[], some shelfArchive⟩) := rfl
    exact Disk.not_hasDirectoryLink_of_isLinkFree hresolve (Node.isLinkFree_file _)
  · have hresolve : shelfDisk.resolve ⟨.slash, ["d"]⟩ = .ok (["d"], shelfTree) := rfl
    exact Disk.not_hasDirectoryLink_of_isLinkFree hresolve isLinkFree_shelfTree

/-- The file in the directory is found second, so that its name opens the member of the archive. -/
theorem openResource_shelfDisk :
    (∀ (α : Type) (reader : Stream → Except (ReadError Empty) α) (name : String),
      (openResource shelfDisk ["z", "d"] "a/x" reader).2 ≠
        .error (.error (.resource (.notFound name)))) ∧
    ((∃ entry ∈ searchEntries shelfDisk ["z", "d"], ∃ failure : Failure Empty,
        locate shelfDisk ["z", "d"] "a/x" = .error failure ∧
          failure.IsRefusal shelfDisk "a/x" entry) ∨
      ∃ holder stream bytes first entry,
        locate shelfDisk ["z", "d"] "a/x" = (.ok holder : Except (Failure Empty) _) ∧
        holder.stream = (.ok stream : Except (Failure Empty) _) ∧ stream.read = .ok bytes ∧
        IsFirstFound Empty shelfDisk ["z", "d"] "a" "a/x" holder first entry ∧
        ∀ (α : Type) (reader : Stream → α), (openResource shelfDisk ["z", "d"] "a/x"
          fun stream => (.ok (reader stream) : Except (ReadError Empty) α)).2 = .ok (reader stream)) :=
  have hresource : ⟨"file:/d/a/x", "a/x"⟩ ∈
      (scan shelfDisk ["z", "d"] "a" : Run ScanStep (Failure Empty)).resources := by
    have hresources : (scan shelfDisk ["z", "d"] "a" : Run ScanStep (Failure Empty)).resources =
        [⟨"zip:file:///z!", "a/x"⟩, ⟨"file:/d/a/x", "a/x"⟩] := by
      decide +kernel
    rw [hresources]
    decide
  have hopens := openResource_of_mem_scan isSound_shelfDisk isPlainSearchPath_shelfDisk
    (by decide) hresource
  ⟨hopens.1, hopens.2 not_hasDirectoryLink_shelfDisk⟩

end Lookup
