import Lookup.Proofs.Resource.Mount
import Lookup.Proofs.Resource.Scan

/-!
# Well-formed names of resources

The name of a resource is not empty, holds no backslash and does not start with a slash, unless
backslashes stand where slashes are taken away: at the end of an entry of the search path, or at the
start of the name of a file or member.

## Main definitions

* `IsResourceName` — well-formed names
* `IsSwallowed` — names of members of which too little is left
* `NamedIn` — a resource in an entry of the search path, and when its name is well-formed

## Main results

* `backslash_notMem_canonicalName` — no name holds a backslash
* `isResourceName_canonicalName_iff` — when the name of a member yields a well-formed name
* `exists_namedIn_of_mem_scan` — when the name of a resource that a scan finds is well-formed
-/

namespace Lookup

open Files Text

variable {ε : Type} {disk : Disk} {package : String} {entry : Path} {resource : Resource}

/-- A name that is not empty, holds no backslash and does not start with a slash. -/
structure IsResourceName (name : String) : Prop where
  ne_empty : name ≠ ""
  backslash_notMem : '\\' ∉ name.toList
  isRelative : IsRelative name.toList

/-- A name that starts with a backslash before nothing or before another slash of either kind. -/
def IsSwallowed (name : String) : Prop :=
  ∃ rest, name.toList = '\\' :: rest ∧ ∀ c ∈ rest.head?, isSlash c = true

/-! ### Canonical names -/

theorem dropLeading_suffix (text : List Char) : dropLeading text <:+ text := by
  cases text with
  | nil => exact List.suffix_rfl
  | cons c rest =>
    rw [dropLeading]
    split
    · exact List.suffix_cons c rest
    · exact List.suffix_rfl

/-- No canonical name holds a backslash. -/
theorem backslash_notMem_canonicalName (text : String) : '\\' ∉ (canonicalName text).toList := by
  rw [canonicalName, String.toList_ofList]
  exact fun hmem => notMem_exchange (by decide) _ ((dropLeading_suffix _).subset hmem)

/-- A name made up by turning backslashes is well-formed if it is not empty and does not start with a
slash of either kind before. -/
theorem isResourceName_iff {name : String} {text : List Char}
    (hname : name.toList = exchange '\\' '/' text) :
    IsResourceName name ↔ ∃ c rest, text = c :: rest ∧ isSlash c = false := by
  constructor
  · rintro ⟨hempty, -, hrelative⟩
    cases text with
    | nil => exact absurd (String.toList_eq_nil_iff.1 hname) hempty
    | cons c rest =>
      refine ⟨c, rest, rfl, ?_⟩
      rw [hname] at hrelative
      by_cases hback : c = '\\'
      · simp [exchange, IsRelative, hback] at hrelative
      · simpa [exchange, IsRelative, isSlash, hback] using hrelative
  · rintro ⟨c, rest, rfl, hslash⟩
    have hc : c ≠ '/' ∧ c ≠ '\\' := by simpa [isSlash] using hslash
    refine ⟨fun hempty => ?_, fun hmem => ?_, ?_⟩
    · simp [hempty, exchange] at hname
    · exact notMem_exchange (by decide) _ (hname ▸ hmem)
    · rw [hname]
      simp [exchange, IsRelative, hc]

/-- The name of a member yields a well-formed name unless a backslash in front is followed by nothing
or by another slash. -/
theorem isResourceName_canonicalName_iff {text : String} (hne : text ≠ "")
    (hrelative : IsRelative text.toList) :
    IsResourceName (canonicalName text) ↔ ¬ IsSwallowed text := by
  obtain ⟨c, rest, htext⟩ := List.exists_cons_of_ne_nil (mt String.toList_eq_nil_iff.1 hne)
  have hslash : c ≠ '/' := by
    rw [htext] at hrelative
    exact fun heq => hrelative (by rw [heq]; rfl)
  -- A backslash in front is turned into the one slash that is taken away.
  by_cases hback : c = '\\'
  · have hname : (canonicalName text).toList = exchange '\\' '/' rest := by
      rw [canonicalName, htext, String.toList_ofList, hback]
      rfl
    rw [isResourceName_iff hname]
    constructor
    · rintro ⟨d, more, hmore, hd⟩ ⟨other, hother, hall⟩
      obtain rfl : rest = other := (List.cons.inj (htext.symm.trans hother)).2
      simp [hall d (by simp [hmore])] at hd
    · intro hnot
      cases rest with
      | nil => exact absurd ⟨[], by rw [htext, hback], by simp⟩ hnot
      | cons d more =>
        refine ⟨d, more, rfl, ?_⟩
        by_contra hd
        exact hnot ⟨d :: more, by rw [htext, hback], by simpa using hd⟩
  · have hname : (canonicalName text).toList = exchange '\\' '/' text.toList := by
      rw [canonicalName, htext, String.toList_ofList]
      simp [exchange, dropLeading, isSlash, hback, hslash]
    rw [isResourceName_iff hname]
    constructor
    · rintro - ⟨other, hother, -⟩
      exact hback (List.cons.inj (htext.symm.trans hother)).1
    · intro _
      exact ⟨c, rest, htext, by simp [isSlash, hback, hslash]⟩

/-- The name of a file is well-formed unless the directory ends in a backslash or the file starts with
one. -/
theorem isResourceName_resource_iff (h : entry.IsNormal) {names : List String} (hne : names ≠ [])
    (hnames : ∀ name ∈ names, IsComponent name) (root : Path) :
    IsResourceName (DirectoryMount.resource ⟨root, dropTrailingSlash entry.text⟩
        (entry.below names)).name ↔
      entry.text.toList.getLast? ≠ some '\\' ∧ (fileName names).toList.head? ≠ some '\\' := by
  have hname := toList_name_resource h hne root
  obtain ⟨first, rest, rfl⟩ := List.exists_cons_of_ne_nil hne
  have hfirst := hnames first List.mem_cons_self
  obtain ⟨c, chars, hchars⟩ : ∃ c chars, (fileName (first :: rest)).toList = c :: chars :=
    List.exists_cons_of_ne_nil (fileName_ne_nil hnames hne)
  have hhead : (fileName (first :: rest)).toList.head? = first.toList.head? := by
    rw [toList_fileName, List.map_cons, head?_join_cons hfirst.toList_ne_nil]
  have hslash : c ≠ '/' := by
    rintro rfl
    rw [hchars] at hhead
    exact hfirst.slash_notMem (List.mem_of_head? hhead.symm)
  by_cases hback : entry.text.toList.getLast? = some '\\'
  · rw [if_pos hback] at hname
    refine ⟨fun hwell => absurd ?_ hwell.isRelative, fun hnot => absurd hback hnot.1⟩
    rw [hname]
    rfl
  · rw [if_neg hback, List.nil_append] at hname
    rw [isResourceName_iff hname, hchars]
    simp [hback, isSlash, hslash]

/-! ### Resources -/

/-- A resource in an entry of the search path, and when its name is well-formed. -/
inductive NamedIn (disk : Disk) (entry : Path) (resource : Resource) : Prop where
  /-- The name of a file below a directory is well-formed unless the directory ends in a backslash or
  the path of the file starts with one. -/
  | file (names : List String) (isDirectory : disk.isDirectory entry = .ok true) (ne_nil : names ≠ [])
      (isComponent : ∀ name ∈ names, IsComponent name)
      (location_eq : resource.location = "file:" ++ (entry.below names).text)
      (backslash_notMem : '\\' ∉ resource.name.toList)
      (isResourceName_iff : IsResourceName resource.name ↔
        entry.text.toList.getLast? ≠ some '\\' ∧ (fileName names).toList.head? ≠ some '\\')
  /-- The name of a member of an archive is well-formed unless a backslash in front is followed by
  nothing or by another slash. -/
  | member (content : Content) (archive : Archive) (name : String)
      (content_eq : disk.content entry = .ok content) (archive_eq : content.archive = some archive)
      (location_eq : resource.location = archiveBase entry) (mem : name ∈ archive.memberNames)
      (name_eq : resource.name = canonicalName name)
      (backslash_notMem : '\\' ∉ resource.name.toList)
      (isResourceName_iff : IsResourceName resource.name ↔ ¬ IsSwallowed name)

theorem namedIn_directory (hdisk : disk.IsSound) (hnormal : entry.IsNormal)
    (hdirectory : disk.isDirectory entry = .ok true)
    (h : resource ∈ ((DirectoryMount.mk (entry.below (packageNames package))
      (dropTrailingSlash entry.text)).walk disk : Run Resource (Failure ε)).items) :
    NamedIn disk entry resource := by
  obtain ⟨file, hfile, rfl⟩ := DirectoryMount.exists_of_mem_collect _ h
  obtain ⟨rest, hrest, rfl, hnames⟩ := Disk.exists_of_file_mem_walk hdisk hfile
  rw [← Path.below_append]
  have hne : packageNames package ++ rest ≠ [] := List.append_ne_nil_of_right_ne_nil _ hrest
  have hcomponent : ∀ name ∈ packageNames package ++ rest, IsComponent name := fun name hname =>
    (List.mem_append.1 hname).elim isComponent_packageNames fun hname =>
      (hnames name hname).toIsComponent
  exact .file (packageNames package ++ rest) hdirectory hne hcomponent rfl
    (backslash_notMem_canonicalName _) (isResourceName_resource_iff hnormal hne hcomponent _)

theorem namedIn_archive {inner : String} (hinner : IsRelative inner.toList)
    (h : resource ∈ ((ArchiveMount.mk entry (archiveBase entry) inner).walk disk :
      Run Resource (Failure ε)).items) :
    NamedIn disk entry resource := by
  rw [ArchiveMount.walk] at h
  split at h
  · exact absurd h List.not_mem_nil
  · next archive hopen =>
    obtain ⟨content, hcontent, harchive, -⟩ := openArchive_eq_ok_iff.1 hopen
    obtain ⟨name, hname, rfl⟩ := List.mem_map.1 h
    -- The walk starts at the top or at a directory whose name is relative.
    have hstart : IsRelative (trimSlashes
        (if inner = "" then "" else inner ++ "/" : String).toList) := by
      refine IsRelative.trimSlashes ?_
      split
      · simp [IsRelative]
      · next hne =>
        rw [IsRelative, String.toList_append,
          List.head?_append_of_ne_nil _ (mt String.toList_eq_nil_iff.1 hne)]
        exact hinner
    obtain ⟨hmem, hne, hrelative⟩ := Archive.mem_memberNames_of_mem_walk hstart hname
    exact .member content archive name hcontent harchive rfl hmem rfl
      (backslash_notMem_canonicalName name) (isResourceName_canonicalName_iff hne hrelative)

/-- A resource that a scan finds is named in an entry of the search path. -/
theorem exists_namedIn_of_mem_scan {entries : List String} (hdisk : disk.IsSound)
    (h : resource ∈ (scan disk entries package : Run ScanStep (Failure ε)).resources) :
    ∃ entry ∈ searchEntries disk entries, NamedIn disk entry resource := by
  obtain ⟨entry, hentry, location, mount, hlocation, hmount, hresource⟩ := exists_of_mem_scan h
  refine ⟨entry, hentry, ?_⟩
  have hnormal : entry.IsNormal := by
    obtain ⟨text, -, rfl⟩ := List.mem_map.1 hentry
    exact Path.isNormal_absolute hdisk.cwd text
  rcases entryLocation?_eq_some hlocation with ⟨hdirectory, -, rfl⟩ | ⟨-, rfl, -⟩
  · obtain rfl := Except.ok.inj ((mount_ofLocation_directory hnormal package).symm.trans hmount)
    exact namedIn_directory hdisk hnormal hdirectory hresource
  · obtain rfl := Except.ok.inj ((mount_ofLocation_archive hnormal package).symm.trans hmount)
    refine namedIn_archive ?_ hresource
    rw [String.toList_ofList]
    exact isRelative_trimBoth _

/-- A file whose name starts with a backslash. -/
def backslashDisk : Disk := ⟨.directory [("d", .directory [("\\x", .file ⟨[], none⟩)])], [], 0⟩

theorem isSound_backslashDisk : backslashDisk.IsSound where
  root := by
    refine Node.isSound_directory (by decide) (by decide) fun entry hentry => ?_
    obtain rfl := List.mem_singleton.1 hentry
    refine Node.isSound_directory (by decide) (by decide) fun entry hentry => ?_
    obtain rfl := List.mem_singleton.1 hentry
    exact Node.isSound_file _
  cwd := by decide

/-- The name of the resource keeps the slash that the backslash is turned into. -/
theorem exists_namedIn_backslashDisk :
    ∃ entry ∈ searchEntries backslashDisk ["d"],
      NamedIn backslashDisk entry ⟨"file:/d/\\x", "/x"⟩ :=
  have hresource : ⟨"file:/d/\\x", "/x"⟩ ∈
      (scan backslashDisk ["d"] "" : Run ScanStep (Failure Empty)).resources := by
    have hresources : (scan backslashDisk ["d"] "" : Run ScanStep (Failure Empty)).resources =
        [⟨"file:/d/\\x", "/x"⟩] := by
      decide +kernel
    rw [hresources]
    exact List.mem_singleton_self _
  exists_namedIn_of_mem_scan isSound_backslashDisk hresource

end Lookup
