import Lookup.Proofs.Files.Layout
import Lookup.Proofs.Files.Resolve
import Lookup.Proofs.Files.Walk
import Lookup.Proofs.Resource.Mount
import Lookup.Proofs.Resource.Scan

/-!
# Directories and archives agree

The same files are found below a package whether they are laid out as a directory or as an archive, and
in the same order. The two differ in one respect: the system refuses paths that are too long, while
names in an archive may have any length.

## Main definitions

* `Layout.namesBelow` — the names of the files of a layout below a package, in order
* `FitsLimits` — whether the system takes all paths of a package in a directory

## Main results

* `Layout.scanNames_directory`, `Layout.scanNames_archive` — the names that a scan finds
* `Layout.scanNames_agree` — a directory and an archive yield the same names
-/

namespace Lookup

open Files Text

variable {ε : Type} {disk : Disk} {package text : String} {place : List String} {node : Node}

namespace Files.Layout

variable {layout : Layout} {names : List String}

/-- The names of the files of a layout below a package, in the order of their paths. -/
def namesBelow (layout : Layout) (package : String) : List String :=
  let names := packageNames package
  (layout.files.filter fun file => names <+: file ∧ file ≠ names).sort.map fileName

/-- A listing of the files below a package yields their names. -/
theorem namesBelow_eq {paths : List (List String)}
    (h : IsListing paths (layout.below (packageNames package))) :
    layout.namesBelow package = paths.map fun rest => fileName (packageNames package ++ rest) := by
  have hlisting : IsListing (paths.map (packageNames package ++ ·))
      ↑(layout.files.filter fun file => packageNames package <+: file ∧ file ≠ packageNames package) := by
    constructor
    · rw [List.pairwise_map]
      exact h.pairwise_lt.imp List.append_left_lt
    · intro path
      rw [List.mem_map, Finset.mem_coe, Finset.mem_filter]
      constructor
      · rintro ⟨rest, hrest, rfl⟩
        obtain ⟨hne, hfile⟩ := (h.mem_iff rest).1 hrest
        exact ⟨hfile, List.prefix_append _ rest, by simpa using hne⟩
      · rintro ⟨hfile, ⟨rest, rfl⟩, hne⟩
        exact ⟨rest, (h.mem_iff rest).2 ⟨by simpa using hne, hfile⟩, rfl⟩
  rw [namesBelow, ← hlisting.eq_sort, List.map_map]
  rfl

theorem isPlainPart (layout : Layout) {file : List String} (h : file ∈ layout.files) :
    ∀ part ∈ file, IsPlainPart part := by
  intro part hpart
  have hname := layout.isFileName file h part hpart
  exact ⟨hname.toIsComponent, hname.ne_dotdot, layout.backslash_notMem file h part hpart⟩

/-! ### Archives -/

variable {entry : Path}

/-- A scan of an archive finds the files of the layout below the package. -/
theorem scanNames_archive {content : Content} {archive : Archive} (hnormal : entry.IsNormal)
    (hentry : searchEntries disk [text] = [entry])
    (hresolve : disk.resolve entry = .ok (place, .file content))
    (harchive : content.archive = some archive) (h : layout.InArchive archive)
    (hpackage : '%' ∉ package.toList) :
    scanNames disk [text] package = (.ok (layout.namesBelow package) : Except (Failure ε) _) := by
  have hdirectory : disk.isDirectory entry = .ok false := by
    rw [Disk.isDirectory, Disk.check, hresolve]
  have hisArchive : isArchive disk entry = .ok true := by
    rw [isArchive, Disk.check, hresolve]
    simp [harchive]
  have hopen : ∀ activity, (openArchive disk activity entry : Except (Failure ε) _) = .ok archive := by
    intro activity
    exact openArchive_eq_ok_iff.2 ⟨content, by rw [Disk.content, hresolve], harchive, h.sound⟩
  have hcomponent : ∀ name ∈ packageNames package, IsComponent name :=
    fun _ => isComponent_packageNames
  obtain ⟨paths, hpaths, hwalk⟩ := h.exists_isListing_walk (entry.names.getLast?.getD "") disk.rounds hcomponent
  have hlocation : (entryLocation? disk (.enumerating package) (packagePath package) entry :
      Except (Failure ε) _) = .ok (if exposes archive (packagePath package) then
        some (archiveLocation entry package) else none) := by
    rw [entryLocation?_archive hdirectory hisArchive, hopen]
    rfl
  by_cases hexposes : exposes archive (packagePath package) = true
  · rw [if_pos hexposes] at hlocation
    have hinner := (ofList_trimBoth_decodePercent_eq_iff package).2 (not_hasEscape_packagePath hpackage)
    have hmount := mount_ofLocation_archive hnormal package
    rw [hinner] at hmount
    rw [scanNames_singleton_some hentry hlocation hmount, Mount.walk, ArchiveMount.walk, hopen]
    simp only [ArchiveMount.start_mk, ArchiveMount.file, hwalk, ArchiveMount.collect, List.map_map]
    rw [namesBelow_eq hpaths]
    refine congrArg _ (List.map_congr_left fun rest hrest => ?_)
    exact canonicalName_fileName (layout.isPlainPart ((hpaths.mem_iff rest).1 hrest).2)
  · -- An archive that does not expose the package has no file below it.
    rw [if_neg hexposes] at hlocation
    have hnil : IsListing [] (layout.below (packageNames package)) :=
      .of_forall_notMem fun rest hrest =>
        hexposes (exposes_of_mem_memberNames hrest.1 (h.file_mem _ hrest.2))
    rw [scanNames_singleton_none hentry hlocation, namesBelow_eq hnil]
    rfl

/-! ### Directories -/

theorem InTree.exists_entries (h : layout.InTree node) : ∃ entries, node = .directory entries := by
  match node with
  | .directory entries => exact ⟨entries, rfl⟩
  | .link target => exact absurd rfl (h.isLinkFree [] target)
  | .file content => exact absurd ((h.mem_files []).2 ⟨content, rfl⟩) layout.ne_nil

/-- What is no directory below a directory of a layout are the files below it. -/
theorem InTree.leafNames_eq (h : layout.InTree node) {entries : List (String × Node)}
    (hat : node.at? names = some (.directory entries)) :
    (Node.directory entries).leafNames = layout.below names := by
  have hrest : ∀ rest, (Node.directory entries).at? rest = node.at? (names ++ rest) := by
    intro rest
    rw [Node.at?_append, hat, Option.bind_some]
  refine Set.ext fun rest => ⟨?_, ?_⟩
  · rintro ⟨leaf, hleaf, hdirectory⟩
    have hne : rest ≠ [] := by
      rintro rfl
      exact hdirectory entries (Option.some.inj hleaf).symm
    refine ⟨hne, (h.mem_files _).2 ?_⟩
    rw [hrest] at hleaf
    match leaf with
    | .file content => exact ⟨content, hleaf⟩
    | .link target => exact absurd hleaf (h.isLinkFree _ target)
    | .directory inner => exact absurd rfl (hdirectory inner)
  · rintro ⟨-, hfile⟩
    obtain ⟨content, hcontent⟩ := (h.mem_files _).1 hfile
    exact ⟨.file content, (hrest rest).trans hcontent, fun inner => by simp⟩

/-- Nothing is below a package whose path leads to no directory. -/
theorem InTree.isListing_nil (h : layout.InTree node)
    (hat : ∀ entries, node.at? names ≠ some (.directory entries)) :
    IsListing [] (layout.below names) := by
  refine .of_forall_notMem fun rest ⟨hne, hfile⟩ => ?_
  obtain ⟨content, hcontent⟩ := (h.mem_files _).1 hfile
  rw [Node.at?_append] at hcontent
  obtain ⟨found, hfound, hrest⟩ := Option.bind_eq_some_iff.1 hcontent
  obtain ⟨first, more, rfl⟩ := List.exists_cons_of_ne_nil hne
  match found with
  | .directory entries => exact hat entries hfound
  | .file content => simp [Node.at?_cons, Node.entry?, Node.entries] at hrest
  | .link target => simp [Node.at?_cons, Node.entry?, Node.entries] at hrest

end Files.Layout

/-- Whether the system takes the path of a package in a directory and the paths of all that the
directory holds. -/
structure FitsLimits (entry : Path) (node : Node) (names : List String) : Prop where
  not_hasLongName : ¬ Node.HasLongName names
  package_le : (entry.below names).text.utf8ByteSize ≤ Node.pathLimit
  contents_le : ∀ path, (node.at? path).isSome →
    (entry.below path).text.utf8ByteSize ≤ Node.pathLimit

/-- Whether a scan fails since the system refuses a path that is too long. -/
def IsTooLong (result : Except (Failure ε) (List String)) : Prop :=
  ∃ activity path, result = .error (.during activity (.system (.refused .nameTooLong path)))

namespace Files.Layout

variable {layout : Layout} {names : List String} {entry : Path}

section Directory

variable (hresolve : disk.resolve entry = .ok (place, node)) (h : layout.InTree node)

include hresolve h

theorem isDirectory_entry : disk.isDirectory entry = .ok true := by
  obtain ⟨entries, rfl⟩ := h.exists_entries
  rw [Disk.isDirectory, Disk.check, hresolve]

variable (hentry : searchEntries disk [text] = [entry])

include hentry

/-- Where the path of a package leads to no directory, nothing is found. -/
theorem scanNames_of_not_directory
    (hat : ∀ entries, node.at? (packageNames package) ≠ some (.directory entries))
    (hfalse : disk.isDirectory (entry.below (packageNames package)) = .ok false) :
    (scanNames disk [text] package : Except (Failure ε) _) = .ok (layout.namesBelow package) := by
  have hlocation : entryLocation? disk (.enumerating package) (packagePath package) entry =
      (.ok none : Except (Failure ε) _) := by
    rw [entryLocation?_directory (isDirectory_entry hresolve h), hfalse]
    rfl
  rw [scanNames_singleton_none hentry hlocation, namesBelow_eq (h.isListing_nil hat)]
  rfl

variable (hnormal : entry.IsNormal)

include hnormal

/-- Where the path of a package leads to a directory, its files are found, unless the path of one of
them is too long. -/
theorem scanNames_of_directory {entries : List (String × Node)} {place : List String}
    (hback : '\\' ∉ entry.text.toList)
    (hat : node.at? (packageNames package) = some (.directory entries))
    (hbelow : disk.resolve (entry.below (packageNames package)) = .ok (place, .directory entries)) :
    (scanNames disk [text] package : Except (Failure ε) _) = .ok (layout.namesBelow package) ∨
      ¬ FitsLimits entry node (packageNames package) ∧
        IsTooLong (scanNames disk [text] package : Except (Failure ε) _) := by
  have hlocation : entryLocation? disk (.enumerating package) (packagePath package) entry =
      (.ok (some (fileUri (entry.below (packageNames package)))) : Except (Failure ε) _) := by
    rw [entryLocation?_directory (isDirectory_entry hresolve h), Disk.isDirectory, Disk.check, hbelow]
    rfl
  have hscan := scanNames_singleton_some hentry hlocation (mount_ofLocation_directory hnormal package)
  rw [Mount.walk, DirectoryMount.walk] at hscan
  rcases Disk.walk_of_isLinkFree hbelow (h.isSound.of_at? hat) (h.isLinkFree.of_at? hat) with
    ⟨paths, hpaths, hwalk⟩ | ⟨⟨rest, hrest, hlong⟩, herror, hall⟩
  · left
    rw [h.leafNames_eq hat] at hpaths
    have hfiles : paths.map (fun names => Disk.Found.file ((entry.below (packageNames package)).below
        names)) = (paths.map (entry.below (packageNames package)).below).map .file := by
      rw [List.map_map]
      rfl
    simp only [hwalk, hfiles, DirectoryMount.collect_files] at hscan
    rw [hscan, namesBelow_eq hpaths, List.map_map, List.map_map]
    refine congrArg _ (List.map_congr_left fun rest hrest => ?_)
    have hfile := (hpaths.mem_iff rest).1 hrest
    have hne : packageNames package ++ rest ≠ [] := List.append_ne_nil_of_right_ne_nil _ hfile.1
    have hname := name_resource_eq_fileName hnormal hback hne (layout.isPlainPart hfile.2)
      (entry.below (packageNames package))
    rwa [Path.below_append] at hname
  · right
    constructor
    · rintro ⟨-, -, hcontents⟩
      have hle := hcontents (packageNames package ++ rest)
        (by rwa [Node.at?_append, hat, Option.bind_some])
      rw [Path.below_append] at hle
      exact absurd hle (Nat.not_le.2 (of_decide_eq_true hlong))
    · obtain ⟨error, hmem, hfailure⟩ := DirectoryMount.exists_failure (ε := ε)
        ⟨entry.below (packageNames package), dropTrailingSlash entry.text⟩ herror
      obtain ⟨path, rfl⟩ := hall error hmem
      simp only [hfailure] at hscan
      exact ⟨_, _, hscan⟩

/-- A scan of a directory finds the files of the layout below the package, unless the system refuses
a path that is too long. -/
theorem scanNames_directory (hback : '\\' ∉ entry.text.toList) :
    (scanNames disk [text] package : Except (Failure ε) _) = .ok (layout.namesBelow package) ∨
      ¬ FitsLimits entry node (packageNames package) ∧
        IsTooLong (scanNames disk [text] package : Except (Failure ε) _) := by
  have hcomponent : ∀ name ∈ packageNames package, IsComponent name ∧ name ≠ ".." := fun name hname =>
    ⟨isComponent_packageNames hname, ne_dotdot_of_mem_packageNames hname⟩
  rcases Disk.resolve_below hnormal hresolve h.isSound h.isLinkFree hcomponent with
    ⟨hlong, hfail⟩ | ⟨found, hfound, hok⟩ | ⟨error, herror, hnone, hfail⟩
  · right
    constructor
    · rintro ⟨hname, hpackage, -⟩
      exact hlong.elim hname (Nat.not_lt.2 hpackage)
    · have hlocation : entryLocation? disk (.enumerating package) (packagePath package) entry =
          (.error (.during (.enumerating package) (.system (.refused .nameTooLong
            (entry.below (packageNames package)).text))) : Except (Failure ε) _) := by
        rw [entryLocation?_directory (isDirectory_entry hresolve h), Disk.isDirectory, Disk.check,
          hfail]
        rfl
      exact ⟨_, _, scanNames_singleton_error hentry hlocation⟩
  · match found with
    | .directory entries =>
      exact scanNames_of_directory hresolve h hentry hnormal hback hfound hok
    | .file content =>
      refine .inl (scanNames_of_not_directory hresolve h hentry (by simp [hfound]) ?_)
      rw [Disk.isDirectory, Disk.check, hok]
    | .link target => exact absurd hfound (h.isLinkFree _ target)
  · refine .inl (scanNames_of_not_directory hresolve h hentry (by simp [hnone]) ?_)
    rw [Disk.isDirectory, Disk.check, hfail]
    match error with
    | .nul => rfl
    | .refused errno =>
      cases errno with
      | nameTooLong => exact absurd rfl herror
      | _ => rfl

end Directory

/-! ### Agreement -/

/-- A directory and an archive with the files of a layout yield the same names, those of the files below
the package in the order of their paths. Only the directory can fail, by a path that is too long. -/
theorem scanNames_agree {directory zip : String} {content : Content} {archive : Archive}
    {place' : List String} (hcwd : ∀ name ∈ disk.cwd, IsComponent name)
    (hdirectory : disk.resolve ((Path.ofText directory).absolute disk.cwd) = .ok (place, node))
    (htree : layout.InTree node)
    (hback : '\\' ∉ ((Path.ofText directory).absolute disk.cwd).text.toList)
    (hzip : disk.resolve ((Path.ofText zip).absolute disk.cwd) = .ok (place', .file content))
    (hcontent : content.archive = some archive) (harchive : layout.InArchive archive)
    (hpackage : '%' ∉ package.toList) :
    (scanNames disk [zip] package : Except (Failure ε) _) = .ok (layout.namesBelow package) ∧
      ((scanNames disk [directory] package : Except (Failure ε) _) =
          .ok (layout.namesBelow package) ∨
        ¬ FitsLimits ((Path.ofText directory).absolute disk.cwd) node (packageNames package) ∧
          IsTooLong (scanNames disk [directory] package : Except (Failure ε) _)) :=
  ⟨scanNames_archive (Path.isNormal_absolute hcwd zip) rfl hzip hcontent harchive hpackage,
    scanNames_directory hdirectory htree rfl (Path.isNormal_absolute hcwd directory) hback⟩

/-- Two files, one of them in a directory. -/
def sampleLayout : Layout where
  files := {["b"], ["a", "x"]}
  ne_nil := by decide
  isFileName := by decide
  backslash_notMem := by decide
  prefixFree := by decide

/-- The sample as a directory. -/
def sampleTree : Node :=
  .directory [("b", .file ⟨[], none⟩), ("a", .directory [("x", .file ⟨[], none⟩)])]

/-- The sample as an archive, with no member for the directory. -/
def sampleArchive : Archive := ⟨[.stored "b" [], .stored "a/x" []], none⟩

/-- The directory and the archive side by side. -/
def sampleDisk : Disk :=
  ⟨.directory [("d", sampleTree), ("z", .file ⟨[], some sampleArchive⟩)], [], 0⟩

theorem inTree_sampleTree : sampleLayout.InTree sampleTree where
  isSound := by
    refine Node.isSound_directory (by decide) (by decide) fun entry hentry => ?_
    rcases List.mem_pair.1 hentry with rfl | rfl
    · exact Node.isSound_file _
    · refine Node.isSound_directory (by decide) (by decide) fun entry hentry => ?_
      obtain rfl := List.mem_singleton.1 hentry
      exact Node.isSound_file _
  isLinkFree := by
    refine Node.isLinkFree_directory fun entry hentry => ?_
    rcases List.mem_pair.1 hentry with rfl | rfl
    · exact Node.isLinkFree_file _
    · refine Node.isLinkFree_directory fun entry hentry => ?_
      obtain rfl := List.mem_singleton.1 hentry
      exact Node.isLinkFree_file _
  mem_files path := by
    constructor
    · intro hpath
      have hcases : path = ["b"] ∨ path = ["a", "x"] := by simpa [sampleLayout] using hpath
      rcases hcases with rfl | rfl
      · exact ⟨_, rfl⟩
      · exact ⟨_, rfl⟩
    · rintro ⟨content, hcontent⟩
      cases path with
      | nil => simp [sampleTree, Node.at?] at hcontent
      | cons name rest =>
        obtain ⟨child, hchild, hrest⟩ := Node.exists_mem_of_at?_cons hcontent
        rcases List.mem_pair.1 hchild with heq | heq
        · obtain ⟨rfl, rfl⟩ := Prod.mk.inj heq
          obtain rfl := Node.eq_nil_of_at?_file hrest
          decide
        · obtain ⟨rfl, rfl⟩ := Prod.mk.inj heq
          cases rest with
          | nil => simp [Node.at?] at hrest
          | cons name rest =>
            obtain ⟨child, hchild, hrest⟩ := Node.exists_mem_of_at?_cons hrest
            obtain ⟨rfl, rfl⟩ := Prod.mk.inj (List.mem_singleton.1 hchild)
            obtain rfl := Node.eq_nil_of_at?_file hrest
            decide

theorem inArchive_sampleArchive : sampleLayout.InArchive sampleArchive where
  sound := rfl
  nodup := by decide
  file_mem := by decide
  of_mem name hname := by
    have hfiles : ∀ name ∈ sampleArchive.memberNames,
        ∃ file ∈ sampleLayout.files, name = fileName file := by decide
    exact .inl (hfiles name hname)

/-- The agreement for one package. -/
theorem scanNames_agree_sampleDisk :
    (scanNames sampleDisk ["z"] "a" : Except (Failure Empty) _) =
        .ok (sampleLayout.namesBelow "a") ∧
      ((scanNames sampleDisk ["d"] "a" : Except (Failure Empty) _) =
          .ok (sampleLayout.namesBelow "a") ∨
        ¬ FitsLimits ⟨.slash, ["d"]⟩ sampleTree (packageNames "a") ∧
          IsTooLong (scanNames sampleDisk ["d"] "a" : Except (Failure Empty) _)) :=
  scanNames_agree (by decide) rfl inTree_sampleTree (by decide) rfl rfl
    inArchive_sampleArchive (by decide)

/-! ### Long names -/

/-- A package whose first component is too long cannot be looked up in a directory. -/
theorem isTooLong_scanNames {entries : List (String × Node)} {first : String} {rest : List String}
    (hnormal : entry.IsNormal) (hentry : searchEntries disk [text] = [entry])
    (hresolve : disk.resolve entry = .ok (place, .directory entries))
    (hpackage : packageNames package = first :: rest)
    (hnul : ∀ name ∈ first :: rest, '\x00' ∉ name.toList)
    (hlong : Node.componentLimit < first.utf8ByteSize) :
    IsTooLong (scanNames disk [text] package : Except (Failure ε) _) := by
  have hcomponent : ∀ name ∈ first :: rest, IsComponent name := fun name hname =>
    isComponent_packageNames (hpackage ▸ hname)
  have hdotdot : first ≠ ".." :=
    ne_dotdot_of_mem_packageNames (hpackage ▸ List.mem_cons_self)
  have hbelow := Disk.resolve_below_of_long hnormal hresolve hcomponent hdotdot hnul hlong
  have hdirectory : disk.isDirectory entry = .ok true := by
    rw [Disk.isDirectory, Disk.check, hresolve]
  have hlocation : entryLocation? disk (.enumerating package) (packagePath package) entry =
      (.error (.during (.enumerating package) (.system (.refused .nameTooLong
        (entry.below (packageNames package)).text))) : Except (Failure ε) _) := by
    rw [entryLocation?_directory hdirectory, Disk.isDirectory, Disk.check, hpackage, hbelow]
    rfl
  exact ⟨_, _, scanNames_singleton_error hentry hlocation⟩

/-- A package of one component of a given length. -/
def plainPackage (length : Nat) : String := String.ofList (List.replicate length 'x')

theorem notMem_plainPackage {length : Nat} {c : Char} (hne : c ≠ 'x') :
    c ∉ (plainPackage length).toList := by
  rw [plainPackage, String.toList_ofList]
  exact fun hc => hne (List.mem_replicate.1 hc).2

theorem le_utf8ByteSize_plainPackage (length : Nat) :
    length ≤ (plainPackage length).utf8ByteSize := by
  have hle := length_le_utf8ByteSize (List.replicate length 'x')
  rwa [List.length_replicate] at hle

theorem packageNames_plainPackage {length : Nat} (hlength : 0 < length) :
    packageNames (plainPackage length) = [plainPackage length] := by
  refine packageNames_eq_singleton (fun hempty => ?_) (notMem_plainPackage (by decide))
    (notMem_plainPackage (by decide)) (notMem_plainPackage (by decide))
  have hle := le_utf8ByteSize_plainPackage length
  rw [hempty, String.utf8ByteSize_empty] at hle
  omega

/-- A directory and an archive with the same files do not always yield the same names: a package with a
long name has no files in the archive, but cannot be looked up in the directory. -/
theorem not_forall_scanNames_eq :
    ¬ ∀ (layout : Layout) (disk : Disk) (node : Node) (content : Content) (archive : Archive)
        (directory zip package : String) (place place' : List String),
      (∀ name ∈ disk.cwd, IsComponent name) →
      disk.resolve ((Path.ofText directory).absolute disk.cwd) = .ok (place, node) →
      layout.InTree node →
      '\\' ∉ ((Path.ofText directory).absolute disk.cwd).text.toList →
      disk.resolve ((Path.ofText zip).absolute disk.cwd) = .ok (place', .file content) →
      content.archive = some archive → layout.InArchive archive →
      '%' ∉ package.toList →
      (scanNames disk [directory] package : Except (Failure Empty) _) = scanNames disk [zip] package := by
  intro h
  -- A component of 256 characters is one more than the system takes.
  have hpercent : '%' ∉ (plainPackage 256).toList := notMem_plainPackage (by decide)
  have hnul : ∀ name ∈ [plainPackage 256], '\x00' ∉ name.toList := fun name hname =>
    List.mem_singleton.1 hname ▸ notMem_plainPackage (by decide)
  have hzip : (scanNames sampleDisk ["z"] (plainPackage 256) : Except (Failure Empty) _) =
      .ok (sampleLayout.namesBelow (plainPackage 256)) :=
    scanNames_archive ⟨rfl, by decide⟩ rfl rfl rfl inArchive_sampleArchive hpercent
  obtain ⟨activity, path, hfail⟩ : IsTooLong
      (scanNames sampleDisk ["d"] (plainPackage 256) : Except (Failure Empty) _) :=
    isTooLong_scanNames ⟨rfl, by decide⟩ rfl rfl (packageNames_plainPackage (by decide)) hnul
      (le_utf8ByteSize_plainPackage 256)
  have heq := h sampleLayout sampleDisk sampleTree _ sampleArchive "d" "z" (plainPackage 256) _ _
    (by decide) rfl inTree_sampleTree (by decide) rfl rfl inArchive_sampleArchive hpercent
  rw [hfail, hzip] at heq
  simp at heq

end Files.Layout

end Lookup
