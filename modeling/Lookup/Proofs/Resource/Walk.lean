import Lookup.Proofs.Files.Descent
import Lookup.Proofs.Files.Traversal
import Lookup.Proofs.Resource.Distinct
import Lookup.Proofs.Resource.Location

/-!
# What a walk through a mount yields

The walk through a directory mount yields the files below its root in the order of their paths, up to the
first path that the system refuses. The walk through an archive mount yields the members below the package,
which are told by the start of their names.

## Main results

* `DirectoryMount.walk_lists_files` — the resources that a walk through a directory yields
* `ArchiveMount.names_walk_eq_members_below` — the names that a walk through an archive yields
-/

namespace Lookup

open Files Text

variable {ε : Type} {disk : Disk} {entry : Path} {package : String}

/-! ### Directories -/

namespace DirectoryMount

variable {place : List String} {entries : List (String × Node)}

/-- A resource whose path starts with the base is named by the rest of the path. -/
theorem name_resource_of_text_eq (mount : DirectoryMount) {file : Path} {rest : String}
    (htext : file.text = mount.base ++ "/" ++ rest) (hback : '\\' ∉ file.text.toList) :
    (mount.resource file).name = rest := by
  have hchars : file.text.toList = mount.base.toList ++ '/' :: rest.toList := by
    rw [htext, String.toList_append, String.toList_append, List.append_assoc]
    rfl
  have hrest : '\\' ∉ '/' :: rest.toList := fun hmem =>
    hback (hchars ▸ List.mem_append_right _ hmem)
  rw [resource, hchars, ← String.length_toList, List.drop_left, canonicalName, String.toList_ofList,
    exchange_eq_self hrest]
  exact String.ofList_toList

/-- A walk that comes to an error after some files yields these files and fails. -/
theorem collect_files_append_error (mount : DirectoryMount) (files : List Path)
    (error : Disk.OpenError) (rest : List Disk.Found) :
    mount.collect (files.map .file ++ .error error :: rest) =
      (⟨files.map mount.resource, some (.opening (.walking mount.root.text) error)⟩ :
        Run Resource (Failure ε)) := by
  induction files with
  | nil => rfl
  | cons file files ih => rw [List.map_cons, List.cons_append, collect, ih, List.map_cons]

/-- A walk through a directory mount yields the files below its root, or those before the first path that is
refused. -/
theorem walk_cases (mount : DirectoryMount) (hdisk : disk.IsSound)
    (hresolve : disk.resolve mount.root = .ok (place, .directory entries)) :
    (disk.refusedBelow mount.root (.directory entries) = ∅ ∧
      ∃ paths, IsListing paths (disk.filesBelow mount.root (.directory entries)) ∧
        (mount.walk disk : Run Resource (Failure ε)) =
          ⟨paths.map fun names => mount.resource (mount.root.below names), none⟩) ∨
    (∃ first ∈ disk.refusedBelow mount.root (.directory entries),
      (∀ other ∈ disk.refusedBelow mount.root (.directory entries), first ≤ other) ∧
      ∃ paths, IsListing paths
          {names ∈ disk.filesBelow mount.root (.directory entries) | names < first} ∧
        (mount.walk disk : Run Resource (Failure ε)) =
          ⟨paths.map fun names => mount.resource (mount.root.below names),
            some (.during (.walking mount.root.text)
              (.system (.refused .nameTooLong (mount.root.below first).text)))⟩) := by
  have hsound := hdisk.root.of_at? (Disk.at?_of_resolve hresolve)
  rcases Set.eq_empty_or_nonempty (disk.refusedBelow mount.root (.directory entries)) with
    hnone | hsome
  · obtain ⟨paths, hpaths, hwalk⟩ := Disk.walk_eq_listing hsound hresolve hnone
    refine .inl ⟨hnone, paths, hpaths, ?_⟩
    have hfiles := collect_files (ε := ε) mount (paths.map mount.root.below)
    rw [List.map_map, List.map_map] at hfiles
    rw [walk, hwalk]
    exact hfiles
  · obtain ⟨first, hfirst, hleast, paths, rest, hpaths, hwalk⟩ :=
      Disk.walk_eq_listing_append hsound hresolve hsome
    refine .inr ⟨first, hfirst, hleast, paths, hpaths, ?_⟩
    have hfiles := collect_files_append_error (ε := ε) mount (paths.map mount.root.below)
      (Disk.lengthError (mount.root.below first)) rest
    rw [List.map_map, List.map_map] at hfiles
    rw [walk, hwalk]
    exact hfiles

/-- A walk through a directory mount yields one resource for each file below its root, in the order of the
paths: for regular files and for links to such, which lie in the root or in directories below it that are
reached through no link. Only a path that the system refuses as too long cuts the walk short, with an error
in place of what comes at that path and after it. Each resource is located at its path and, where the path
holds no backslash, named by what follows the base. Going down, a walk checks each entry of a directory for
being a directory first, then for being a link, and else for being a file. -/
theorem walk_lists_files (mount : DirectoryMount) (hdisk : disk.IsSound)
    (hresolve : disk.resolve mount.root = .ok (place, .directory entries)) :
    ((disk.refusedBelow mount.root (.directory entries) = ∅ ∧
        ∃ paths, IsListing paths (disk.filesBelow mount.root (.directory entries)) ∧
          (mount.walk disk : Run Resource (Failure ε)) =
            ⟨paths.map fun names => mount.resource (mount.root.below names), none⟩) ∨
      (∃ first ∈ disk.refusedBelow mount.root (.directory entries),
        (∀ other ∈ disk.refusedBelow mount.root (.directory entries), first ≤ other) ∧
        ∃ paths, IsListing paths
            {names ∈ disk.filesBelow mount.root (.directory entries) | names < first} ∧
          (mount.walk disk : Run Resource (Failure ε)) =
            ⟨paths.map fun names => mount.resource (mount.root.below names),
              some (.during (.walking mount.root.text)
                (.system (.refused .nameTooLong (mount.root.below first).text)))⟩)) ∧
    (∀ file : Path, (mount.resource file).location = "file:" ++ file.text ∧
      ∀ rest, file.text = mount.base ++ "/" ++ rest → '\\' ∉ file.text.toList →
        (mount.resource file).name = rest) ∧
    ∀ (path : Path) (place : List String) (inner : List (String × Node)), path.IsNormal →
      disk.resolve path = .ok (place, .directory inner) →
      (∀ entry ∈ inner, ¬ Node.componentLimit < entry.1.utf8ByteSize) →
      disk.walk path = (Node.sortedEntries inner).flatMap (disk.enter path) :=
  ⟨mount.walk_cases hdisk hresolve,
    fun _ => ⟨rfl, fun _ htext hback => mount.name_resource_of_text_eq htext hback⟩,
    fun _ _ _ hpath hinner hshort => Disk.walk_eq hdisk hpath hinner hshort⟩

/-- A directory with a link between two files. -/
def linkTree (target : String) : Node :=
  .directory [("z", .file ⟨[], none⟩), ("l", .link target), ("a", .file ⟨[], none⟩)]

/-- A disk with the directory. -/
def linkDisk (target : String) : Disk := ⟨.directory [("d", linkTree target)], [], 0⟩

/-- The mount of the directory. -/
def linkMount : DirectoryMount := ⟨⟨.slash, ["d"]⟩, "/d"⟩

theorem isSound_linkDisk (target : String) : (linkDisk target).IsSound where
  root := by
    have hnames : ∀ name ∈ ["z", "l", "a"], IsFileName name := by decide
    refine Node.isSound_directory (List.nodup_singleton "d") (by simp; decide) fun entry hentry => ?_
    obtain rfl := List.mem_singleton.1 hentry
    refine Node.isSound_directory (show ["z", "l", "a"].Nodup by decide)
      (List.forall_mem_map.1 hnames) fun entry hentry => ?_
    simp only [List.mem_cons, List.not_mem_nil, or_false] at hentry
    rcases hentry with rfl | rfl | rfl
    · exact Node.isSound_file _
    · exact Node.isSound_link target
    · exact Node.isSound_file _
  cwd := by simp [linkDisk]

theorem resolve_linkDisk (target : String) :
    (linkDisk target).resolve linkMount.root = .ok (["d"], linkTree target) := rfl

/-- Nothing is refused where the link leads to the directory above. -/
theorem notMem_refusedBelow_linkDisk (names : List String) :
    names ∉ (linkDisk "..").refusedBelow linkMount.root (linkTree "..") := by
  rintro ⟨hne, hrefused⟩
  obtain ⟨name, rest, rfl⟩ := List.exists_cons_of_ne_nil hne
  have hsingle : ∀ found, (linkTree "..").at? (name :: rest) = some found →
      (name = "z" ∨ name = "l" ∨ name = "a") ∧ rest = [] := by
    intro found hfound
    obtain ⟨child, hmem, hchild⟩ := Node.exists_mem_of_at?_cons hfound
    simp only [List.mem_cons, Prod.mk.injEq, List.not_mem_nil, or_false] at hmem
    rcases hmem with ⟨rfl, rfl⟩ | ⟨rfl, rfl⟩ | ⟨rfl, rfl⟩
    · exact ⟨by simp, Node.eq_nil_of_at?_file hchild⟩
    · exact ⟨by simp, Node.eq_nil_of_at?_link hchild⟩
    · exact ⟨by simp, Node.eq_nil_of_at?_file hchild⟩
  rcases hrefused with ⟨⟨found, hfound⟩, hlong⟩ | ⟨⟨target, hlink⟩, error, herror⟩
  · obtain ⟨hname, rfl⟩ := hsingle found hfound
    rcases hname with rfl | rfl | rfl <;> exact absurd hlong (by decide)
  · obtain ⟨hname, rfl⟩ := hsingle _ hlink
    rcases hname with rfl | rfl | rfl <;> cases herror

/-- A walk does not follow a link to the directory above, and comes to the files on both sides of it. -/
theorem walk_lists_files_linkDisk :
    (linkDisk "..").refusedBelow linkMount.root (linkTree "..") = ∅ ∧
      ∃ paths, IsListing paths ((linkDisk "..").filesBelow linkMount.root (linkTree "..")) ∧
        (linkMount.walk (linkDisk "..") : Run Resource (Failure Empty)) =
          ⟨paths.map fun names => linkMount.resource (linkMount.root.below names), none⟩ := by
  rcases (walk_lists_files linkMount (isSound_linkDisk "..") (resolve_linkDisk "..")).1 with
    hlisted | ⟨first, hfirst, -⟩
  · exact hlisted
  · exact absurd hfirst (notMem_refusedBelow_linkDisk first)

/-- A link to a name that is too long is refused. -/
theorem mem_refusedBelow_linkDisk {target : String} (h : IsComponent target) (hdotdot : target ≠ "..")
    (hlong : Node.componentLimit < target.utf8ByteSize) :
    ["l"] ∈ (linkDisk target).refusedBelow linkMount.root (linkTree target) := by
  have hstart : startsWith "/" target = false := by
    rw [startsWith, ← Bool.not_eq_true, List.isPrefixOf_iff_prefix]
    exact fun hslash => h.slash_notMem (hslash.subset (by simp))
  have hlink : (linkDisk target).root.advance [] ["d", "l"] = .detour ["d"] [target] := by
    have hdetour : (linkDisk target).root.advance [] ["d", "l"] =
        .detour (if startsWith "/" target then [] else ["d"]) (Node.steps target ++ []) := rfl
    rw [hdetour, hstart, Node.steps_of_isComponent h]
    rfl
  have hstop : (linkDisk target).root.advance ["d"] [target] = .failed .nameTooLong :=
    Node.advance_cons_long rfl h.ne_dot hdotdot hlong
  have hresolve : (linkDisk target).resolve (linkMount.root.below ["l"]) =
      .error (.refused .nameTooLong) := by
    have hsteps : Node.steps (linkMount.root.below ["l"]).text = ["d", "l"] := by decide
    rw [Disk.resolve_eq ⟨rfl, by decide⟩ (by decide) (by decide), hsteps, Node.follow, Node.linkLimit,
      Node.followWithin, hlink]
    simp only [Node.followWithin, hstop]
    rfl
  refine ⟨by simp, .inr ⟨⟨target, rfl⟩, .refused .nameTooLong (linkMount.root.below ["l"]).text, ?_⟩⟩
  rw [Disk.isFile, Disk.check, hresolve]

/-- A walk does not always come to an end with all files: a link to a name that is too long for the system
cuts it short. -/
theorem not_forall_walk_lists_files :
    ¬ ∀ (disk : Disk) (mount : DirectoryMount) (place : List String) (entries : List (String × Node)),
      disk.IsSound → disk.resolve mount.root = .ok (place, .directory entries) →
      ∃ paths, IsListing paths (disk.filesBelow mount.root (.directory entries)) ∧
        (mount.walk disk : Run Resource (Failure Empty)) =
          ⟨paths.map fun names => mount.resource (mount.root.below names), none⟩ := by
  intro h
  -- A target of 256 characters is one more than the system takes.
  set target := String.ofList (List.replicate 256 'x')
  have hlength : target.toList.length = 256 := by
    rw [String.toList_ofList, List.length_replicate]
  have hslash : '/' ∉ target.toList := by
    rw [String.toList_ofList]
    exact fun hmem => absurd (List.mem_replicate.1 hmem).2 (by decide)
  have hother : ∀ text : String, text.toList.length ≠ 256 → target ≠ text := by
    rintro text hne rfl
    exact hne hlength
  have hcomponent : IsComponent target :=
    ⟨hother "" (by decide), hother "." (by decide), hslash⟩
  have hlong : Node.componentLimit < target.utf8ByteSize := by
    have hle := length_le_utf8ByteSize (List.replicate 256 'x')
    rwa [List.length_replicate] at hle
  have hrefused := mem_refusedBelow_linkDisk hcomponent (hother ".." (by decide)) hlong
  obtain ⟨paths, -, hwalk⟩ := h (linkDisk target) linkMount _ _ (isSound_linkDisk target)
    (resolve_linkDisk target)
  rcases linkMount.walk_cases (ε := Empty) (isSound_linkDisk target) (resolve_linkDisk target) with
    ⟨hnone, -⟩ | ⟨first, -, -, paths, -, hfails⟩
  · have hmem : ["l"] ∈ (∅ : Set (List String)) := hnone ▸ hrefused
    exact hmem
  · rw [hfails] at hwalk
    exact absurd (congrArg Run.failure? hwalk) (by simp)

end DirectoryMount

/-! ### Archives -/

/-- The path of a package ends in no slash. -/
theorem trimSlashes_packagePath (package : String) :
    trimSlashes (packagePath package).toList = (packagePath package).toList := by
  rw [packagePath_eq_fileName]
  exact trimSlashes_fileName fun _ => isComponent_packageNames

/-- A text without a percent sign is read as it is where escapes are decoded. -/
theorem Uri.not_hasEscape {text : List Char} (h : '%' ∉ text) : ¬ Uri.HasEscape text := by
  rintro ⟨a, b, hpart, -, -⟩
  exact h (hpart.subset List.mem_cons_self)

/-- The mount of a package in an archive. -/
theorem mount_ofLocation_archive_eq (hentry : entry.IsNormal)
    (hpackage : '%' ∉ (packagePath package).toList) :
    Mount.ofLocation (archiveLocation entry package) (packagePath package) =
      .ok (.archive ⟨entry, archiveBase entry, packagePath package⟩) := by
  rw [mount_ofLocation_archive hentry,
    (ofList_trimBoth_decodePercent_eq_iff package).2 (Uri.not_hasEscape hpackage)]

/-- An archive that opens and that has no member which is the top yields its members below the directory of the
mount. -/
theorem ArchiveMount.walk_eq_of_openArchive (mount : ArchiveMount) {archive : Archive}
    (hopen : openArchive disk (.readingArchive mount.archive.text) mount.archive =
      (.ok archive : Except (Failure ε) _)) (hcircular : ¬ archive.IsCircular) :
    (mount.walk disk : Run Resource (Failure ε)) =
      ⟨(archive.files mount.file mount.start).map mount.resource, none⟩ := by
  rcases mount.walk_cases hopen with ⟨-, hwalk⟩ | ⟨hback, -⟩
  · exact hwalk
  · exact absurd hback.2 hcircular

theorem ArchiveMount.mem_names_walk_iff (mount : ArchiveMount) {archive : Archive} {name : String}
    (hopen : openArchive disk (.readingArchive mount.archive.text) mount.archive =
      (.ok archive : Except (Failure ε) _)) (hcircular : ¬ archive.IsCircular) :
    name ∈ (mount.walk disk : Run Resource (Failure ε)).items.map (·.name) ↔
      ∃ member, archive.IsBelow (trimSlashes mount.inner.toList) member ∧
        name = canonicalName member := by
  rw [mount.walk_eq_of_openArchive hopen hcircular, List.map_map, List.mem_map, ← mount.trimSlashes_start]
  refine exists_congr fun member => ?_
  rw [Archive.mem_files_iff]
  exact and_congr_right fun _ => eq_comm

/-- The names that a walk through an archive yields below a package are the canonical names of the members
that are no directories and that start with the path of the package and a slash. The archive may list names
in any order and repeat them, and the names may have any components; they only must not start with a slash
or have an empty last component. The walk ends, for it goes from directory to directory along a relation
that is well-founded. -/
theorem ArchiveMount.names_walk_eq_members_below {archive : Archive} (hentry : entry.IsNormal)
    (hpackage : '%' ∉ (packagePath package).toList)
    (hopen : openArchive disk (.readingArchive entry.text) entry =
      (.ok archive : Except (Failure ε) _))
    (hnames : ∀ name ∈ archive.memberNames,
      name ≠ "" ∧ IsRelative name.toList ∧ endsWith "//" name = false) :
    (∀ file, WellFounded fun child directory => child ∈ archive.children file directory) ∧
      (∀ file rounds directory, archive.walk file rounds directory =
        ⟨(archive.children file directory).flatMap fun name =>
          if Archive.isDirectory name then (archive.walk file rounds name).names else [name], false⟩) ∧
      ∃ mount, Mount.ofLocation (archiveLocation entry package) (packagePath package) =
          .ok (.archive mount) ∧
        (mount.walk disk : Run Resource (Failure ε)).failure? = none ∧
        ∀ name, name ∈ (mount.walk disk : Run Resource (Failure ε)).items.map (·.name) ↔
          ∃ member ∈ archive.memberNames, endsWith "/" member = false ∧
            (packagePath package = "" ∨ startsWith (packagePath package ++ "/") member = true) ∧
            name = canonicalName member := by
  obtain ⟨mount, hmount⟩ : ∃ mount : ArchiveMount,
      mount = ⟨entry, archiveBase entry, packagePath package⟩ := ⟨_, rfl⟩
  have hopens : openArchive disk (.readingArchive mount.archive.text) mount.archive =
      (.ok archive : Except (Failure ε) _) := by rw [hmount, hopen]
  have hproper : ∀ name ∈ archive.memberNames, name ≠ "" ∧ IsRelative name.toList :=
    fun name hname => ⟨(hnames name hname).1, (hnames name hname).2.1⟩
  have hinner : trimSlashes mount.inner.toList = (packagePath package).toList := by
    rw [hmount, trimSlashes_packagePath]
  have hcircular := Archive.not_isCircular hproper
  refine ⟨Archive.wellFounded_children hcircular, Archive.walk_eq hcircular, mount, ?_, ?_,
    fun name => ?_⟩
  · rw [hmount, mount_ofLocation_archive_eq hentry hpackage]
  · rw [mount.walk_eq_of_openArchive hopens hcircular]
  · rw [mount.mem_names_walk_iff hopens hcircular, hinner]
    refine exists_congr fun member => ?_
    rw [Archive.isBelow_iff hproper (trimSlashes_packagePath package),
      startsWith, List.isPrefixOf_iff_prefix, String.toList_append, String.toList_eq_nil_iff,
      and_assoc, and_assoc]
    rfl

/-- An archive with a file and a directory of one name, with empty components and components of dots, and
with a member that it lists twice. -/
def oddArchive : Archive where
  members := [.stored "a//x" [], .stored "a/../y" [], .stored "a\\z" [], .stored "b/a" [],
    .stored "a" [], .stored "a/" [], .stored "a/x\\y" [], .stored "a//x" []]
  defect? := none

/-- A disk with the odd archive only. -/
def oddDisk : Disk := ⟨.directory [("z", .file ⟨[], some oddArchive⟩)], [], 0⟩

/-- The names below a package of the odd archive. -/
theorem ArchiveMount.names_walk_oddDisk :
    ∃ mount, Mount.ofLocation (archiveLocation ⟨.slash, ["z"]⟩ "a") (packagePath "a") =
        .ok (.archive mount) ∧
      (mount.walk oddDisk : Run Resource (Failure Empty)).failure? = none ∧
      ∀ name, name ∈ (mount.walk oddDisk : Run Resource (Failure Empty)).items.map (·.name) ↔
        name ∈ ["a//x", "a/../y", "a/x/y"] := by
  have hentry : (⟨.slash, ["z"]⟩ : Path).IsNormal := ⟨rfl, by decide⟩
  have hpackage : '%' ∉ (packagePath "a").toList := by decide
  have hopen : openArchive oddDisk (.readingArchive (Path.text ⟨.slash, ["z"]⟩)) ⟨.slash, ["z"]⟩ =
      (.ok oddArchive : Except (Failure Empty) _) := rfl
  obtain ⟨-, -, mount, hmount, hfailure, hwalk⟩ :=
    names_walk_eq_members_below hentry hpackage hopen (by decide)
  refine ⟨mount, hmount, hfailure, fun name => (hwalk name).trans ?_⟩
  have hfound : ∀ member ∈ oddArchive.memberNames, endsWith "/" member = false →
      startsWith (packagePath "a" ++ "/") member = true →
      canonicalName member ∈ ["a//x", "a/../y", "a/x/y"] := by decide
  have hlisted : ∀ name ∈ ["a//x", "a/../y", "a/x/y"], ∃ member ∈ oddArchive.memberNames,
      endsWith "/" member = false ∧ startsWith (packagePath "a" ++ "/") member = true ∧
      name = canonicalName member := by decide
  constructor
  · rintro ⟨member, hmember, hfile, hstart, rfl⟩
    exact hfound member hmember hfile (hstart.resolve_left (by decide))
  · intro hname
    obtain ⟨member, hmember, hfile, hstart, heq⟩ := hlisted name hname
    exact ⟨member, hmember, hfile, .inr hstart, heq⟩

end Lookup
