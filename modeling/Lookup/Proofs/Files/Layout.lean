import Lookup.Proofs.Files.Listing
import Lookup.Proofs.Files.MemberName
import Lookup.Proofs.Files.Node
import Lookup.Proofs.Text.Order

/-!
# Layouts

A layout is a finite set of files at relative paths. It can be laid out as a directory, or as an archive
that lists its files and any of the directories on the way to them.

## Main definitions

* `Layout` — files at relative paths
* `Layout.directories`, `Layout.below` — the directories on the way, and the files below one
* `Layout.InTree`, `Layout.InArchive` — a directory and an archive with the files of a layout
* `Layout.IsEntry` — names in an archive and their paths

## Main results

* `Layout.InArchive.mem_names` — the names in an archive are those of the files and directories
* `Layout.InArchive.mem_inside` — what lies in a directory of an archive
* `Layout.InArchive.exists_isListing_walk` — a walk lists the files below a directory
-/

namespace Lookup.Files

open Text

/-- Files at relative paths, none of which is on the way to another. -/
structure Layout where
  files : Finset (List String)
  ne_nil : [] ∉ files
  isFileName : ∀ file ∈ files, ∀ name ∈ file, IsFileName name
  backslash_notMem : ∀ file ∈ files, ∀ name ∈ file, '\\' ∉ name.toList
  prefixFree : ∀ file ∈ files, ∀ other ∈ files, file <+: other → file = other

namespace Layout

variable {layout : Layout} {path directory : List String} {file name : String}

/-- The directories on the way to the files. -/
def directories (layout : Layout) : Set (List String) :=
  {directory | directory ≠ [] ∧ ∃ file ∈ layout.files, directory <+: file ∧ directory ≠ file}

/-- The paths of the files below a directory, from there. -/
def below (layout : Layout) (names : List String) : Set (List String) :=
  {rest | rest ≠ [] ∧ names ++ rest ∈ layout.files}

theorem notMem_files_of_mem_directories (h : directory ∈ layout.directories) :
    directory ∉ layout.files := by
  obtain ⟨-, file, hfile, hfront, hne⟩ := h
  exact fun hmem => hne (layout.prefixFree directory hmem file hfile hfront)

theorem isFileName_of_mem_directories (h : directory ∈ layout.directories) :
    ∀ name ∈ directory, IsFileName name := by
  obtain ⟨-, file, hfile, hfront, -⟩ := h
  exact fun name hname => layout.isFileName file hfile name (hfront.subset hname)

/-- A tree whose files are those of the layout, without links. -/
structure InTree (layout : Layout) (node : Node) : Prop where
  isSound : node.IsSound
  isLinkFree : node.IsLinkFree
  mem_files : ∀ path, path ∈ layout.files ↔ ∃ content, node.at? path = some (.file content)

/-- An archive that lists the files of the layout and any directories on the way to them, each once. -/
structure InArchive (layout : Layout) (archive : Archive) : Prop where
  sound : archive.sound = true
  nodup : archive.memberNames.Nodup
  file_mem : ∀ file ∈ layout.files, fileName file ∈ archive.memberNames
  of_mem : ∀ name ∈ archive.memberNames, (∃ file ∈ layout.files, name = fileName file) ∨
    ∃ directory ∈ layout.directories, name = directoryName directory

/-! ### Names and paths -/

/-- The name of the file or directory at a path. -/
def IsEntry (layout : Layout) (name : String) (path : List String) : Prop :=
  (path ∈ layout.files ∧ name = fileName path) ∨
    (path ∈ layout.directories ∧ name = directoryName path)

theorem IsEntry.isComponent (h : layout.IsEntry name path) : ∀ part ∈ path, IsComponent part := by
  rcases h with ⟨hfile, -⟩ | ⟨hdirectory, -⟩
  · exact fun part hpart => (layout.isFileName path hfile part hpart).toIsComponent
  · exact fun part hpart => (isFileName_of_mem_directories hdirectory part hpart).toIsComponent

theorem IsEntry.ne_nil (h : layout.IsEntry name path) : path ≠ [] := by
  rcases h with ⟨hfile, -⟩ | ⟨hdirectory, -⟩
  · exact fun hnil => layout.ne_nil (hnil ▸ hfile)
  · exact hdirectory.1

/-- A path has one name, since no file is on the way to another. -/
theorem IsEntry.eq {other : String} (h : layout.IsEntry name path)
    (hother : layout.IsEntry other path) : name = other := by
  rcases h with ⟨hfile, rfl⟩ | ⟨hdirectory, rfl⟩ <;>
    rcases hother with ⟨hfile', rfl⟩ | ⟨hdirectory', rfl⟩
  · rfl
  · exact absurd hfile (notMem_files_of_mem_directories hdirectory')
  · exact absurd hfile' (notMem_files_of_mem_directories hdirectory)
  · rfl

theorem IsEntry.trimSlashes_eq (h : layout.IsEntry name path) :
    trimSlashes name.toList = (fileName path).toList := by
  have hpath := h.isComponent
  rcases h with ⟨-, rfl⟩ | ⟨-, rfl⟩
  · exact trimSlashes_fileName hpath
  · exact trimSlashes_directoryName hpath

theorem IsEntry.lastComponent_eq {last : String} (h : layout.IsEntry name (path ++ [last])) :
    Archive.lastComponent file name = last := by
  have hpath := h.isComponent
  rcases h with ⟨-, rfl⟩ | ⟨-, rfl⟩
  · exact lastComponent_fileName hpath
  · exact lastComponent_directoryName hpath

theorem exists_isEntry_above {file : List String} (hfile : file ∈ layout.files)
    (hne : directory ≠ []) (hfront : directory <+: file) : ∃ name, layout.IsEntry name directory := by
  by_cases heq : directory = file
  · exact ⟨fileName directory, .inl ⟨heq ▸ hfile, rfl⟩⟩
  · exact ⟨directoryName directory, .inr ⟨⟨hne, file, hfile, hfront, heq⟩, rfl⟩⟩

/-! ### Archives -/

namespace InArchive

variable {archive : Archive}

theorem isEntry_of_mem_memberNames (h : layout.InArchive archive)
    (hname : name ∈ archive.memberNames) : ∃ path, layout.IsEntry name path := by
  rcases h.of_mem name hname with ⟨file, hfile, heq⟩ | ⟨directory, hdirectory, heq⟩
  · exact ⟨file, .inl ⟨hfile, heq⟩⟩
  · exact ⟨directory, .inr ⟨hdirectory, heq⟩⟩

/-- The directories that the name at a path implies are those on the way to it. -/
theorem mem_ancestors_of_isEntry (hentry : layout.IsEntry name path) {parent : List Char} :
    parent ∈ ancestors (trimSlashes name.toList).length (trimSlashes name.toList) ↔
      ∃ directory, directory ≠ [] ∧ directory <+: path ∧ directory ≠ path ∧
        parent = (fileName directory).toList := by
  rw [hentry.trimSlashes_eq]
  exact mem_ancestors_fileName hentry.isComponent (length_le_length_fileName hentry.isComponent)

theorem mem_directories_of_isEntry (hentry : layout.IsEntry name path) (hne : directory ≠ [])
    (hfront : directory <+: path) (hother : directory ≠ path) : directory ∈ layout.directories := by
  rcases hentry with ⟨hfile, -⟩ | ⟨⟨-, file, hfile, hpath, -⟩, -⟩
  · exact ⟨hne, path, hfile, hfront, hother⟩
  · refine ⟨hne, file, hfile, hfront.trans hpath, fun heq => hother ?_⟩
    exact hfront.eq_of_length (Nat.le_antisymm hfront.length_le (heq ▸ hpath.length_le))

/-- The names in an archive are those of the files and of the directories on the way to them. -/
theorem mem_names (h : layout.InArchive archive) :
    name ∈ archive.names ↔ ∃ path, layout.IsEntry name path := by
  rw [Archive.names, List.mem_append, Archive.impliedDirectories, mem_distinct, List.mem_flatMap]
  constructor
  · rintro (hmember | ⟨⟨member, hmember, hname⟩, -⟩)
    · exact h.isEntry_of_mem_memberNames hmember
    · obtain ⟨path, hentry⟩ := h.isEntry_of_mem_memberNames hmember
      obtain ⟨parent, hparent, rfl⟩ := List.mem_map.1 hname
      obtain ⟨directory, hne, hfront, hother, rfl⟩ := (mem_ancestors_of_isEntry hentry).1 hparent
      refine ⟨directory, .inr ⟨mem_directories_of_isEntry hentry hne hfront hother, ?_⟩⟩
      rw [← toList_directoryName hne, String.ofList_toList]
  · rintro ⟨path, ⟨hfile, rfl⟩ | ⟨⟨hne, file, hfile, hfront, hother⟩, rfl⟩⟩
    · exact .inl (h.file_mem path hfile)
    · -- A directory without a member of its own is implied by the file that it leads to.
      by_cases hmember : directoryName path ∈ archive.memberNames
      · exact .inl hmember
      refine .inr ⟨⟨fileName file, h.file_mem file hfile, ?_⟩, hmember⟩
      refine List.mem_map.2 ⟨(fileName path).toList, ?_, ?_⟩
      · exact (mem_ancestors_of_isEntry (.inl ⟨hfile, rfl⟩)).2 ⟨path, hne, hfront, hother, rfl⟩
      · rw [← toList_directoryName hne, String.ofList_toList]

theorem nodup_names (h : layout.InArchive archive) : archive.names.Nodup := by
  rw [Archive.names, Archive.impliedDirectories]
  refine List.nodup_append.2 ⟨h.nodup, nodup_distinct _ _, fun name hname other hother heq => ?_⟩
  exact (mem_distinct.1 hother).2 (heq ▸ hname)

/-- What lies in a directory of an archive has a path with one more component. -/
theorem mem_inside (h : layout.InArchive archive) (hdirectory : ∀ part ∈ directory, IsComponent part) :
    name ∈ archive.inside file (directoryName directory) ↔
      ∃ last, layout.IsEntry name (directory ++ [last]) := by
  rw [Archive.mem_inside_iff, h.mem_names, trimSlashes_directoryName hdirectory]
  constructor
  · rintro ⟨⟨path, hentry⟩, -, hparent⟩
    obtain ⟨first, last, hpath⟩ := (List.eq_nil_or_concat path).resolve_left hentry.ne_nil
    rw [List.concat_eq_append] at hpath
    subst hpath
    have hcomponent := hentry.isComponent
    rw [hentry.trimSlashes_eq, parentName_fileName hcomponent, String.toList_inj] at hparent
    obtain rfl := fileName_injective (fun part hpart =>
      hcomponent part (List.mem_append_left _ hpart)) hdirectory hparent
    exact ⟨last, hentry⟩
  · rintro ⟨last, hentry⟩
    rw [hentry.trimSlashes_eq, parentName_fileName hentry.isComponent]
    exact ⟨⟨_, hentry⟩, fileName_ne_nil hentry.isComponent hentry.ne_nil, rfl⟩

/-- No name in an archive of a layout is one of the top. -/
theorem not_isCircular (h : layout.InArchive archive) : ¬ archive.IsCircular := by
  rintro ⟨name, hname, htop⟩
  obtain ⟨path, hentry⟩ := h.isEntry_of_mem_memberNames hname
  rw [Archive.isTop_iff, hentry.trimSlashes_eq] at htop
  exact fileName_ne_nil hentry.isComponent hentry.ne_nil htop

/-- What lies in a directory of an archive is in strictly increasing order of the last components. -/
theorem pairwise_inside (h : layout.InArchive archive)
    (hdirectory : ∀ part ∈ directory, IsComponent part) :
    (archive.inside file (directoryName directory)).Pairwise
      fun a b => Archive.lastComponent file a < Archive.lastComponent file b := by
  have hinside : archive.inside file (directoryName directory) =
      archive.children file (directoryName directory) :=
    Archive.inside_eq_children fun _ => h.not_isCircular
  have hentry : ∀ name, name ∈ archive.children file (directoryName directory) →
      ∃ last, layout.IsEntry name (directory ++ [last]) := fun name hname =>
    (h.mem_inside hdirectory).1 (hinside ▸ hname)
  rw [hinside]
  refine pairwise_key_lt_mergeSort (List.Nodup.map_on (fun a ha b hb heq => ?_)
    (h.nodup_names.filter _))
  obtain ⟨last, hlast⟩ := hentry a (List.mem_mergeSort.2 ha)
  obtain ⟨last', hlast'⟩ := hentry b (List.mem_mergeSort.2 hb)
  rw [hlast.lastComponent_eq, hlast'.lastComponent_eq] at heq
  exact hlast.eq (heq ▸ hlast')

/-! ### Walks -/

theorem singleton_isListing {file : List String} (hfile : file ∈ layout.files) :
    IsListing [[]] {rest | file ++ rest ∈ layout.files} := by
  refine .singleton fun rest => ⟨fun hrest => ?_, fun hrest => ?_⟩
  · have heq := layout.prefixFree file hfile (file ++ rest) hrest (List.prefix_append file rest)
    exact List.self_eq_append_right.1 heq
  · subst hrest
    simpa using hfile

/-- What is below a directory of a layout is not the directory itself. -/
theorem below_eq (h : directory ∈ layout.directories) :
    layout.below directory = {rest | directory ++ rest ∈ layout.files} := by
  refine Set.ext fun rest => ⟨fun hrest => hrest.2, fun hrest => ⟨?_, hrest⟩⟩
  rintro rfl
  exact notMem_files_of_mem_directories h (by simpa using hrest)

/-- The listings of what lies in a directory of an archive make up that of the directory. -/
theorem isListing_inside (h : layout.InArchive archive)
    (hdirectory : ∀ part ∈ directory, IsComponent part) {found : String → List (List String)}
    (hfound : ∀ name ∈ archive.inside file (directoryName directory),
      IsListing (found name) {rest | directory ++ [Archive.lastComponent file name] ++ rest ∈ layout.files}) :
    IsListing ((archive.inside file (directoryName directory)).flatMap fun name =>
        (found name).map (Archive.lastComponent file name :: ·))
      (layout.below directory) := by
  refine .flatMap (h.pairwise_inside hdirectory) (fun name hname => ?_) ?_
  · have hset : {rest | Archive.lastComponent file name :: rest ∈ layout.below directory} =
        {rest | directory ++ [Archive.lastComponent file name] ++ rest ∈ layout.files} := by simp [below]
    rw [hset]
    exact hfound name hname
  · rintro rest ⟨hne, hfile⟩
    obtain ⟨last, more, rfl⟩ := List.exists_cons_of_ne_nil hne
    have hfront : directory ++ [last] <+: directory ++ last :: more := ⟨more, by simp⟩
    obtain ⟨name, hentry⟩ := exists_isEntry_above hfile (by simp) hfront
    exact ⟨name, (h.mem_inside hdirectory).2 ⟨last, hentry⟩, more,
      by rw [hentry.lastComponent_eq]⟩

/-- A walk deep enough lists the files below a directory of an archive. -/
theorem exists_isListing_filesWithin (h : layout.InArchive archive) {depth : Nat}
    (hdirectory : ∀ part ∈ directory, IsComponent part)
    (hdepth : ∀ rest, directory ++ rest ∈ layout.files → rest.length ≤ depth) :
    ∃ paths, IsListing paths (layout.below directory) ∧
      archive.filesWithin file depth (directoryName directory) =
        paths.map fun rest => fileName (directory ++ rest) := by
  induction depth generalizing directory with
  | zero =>
    refine ⟨[], .of_forall_notMem fun rest hrest => hrest.1 ?_, rfl⟩
    exact List.length_eq_zero_iff.1 (Nat.le_zero.1 (hdepth rest hrest.2))
  | succ depth ih =>
    -- A file is listed by itself, and a directory by what the walk finds below it.
    have hchildren : ∀ name, ∃ paths, name ∈ archive.inside file (directoryName directory) →
        IsListing paths {rest | directory ++ [Archive.lastComponent file name] ++ rest ∈ layout.files} ∧
        (if Archive.isDirectory name then archive.filesWithin file depth name else [name]) =
          paths.map fun rest => fileName (directory ++ [Archive.lastComponent file name] ++ rest) := by
      intro name
      by_cases hname : name ∈ archive.inside file (directoryName directory)
      · obtain ⟨last, hentry⟩ := (h.mem_inside hdirectory).1 hname
        rw [hentry.lastComponent_eq]
        have hcomponent := hentry.isComponent
        rcases hentry with ⟨hfile, rfl⟩ | ⟨hmem, rfl⟩
        · refine ⟨[[]], fun _ => ⟨singleton_isListing hfile, ?_⟩⟩
          rw [isDirectory_fileName hcomponent]
          simp
        · obtain ⟨paths, hpaths, hwalk⟩ := ih hcomponent fun rest hrest => by
            have hle := hdepth (last :: rest) (by rwa [List.append_cons])
            simpa using hle
          rw [below_eq hmem] at hpaths
          refine ⟨paths, fun _ => ⟨hpaths, ?_⟩⟩
          rw [isDirectory_directoryName (by simp), if_pos rfl, hwalk]
      · exact ⟨[], fun hmem => absurd hmem hname⟩
    choose below hbelow using hchildren
    refine ⟨_, h.isListing_inside hdirectory fun name hname => (hbelow name hname).1, ?_⟩
    rw [Archive.filesWithin, List.map_flatMap]
    refine List.flatMap_congr fun name hname => ?_
    rw [(hbelow name hname).2, List.map_map]
    exact List.map_congr_left fun rest _ => by rw [Function.comp_apply, ← List.append_cons]

/-- The walk lists the files below a directory of an archive. -/
theorem exists_isListing_walk (h : layout.InArchive archive) (file : String) (rounds : Nat)
    (hdirectory : ∀ part ∈ directory, IsComponent part) :
    ∃ paths, IsListing paths (layout.below directory) ∧
      archive.walk file rounds (directoryName directory) =
        ⟨paths.map fun rest => fileName (directory ++ rest), false⟩ := by
  rw [Archive.walk_eq_files fun _ => h.not_isCircular]
  refine (h.exists_isListing_filesWithin hdirectory fun rest hfile => ?_).imp fun paths hpaths =>
    ⟨hpaths.1, by rw [Archive.files, hpaths.2]⟩
  have hcomponent : ∀ part ∈ directory ++ rest, IsComponent part := fun part hpart =>
    (layout.isFileName _ hfile part hpart).toIsComponent
  have hname : fileName (directory ++ rest) ∈ archive.names :=
    h.mem_names.2 ⟨_, .inl ⟨hfile, rfl⟩⟩
  -- The walk is as deep as the longest name, which has no more components than characters.
  have hlongest := Archive.length_le_longest hname
  have hlength := length_le_length_fileName hcomponent
  rw [String.length_toList, List.length_append] at hlength
  omega

end InArchive

end Layout

end Lookup.Files
