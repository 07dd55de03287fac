import Lookup.Proofs.Files.Walk
import Lookup.Proofs.Resource.Name
import Lookup.Resource.SearchPath

/-!
# What mounts collect

A directory mount collects the resources of the files that a walk comes to, up to the first error. An
archive mount opens its archive and collects the members that a walk comes to.

## Main results

* `DirectoryMount.collect_sublist`, `DirectoryMount.collect_files` — the resources of files
* `DirectoryMount.exists_failure` — a walk that comes to an error
* `openArchive_eq_ok_iff` — when an archive is opened
* `exposes_of_mem_memberNames` — when an archive exposes a package
-/

namespace Lookup

open Files Text

variable {ε : Type} {disk : Disk} {entry : Path} {resource : Resource}

/-! ### Directories -/

/-- The resources that a directory mount collects are those of the files, as far as it gets. -/
theorem DirectoryMount.collect_sublist (mount : DirectoryMount) (found : List Disk.Found) :
    (mount.collect found : Run Resource (Failure ε)).items.Sublist
      ((found.filterMap Disk.Found.file?).map mount.resource) := by
  induction found with
  | nil => exact List.Sublist.slnil
  | cons step rest ih =>
    cases step with
    | file path => exact ih.cons_cons _
    | error error => exact List.nil_sublist _

theorem DirectoryMount.collect_files (mount : DirectoryMount) (files : List Path) :
    mount.collect (files.map .file) = (⟨files.map mount.resource, none⟩ : Run Resource (Failure ε)) := by
  induction files with
  | nil => rfl
  | cons file rest ih => rw [List.map_cons, collect, ih, List.map_cons]

/-- A walk that comes to an error fails with an error that it comes to. -/
theorem DirectoryMount.exists_failure (mount : DirectoryMount) {found : List Disk.Found}
    (h : ∃ error, .error error ∈ found) :
    ∃ error, .error error ∈ found ∧ (mount.collect found : Run Resource (Failure ε)).failure? =
      some (.opening (.walking mount.root.text) error) := by
  induction found with
  | nil => exact absurd h.choose_spec List.not_mem_nil
  | cons first rest ih =>
    cases first with
    | error error => exact ⟨error, List.mem_cons_self, rfl⟩
    | file path =>
      obtain ⟨error, herror⟩ := h
      have hrest : Disk.Found.error error ∈ rest := by simpa using herror
      obtain ⟨other, hother, hfailure⟩ := ih ⟨error, hrest⟩
      exact ⟨other, List.mem_cons_of_mem _ hother, hfailure⟩

/-- What a walk fails with is an error that it comes to. -/
theorem DirectoryMount.exists_of_failure?_collect (mount : DirectoryMount) {found : List Disk.Found}
    {failure : Failure ε}
    (h : (mount.collect found : Run Resource (Failure ε)).failure? = some failure) :
    ∃ error, .error error ∈ found ∧ failure = .opening (.walking mount.root.text) error := by
  induction found with
  | nil => cases h
  | cons first rest ih =>
    cases first with
    | error error => exact ⟨error, List.mem_cons_self, (Option.some.inj h).symm⟩
    | file path =>
      obtain ⟨error, herror, hfailure⟩ := ih h
      exact ⟨error, List.mem_cons_of_mem _ herror, hfailure⟩

/-- A walk that does not fail collects the resource of every file. -/
theorem DirectoryMount.mem_collect (mount : DirectoryMount) {found : List Disk.Found} {file : Path}
    (h : .file file ∈ found)
    (hfailure : (mount.collect found : Run Resource (Failure ε)).failure? = none) :
    mount.resource file ∈ (mount.collect found : Run Resource (Failure ε)).items := by
  induction found with
  | nil => exact absurd h List.not_mem_nil
  | cons first rest ih =>
    cases first with
    | error error => simp [collect] at hfailure
    | file path =>
      rcases List.mem_cons.1 h with heq | h
      · rw [Disk.Found.file.inj heq]
        exact List.mem_cons_self
      · exact List.mem_cons_of_mem _ (ih h hfailure)

theorem DirectoryMount.exists_of_mem_collect (mount : DirectoryMount) {found : List Disk.Found}
    (h : resource ∈ (mount.collect found : Run Resource (Failure ε)).items) :
    ∃ file, .file file ∈ found ∧ resource = mount.resource file := by
  induction found with
  | nil => exact absurd h List.not_mem_nil
  | cons first rest ih =>
    cases first with
    | error error => exact absurd h List.not_mem_nil
    | file path =>
      rcases List.mem_cons.1 h with rfl | h
      · exact ⟨path, List.mem_cons_self, rfl⟩
      · obtain ⟨file, hfile, heq⟩ := ih h
        exact ⟨file, List.mem_cons_of_mem _ hfile, heq⟩

/-! ### Archives -/

theorem Files.Archive.sound_iff {archive : Archive} : archive.sound = true ↔ archive.defect? = none := by
  rw [Archive.sound, Option.isNone_iff_eq_none]

/-- An archive is opened if it is what a file holds and if its list of members is sound. -/
theorem openArchive_eq_ok_iff {activity : Activity} {archive : Archive} :
    openArchive disk activity entry = (.ok archive : Except (Failure ε) _) ↔
      ∃ content, disk.content entry = .ok content ∧ content.archive = some archive ∧
        archive.sound = true := by
  rw [openArchive]
  cases disk.content entry with
  | error error => simp
  | ok content =>
    simp only [Except.ok.injEq, exists_eq_left']
    cases content.archive with
    | none => simp
    | some found =>
      dsimp only
      cases hdefect : found.defect? with
      | none =>
        simp only [Except.ok.injEq, Option.some.injEq]
        exact ⟨fun heq => ⟨heq, heq ▸ Archive.sound_iff.2 hdefect⟩, And.left⟩
      | some defect =>
        simp only [reduceCtorEq, false_iff, Option.some.injEq]
        rintro ⟨rfl, hsound⟩
        rw [Archive.sound_iff, hdefect] at hsound
        cases hsound

/-- A walk through the archive mount of a package starts at the directory of the package. -/
theorem ArchiveMount.start_mk (archive : Path) (base package : String) :
    (ArchiveMount.mk archive base (packagePath package)).start =
      directoryName (packageNames package) := by
  rw [directoryName, ← packagePath_eq_fileName, start]
  simp only [packagePath_eq_empty_iff]

/-- The directory of an archive mount and what a walk starts at have the same name, apart from slashes at
the end. -/
theorem ArchiveMount.trimSlashes_start (mount : ArchiveMount) :
    trimSlashes mount.start.toList = trimSlashes mount.inner.toList := by
  rw [start]
  split
  · next hempty => rw [hempty]
  · rw [String.toList_append]
    exact trimSlashes_append_slash _

/-- An archive mount yields the files below its directory, unless the walk is led back to its start: then it
yields some of them again and again. -/
theorem ArchiveMount.walk_cases (mount : ArchiveMount) {archive : Archive}
    (hopen : openArchive disk (.readingArchive mount.archive.text) mount.archive =
      (.ok archive : Except (Failure ε) _)) :
    (¬ archive.LeadsBack (trimSlashes mount.inner.toList) ∧ (mount.walk disk : Run Resource (Failure ε)) =
      ⟨(archive.files mount.file mount.start).map mount.resource, none⟩) ∨
    (archive.LeadsBack (trimSlashes mount.inner.toList) ∧
      (mount.walk disk : Run Resource (Failure ε)) =
        ⟨(List.replicate (disk.rounds + 2) (archive.filesBefore mount.file)).flatten.map mount.resource,
          some (.fault .endless)⟩) := by
  have hcollect : (mount.walk disk : Run Resource (Failure ε)) =
      mount.collect (archive.walk mount.file disk.rounds mount.start) := by rw [walk, hopen]
  rw [hcollect, ← mount.trimSlashes_start]
  rcases archive.walk_cases mount.file disk.rounds mount.start with ⟨hback, hwalk⟩ | ⟨hback, hwalk⟩
  · exact .inl ⟨hback, by rw [hwalk]; rfl⟩
  · exact .inr ⟨hback, by rw [hwalk]; rfl⟩

/-- An archive with a member below a package exposes the package. -/
theorem exposes_of_mem_memberNames {archive : Archive} {package : String} {rest : List String}
    (hne : rest ≠ []) (h : fileName (packageNames package ++ rest) ∈ archive.memberNames) :
    exposes archive (packagePath package) = true := by
  rw [exposes]
  split
  · simp [List.ne_nil_of_mem h]
  · next hpackage =>
    have hnames : packageNames package ≠ [] := mt packagePath_eq_empty_iff.2 hpackage
    have hname : (fileName (packageNames package ++ rest)).toList =
        (packagePath package ++ "/").toList ++ (fileName rest).toList := by
      rw [fileName_append hnames hne, ← packagePath_eq_fileName, String.toList_append]
    refine List.any_eq_true.2 ⟨_, h, ?_⟩
    rw [startsWith, hname, List.isPrefixOf_iff_prefix]
    exact List.prefix_append _ _

end Lookup
