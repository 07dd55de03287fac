import Lookup.Proofs.Files.Leaves
import Lookup.Proofs.Files.Resolve

/-!
# Walks through directories

A walk through a tree without links comes to the files below the directory in the order of a listing. It
is cut short only by a path that is too long for the system.

## Main results

* `Disk.exists_of_file_mem_walk` — a walk comes to files below its start
* `Disk.nodup_files_walk` — a walk comes to no file twice
* `Disk.walk_of_isLinkFree` — what a walk through a tree without links comes to
-/

namespace Lookup.Files.Disk

open Text

variable {disk : Disk} {path : Path} {node : Node} {place : List String} {leaf : Path × Node}

theorem visit_of_tooLong (h : Node.tooLong leaf.1 = true) :
    disk.visit leaf = [.error (.system (.refused .nameTooLong leaf.1.text))] := if_pos h

theorem visit_of_ne_link (hshort : Node.tooLong leaf.1 = false)
    (hlink : ∀ target, leaf.2 ≠ .link target) : disk.visit leaf = [.file leaf.1] := by
  rw [visit, hshort]
  match hleaf : leaf.2 with
  | .link target => exact absurd hleaf (hlink target)
  | .file content => rfl
  | .directory entries => rfl

theorem eq_of_file_mem_visit {file : Path} (h : .file file ∈ disk.visit leaf) : file = leaf.1 := by
  rw [visit] at h
  split at h
  · simp at h
  split at h
  · split at h
    · simpa using h
    · simp at h
    · simp at h
  · simpa using h

/-- An error that a walk through a directory comes to is one of the system. -/
theorem exists_system_of_error_mem_walk {entries : List (String × Node)}
    (hresolve : disk.resolve path = .ok (place, .directory entries)) {error : OpenError}
    (h : .error error ∈ disk.walk path) : ∃ refusal, error = .system refusal := by
  rw [walk, hresolve] at h
  obtain ⟨leaf, -, hvisit⟩ := List.mem_flatMap.1 h
  rw [visit] at hvisit
  split at hvisit
  · exact ⟨_, Found.error.inj (List.mem_singleton.1 hvisit)⟩
  split at hvisit
  · split at hvisit
    · simp at hvisit
    · simp at hvisit
    · exact ⟨_, Found.error.inj (List.mem_singleton.1 hvisit)⟩
  · simp at hvisit

/-- A walk comes to what lies in the tree below the path at which it starts. -/
theorem exists_at?_of_file_mem_walk (hdisk : disk.IsSound) {file : Path}
    (h : .file file ∈ disk.walk path) :
    ∃ place names found, names ≠ [] ∧ file = path.below names ∧
      disk.root.at? (place ++ names) = some found := by
  rw [walk] at h
  split at h
  · next place entries hresolve =>
    have hplace := at?_of_resolve hresolve
    obtain ⟨leaf, hleaf, hfile⟩ := List.mem_flatMap.1 h
    obtain ⟨name, rest, hbelow, hat⟩ :=
      Node.exists_of_mem_leaves_directory (hdisk.root.of_at? hplace) hleaf
    refine ⟨place, name :: rest, leaf.2, List.cons_ne_nil _ _, ?_, ?_⟩
    · exact (eq_of_file_mem_visit hfile).trans hbelow
    · rw [Node.at?_append, hplace, Option.bind_some, hat]
  · simp at h
  · simp at h

/-- A walk comes to files below the path at which it starts. -/
theorem exists_of_file_mem_walk (hdisk : disk.IsSound) {file : Path}
    (h : .file file ∈ disk.walk path) :
    ∃ names, names ≠ [] ∧ file = path.below names ∧ ∀ name ∈ names, IsFileName name := by
  obtain ⟨place, names, found, hne, hfile, hat⟩ := exists_at?_of_file_mem_walk hdisk h
  exact ⟨names, hne, hfile, fun name hname =>
    hdisk.root.isFileName hat name (List.mem_append_right _ hname)⟩

/-- The file that a walk comes to. -/
def Found.file? : Found → Option Path
  | .file path => some path
  | .error _ => none

theorem mem_filterMap_file? {found : List Found} {file : Path} :
    file ∈ found.filterMap Found.file? ↔ .file file ∈ found := by
  rw [List.mem_filterMap]
  constructor
  · rintro ⟨step, hstep, hfile⟩
    cases step with
    | file path => exact Option.some.inj hfile ▸ hstep
    | error error => simp [Found.file?] at hfile
  · intro hmem
    exact ⟨.file file, hmem, rfl⟩

/-- A leaf is at most one file. -/
theorem nodup_files_visit (disk : Disk) (leaf : Path × Node) :
    ((disk.visit leaf).filterMap Found.file?).Nodup := by
  have hlength : (disk.visit leaf).length ≤ 1 := by
    rw [visit]
    repeat' split
    all_goals simp
  have hle := (List.length_filterMap_le Found.file? (disk.visit leaf)).trans hlength
  cases hfiles : (disk.visit leaf).filterMap Found.file? with
  | nil => exact .nil
  | cons file rest =>
    obtain rfl : rest = [] := List.length_eq_zero_iff.1 (by rw [hfiles, List.length_cons] at hle; omega)
    exact List.nodup_singleton file

/-- A walk comes to no file twice. -/
theorem nodup_files_walk (hdisk : disk.IsSound) (path : Path) :
    ((disk.walk path).filterMap Found.file?).Nodup := by
  rw [walk]
  split
  · next place entries hresolve =>
    have hsound := hdisk.root.of_at? (at?_of_resolve hresolve)
    have hleaves : (Node.leaves path (.directory entries)).Pairwise fun a b => a.1 ≠ b.1 :=
      List.pairwise_map.1 (Node.nodup_leaves hsound)
    rw [List.filterMap_flatMap, List.nodup_flatMap]
    refine ⟨fun leaf _ => nodup_files_visit disk leaf, hleaves.imp ?_⟩
    intro a b hne file ha hb
    have hfileA := eq_of_file_mem_visit (mem_filterMap_file?.1 ha)
    have hfileB := eq_of_file_mem_visit (mem_filterMap_file?.1 hb)
    exact hne (hfileA.symm.trans hfileB)
  · exact .nil
  · exact .nil

/-- A walk through a tree without links comes to its files in order, unless it comes to a path that is
too long. -/
theorem walk_of_isLinkFree {entries : List (String × Node)}
    (hresolve : disk.resolve path = .ok (place, .directory entries))
    (hsound : (Node.directory entries).IsSound) (hlinks : (Node.directory entries).IsLinkFree) :
    (∃ paths, IsListing paths (Node.directory entries).leafNames ∧
      disk.walk path = paths.map fun names => .file (path.below names)) ∨
    ((∃ names, ((Node.directory entries).at? names).isSome ∧ Node.tooLong (path.below names) = true) ∧
      (∃ error, .error error ∈ disk.walk path) ∧
      ∀ error, .error error ∈ disk.walk path → ∃ text, error = .system (.refused .nameTooLong text)) := by
  have hwalk : disk.walk path = (Node.leaves path (.directory entries)).flatMap (disk.visit ·) := by
    rw [walk, hresolve]
  have hleaf : ∀ leaf ∈ Node.leaves path (.directory entries), ∀ target, leaf.2 ≠ .link target := by
    intro leaf hleaf target hlink
    obtain ⟨names, -, hat⟩ := Node.exists_of_mem_leaves hsound hleaf
    exact hlinks names target (hlink ▸ hat)
  by_cases hfits : ∀ leaf ∈ Node.leaves path (.directory entries), Node.tooLong leaf.1 = false
  · obtain ⟨paths, hpaths, hnames⟩ := Node.exists_isListing_leaves hsound hfits
    refine .inl ⟨paths, hpaths, ?_⟩
    have hvisit : (Node.leaves path (.directory entries)).flatMap (disk.visit ·) =
        ((Node.leaves path (.directory entries)).map Prod.fst).map .file := by
      rw [List.map_map, List.map_eq_flatMap]
      exact List.flatMap_congr fun leaf hmem => visit_of_ne_link (hfits leaf hmem) (hleaf leaf hmem)
    rw [hwalk, hvisit, hnames, List.map_map]
    rfl
  · -- The walk comes to a path that is too long, and to no other error.
    simp only [not_forall, Bool.not_eq_false] at hfits
    obtain ⟨leaf, hmem, hlong⟩ := hfits
    obtain ⟨names, hpath, hat⟩ := Node.exists_of_mem_leaves hsound hmem
    refine .inr ⟨⟨names, by simp [hat], hpath ▸ hlong⟩,
      ⟨.system (.refused .nameTooLong leaf.1.text), ?_⟩, fun error herror => ?_⟩
    · rw [hwalk]
      exact List.mem_flatMap.2 ⟨leaf, hmem, by rw [visit_of_tooLong hlong]; exact List.mem_cons_self⟩
    · rw [hwalk] at herror
      obtain ⟨other, hother, herror⟩ := List.mem_flatMap.1 herror
      by_cases hlong' : Node.tooLong other.1 = true
      · rw [visit_of_tooLong hlong'] at herror
        exact ⟨_, Found.error.inj (List.mem_singleton.1 herror)⟩
      · rw [visit_of_ne_link (by simpa using hlong') (hleaf other hother)] at herror
        simp at herror

end Lookup.Files.Disk
