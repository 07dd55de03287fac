import Lookup.Proofs.Files.Multiplicity
import Lookup.Proofs.Resource.Mount

/-!
# Resources that a mount repeats

A directory mount yields no resource twice. An archive mount yields one twice if the archive repeats a
member or a directory on the way to it, or if two members have the same name once their backslashes
are turned.

## Main results

* `DirectoryMount.nodup_walk` — a directory mount yields no resource twice
* `ArchiveMount.nodup_walk_iff` — when an archive mount yields no resource twice
* `Mount.nodup_items_walk_iff` — when a mount yields no resource twice
-/

namespace Lookup

open Files Text

variable {ε : Type} {disk : Disk}

/-! ### Directories -/

/-- A directory mount yields no resource twice, since its files have different locations. -/
theorem DirectoryMount.nodup_walk (hdisk : disk.IsSound) (mount : DirectoryMount) :
    (mount.walk disk : Run Resource (Failure ε)).items.Nodup := by
  refine (mount.collect_sublist (disk.walk mount.root)).nodup ?_
  refine (Disk.nodup_files_walk hdisk mount.root).map_on ?_
  intro file hfile other hother heq
  rw [Disk.mem_filterMap_file?] at hfile hother
  obtain ⟨names, hne, rfl, hnames⟩ := Disk.exists_of_file_mem_walk hdisk hfile
  obtain ⟨more, hne', rfl, hmore⟩ := Disk.exists_of_file_mem_walk hdisk hother
  have htext : (mount.root.below names).text = (mount.root.below more).text := by
    have hlocation := congrArg Resource.location heq
    exact (String.append_right_inj _).1 hlocation
  rw [Path.text_below_injective (fun name hname => (hnames name hname).toIsComponent) hne
    (fun name hname => (hmore name hname).toIsComponent) hne' htext]

/-! ### Archives -/

/-- A list that is repeated has no item twice only if it has none. -/
theorem nodup_flatten_replicate_iff {α : Type} {items : List α} {rounds : Nat} :
    (List.replicate (rounds + 2) items).flatten.Nodup ↔ items = [] := by
  constructor
  · intro hnodup
    rw [List.replicate_succ, List.replicate_succ, List.flatten_cons, List.flatten_cons] at hnodup
    refine List.eq_nil_iff_forall_not_mem.2 fun item hitem => ?_
    exact (List.nodup_append.1 hnodup).2.2 item hitem item (List.mem_append_left _ hitem) rfl
  · rintro rfl
    rw [List.flatten_replicate_nil]
    exact List.nodup_nil

/-- An archive mount yields no resource twice if and only if the archive repeats nothing below its
directory and the names of the members there differ in more than the kind of their slashes, or if the walk is
led back to its start before it comes to a file. -/
theorem ArchiveMount.nodup_walk_iff (mount : ArchiveMount) {archive : Archive}
    (hopen : openArchive disk (.readingArchive mount.archive.text) mount.archive =
      (.ok archive : Except (Failure ε) _)) :
    (mount.walk disk : Run Resource (Failure ε)).items.Nodup ↔
      (¬ archive.LeadsBack (trimSlashes mount.inner.toList) ∧
        archive.ListsOnce (trimSlashes mount.inner.toList) ∧
        Set.InjOn canonicalName {name | archive.IsBelow (trimSlashes mount.inner.toList) name}) ∨
      (archive.LeadsBack (trimSlashes mount.inner.toList) ∧ archive.filesBefore mount.file = []) := by
  have hmem : ∀ name, archive.IsBelow (trimSlashes mount.inner.toList) name ↔
      name ∈ archive.files mount.file mount.start := fun name => by
    rw [Archive.mem_files_iff, mount.trimSlashes_start]
  have hresource : ∀ {name other}, mount.resource name = mount.resource other ↔
      canonicalName name = canonicalName other := by simp [resource]
  rcases mount.walk_cases hopen with ⟨hback, hwalk⟩ | ⟨hback, hwalk⟩
  · -- The resources are the members of the walk with their names made canonical.
    simp only [hwalk, hback, not_false_eq_true, true_and, false_and, or_false]
    rw [← mount.trimSlashes_start, ← Archive.nodup_files_iff, mount.trimSlashes_start]
    constructor
    · intro hitems
      refine ⟨List.Nodup.of_map _ hitems, fun name hname other hother heq => ?_⟩
      rw [Set.mem_ofPred_eq, hmem] at hname hother
      exact List.inj_on_of_nodup_map hitems hname hother (hresource.2 heq)
    · rintro ⟨hfiles, hinjective⟩
      exact hfiles.map_on fun name hname other hother heq =>
        hinjective ((hmem name).2 hname) ((hmem other).2 hother) (hresource.1 heq)
  · simp only [hwalk, hback, not_true_eq_false, false_and, true_and, false_or]
    rw [List.map_flatten, List.map_replicate, nodup_flatten_replicate_iff, List.map_eq_nil_iff]

/-! ### Mounts -/

/-- A mount yields no resource twice if and only if it is a directory, or an archive that repeats
neither a member nor a directory on the way to one, and in which no two members get the same name. An archive
with a member that is the top itself leads a walk from the top back to its start, again and again, until the
walk fails: it yields what it comes to before twice and more often. -/
theorem Mount.nodup_items_walk_iff (hdisk : disk.IsSound) (mount : Mount) :
    (mount.walk disk : Run Resource (Failure ε)).items.Nodup ↔
      ∀ packed archive, mount = .archive packed →
        openArchive disk (.readingArchive packed.archive.text) packed.archive =
          (.ok archive : Except (Failure ε) _) →
        (¬ archive.LeadsBack (trimSlashes packed.inner.toList) ∧
          archive.ListsOnce (trimSlashes packed.inner.toList) ∧
          Set.InjOn canonicalName {name | archive.IsBelow (trimSlashes packed.inner.toList) name}) ∨
        (archive.LeadsBack (trimSlashes packed.inner.toList) ∧ archive.filesBefore packed.file = []) := by
  cases mount with
  | directory mount =>
    have hnodup : (mount.walk disk : Run Resource (Failure ε)).items.Nodup := mount.nodup_walk hdisk
    simpa [Mount.walk] using hnodup
  | archive mount =>
    rw [Mount.walk]
    constructor
    · rintro h packed archive heq hopen
      obtain rfl := Mount.archive.inj heq
      exact (mount.nodup_walk_iff hopen).1 h
    · intro h
      cases hopen : (openArchive disk (.readingArchive mount.archive.text) mount.archive :
          Except (Failure ε) Archive) with
      | error failure => simp [ArchiveMount.walk, hopen]
      | ok archive => exact (mount.nodup_walk_iff hopen).2 (h mount archive rfl hopen)

/-- An archive that lists a directory twice and a file in it once. -/
def repeatArchive : Archive := ⟨[.stored "d/" [], .stored "d/" [], .stored "d/x" []], none⟩

/-- The archive as the only file. -/
def repeatDisk : Disk := ⟨.directory [("z", .file ⟨[], some repeatArchive⟩)], [], 0⟩

theorem isSound_repeatDisk : repeatDisk.IsSound where
  root := by
    refine Node.isSound_directory (by decide) (by decide) fun entry hentry => ?_
    obtain rfl := List.mem_singleton.1 hentry
    exact Node.isSound_file _
  cwd := by decide

/-- The file is yielded twice, although it is listed once. -/
theorem not_nodup_walk_repeatDisk :
    ¬ ((Mount.archive ⟨⟨.slash, ["z"]⟩, "zip:file:///z!", ""⟩).walk repeatDisk :
      Run Resource (Failure Empty)).items.Nodup := by
  rw [Mount.nodup_items_walk_iff isSound_repeatDisk]
  intro h
  obtain ⟨-, honce, -⟩ | ⟨hback, -⟩ := h _ repeatArchive rfl rfl
  swap
  · exact absurd hback.2 (by decide)
  have hway : Way [] "d/x".toList [['d']] :=
    .down (by decide) (by decide) (by decide) (.here (by decide) (by decide))
  have hbelow : repeatArchive.IsBelow [] "d/x" := ⟨by decide, by decide, _, hway⟩
  have hcount : repeatArchive.directoryCount ['d'] = 1 :=
    honce.directory "d/x" hbelow _ hway ['d'] (List.mem_singleton_self _)
  exact absurd hcount (by decide +kernel)

end Lookup
