import Lookup.Proofs.Except
import Lookup.Proofs.Files.Reach

/-!
# Within the limits of the system

Where no name in a tree, no component of a link and no path is too long, the system refuses no path for
its length. What a path leads to can be checked then, and a walk comes to files only.

## Main definitions

* `Node.HasShortLinks`, `Node.HasShortNames` — trees whose links, or names and links, the system takes
* `Disk.ExceedsLimits` — paths that are too long, or name what is
* `Disk.Fits` — paths that the system takes, with all that is below them

## Main results

* `Node.exists_isComponent_long` — components that the system does not take
* `Node.followWithin_ne_nameTooLong` — following components comes to no name that is too long
* `Disk.exceedsLimits_of_resolve` — a path that the system refuses for a length exceeds its limits
* `Disk.exists_check_eq_ok` — whether a path leads to something with a property can be checked
* `Disk.error_notMem_walk` — a walk comes to no error
-/

namespace Lookup.Files

open Text

namespace Node

variable {root node : Node} {place names more todo : List String} {entries : List (String × Node)}
  {name : String} {links : Nat}

theorem hasLongName_append : HasLongName (names ++ more) ↔ HasLongName names ∨ HasLongName more := by
  simp only [HasLongName, List.mem_append, or_and_right, exists_or]

theorem hasLongName_cons :
    HasLongName (name :: names) ↔ componentLimit < name.utf8ByteSize ∨ HasLongName names := by
  simp only [HasLongName, List.mem_cons, or_and_right, exists_or, exists_eq_left]

/-- There are components that the system does not take. -/
theorem exists_isComponent_long :
    ∃ name, IsComponent name ∧ name ≠ ".." ∧ '\x00' ∉ name.toList ∧ componentLimit < name.utf8ByteSize := by
  -- A name of 256 characters is one more than the system takes.
  have hlong := length_le_utf8ByteSize (List.replicate 256 'n')
  rw [List.length_replicate] at hlong
  have hother : ∀ text : String, text.toList.length ≠ 256 → String.ofList (List.replicate 256 'n') ≠ text := by
    rintro text hne rfl
    exact hne (by rw [String.toList_ofList, List.length_replicate])
  have hnotMem : ∀ c, c ≠ 'n' → c ∉ (String.ofList (List.replicate 256 'n')).toList := by
    intro c hc hmem
    rw [String.toList_ofList] at hmem
    exact hc (List.mem_replicate.1 hmem).2
  exact ⟨_, ⟨hother "" (by decide), hother "." (by decide), hnotMem '/' (by decide)⟩,
    hother ".." (by decide), hnotMem '\x00' (by decide), hlong⟩

/-- A tree in which no component of a link is too long. -/
def HasShortLinks (root : Node) : Prop :=
  ∀ names target, root.at? names = some (.link target) → ¬ HasLongName (steps target)

/-- A tree in which no name and no component of a link is too long. -/
structure HasShortNames (root : Node) : Prop where
  names : ∀ names found, root.at? names = some found → ¬ HasLongName names
  targets : ∀ names target, root.at? names = some (.link target) → ¬ HasLongName (steps target)

theorem hasShortNames_file (content : Content) : (Node.file content).HasShortNames where
  names := by
    intro names found h
    rw [eq_nil_of_at?_file h]
    rintro ⟨name, hname, -⟩
    exact absurd hname List.not_mem_nil
  targets := by
    intro names target h
    rw [eq_nil_of_at?_file h] at h
    simp [at?] at h

theorem hasShortNames_directory
    (hnames : ∀ entry ∈ entries, ¬ componentLimit < entry.1.utf8ByteSize)
    (hentries : ∀ entry ∈ entries, entry.2.HasShortNames) : (Node.directory entries).HasShortNames where
  names := by
    intro names found h
    cases names with
    | nil => exact fun hlong => absurd hlong.choose_spec.1 List.not_mem_nil
    | cons name rest =>
      obtain ⟨child, hmem, hchild⟩ := exists_mem_of_at?_cons h
      rw [hasLongName_cons, not_or]
      exact ⟨hnames _ hmem, (hentries _ hmem).names rest found hchild⟩
  targets := by
    intro names target h
    cases names with
    | nil => simp [at?] at h
    | cons name rest =>
      obtain ⟨child, hmem, hchild⟩ := exists_mem_of_at?_cons h
      exact (hentries _ hmem).targets rest target hchild

/-- How far components lead that are not too long: no failure is for a length, and none of the components
left to follow is too long. -/
def Reach.IsWithinLimits : Reach → Prop
  | .done _ _ => True
  | .detour _ todo => ¬ HasLongName todo
  | .failed errno => errno ≠ .nameTooLong

theorem advance_isWithinLimits (hlinks : root.HasShortLinks) (htodo : ¬ HasLongName todo) :
    (advance root place todo).IsWithinLimits := by
  induction todo generalizing place with
  | nil =>
    rw [advance]
    split
    · trivial
    · simp [Reach.IsWithinLimits]
  | cons name rest ih =>
    rw [hasLongName_cons, not_or] at htodo
    obtain ⟨hname, hrest⟩ := htodo
    rw [advance]
    split
    · next entries hplace =>
      split
      · exact ih hrest
      split
      · exact ih hrest
      cases hentry : entries.lookup name with
      | none => simp [Reach.IsWithinLimits]
      | some child =>
        cases child with
        | file | directory => exact ih hrest
        | link target =>
          -- The components of the link come before those that were left.
          have hlink : root.at? (place ++ [name]) = some (.link target) := by
            rw [at?_append, hplace, Option.bind_some, at?_cons]
            exact Option.bind_eq_some_iff.2 ⟨_, hentry, rfl⟩
          simp only [Reach.IsWithinLimits, hasLongName_append, not_or]
          exact ⟨hlinks _ target hlink, hrest⟩
    · simp [Reach.IsWithinLimits]
    · simp [Reach.IsWithinLimits]

/-- Following components that are not too long comes to none that is. -/
theorem followWithin_ne_nameTooLong (hlinks : root.HasShortLinks) (htodo : ¬ HasLongName todo) :
    followWithin root links place todo ≠ .error .nameTooLong := by
  -- A detour uses up one link, and what it leaves to follow is again not too long.
  induction links generalizing place todo with
  | zero => simp [followWithin]
  | succ links ih =>
    have hadvance : (advance root place todo).IsWithinLimits := advance_isWithinLimits hlinks htodo
    rw [followWithin]
    split
    · simp
    · next names more hdetour =>
      rw [hdetour] at hadvance
      exact ih hadvance
    · next errno hfailed =>
      rw [hfailed] at hadvance
      exact fun herror => hadvance (Except.error.inj herror)

end Node

namespace Disk

variable {disk : Disk} {path : Path} {names place : List String} {entries : List (String × Node)}

/-- A path that the system takes, and with it all paths below that lead somewhere in the tree. -/
structure Fits (disk : Disk) (path : Path) : Prop where
  names : ¬ Node.HasLongName path.names
  length : Node.tooLong path = false
  below : ∀ place node names found, disk.resolve path = .ok (place, node) →
    node.at? names = some found → Node.tooLong (path.below names) = false

theorem fits_of_resolve {node : Node} (hnames : ¬ Node.HasLongName path.names)
    (hresolve : disk.resolve path = .ok (place, node))
    (hbelow : ∀ names found, node.at? names = some found → Node.tooLong (path.below names) = false) :
    disk.Fits path where
  names := hnames
  length := by
    have hhere : node.at? [] = some node := rfl
    simpa using hbelow [] node hhere
  below := by
    intro other found names inner hother
    obtain ⟨-, rfl⟩ := Prod.mk.inj (Except.ok.inj (hresolve.symm.trans hother))
    exact hbelow names inner

/-- The components that the system takes from a path are not too long if those of the path are not. -/
theorem not_hasLongName_steps (h : path.IsNormal) (hnames : ¬ Node.HasLongName path.names) :
    ¬ Node.HasLongName (Node.steps path.text) := by
  by_cases hne : path.names = []
  · rw [Path.steps_text_of_names_eq_nil h hne]
    rintro ⟨name, hname, hlong⟩
    rw [List.mem_singleton.1 hname] at hlong
    exact absurd hlong (by decide)
  · rwa [Path.steps_text h hne]

/-- A path that exceeds the limits of the system: it is too long, or a component of it is, or a component of
a link in the tree. -/
def ExceedsLimits (disk : Disk) (path : Path) : Prop :=
  Node.tooLong path = true ∨ Node.HasLongName (Node.steps path.text) ∨ ¬ disk.root.HasShortLinks

/-- The system refuses no path for a length but one that exceeds its limits. -/
theorem exceedsLimits_of_resolve (h : disk.resolve path = .error (.refused .nameTooLong)) :
    disk.ExceedsLimits path := by
  by_contra hwithin
  rw [ExceedsLimits, not_or, not_or, not_not, Node.tooLong, decide_eq_true_iff] at hwithin
  obtain ⟨hshort, hsteps, hlinks⟩ := hwithin
  rw [resolve, resolveText, if_neg hshort] at h
  split at h
  · simp at h
  split at h
  · simp at h
  obtain ⟨errno, hfollow, herrno⟩ := mapError_eq_error_iff.1 h
  rw [PathError.refused.inj herrno] at hfollow
  exact Node.followWithin_ne_nameTooLong hlinks hsteps hfollow

theorem resolve_ne_nameTooLong (hlinks : disk.root.HasShortLinks) (h : path.IsNormal)
    (hnames : ¬ Node.HasLongName path.names) (hshort : Node.tooLong path = false) :
    disk.resolve path ≠ .error (.refused .nameTooLong) := by
  intro hrefused
  rcases exceedsLimits_of_resolve hrefused with hlong | hlong | hlong
  · simp [hshort] at hlong
  · exact not_hasLongName_steps h hnames hlong
  · exact hlong hlinks

/-- Whether a path leads to something with a property can be checked where it is not too long. -/
theorem exists_check_eq_ok (property : Node → Bool)
    (h : disk.resolve path ≠ .error (.refused .nameTooLong)) :
    ∃ holds, disk.check property path = .ok holds := by
  rw [check]
  split
  · exact ⟨_, rfl⟩
  · next hlong => exact absurd hlong h
  · exact ⟨_, rfl⟩

theorem exists_isDirectory_eq_ok (h : disk.resolve path ≠ .error (.refused .nameTooLong)) :
    ∃ holds, disk.isDirectory path = .ok holds := exists_check_eq_ok _ h

theorem exists_isFile_eq_ok (h : disk.resolve path ≠ .error (.refused .nameTooLong)) :
    ∃ holds, disk.isFile path = .ok holds := exists_check_eq_ok _ h

/-- A walk below a path that fits comes to no error. -/
theorem error_notMem_walk (hdisk : disk.IsSound) (hroot : disk.root.HasShortNames) (h : path.IsNormal)
    (hfits : disk.Fits path) (hresolve : disk.resolve path = .ok (place, .directory entries)) :
    ∀ error, .error error ∉ disk.walk path := by
  intro error herror
  have hplace := at?_of_resolve hresolve
  have hsound := hdisk.root.of_at? hplace
  rw [walk, hresolve] at herror
  obtain ⟨leaf, hleaf, hvisit⟩ := List.mem_flatMap.1 herror
  obtain ⟨names, hpath, hat⟩ := Node.exists_of_mem_leaves hsound hleaf
  have hshort := hfits.below place _ names _ hresolve hat
  rw [visit, hpath, hshort] at hvisit
  split at hvisit
  · next htrue => exact absurd htrue (by simp)
  split at hvisit
  · -- A link is checked for a file, by a path that is not too long.
    have hnormal : (path.below names).IsNormal :=
      h.below fun name hname => (hsound.isFileName hat name hname).toIsComponent
    have hlong : ¬ Node.HasLongName (path.below names).names := by
      have hbelow : disk.root.at? (place ++ names) = some leaf.2 := by
        rw [Node.at?_append, hplace, Option.bind_some, hat]
      have hnames := hroot.names _ _ hbelow
      rw [Node.hasLongName_append, not_or] at hnames
      exact fun hlong => (Node.hasLongName_append.1 hlong).elim hfits.names hnames.2
    obtain ⟨holds, hfile⟩ :=
      exists_isFile_eq_ok (resolve_ne_nameTooLong hroot.targets hnormal hlong hshort)
    rw [hfile] at hvisit
    cases holds <;> simp at hvisit
  · simp at hvisit

end Disk

end Lookup.Files
