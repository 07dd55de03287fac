import Lookup.Files.Tree
import Lookup.Proofs.Files.Path
import Lookup.Proofs.Text.Order

/-!
# Trees of files with sound names

In a tree that a system can have, the names in each directory differ, and none of them is empty, stands
for a directory itself or the one above it, or holds a slash or a NUL character.

## Main definitions

* `IsFileName` — the names that a directory can hold
* `Node.IsSound` — trees whose directories hold such names, none of them twice
* `Node.IsLinkFree` — trees without symbolic links
* `Disk.IsSound` — file systems with sound trees

## Main results

* `Node.inductionOn` — induction on a tree, a directory coming after all that it holds
* `Node.IsSound.isFileName` — names that lead somewhere in a sound tree are names of files
-/

namespace Lookup.Files

open Text

/-- A name that a directory can hold. -/
structure IsFileName (name : String) : Prop extends IsComponent name where
  ne_dotdot : name ≠ ".."
  nul_notMem : '\x00' ∉ name.toList

instance (name : String) : Decidable (IsFileName name) :=
  decidable_of_iff (IsComponent name ∧ name ≠ ".." ∧ '\x00' ∉ name.toList)
    ⟨fun ⟨hcomponent, hdotdot, hnul⟩ => ⟨hcomponent, hdotdot, hnul⟩,
      fun ⟨hcomponent, hdotdot, hnul⟩ => ⟨hcomponent, hdotdot, hnul⟩⟩

namespace Node

variable {node : Node} {name : String} {names more : List String} {entries : List (String × Node)}

/-- Induction on a tree: what holds of all that a directory holds carries over to the directory. -/
theorem inductionOn {motive : Node → Prop} (file : ∀ content, motive (.file content))
    (link : ∀ target, motive (.link target))
    (directory : ∀ entries, (∀ entry ∈ entries, motive entry.2) → motive (.directory entries)) :
    ∀ node, motive node
  | .file content => file content
  | .link target => link target
  | .directory entries => directory entries fun entry hentry =>
    -- The entries are nested in a list of pairs, so their sizes are compared by hand.
    have hsize : sizeOf entry.2 < sizeOf (Node.directory entries) := by
      have hlt := List.sizeOf_lt_of_mem hentry
      obtain ⟨name, child⟩ := entry
      simp only [Prod.mk.sizeOf_spec, Node.directory.sizeOf_spec] at hlt ⊢
      omega
    inductionOn file link directory entry.2
termination_by node => sizeOf node
decreasing_by exact hsize

/-! ### What names lead to -/

theorem at?_cons (node : Node) (name : String) (names : List String) :
    node.at? (name :: names) = (node.entry? name).bind fun child => child.at? names := rfl

theorem at?_append (node : Node) (names more : List String) :
    node.at? (names ++ more) = (node.at? names).bind fun found => found.at? more := by
  induction names generalizing node with
  | nil => rfl
  | cons name rest ih =>
    rw [List.cons_append, at?_cons, at?_cons, Option.bind_assoc]
    congr 1
    exact funext fun child => ih child

/-- Names that lead somewhere do so from the first on. -/
theorem exists_at?_of_isPrefix {front : List String} {found : Node}
    (h : node.at? names = some found) (hfront : front <+: names) :
    ∃ between, node.at? front = some between := by
  obtain ⟨rest, rfl⟩ := hfront
  rw [at?_append] at h
  obtain ⟨between, hbetween, -⟩ := Option.bind_eq_some_iff.1 h
  exact ⟨between, hbetween⟩

theorem exists_mem_of_at?_cons {found : Node}
    (h : (Node.directory entries).at? (name :: names) = some found) :
    ∃ child, (name, child) ∈ entries ∧ child.at? names = some found := by
  obtain ⟨child, hchild, hfound⟩ := Option.bind_eq_some_iff.1 h
  exact ⟨child, mem_of_lookup_eq_some hchild, hfound⟩

/-! ### Sound trees -/

/-- A tree in which the names in each directory are names of files and differ. -/
def IsSound (node : Node) : Prop :=
  ∀ names entries, node.at? names = some (.directory entries) →
    (entries.map Prod.fst).Nodup ∧ ∀ entry ∈ entries, IsFileName entry.1

theorem eq_nil_of_at?_file {content : Content} {found : Node}
    (h : (Node.file content).at? names = some found) : names = [] := by
  cases names with
  | nil => rfl
  | cons name rest => simp [at?_cons, entry?, Node.entries] at h

theorem eq_nil_of_at?_link {target : String} {found : Node}
    (h : (Node.link target).at? names = some found) : names = [] := by
  cases names with
  | nil => rfl
  | cons name rest => simp [at?_cons, entry?, Node.entries] at h

theorem isSound_file (content : Content) : (Node.file content).IsSound := by
  intro names entries h
  cases names with
  | nil => simp [at?] at h
  | cons name rest => simp [at?_cons, entry?, Node.entries] at h

theorem isSound_link (target : String) : (Node.link target).IsSound := by
  intro names entries h
  cases names with
  | nil => simp [at?] at h
  | cons name rest => simp [at?_cons, entry?, Node.entries] at h

/-- A directory is sound if its names are and if all that it holds is sound. -/
theorem isSound_directory (hnodup : (entries.map Prod.fst).Nodup)
    (hnames : ∀ entry ∈ entries, IsFileName entry.1) (hentries : ∀ entry ∈ entries, entry.2.IsSound) :
    (Node.directory entries).IsSound := by
  intro names found h
  cases names with
  | nil =>
    obtain rfl : entries = found := directory.inj (Option.some.inj h)
    exact ⟨hnodup, hnames⟩
  | cons name rest =>
    obtain ⟨child, hchild, hfound⟩ := exists_mem_of_at?_cons h
    exact hentries _ hchild rest found hfound

theorem IsSound.nodup (h : (Node.directory entries).IsSound) : (entries.map Prod.fst).Nodup :=
  (h [] entries rfl).1

theorem IsSound.isFileName_fst (h : (Node.directory entries).IsSound) {entry : String × Node}
    (hentry : entry ∈ entries) : IsFileName entry.1 :=
  (h [] entries rfl).2 entry hentry

theorem IsSound.entry?_eq (h : (Node.directory entries).IsSound) {entry : String × Node}
    (hentry : entry ∈ entries) : Node.entry? (.directory entries) entry.1 = some entry.2 :=
  lookup_eq_some_of_mem h.nodup hentry

theorem IsSound.at?_cons_eq (h : (Node.directory entries).IsSound) {entry : String × Node}
    (hentry : entry ∈ entries) (names : List String) :
    (Node.directory entries).at? (entry.1 :: names) = entry.2.at? names := by
  rw [at?_cons, h.entry?_eq hentry, Option.bind_some]

theorem IsSound.of_at? (h : node.IsSound) {found : Node} (hfound : node.at? names = some found) :
    found.IsSound := by
  intro more entries hentries
  refine h (names ++ more) entries ?_
  rw [at?_append, hfound, Option.bind_some, hentries]

theorem IsSound.entry (h : (Node.directory entries).IsSound) {entry : String × Node}
    (hentry : entry ∈ entries) : entry.2.IsSound := by
  have hat : (Node.directory entries).at? [entry.1] = some entry.2 := h.at?_cons_eq hentry []
  exact h.of_at? hat

/-- Names that lead somewhere in a sound tree are names of files. -/
theorem IsSound.isFileName (h : node.IsSound) {found : Node} (hfound : node.at? names = some found) :
    ∀ name ∈ names, IsFileName name := by
  induction names generalizing node with
  | nil => exact fun name hname => absurd hname List.not_mem_nil
  | cons first rest ih =>
    cases node with
    | file content => simp [at?_cons, entry?, entries] at hfound
    | link target => simp [at?_cons, entry?, entries] at hfound
    | directory entries =>
      obtain ⟨child, hmem, hchild⟩ := exists_mem_of_at?_cons hfound
      intro name hname
      rcases List.mem_cons.1 hname with rfl | hname
      · exact h.isFileName_fst hmem
      · exact ih (h.entry hmem) hchild name hname

/-! ### Trees without links -/

/-- A tree without symbolic links. -/
def IsLinkFree (node : Node) : Prop := ∀ names target, node.at? names ≠ some (.link target)

theorem isLinkFree_file (content : Content) : (Node.file content).IsLinkFree := by
  intro names target h
  cases names with
  | nil => simp [at?] at h
  | cons name rest => simp [at?_cons, entry?, Node.entries] at h

theorem isLinkFree_directory (hentries : ∀ entry ∈ entries, entry.2.IsLinkFree) :
    (Node.directory entries).IsLinkFree := by
  intro names target h
  cases names with
  | nil => simp [at?] at h
  | cons name rest =>
    obtain ⟨child, hchild, hlink⟩ := exists_mem_of_at?_cons h
    exact hentries _ hchild rest target hlink

theorem IsLinkFree.of_at? (h : node.IsLinkFree) {found : Node}
    (hfound : node.at? names = some found) : found.IsLinkFree := by
  intro more target hlink
  refine h (names ++ more) target ?_
  rw [at?_append, hfound, Option.bind_some, hlink]

end Node

/-- A file system in which all names are names of files. -/
structure Disk.IsSound (disk : Disk) : Prop where
  root : disk.root.IsSound
  cwd : ∀ name ∈ disk.cwd, IsComponent name

end Lookup.Files
