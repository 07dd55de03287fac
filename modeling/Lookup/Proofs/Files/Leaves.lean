import Lookup.Proofs.Files.Listing
import Lookup.Proofs.Files.Node
import Lookup.Proofs.Text.Order

/-!
# The leaves of a tree

The leaves below a directory are the leaves of its entries, in the order of their names. Each of them
lies below the path of the directory. They are a listing of all that is no directory, as far as no path is
too long: a directory whose path is too long is a leaf itself.

## Main definitions

* `Node.sortedEntries`, `Node.leavesAt` — the entries of a directory in order, and the leaves of one
* `Node.leafNames` — what is no directory below a node
* `Node.visitedNames` — what the leaves of a node are

## Main results

* `Node.exists_of_mem_leaves` — a leaf lies below the path of its tree
* `Node.nodup_leaves` — the paths of the leaves differ
* `Node.exists_isListing_visitedNames` — the leaves are listed in order
* `Node.exists_isListing_leaves` — the leaves list what is no directory
-/

namespace Lookup.Files.Node

open Text

variable {node : Node} {path : Path} {entries : List (String × Node)} {leaf : Path × Node}

/-- The entries of a directory in the order of their names. -/
def sortedEntries (entries : List (String × Node)) : List (String × Node) :=
  entries.mergeSort fun a b => precedes a.1 b.1

/-- The leaves of an entry of a directory at a path. -/
def leavesAt (path : Path) (entry : String × Node) : List (Path × Node) :=
  if tooLong (path.child entry.1) then [(path.child entry.1, entry.2)]
  else leaves (path.child entry.1) entry.2

theorem mem_sortedEntries {entry : String × Node} :
    entry ∈ sortedEntries entries ↔ entry ∈ entries := List.mem_mergeSort

theorem leavesOf_eq_map (path : Path) (entries : List (String × Node)) :
    leavesOf path entries = entries.map fun entry => (entry.1, leavesAt path entry) := by
  induction entries with
  | nil => rfl
  | cons entry rest ih =>
    obtain ⟨name, node⟩ := entry
    rw [leavesOf, ih]
    rfl

/-- The leaves of a directory are those of its entries in order. -/
theorem leaves_directory (path : Path) (entries : List (String × Node)) :
    leaves path (.directory entries) = (sortedEntries entries).flatMap (leavesAt path) := by
  have hsort := List.map_mergeSort (r := fun a b : String × Node => precedes a.1 b.1)
    (s := fun a b => precedes a.1 b.1) (f := fun entry => (entry.1, leavesAt path entry))
    (l := entries) fun _ _ _ _ => rfl
  rw [leaves, leavesOf_eq_map, ← hsort, List.flatMap_map]
  rfl

theorem mem_leaves_directory :
    leaf ∈ leaves path (.directory entries) ↔ ∃ entry ∈ entries, leaf ∈ leavesAt path entry := by
  simp [leaves_directory, mem_sortedEntries]

/-- If the leaves of an entry lie below the path of the entry, they do below that of the directory. -/
theorem exists_of_mem_leavesAt {entry : String × Node}
    (hentry : ∀ leaf ∈ leaves (path.child entry.1) entry.2,
      ∃ names, leaf.1 = (path.child entry.1).below names ∧ entry.2.at? names = some leaf.2)
    (h : leaf ∈ leavesAt path entry) :
    ∃ names, leaf.1 = path.below (entry.1 :: names) ∧ entry.2.at? names = some leaf.2 := by
  rw [leavesAt] at h
  split at h
  · obtain rfl : leaf = (path.child entry.1, entry.2) := List.mem_singleton.1 h
    exact ⟨[], rfl, rfl⟩
  · obtain ⟨names, hnames, hfound⟩ := hentry leaf h
    refine ⟨names, ?_, hfound⟩
    rw [hnames, Path.child_eq_below, ← Path.below_append, List.singleton_append]

/-- A leaf lies below the path of its tree, where its names lead to what is there. -/
theorem exists_of_mem_leaves (hsound : node.IsSound) (h : leaf ∈ leaves path node) :
    ∃ names, leaf.1 = path.below names ∧ node.at? names = some leaf.2 := by
  induction node using inductionOn generalizing path leaf with
  | file content =>
    obtain rfl : leaf = (path, .file content) := by simpa [leaves] using h
    exact ⟨[], by simp, rfl⟩
  | link target =>
    obtain rfl : leaf = (path, .link target) := by simpa [leaves] using h
    exact ⟨[], by simp, rfl⟩
  | directory entries ih =>
    obtain ⟨entry, hentry, hleaf⟩ := mem_leaves_directory.1 h
    obtain ⟨names, hnames, hfound⟩ := exists_of_mem_leavesAt
      (fun leaf hleaf => ih entry hentry (hsound.entry hentry) hleaf) hleaf
    exact ⟨entry.1 :: names, hnames, (hsound.at?_cons_eq hentry names).trans hfound⟩

/-- A leaf of a directory lies below the path of the directory. -/
theorem exists_of_mem_leaves_directory (hsound : (Node.directory entries).IsSound)
    (h : leaf ∈ leaves path (.directory entries)) :
    ∃ name rest, leaf.1 = path.below (name :: rest) ∧
      (Node.directory entries).at? (name :: rest) = some leaf.2 := by
  obtain ⟨entry, hentry, hleaf⟩ := mem_leaves_directory.1 h
  obtain ⟨names, hnames, hfound⟩ := exists_of_mem_leavesAt
    (fun leaf hleaf => exists_of_mem_leaves (hsound.entry hentry) hleaf) hleaf
  exact ⟨entry.1, names, hnames, (hsound.at?_cons_eq hentry names).trans hfound⟩

/-- The paths of the leaves differ. -/
theorem nodup_leaves (hsound : node.IsSound) : ((leaves path node).map Prod.fst).Nodup := by
  induction node using inductionOn generalizing path with
  | file content => simp [leaves]
  | link target => simp [leaves]
  | directory entries ih =>
    rw [leaves_directory, List.map_flatMap, List.nodup_flatMap]
    constructor
    · intro entry hentry
      have hmem := mem_sortedEntries.1 hentry
      rw [leavesAt]
      split
      · simp
      · exact ih entry hmem (hsound.entry hmem)
    · -- Leaves of two entries differ in the component that follows the path of the directory.
      refine (pairwise_key_lt_mergeSort hsound.nodup).imp_of_mem ?_
      intro a b ha hb hlt file hfile hfile'
      have hbelow : ∀ entry ∈ sortedEntries entries, file ∈ (leavesAt path entry).map Prod.fst →
          ∃ names, file = path.below (entry.1 :: names) := by
        intro entry hentry hmem
        obtain ⟨leaf, hleaf, rfl⟩ := List.mem_map.1 hmem
        obtain ⟨names, hnames, -⟩ := exists_of_mem_leavesAt
          (fun leaf hleaf => exists_of_mem_leaves (hsound.entry (mem_sortedEntries.1 hentry)) hleaf)
          hleaf
        exact ⟨names, hnames⟩
      obtain ⟨names, hnames⟩ := hbelow a ha hfile
      obtain ⟨others, hothers⟩ := hbelow b hb hfile'
      have hcons := Path.below_injective path (hnames.symm.trans hothers)
      exact (ne_of_lt hlt) (List.cons.inj hcons).1

/-! ### Listings of leaves -/

/-- What is no directory below a node, given by the names that lead there. -/
def leafNames (node : Node) : Set (List String) :=
  {names | ∃ leaf, node.at? names = some leaf ∧ ∀ entries, leaf ≠ .directory entries}

/-- What the leaves of a node at a path are: what is no directory or has a path that is too long, unless
that is already so of a directory on the way. -/
def visitedNames (path : Path) (node : Node) : Set (List String) :=
  {names | (∃ leaf, node.at? names = some leaf ∧
      ((∀ entries, leaf ≠ .directory entries) ∨ names ≠ [] ∧ tooLong (path.below names) = true)) ∧
    ∀ front, front ≠ [] → front <+: names → front ≠ names → tooLong (path.below front) = false}

/-- A node that is no directory is its only leaf. -/
theorem isListing_of_ne_directory (h : ∀ entries, node ≠ .directory entries) :
    IsListing [[]] (visitedNames path node) := by
  refine .singleton fun names => ⟨?_, ?_⟩
  · rintro ⟨⟨leaf, hat, -⟩, -⟩
    cases names with
    | nil => rfl
    | cons name rest =>
      cases node with
      | file content => simp [at?_cons, entry?, Node.entries] at hat
      | link target => simp [at?_cons, entry?, Node.entries] at hat
      | directory entries => exact absurd rfl (h entries)
  · rintro rfl
    refine ⟨⟨node, rfl, .inl h⟩, fun front hne hfront => ?_⟩
    exact absurd (List.prefix_nil.1 hfront) hne

/-- An entry whose path is too long is a leaf and hides what is below it. -/
theorem mem_visitedNames_cons_of_tooLong (hsound : (Node.directory entries).IsSound)
    {entry : String × Node} (hentry : entry ∈ entries) (hlong : tooLong (path.child entry.1) = true)
    {names : List String} :
    entry.1 :: names ∈ visitedNames path (.directory entries) ↔ names = [] := by
  constructor
  · rintro ⟨-, hfront⟩
    by_contra hne
    have hshort := hfront [entry.1] (by simp) (List.prefix_append _ _) (by simpa using Ne.symm hne)
    rw [← Path.child_eq_below, hlong] at hshort
    cases hshort
  · rintro rfl
    refine ⟨⟨entry.2, hsound.at?_cons_eq hentry [], .inr ⟨by simp, hlong⟩⟩, ?_⟩
    intro front hne hfront hother
    rcases List.prefix_cons_iff.1 hfront with rfl | ⟨rest, rfl, hrest⟩
    · exact absurd rfl hne
    · exact absurd (by rw [List.prefix_nil.1 hrest]) hother

/-- The leaves below an entry whose path is not too long are those of the entry. -/
theorem mem_visitedNames_cons (hsound : (Node.directory entries).IsSound)
    {entry : String × Node} (hentry : entry ∈ entries) (hshort : tooLong (path.child entry.1) = false)
    {names : List String} :
    entry.1 :: names ∈ visitedNames path (.directory entries) ↔
      names ∈ visitedNames (path.child entry.1) entry.2 := by
  have hbelow : ∀ rest, path.below (entry.1 :: rest) = (path.child entry.1).below rest := fun rest => by
    rw [Path.child_eq_below, ← Path.below_append, List.singleton_append]
  simp only [visitedNames, Set.mem_ofPred_eq, hsound.at?_cons_eq hentry, hbelow]
  refine and_congr (exists_congr fun leaf => and_congr_right fun _ => or_congr_right ?_) ?_
  · -- The entry itself has no path that is too long.
    cases names with
    | nil => simp [hshort]
    | cons name rest => simp
  · constructor
    · intro h front hne hfront hother
      have hlonger := h (entry.1 :: front) (by simp) (List.cons_prefix_cons.2 ⟨rfl, hfront⟩)
        (by simpa using hother)
      rwa [hbelow] at hlonger
    · intro h front hne hfront hother
      rcases List.prefix_cons_iff.1 hfront with rfl | ⟨rest, rfl, hrest⟩
      · exact absurd rfl hne
      rw [hbelow]
      by_cases hnil : rest = []
      · rw [hnil, Path.below_nil, hshort]
      · exact h rest hnil hrest (by simpa using hother)

/-- The leaves of a tree are listed in the order of their paths. -/
theorem exists_isListing_visitedNames (path : Path) (hsound : node.IsSound) :
    ∃ paths, IsListing paths (visitedNames path node) ∧
      (leaves path node).map Prod.fst = paths.map path.below := by
  induction node using inductionOn generalizing path with
  | file content => exact ⟨[[]], isListing_of_ne_directory (by simp), by simp [leaves]⟩
  | link target => exact ⟨[[]], isListing_of_ne_directory (by simp), by simp [leaves]⟩
  | directory entries ih =>
    have hentries : ∀ entry, ∃ paths, entry ∈ entries →
        IsListing paths {rest | entry.1 :: rest ∈ visitedNames path (.directory entries)} ∧
          (leavesAt path entry).map Prod.fst = paths.map (path.child entry.1).below := by
      intro entry
      by_cases hentry : entry ∈ entries
      · by_cases hlong : tooLong (path.child entry.1) = true
        · refine ⟨[[]], fun _ => ⟨.singleton fun rest => ?_, by simp [leavesAt, hlong]⟩⟩
          exact mem_visitedNames_cons_of_tooLong hsound hentry hlong
        · have hshort : tooLong (path.child entry.1) = false := by simpa using hlong
          obtain ⟨paths, hpaths, hnames⟩ := ih entry hentry (path.child entry.1) (hsound.entry hentry)
          refine ⟨paths, fun _ => ⟨⟨hpaths.pairwise_lt, fun rest => ?_⟩, by rwa [leavesAt, if_neg hlong]⟩⟩
          exact (hpaths.mem_iff rest).trans (mem_visitedNames_cons hsound hentry hshort).symm
      · exact ⟨[], fun h => absurd h hentry⟩
    choose below hbelow using hentries
    refine ⟨(sortedEntries entries).flatMap fun entry => (below entry).map (entry.1 :: ·),
      .flatMap (pairwise_key_lt_mergeSort hsound.nodup)
        (fun entry hentry => (hbelow entry (mem_sortedEntries.1 hentry)).1) ?_, ?_⟩
    · rintro names ⟨⟨leaf, hleaf, hkind⟩, -⟩
      cases names with
      | nil =>
        obtain rfl := Option.some.inj hleaf
        exact absurd hkind (by simp)
      | cons name rest =>
        obtain ⟨child, hchild, -⟩ := exists_mem_of_at?_cons hleaf
        exact ⟨(name, child), mem_sortedEntries.2 hchild, rest, rfl⟩
    · rw [leaves_directory, List.map_flatMap, List.map_flatMap]
      refine List.flatMap_congr fun entry hentry => ?_
      rw [(hbelow entry (mem_sortedEntries.1 hentry)).2, List.map_map]
      refine List.map_congr_left fun names _ => ?_
      rw [Function.comp_apply, Path.child_eq_below, ← Path.below_append, List.singleton_append]

/-- Where a path is too long, a leaf on the way to it or at it has a path that is too long. -/
theorem exists_visited_of_tooLong {names : List String} {found : Node}
    (hat : node.at? names = some found) (hne : names ≠ []) (hlong : tooLong (path.below names) = true) :
    ∃ front ∈ visitedNames path node, front ≠ [] ∧ front <+: names ∧
      tooLong (path.below front) = true := by
  induction hlength : names.length using Nat.strong_induction_on generalizing names found with
  | _ length ih =>
  by_cases hfirst : ∀ front, front ≠ [] → front <+: names → front ≠ names →
      tooLong (path.below front) = false
  · exact ⟨names, ⟨⟨found, hat, .inr ⟨hne, hlong⟩⟩, hfirst⟩, hne, List.prefix_rfl, hlong⟩
  -- A shorter way that is too long leads somewhere as well.
  simp only [not_forall, Bool.not_eq_false] at hfirst
  obtain ⟨front, hfrontNe, hfront, hother, hfrontLong⟩ := hfirst
  obtain ⟨between, hbetween⟩ := exists_at?_of_isPrefix hat hfront
  have hshorter : front.length < length := by
    rw [← hlength]
    exact lt_of_le_of_ne hfront.length_le fun heq => hother (hfront.eq_of_length heq)
  obtain ⟨first, hvisited, hfirstNe, hfirstFront, hfirstLong⟩ :=
    ih _ hshorter hbetween hfrontNe hfrontLong rfl
  exact ⟨first, hvisited, hfirstNe, hfirstFront.trans hfront, hfirstLong⟩

/-- The leaves of a tree are a listing of what is no directory, unless a path is too long. -/
theorem exists_isListing_leaves (hsound : node.IsSound)
    (hfits : ∀ leaf ∈ leaves path node, tooLong leaf.1 = false) :
    ∃ paths, IsListing paths node.leafNames ∧
      (leaves path node).map Prod.fst = paths.map path.below := by
  obtain ⟨paths, hpaths, hlisted⟩ := exists_isListing_visitedNames path hsound
  have hshort : ∀ names ∈ visitedNames path node, tooLong (path.below names) = false := by
    intro names hnames
    have hmem : path.below names ∈ (leaves path node).map Prod.fst := by
      rw [hlisted]
      exact List.mem_map_of_mem ((hpaths.mem_iff names).2 hnames)
    obtain ⟨leaf, hleaf, heq⟩ := List.mem_map.1 hmem
    rw [← heq, hfits leaf hleaf]
  refine ⟨paths, ⟨hpaths.pairwise_lt, fun names => (hpaths.mem_iff names).trans ⟨?_, ?_⟩⟩, hlisted⟩
  · intro hnames
    obtain ⟨⟨leaf, hat, hkind⟩, -⟩ := id hnames
    refine ⟨leaf, hat, hkind.resolve_right fun hlong => ?_⟩
    exact Bool.false_ne_true ((hshort names hnames).symm.trans hlong.2)
  · rintro ⟨leaf, hat, hnot⟩
    refine ⟨⟨leaf, hat, .inl hnot⟩, fun front hne hfront hother => ?_⟩
    by_contra hlong
    rw [Bool.not_eq_false] at hlong
    obtain ⟨between, hbetween⟩ := exists_at?_of_isPrefix hat hfront
    obtain ⟨first, hvisited, -, -, hfirst⟩ := exists_visited_of_tooLong hbetween hne hlong
    exact Bool.false_ne_true ((hshort first hvisited).symm.trans hfirst)

end Lookup.Files.Node
