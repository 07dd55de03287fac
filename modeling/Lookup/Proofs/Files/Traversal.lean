import Lookup.Proofs.Files.Reach

/-!
# Walks through trees with links

A walk goes down from directory to directory, but not through links, and comes to the files in the order of
their paths. A link counts as a file if its path leads to one. What cuts a walk short is the first path that
the system refuses since it is too long, or since a link there leads to something that is.

## Main definitions

* `Disk.filesBelow` — the files below a directory and the links to files
* `Disk.refusedBelow` — what the system refuses below a directory

## Main results

* `Disk.walk_eq_listing` — what a walk comes to where nothing is refused
* `Disk.walk_eq_listing_append` — what a walk comes to before it is cut short
* `Disk.walk_eq` — a walk by the checks that it makes at each entry
-/

namespace Lookup.Files

open Text

/-! ### Lists in order -/

/-- What a list starts with does not come after it. -/
theorem le_of_isPrefix {front names : List String} (h : front <+: names) : front ≤ names := by
  obtain ⟨rest, rfl⟩ := h
  rw [← not_lt]
  induction front with
  | nil => exact List.not_lt_nil _
  | cons name front ih =>
    rw [List.cons_append, List.cons_lt_cons_iff]
    rintro (hlt | ⟨-, hlt⟩)
    · exact lt_irrefl name hlt
    · exact ih hlt

/-- Lists with the same keys in order yield the same if items with one key do. -/
theorem flatMap_eq_of_map_eq {α β κ γ : Type} {items : List α} {others : List β} {key : α → κ}
    {otherKey : β → κ} {yield : α → List γ} {otherYield : β → List γ}
    (hkeys : items.map key = others.map otherKey)
    (h : ∀ item ∈ items, ∀ other, key item = otherKey other → yield item = otherYield other) :
    items.flatMap yield = others.flatMap otherYield := by
  induction items generalizing others with
  | nil =>
    obtain rfl : others = [] := by simpa using hkeys.symm
    rfl
  | cons item rest ih =>
    cases others with
    | nil => simp at hkeys
    | cons other more =>
      obtain ⟨hkey, hmore⟩ := List.cons.inj hkeys
      rw [List.flatMap_cons, List.flatMap_cons, h item List.mem_cons_self other hkey,
        ih hmore fun item hitem => h item (List.mem_cons_of_mem _ hitem)]

namespace Disk

variable {disk : Disk} {path : Path} {entries : List (String × Node)} {names place : List String}

/-- The files below a directory: regular files, and links whose path leads to a file. -/
def filesBelow (disk : Disk) (path : Path) (node : Node) : Set (List String) :=
  {names | (∃ content, node.at? names = some (.file content)) ∨
    (∃ target, node.at? names = some (.link target)) ∧ disk.isFile (path.below names) = .ok true}

/-- What the system refuses below a directory: a path that is too long, or a link that leads on to something
too long. -/
def refusedBelow (disk : Disk) (path : Path) (node : Node) : Set (List String) :=
  {names | names ≠ [] ∧ ((∃ found, node.at? names = some found) ∧
      Node.tooLong (path.below names) = true ∨
    (∃ target, node.at? names = some (.link target)) ∧
      ∃ error, disk.isFile (path.below names) = .error error)}

/-- The error at a path that is refused. -/
def lengthError (path : Path) : OpenError := .system (.refused .nameTooLong path.text)

/-- Whether a path leads to a file can be told unless the path is too long. -/
theorem isFile_eq_error {error : SystemError} (h : disk.isFile path = .error error) :
    error = .refused .nameTooLong path.text := by
  rw [isFile, check] at h
  split at h
  · cases h
  · exact (Except.error.inj h).symm
  · cases h

/-! ### Leaves -/

section Visit

variable {leaf : Node} (hat : (Node.directory entries).at? names = some leaf)

include hat

theorem visit_of_mem_refusedBelow (h : names ∈ disk.refusedBelow path (.directory entries)) :
    disk.visit (path.below names, leaf) = [.error (lengthError (path.below names))] := by
  by_cases hlong : Node.tooLong (path.below names) = true
  · exact visit_of_tooLong hlong
  · obtain ⟨-, ⟨-, hrefused⟩ | ⟨⟨target, hlink⟩, error, herror⟩⟩ := h
    · exact absurd hrefused hlong
    · obtain rfl := Option.some.inj (hat.symm.trans hlink)
      simp only [visit, if_neg hlong, herror]
      rw [isFile_eq_error herror]
      rfl

variable (hvisited : names ∈ Node.visitedNames path (.directory entries))
  (hrefused : names ∉ disk.refusedBelow path (.directory entries))

include hvisited hrefused

/-- A leaf that is not refused is a file or a link, and its path is not too long. -/
theorem tooLong_eq_false_of_visited :
    Node.tooLong (path.below names) = false ∧ ∀ inner, leaf ≠ .directory inner := by
  have hne : names ≠ [] := by
    rintro rfl
    obtain ⟨⟨found, hfound, hkind⟩, -⟩ := hvisited
    obtain rfl := Option.some.inj hfound
    exact absurd hkind (by simp)
  have hshort : Node.tooLong (path.below names) = false := by
    by_contra hlong
    exact hrefused ⟨hne, .inl ⟨⟨leaf, hat⟩, by simpa using hlong⟩⟩
  refine ⟨hshort, ?_⟩
  obtain ⟨⟨found, hfound, hkind⟩, -⟩ := hvisited
  obtain rfl := Option.some.inj (hat.symm.trans hfound)
  exact hkind.resolve_right fun hlong => by simp [hshort] at hlong

theorem visit_of_mem_filesBelow (h : names ∈ disk.filesBelow path (.directory entries)) :
    disk.visit (path.below names, leaf) = [.file (path.below names)] := by
  obtain ⟨hshort, -⟩ := tooLong_eq_false_of_visited hat hvisited hrefused
  rcases h with ⟨content, hfile⟩ | ⟨⟨target, hlink⟩, hfile⟩
  · obtain rfl := Option.some.inj (hat.symm.trans hfile)
    exact visit_of_ne_link hshort (by simp)
  · obtain rfl := Option.some.inj (hat.symm.trans hlink)
    simp [visit, hshort, hfile]

theorem visit_of_notMem_filesBelow (h : names ∉ disk.filesBelow path (.directory entries)) :
    disk.visit (path.below names, leaf) = [] := by
  obtain ⟨hshort, hnot⟩ := tooLong_eq_false_of_visited hat hvisited hrefused
  cases hleaf : leaf with
  | directory inner => exact absurd hleaf (hnot inner)
  | file content => exact absurd (.inl ⟨content, hleaf ▸ hat⟩) h
  | link target =>
    subst hleaf
    cases hfile : disk.isFile (path.below names) with
    | error error =>
      refine absurd ⟨?_, .inr ⟨⟨target, hat⟩, error, hfile⟩⟩ hrefused
      rintro rfl
      simp [Node.at?] at hat
    | ok isFile =>
      cases isFile with
      | true => exact absurd (.inr ⟨⟨target, hat⟩, hfile⟩) h
      | false => simp [visit, hshort, hfile]

end Visit

/-! ### Walks -/

open scoped Classical in
/-- What a walk comes to at one of the leaves below a directory. -/
noncomputable def yield (disk : Disk) (path : Path) (node : Node) (names : List String) : List Found :=
  if names ∈ disk.refusedBelow path node then [.error (lengthError (path.below names))]
  else if names ∈ disk.filesBelow path node then [.file (path.below names)]
  else []

/-- A walk comes to the leaves of its directory in order. -/
theorem exists_walk_eq_flatMap (hsound : (Node.directory entries).IsSound)
    (hresolve : disk.resolve path = .ok (place, .directory entries)) :
    ∃ paths, IsListing paths (Node.visitedNames path (.directory entries)) ∧
      disk.walk path = paths.flatMap (disk.yield path (.directory entries)) := by
  obtain ⟨paths, hpaths, hlisted⟩ := Node.exists_isListing_visitedNames path hsound
  refine ⟨paths, hpaths, ?_⟩
  rw [walk, hresolve]
  refine flatMap_eq_of_map_eq hlisted fun leaf hleaf names hkey => ?_
  have hvisited : names ∈ Node.visitedNames path (.directory entries) := by
    rw [← hpaths.mem_iff]
    have hmem := List.mem_map_of_mem (f := Prod.fst) hleaf
    rw [hlisted, hkey] at hmem
    exact (List.mem_map_of_injective path.below_injective).1 hmem
  obtain ⟨others, hothers, hat⟩ := Node.exists_of_mem_leaves hsound hleaf
  obtain rfl := Path.below_injective path (hkey.symm.trans hothers)
  obtain ⟨file, leaf⟩ := leaf
  obtain rfl : file = path.below names := hkey
  rw [yield]
  split
  · next hrefused => exact visit_of_mem_refusedBelow hat hrefused
  · next hrefused =>
    split
    · next hfile => exact visit_of_mem_filesBelow hat hvisited hrefused hfile
    · next hfile => exact visit_of_notMem_filesBelow hat hvisited hrefused hfile

open scoped Classical in
/-- Where nothing is refused, a walk comes to the files among the leaves. -/
theorem flatMap_yield_eq_map {node : Node} {paths : List (List String)}
    (h : ∀ names ∈ paths, names ∉ disk.refusedBelow path node) :
    paths.flatMap (disk.yield path node) =
      (paths.filter (· ∈ disk.filesBelow path node)).map fun names => .file (path.below names) := by
  induction paths with
  | nil => rfl
  | cons names rest ih =>
    rw [List.flatMap_cons, ih fun other hother => h other (List.mem_cons_of_mem _ hother), yield,
      if_neg (h names List.mem_cons_self), List.filter_cons]
    by_cases hfile : names ∈ disk.filesBelow path node <;> simp [hfile]

/-- Whether a leaf on the way down to a place is refused. -/
def IsBlocked (disk : Disk) (path : Path) (node : Node) (names : List String) : Prop :=
  ∃ front ∈ node.visitedNames path, front ∈ disk.refusedBelow path node ∧ front <+: names

theorem isBlocked_of_tooLong {node found : Node} (hat : node.at? names = some found) (hne : names ≠ [])
    (hlong : Node.tooLong (path.below names) = true) : disk.IsBlocked path node names := by
  obtain ⟨front, hvisited, hfrontNe, hfront, hfrontLong⟩ :=
    Node.exists_visited_of_tooLong hat hne hlong
  exact ⟨front, hvisited, ⟨hfrontNe, .inl ⟨Node.exists_at?_of_isPrefix hat hfront, hfrontLong⟩⟩, hfront⟩

/-- What is no directory is a leaf, unless a leaf on the way to it is refused. -/
theorem mem_visitedNames_or_isBlocked {node leaf : Node} (hat : node.at? names = some leaf)
    (hnot : ∀ inner, leaf ≠ .directory inner) :
    names ∈ node.visitedNames path ∨ disk.IsBlocked path node names := by
  by_cases hfirst : ∀ front, front ≠ [] → front <+: names → front ≠ names →
      Node.tooLong (path.below front) = false
  · exact .inl ⟨⟨leaf, hat, .inl hnot⟩, hfirst⟩
  · simp only [not_forall, Bool.not_eq_false] at hfirst
    obtain ⟨front, hne, hfront, -, hlong⟩ := hfirst
    obtain ⟨between, hbetween⟩ := Node.exists_at?_of_isPrefix hat hfront
    obtain ⟨first, hvisited, hrefused, hprefix⟩ := isBlocked_of_tooLong hbetween hne hlong
    exact .inr ⟨first, hvisited, hrefused, hprefix.trans hfront⟩

/-- A leaf is refused on the way to all that is refused, if only at its end. -/
theorem isBlocked_of_mem_refusedBelow {node : Node} (h : names ∈ disk.refusedBelow path node) :
    disk.IsBlocked path node names := by
  obtain ⟨hne, ⟨⟨found, hat⟩, hlong⟩ | ⟨⟨target, hat⟩, herror⟩⟩ := id h
  · exact isBlocked_of_tooLong hat hne hlong
  · rcases mem_visitedNames_or_isBlocked hat (by simp) with hvisited | hblocked
    · exact ⟨names, hvisited, h, List.prefix_rfl⟩
    · exact hblocked

theorem mem_visitedNames_of_mem_filesBelow {node : Node} (h : names ∈ disk.filesBelow path node)
    (hfree : ¬ disk.IsBlocked path node names) : names ∈ node.visitedNames path := by
  obtain ⟨leaf, hat, hnot⟩ : ∃ leaf, node.at? names = some leaf ∧ ∀ inner, leaf ≠ .directory inner := by
    rcases h with ⟨content, hat⟩ | ⟨⟨target, hat⟩, -⟩
    · exact ⟨_, hat, by simp⟩
    · exact ⟨_, hat, by simp⟩
  exact (mem_visitedNames_or_isBlocked hat hnot).resolve_right hfree

/-- A walk through a directory below which nothing is refused comes to its files in the order of
their paths. -/
theorem walk_eq_listing (hsound : (Node.directory entries).IsSound)
    (hresolve : disk.resolve path = .ok (place, .directory entries))
    (hnone : disk.refusedBelow path (.directory entries) = ∅) :
    ∃ paths, IsListing paths (disk.filesBelow path (.directory entries)) ∧
      disk.walk path = paths.map fun names => .file (path.below names) := by
  classical
  obtain ⟨paths, hpaths, hwalk⟩ := exists_walk_eq_flatMap hsound hresolve
  refine ⟨paths.filter (· ∈ disk.filesBelow path (.directory entries)), ⟨?_, fun names => ?_⟩, ?_⟩
  · exact hpaths.pairwise_lt.sublist List.filter_sublist
  · rw [List.mem_filter, decide_eq_true_eq, hpaths.mem_iff]
    refine ⟨And.right, fun hfile => ⟨mem_visitedNames_of_mem_filesBelow hfile ?_, hfile⟩⟩
    rintro ⟨front, -, hrefused, -⟩
    rw [hnone] at hrefused
    exact hrefused
  · rw [hwalk, flatMap_yield_eq_map fun names _ hrefused => by rw [hnone] at hrefused; exact hrefused]

/-- A walk through a directory below which something is refused comes to the files before the first path that
is refused, and then to the error there. -/
theorem walk_eq_listing_append (hsound : (Node.directory entries).IsSound)
    (hresolve : disk.resolve path = .ok (place, .directory entries))
    (hsome : (disk.refusedBelow path (.directory entries)).Nonempty) :
    ∃ first ∈ disk.refusedBelow path (.directory entries),
      (∀ other ∈ disk.refusedBelow path (.directory entries), first ≤ other) ∧
      ∃ paths rest,
        IsListing paths {names ∈ disk.filesBelow path (.directory entries) | names < first} ∧
        disk.walk path = (paths.map fun names => .file (path.below names)) ++
          .error (lengthError (path.below first)) :: rest := by
  classical
  obtain ⟨leaves, hleaves, hwalk⟩ := exists_walk_eq_flatMap hsound hresolve
  -- The leaves are split at the first one that is refused.
  obtain ⟨first, hfind⟩ : ∃ first, leaves.find? (· ∈ disk.refusedBelow path (.directory entries)) =
      some first := by
    obtain ⟨names, hnames⟩ := hsome
    obtain ⟨front, hvisited, hrefused, -⟩ := isBlocked_of_mem_refusedBelow hnames
    rw [← Option.isSome_iff_exists, List.find?_isSome]
    exact ⟨front, (hleaves.mem_iff front).2 hvisited, by simpa using hrefused⟩
  obtain ⟨hfirst, before, after, rfl, hbefore⟩ := List.find?_eq_some_iff_append.1 hfind
  simp only [decide_eq_true_eq, Bool.not_eq_true', decide_eq_false_iff_not] at hfirst hbefore
  obtain ⟨hsorted, hrest, hearlier⟩ := List.pairwise_append.1 hleaves.pairwise_lt
  have hlater : ∀ names ∈ after, first < names := (List.pairwise_cons.1 hrest).1
  have hblocked : ∀ names, disk.IsBlocked path (.directory entries) names → first ≤ names := by
    rintro names ⟨front, hvisited, hrefused, hfront⟩
    refine le_trans ?_ (le_of_isPrefix hfront)
    rcases List.mem_append.1 ((hleaves.mem_iff front).2 hvisited) with hmem | hmem
    · exact absurd hrefused (hbefore front hmem)
    rcases List.mem_cons.1 hmem with rfl | hmem
    · exact le_rfl
    · exact le_of_lt (hlater front hmem)
  refine ⟨first, hfirst, fun other hother => hblocked other (isBlocked_of_mem_refusedBelow hother),
    before.filter (· ∈ disk.filesBelow path (.directory entries)),
    after.flatMap (disk.yield path (.directory entries)), ⟨?_, fun names => ?_⟩, ?_⟩
  · exact hsorted.sublist List.filter_sublist
  · rw [List.mem_filter, decide_eq_true_eq]
    constructor
    · rintro ⟨hmem, hfile⟩
      exact ⟨hfile, hearlier names hmem first List.mem_cons_self⟩
    · rintro ⟨hfile, hlt⟩
      have hvisited := mem_visitedNames_of_mem_filesBelow hfile fun h => (hblocked _ h).not_gt hlt
      refine ⟨((List.mem_append.1 ((hleaves.mem_iff names).2 hvisited)).resolve_right fun hmem => ?_),
        hfile⟩
      rcases List.mem_cons.1 hmem with rfl | hmem
      · exact lt_irrefl _ hlt
      · exact lt_asymm hlt (hlater names hmem)
  · rw [hwalk, List.flatMap_append, List.flatMap_cons, flatMap_yield_eq_map hbefore, yield,
      if_pos hfirst, List.singleton_append]

/-! ### Entries -/

/-- What a walk comes to at an entry of a directory. The checks follow links, so a link to a directory is
told from a directory before it is entered. -/
def enter (disk : Disk) (path : Path) (entry : String × Node) : List Found :=
  match disk.isDirectory (path.child entry.1) with
  | .error error => [.error (.system error)]
  | .ok true =>
    match entry.2 with
    | .link _ => []
    | _ => disk.walk (path.child entry.1)
  | .ok false =>
    match disk.isFile (path.child entry.1) with
    | .error error => [.error (.system error)]
    | .ok true => [.file (path.child entry.1)]
    | .ok false => []

section Entry

variable (hdisk : disk.IsSound) (hpath : path.IsNormal)
  (hresolve : disk.resolve path = .ok (place, .directory entries))
  {entry : String × Node} (hentry : entry ∈ entries)

include hdisk hpath hresolve hentry

theorem nul_notMem_text_child : '\x00' ∉ (path.child entry.1).text.toList := by
  have hsound := hdisk.root.of_at? (at?_of_resolve hresolve)
  refine nul_notMem_text_below hpath hresolve fun name hname => ?_
  rw [List.mem_singleton.1 hname]
  exact (hsound.isFileName_fst hentry).nul_notMem

/-- An entry that is no link is where its name leads. -/
theorem resolve_child (hshort : ¬ Node.componentLimit < entry.1.utf8ByteSize)
    (hlong : Node.tooLong (path.child entry.1) = false) (hlink : ∀ target, entry.2 ≠ .link target) :
    disk.resolve (path.child entry.1) = .ok (place ++ [entry.1], entry.2) := by
  have hplace := at?_of_resolve hresolve
  have hsound := hdisk.root.of_at? hplace
  have hname := hsound.isFileName_fst hentry
  have hchild : disk.root.at? (place ++ [entry.1]) = some entry.2 := by
    rw [Node.at?_append, hplace, Option.bind_some, hsound.at?_cons_eq hentry, Node.at?]
  obtain ⟨left, hleft⟩ := exists_resolve_below hpath hresolve
  have hbelow := hleft [entry.1] (fun name hmem => List.mem_singleton.1 hmem ▸ hname.toIsComponent)
    (nul_notMem_text_child hdisk hpath hresolve hentry) (of_decide_eq_false hlong)
  rw [Path.child_eq_below, hbelow, Node.followWithin,
    Node.advance_cons_some hplace hname.ne_dot hname.ne_dotdot hshort (hsound.entry?_eq hentry) hlink,
    Node.advance, hchild]
  rfl

theorem check_child_of_tooLong (property : Node → Bool)
    (hlong : Node.tooLong (path.child entry.1) = true) :
    disk.check property (path.child entry.1) =
      .error (.refused .nameTooLong (path.child entry.1).text) := by
  rw [check, resolve_of_long (nul_notMem_text_child hdisk hpath hresolve hentry)
    (of_decide_eq_true hlong)]

/-- What a walk comes to among the leaves of an entry. -/
theorem flatMap_visit_leavesAt (hshort : ¬ Node.componentLimit < entry.1.utf8ByteSize) :
    (Node.leavesAt path entry).flatMap (disk.visit ·) = disk.enter path entry := by
  rw [Node.leavesAt, enter, isDirectory]
  by_cases hlong : Node.tooLong (path.child entry.1) = true
  · rw [if_pos hlong, List.flatMap_singleton, visit_of_tooLong hlong,
      check_child_of_tooLong hdisk hpath hresolve hentry _ hlong]
  rw [if_neg hlong]
  rw [Bool.not_eq_true] at hlong
  obtain ⟨name, node⟩ := entry
  cases node with
  | file content =>
    have hchild := resolve_child hdisk hpath hresolve hentry hshort hlong (by simp)
    simp [Node.leaves, visit, hlong, isFile, check, hchild]
  | directory inner =>
    have hchild := resolve_child hdisk hpath hresolve hentry hshort hlong (by simp)
    simp only [walk, check, hchild]
  | link target =>
    -- The checks follow the link to the same place.
    rw [Node.leaves, List.flatMap_singleton, visit]
    simp only [hlong, isFile, check]
    cases hreached : disk.resolve (path.child name) with
    | ok reached =>
      obtain ⟨reached, found⟩ := reached
      cases found <;> simp
    | error error =>
      cases error with
      | nul => simp
      | refused errno => cases errno <;> simp

end Entry

/-- A walk goes through the entries of a directory in the order of their names. -/
theorem walk_eq (hdisk : disk.IsSound) (hpath : path.IsNormal)
    (hresolve : disk.resolve path = .ok (place, .directory entries))
    (hshort : ∀ entry ∈ entries, ¬ Node.componentLimit < entry.1.utf8ByteSize) :
    disk.walk path = (Node.sortedEntries entries).flatMap (disk.enter path) := by
  rw [walk, hresolve]
  simp only [Node.leaves_directory, List.flatMap_assoc]
  refine List.flatMap_congr fun entry hentry => ?_
  have hmem := Node.mem_sortedEntries.1 hentry
  exact flatMap_visit_leavesAt hdisk hpath hresolve hmem (hshort entry hmem)

end Disk

end Lookup.Files
