import Lookup.Proofs.Files.MemberName
import Lookup.Proofs.Files.Walk

/-!
# Reaching files below a directory

What a walk below a directory comes to can be reached by its path, unless the system refuses the path for
its length. The other way round, what can be reached by a path lies in the tree of the directory, and a
walk comes to it, provided that the directory holds no symbolic link to a directory.

## Main definitions

* `Disk.HasDirectoryLink` — directories that hold a symbolic link to a directory

## Main results

* `Disk.isFile_of_file_mem_walk` — files that a walk comes to can be reached
* `Disk.at?_of_resolve_below` — what is reached lies in the tree of the directory
* `Disk.file_mem_walk_of_isFile` — a walk comes to the files that can be reached
-/

namespace Lookup.Files

open Text

namespace Node

variable {root node found : Node} {place names todo more reached : List String} {links : Nat}

/-- Components that lead along the entries of a tree to something that is no link are followed there,
unless one of them is too long. -/
theorem advance_of_at? (hplace : root.at? place = some node)
    (hnames : ∀ name ∈ names, name ≠ "." ∧ name ≠ "..") (hat : node.at? names = some found)
    (hlink : ∀ target, found ≠ .link target) :
    advance root place names = .done (place ++ names) found ∨
      advance root place names = .failed .nameTooLong := by
  induction names generalizing place node with
  | nil =>
    obtain rfl : node = found := Option.some.inj hat
    exact .inl (by simp [advance, hplace])
  | cons name rest ih =>
    obtain ⟨hdot, hdotdot⟩ := hnames name List.mem_cons_self
    cases node with
    | file content => simp [at?_cons, entry?, Node.entries] at hat
    | link target => simp [at?_cons, entry?, Node.entries] at hat
    | directory entries =>
      by_cases hlong : componentLimit < name.utf8ByteSize
      · exact .inr (advance_cons_long hplace hdot hdotdot hlong)
      obtain ⟨child, hentry, hchild⟩ := Option.bind_eq_some_iff.1 hat
      -- A link could not lead on to anything but itself.
      have hchildLink : ∀ target, child ≠ .link target := by
        rintro target rfl
        cases rest with
        | nil => exact hlink target (Option.some.inj hchild).symm
        | cons next rest => simp [at?_cons, entry?, Node.entries] at hchild
      have hnext : root.at? (place ++ [name]) = some child := by
        rw [at?_append, hplace, Option.bind_some, at?_cons, hentry]
        rfl
      rw [advance_cons_some hplace hdot hdotdot hlong hentry hchildLink]
      have hrest := ih hnext (fun n hn => hnames n (List.mem_cons_of_mem _ hn)) hchild
      rwa [List.append_assoc, List.singleton_append] at hrest

/-- A component below a directory leads nowhere, or to a link, or to an entry of the directory. -/
theorem advance_singleton {entries : List (String × Node)} {name : String}
    (hplace : root.at? place = some (.directory entries)) (hdot : name ≠ ".") (hdotdot : name ≠ "..") :
    (∃ errno, advance root place [name] = .failed errno) ∨
      (∃ target, entries.lookup name = some (.link target)) ∨
      ∃ child, entries.lookup name = some child ∧
        advance root place [name] = .done (place ++ [name]) child := by
  by_cases hlong : componentLimit < name.utf8ByteSize
  · exact .inl ⟨_, advance_cons_long hplace hdot hdotdot hlong⟩
  cases hentry : entries.lookup name with
  | none => exact .inl ⟨_, advance_cons_none hplace hdot hdotdot hlong hentry⟩
  | some child =>
    by_cases hlink : ∃ target, child = .link target
    · obtain ⟨target, rfl⟩ := hlink
      exact .inr (.inl ⟨target, rfl⟩)
    · have hnext : root.at? (place ++ [name]) = some child := by
        rw [at?_append, hplace, Option.bind_some, at?_cons]
        exact (Option.bind_fun_some _).trans hentry
      refine .inr (.inr ⟨child, rfl, ?_⟩)
      rw [advance_cons_some hplace hdot hdotdot hlong hentry fun target heq => hlink ⟨target, heq⟩,
        advance, hnext]

/-- A path that leads on from somewhere leads on from a directory. -/
theorem exists_directory_of_advance (hne : names ≠ [])
    (h : ∀ errno, advance root place names ≠ .failed errno) :
    ∃ entries, root.at? place = some (.directory entries) := by
  obtain ⟨name, rest, rfl⟩ := List.exists_cons_of_ne_nil hne
  cases hplace : root.at? place with
  | none => exact absurd (by simp [advance, hplace]) (h .noEntry)
  | some node =>
    cases node with
    | directory entries => exact ⟨entries, rfl⟩
    | file content => exact absurd (by simp [advance, hplace]) (h .notDirectory)
    | link target => exact absurd (by simp [advance, hplace]) (h .notDirectory)

/-- The first part of a path that leads somewhere leads to a directory. -/
theorem exists_followWithin_of_append (hne : more ≠ [])
    (h : followWithin root links place (todo ++ more) = .ok (reached, found)) :
    ∃ between entries, followWithin root links place todo = .ok (between, .directory entries) := by
  induction links generalizing place todo with
  | zero => simp [followWithin] at h
  | succ links ih =>
    rw [followWithin, advance_append] at h
    rw [followWithin]
    cases hadvance : advance root place todo with
    | failed errno => simp [hadvance, Reach.further] at h
    | detour names rest =>
      rw [hadvance] at h
      exact ih h
    | done names node =>
      rw [hadvance] at h
      obtain ⟨entries, hentries⟩ : ∃ entries, root.at? names = some (.directory entries) := by
        refine exists_directory_of_advance hne fun errno hfailed => ?_
        simp [Reach.further, hfailed] at h
      rw [advance_done hadvance] at hentries
      obtain rfl := Option.some.inj hentries
      exact ⟨names, entries, rfl⟩

/-- A directory stands among the leaves only where its path is too long. -/
theorem tooLong_of_directory_mem_leaves {path file : Path} {entries : List (String × Node)}
    (h : (file, .directory entries) ∈ leaves path node) : tooLong file = true := by
  induction node using inductionOn generalizing path with
  | file content => simp [leaves] at h
  | link target => simp [leaves] at h
  | directory inner ih =>
    obtain ⟨entry, hentry, hleaf⟩ := mem_leaves_directory.1 h
    rw [leavesAt] at hleaf
    split at hleaf
    · next hlong =>
      obtain ⟨rfl, -⟩ := Prod.mk.inj (List.mem_singleton.1 hleaf)
      exact hlong
    · exact ih entry hentry hleaf

/-- What is no directory below a node is among its leaves, unless one of them is too long. -/
theorem mem_leaves_of_at? {path : Path} (hsound : node.IsSound)
    (hfits : ∀ leaf ∈ leaves path node, tooLong leaf.1 = false) (hat : node.at? names = some found)
    (hnot : ∀ entries, found ≠ .directory entries) : (path.below names, found) ∈ leaves path node := by
  obtain ⟨paths, hpaths, hlisted⟩ := exists_isListing_leaves hsound hfits
  have hmem : path.below names ∈ (leaves path node).map Prod.fst := by
    rw [hlisted]
    exact List.mem_map_of_mem ((hpaths.mem_iff names).2 ⟨found, hat, hnot⟩)
  obtain ⟨⟨file, leaf⟩, hleaf, rfl⟩ := List.mem_map.1 hmem
  obtain ⟨more, hmore, hat'⟩ := exists_of_mem_leaves hsound hleaf
  rw [← Path.below_injective path hmore, hat] at hat'
  rwa [Option.some.inj hat']

end Node

namespace Disk

variable {disk : Disk} {entry path file : Path} {names rest place reached : List String}
  {node found : Node}

/-- A property is that of something which a path leads to. -/
theorem check_eq_true_iff {property : Node → Bool} :
    disk.check property path = .ok true ↔
      ∃ place node, disk.resolve path = .ok (place, node) ∧ property node = true := by
  rw [check]
  rcases disk.resolve path with (_ | errno) | ⟨place, node⟩
  · simp
  · cases errno <;> simp
  · simp

theorem isDirectory_eq_true_iff :
    disk.isDirectory path = .ok true ↔
      ∃ place entries, disk.resolve path = .ok (place, .directory entries) := by
  rw [isDirectory, check_eq_true_iff]
  constructor
  · rintro ⟨place, node, hresolve, hnode⟩
    cases node with
    | directory entries => exact ⟨place, entries, hresolve⟩
    | file | link => cases hnode
  · rintro ⟨place, entries, hresolve⟩
    exact ⟨place, _, hresolve, rfl⟩

theorem isFile_eq_true_iff :
    disk.isFile path = .ok true ↔ ∃ place content, disk.resolve path = .ok (place, .file content) := by
  rw [isFile, check_eq_true_iff]
  constructor
  · rintro ⟨place, node, hresolve, hnode⟩
    cases node with
    | file content => exact ⟨place, content, hresolve⟩
    | directory | link => cases hnode
  · rintro ⟨place, content, hresolve⟩
    exact ⟨place, _, hresolve, rfl⟩

/-- A directory that holds a symbolic link to a directory, at any depth. -/
def HasDirectoryLink (disk : Disk) (entry : Path) : Prop :=
  ∃ place node names target, disk.resolve entry = .ok (place, node) ∧
    node.at? names = some (.link target) ∧ disk.isDirectory (entry.below names) = .ok true

theorem not_hasDirectoryLink_of_isLinkFree (hresolve : disk.resolve entry = .ok (place, node))
    (hlinks : node.IsLinkFree) : ¬ disk.HasDirectoryLink entry := by
  rintro ⟨other, found, names, target, hother, hat, -⟩
  obtain ⟨-, rfl⟩ := Prod.mk.inj (Except.ok.inj (hresolve.symm.trans hother))
  exact hlinks names target hat

/-! ### Files of a walk -/

/-- A file in the tree below a directory can be reached by its path, unless one of its components is too
long. -/
theorem isFile_below_of_at? {content : Content} (hpath : path.IsNormal)
    (hresolve : disk.resolve path = .ok (place, node)) (hnames : ∀ name ∈ names, IsFileName name)
    (hat : node.at? names = some (.file content)) (hshort : ¬ Node.tooLong (path.below names) = true) :
    disk.isFile (path.below names) = .ok true ∨
      disk.isFile (path.below names) = .error (.refused .nameTooLong (path.below names).text) := by
  obtain ⟨left, hleft⟩ := exists_resolve_below hpath hresolve
  have hnul : '\x00' ∉ (path.below names).text.toList :=
    nul_notMem_text_below hpath hresolve fun name hname => (hnames name hname).nul_notMem
  rw [Node.tooLong, decide_eq_true_eq] at hshort
  have hbelow := hleft names (fun name hname => (hnames name hname).toIsComponent) hnul hshort
  rw [Node.followWithin] at hbelow
  rw [isFile, check, hbelow]
  rcases Node.advance_of_at? (at?_of_resolve hresolve)
      (fun name hname => ⟨(hnames name hname).ne_dot, (hnames name hname).ne_dotdot⟩) hat
      (by simp) with hdone | hfailed
  · rw [hdone]
    exact .inl rfl
  · rw [hfailed]
    exact .inr rfl

/-- A file that a walk comes to can be reached by its path, unless one of its components is too long. -/
theorem isFile_of_file_mem_walk (hdisk : disk.IsSound) (hpath : path.IsNormal)
    (h : .file file ∈ disk.walk path) :
    disk.isFile file = .ok true ∨ disk.isFile file = .error (.refused .nameTooLong file.text) := by
  rw [walk] at h
  split at h
  · next place entries hresolve =>
    have hsound := hdisk.root.of_at? (at?_of_resolve hresolve)
    obtain ⟨leaf, hleaf, hvisit⟩ := List.mem_flatMap.1 h
    obtain rfl := eq_of_file_mem_visit hvisit
    have hshort : ¬ Node.tooLong leaf.1 = true := by
      intro hlong
      rw [visit_of_tooLong hlong] at hvisit
      simp at hvisit
    obtain ⟨names, hnames, hat⟩ := Node.exists_of_mem_leaves hsound hleaf
    cases hnode : leaf.2 with
    | directory inner =>
      have hdirectory : (leaf.1, .directory inner) ∈ Node.leaves path (.directory entries) := by
        rwa [← hnode]
      exact absurd (Node.tooLong_of_directory_mem_leaves hdirectory) hshort
    | link target =>
      -- A link stands for a file only where its path leads to one.
      rw [visit, if_neg hshort, hnode] at hvisit
      rcases hisFile : disk.isFile leaf.1 with error | _ | _
      · simp [hisFile] at hvisit
      · simp [hisFile] at hvisit
      · exact .inl rfl
    | file content =>
      rw [hnode] at hat
      rw [hnames] at hshort ⊢
      exact isFile_below_of_at? hpath hresolve (hsound.isFileName hat) hat hshort
  · simp at h
  · simp at h

/-- No path is too long where a walk comes to no error. -/
theorem tooLong_eq_false_of_walk {entries : List (String × Node)}
    (hresolve : disk.resolve path = .ok (place, .directory entries))
    (hwalk : ∀ error, .error error ∉ disk.walk path) :
    ∀ leaf ∈ Node.leaves path (.directory entries), Node.tooLong leaf.1 = false := by
  intro leaf hleaf
  by_contra hlong
  rw [Bool.not_eq_false] at hlong
  refine hwalk (.system (.refused .nameTooLong leaf.1.text)) ?_
  rw [walk, hresolve]
  exact List.mem_flatMap.2 ⟨leaf, hleaf, by rw [visit_of_tooLong hlong]; exact List.mem_cons_self⟩

/-! ### Files that are reached -/

section Reached

variable (h : entry.IsNormal) (hresolve : disk.resolve entry = .ok (place, node))

include h hresolve

/-- The first part of a path below a directory that leads somewhere leads to a directory. -/
theorem exists_resolve_of_append (hnames : ∀ name ∈ names ++ rest, IsComponent name) (hne : rest ≠ [])
    (hreached : disk.resolve (entry.below (names ++ rest)) = .ok (reached, found)) :
    ∃ between entries, disk.resolve (entry.below names) = .ok (between, .directory entries) := by
  have hfront : ∀ name ∈ names, IsComponent name := fun name hname =>
    hnames name (List.mem_append_left _ hname)
  obtain ⟨hnul, hshort, -⟩ := follow_of_resolve (h.below hnames) hreached
  -- The text of the first part is where that of the whole path starts.
  have htext : (entry.below (names ++ rest)).text.toList =
      (entry.below names).text.toList ++
        ((if (entry.below names).names = [] then [] else ['/']) ++ (fileName rest).toList) := by
    rw [Path.below_append, toList_text_below (h.below hfront) hne, List.append_assoc]
  have hnul' : '\x00' ∉ (entry.below names).text.toList := by
    rw [htext] at hnul
    exact fun hmem => hnul (List.mem_append_left _ hmem)
  have hshort' : ¬ Node.pathLimit < (entry.below names).text.utf8ByteSize := by
    rw [← String.ofList_toList (s := (entry.below (names ++ rest)).text), htext, String.ofList_append,
      String.utf8ByteSize_append, String.ofList_toList] at hshort
    omega
  obtain ⟨left, hleft⟩ := exists_resolve_below h hresolve
  rw [hleft _ hnames hnul hshort] at hreached
  cases hfollow : disk.root.followWithin (left + 1) place (names ++ rest) with
  | error errno => simp [hfollow, Except.mapError] at hreached
  | ok reached =>
    obtain ⟨between, entries, hbetween⟩ := Node.exists_followWithin_of_append hne hfollow
    exact ⟨between, entries, by rw [hleft _ hfront hnul' hshort', hbetween]; rfl⟩

/-- What is reached below a directory without links to directories lies in its tree, where it may be a
link to what is reached. -/
theorem at?_of_resolve_below (hlinks : ¬ disk.HasDirectoryLink entry)
    (hnames : ∀ name ∈ names, IsComponent name ∧ name ≠ "..")
    (hreached : disk.resolve (entry.below names) = .ok (reached, found)) :
    (∃ target, node.at? names = some (.link target)) ∨
      node.at? names = some found ∧ reached = place ++ names := by
  have hcomponent : ∀ name ∈ names, IsComponent name := fun name hname => (hnames name hname).1
  induction names using List.reverseRecOn generalizing reached found with
  | nil =>
    rw [Path.below_nil, hresolve] at hreached
    obtain ⟨rfl, rfl⟩ := Prod.mk.inj (Except.ok.inj hreached)
    exact .inr ⟨rfl, (List.append_nil _).symm⟩
  | append_singleton front name ih =>
    have hfront : ∀ name ∈ front, IsComponent name ∧ name ≠ ".." := fun other hother =>
      hnames other (List.mem_append_left _ hother)
    obtain ⟨hname, hdotdot⟩ := hnames name (by simp)
    obtain ⟨between, entries, hbetween⟩ :=
      exists_resolve_of_append h hresolve hcomponent (by simp) hreached
    -- The directory before the last component is no link, so it is at its place in the tree.
    rcases ih hfront hbetween fun other hother => (hfront other hother).1 with ⟨target, hat⟩ | ⟨hat, rfl⟩
    · have hdirectory : disk.isDirectory (entry.below front) = .ok true :=
        isDirectory_eq_true_iff.2 ⟨between, entries, hbetween⟩
      exact absurd ⟨place, node, front, target, hresolve, hat, hdirectory⟩ hlinks
    obtain ⟨hnul, hshort, -⟩ := follow_of_resolve (h.below hcomponent) hreached
    obtain ⟨left, hleft⟩ := exists_resolve_below h hresolve
    have hplace := at?_of_resolve hresolve
    rw [hleft _ hcomponent hnul hshort, Node.followWithin, Node.advance_append] at hreached
    rcases Node.advance_of_at? hplace
        (fun other hother => ⟨(hfront other hother).1.ne_dot, (hfront other hother).2⟩) hat
        (by simp) with hdone | hfailed
    · rw [hdone, Node.Reach.further] at hreached
      have hroot : disk.root.at? (place ++ front) = some (.directory entries) := by
        rw [Node.at?_append, hplace, Option.bind_some, hat]
      have hchild : node.at? (front ++ [name]) = entries.lookup name := by
        rw [Node.at?_append, hat, Option.bind_some, Node.at?_cons]
        exact Option.bind_fun_some _
      rcases Node.advance_singleton hroot hname.ne_dot hdotdot with
        ⟨errno, hfailed⟩ | ⟨target, hentry⟩ | ⟨child, hentry, hdone⟩
      · rw [hfailed] at hreached
        simp [Except.mapError] at hreached
      · exact .inl ⟨target, hchild.trans hentry⟩
      · simp only [hdone, Except.mapError, Except.ok.injEq, Prod.mk.injEq] at hreached
        obtain ⟨rfl, rfl⟩ := hreached
        exact .inr ⟨hchild.trans hentry, List.append_assoc _ _ _⟩
    · rw [hfailed, Node.Reach.further] at hreached
      simp [Except.mapError] at hreached

/-- A directory that is reached below a directory without links to directories lies in its tree. -/
theorem at?_directory_of_resolve_below {entries : List (String × Node)}
    (hlinks : ¬ disk.HasDirectoryLink entry) (hnames : ∀ name ∈ names, IsComponent name ∧ name ≠ "..")
    (hreached : disk.resolve (entry.below names) = .ok (reached, .directory entries)) :
    node.at? names = some (.directory entries) := by
  rcases at?_of_resolve_below h hresolve hlinks hnames hreached with ⟨target, hat⟩ | ⟨hat, -⟩
  · have hdirectory : disk.isDirectory (entry.below names) = .ok true :=
      isDirectory_eq_true_iff.2 ⟨reached, entries, hreached⟩
    exact absurd ⟨place, node, names, target, hresolve, hat, hdirectory⟩ hlinks
  · exact hat

/-- A walk through a directory without links to directories comes to every file that can be reached below
it, unless it comes to an error. -/
theorem file_mem_walk_of_isFile (hdisk : disk.IsSound) (hlinks : ¬ disk.HasDirectoryLink entry)
    (hnames : ∀ name ∈ names ++ rest, IsComponent name ∧ name ≠ "..") (hne : rest ≠ [])
    (hfile : disk.isFile (entry.below (names ++ rest)) = .ok true)
    (hwalk : ∀ error, .error error ∉ disk.walk (entry.below names)) :
    .file (entry.below (names ++ rest)) ∈ disk.walk (entry.below names) := by
  have hcomponent : ∀ name ∈ names ++ rest, IsComponent name := fun name hname => (hnames name hname).1
  obtain ⟨reached, content, hreached⟩ := isFile_eq_true_iff.1 hfile
  obtain ⟨between, entries, hbetween⟩ :=
    exists_resolve_of_append h hresolve hcomponent hne hreached
  have hstart := at?_directory_of_resolve_below h hresolve hlinks
    (fun name hname => hnames name (List.mem_append_left _ hname)) hbetween
  have hsound : (Node.directory entries).IsSound :=
    (hdisk.root.of_at? (at?_of_resolve hresolve)).of_at? hstart
  have hrest : ∀ leaf, node.at? (names ++ rest) = some leaf →
      (Node.directory entries).at? rest = some leaf := by
    intro leaf hleaf
    rwa [Node.at?_append, hstart, Option.bind_some] at hleaf
  -- What is reached is a leaf, and a file if it is visited.
  obtain ⟨leaf, hleaf, hkind⟩ : ∃ leaf, (Node.directory entries).at? rest = some leaf ∧
      ((∃ target, leaf = .link target) ∨ leaf = .file content) := by
    rcases at?_of_resolve_below h hresolve hlinks hnames hreached with ⟨target, hat⟩ | ⟨hat, -⟩
    · exact ⟨.link target, hrest _ hat, .inl ⟨target, rfl⟩⟩
    · exact ⟨.file content, hrest _ hat, .inr rfl⟩
  have hfits := tooLong_eq_false_of_walk hbetween hwalk
  have hnot : ∀ inner, leaf ≠ .directory inner := by
    rcases hkind with ⟨target, rfl⟩ | rfl <;> simp
  have hmem := Node.mem_leaves_of_at? hsound hfits hleaf hnot
  rw [walk, hbetween, Path.below_append]
  refine List.mem_flatMap.2 ⟨_, hmem, ?_⟩
  rw [visit, hfits _ hmem, ← Path.below_append]
  rcases hkind with ⟨target, rfl⟩ | rfl
  · simp [hfile]
  · simp

end Reached

end Disk

end Lookup.Files
