import Mathlib.Data.List.DropRight
import Lookup.Files.Archive
import Lookup.Proofs.Text.Fields

/-!
# Walks through archives

A walk through an archive comes to members only, whatever their names are. Names that start with a slash
lie in no directory that a walk enters, since the name of such a directory does not start with a slash
either.

## Main definitions

* `IsRelative` — names that do not start with a slash

## Main results

* `mem_distinct`, `nodup_distinct` — the implied directories are counted once
* `Archive.isRelative_of_mem_children` — the step from a directory to what lies in it
* `Archive.mem_memberNames_of_mem_walk` — a walk comes to members whose names are relative
-/

namespace Lookup.Files

open Text

variable {name : String} {seen names : List String} {text : List Char}

/-! ### Implied directories -/

theorem mem_distinct : name ∈ distinct seen names ↔ name ∈ names ∧ name ∉ seen := by
  induction names generalizing seen with
  | nil => simp [distinct]
  | cons first rest ih =>
    rw [distinct]
    by_cases hseen : seen.contains first = true
    · rw [if_pos hseen, ih, List.mem_cons]
      have hmem : first ∈ seen := by simpa using hseen
      refine and_congr_left fun hname => ?_
      exact ⟨.inr, fun h => h.resolve_left fun heq => hname (heq ▸ hmem)⟩
    · rw [if_neg hseen, List.mem_cons, ih, List.mem_cons, List.mem_cons]
      have hmem : first ∉ seen := by simpa using hseen
      by_cases heq : name = first
      · simp [heq, hmem]
      · simp [heq]

theorem nodup_distinct (seen names : List String) : (distinct seen names).Nodup := by
  induction names generalizing seen with
  | nil => exact .nil
  | cons first rest ih =>
    rw [distinct]
    split
    · exact ih seen
    · refine List.nodup_cons.2 ⟨fun hmem => ?_, ih (first :: seen)⟩
      exact (mem_distinct.1 hmem).2 List.mem_cons_self

theorem trimSlashes_ne_nil_of_mem_ancestors {fuel : Nat} {parent : List Char}
    (h : parent ∈ ancestors fuel text) : trimSlashes parent ≠ [] := by
  induction fuel generalizing text with
  | zero => exact absurd h List.not_mem_nil
  | succ fuel ih =>
    rw [ancestors] at h
    split at h
    · exact absurd h List.not_mem_nil
    · next hne =>
      rcases List.mem_cons.1 h with rfl | h
      · exact hne
      · exact ih h

/-! ### Relative names -/

/-- A text that does not start with a slash. -/
def IsRelative (text : List Char) : Prop := text.head? ≠ some '/'

instance : DecidablePred IsRelative := fun text =>
  inferInstanceAs (Decidable (text.head? ≠ some '/'))

theorem isPrefix_trimSlashes (text : List Char) : trimSlashes text <+: text :=
  List.rdropWhile_prefix _ _

/-- A part at the front of a text starts as the text does. -/
theorem head?_eq_of_start {start : List Char} (h : start <+: text) (hne : start ≠ []) :
    start.head? = text.head? := by
  obtain ⟨rest, rfl⟩ := h
  rw [List.head?_append_of_ne_nil _ hne]

theorem IsRelative.of_trimSlashes (h : IsRelative (trimSlashes text)) (hne : trimSlashes text ≠ []) :
    IsRelative text := by
  rwa [IsRelative, ← head?_eq_of_start (isPrefix_trimSlashes text) hne]

theorem IsRelative.trimSlashes (h : IsRelative text) : IsRelative (trimSlashes text) := by
  by_cases hne : Files.trimSlashes text = []
  · rw [hne]
    simp [IsRelative]
  · rwa [IsRelative, head?_eq_of_start (isPrefix_trimSlashes text) hne]

/-- A text whose slashes at both ends are dropped is relative. -/
theorem isRelative_trimBoth (text : List Char) : IsRelative (trimBoth (fun c => c = '/') text) := by
  have hdrop : IsRelative (text.dropWhile fun c => c = '/') := by
    induction text with
    | nil => simp [IsRelative]
    | cons c rest ih =>
      by_cases hslash : c = '/'
      · rwa [List.dropWhile_cons_of_pos (by simpa using hslash)]
      · simp [IsRelative, hslash]
  exact hdrop.trimSlashes

/-- The part before the last slash as a text whose end is dropped. -/
theorem parentName_eq (text : List Char) :
    parentName text = if (text.rdropWhile fun c => c ≠ '/').all fun c => c = '/' then
      text.rdropWhile fun c => c ≠ '/' else trimSlashes (text.rdropWhile fun c => c ≠ '/') := rfl

/-- What stands before the last slash starts with a slash if the text does. -/
theorem IsRelative.of_parentName (h : IsRelative (parentName text)) : IsRelative text := by
  intro hslash
  refine h ?_
  have hmem : '/' ∈ text := List.mem_of_head? hslash
  have hne : text.rdropWhile (fun c => c ≠ '/') ≠ [] := by
    intro hnil
    exact of_decide_eq_true (List.rdropWhile_eq_nil_iff.1 hnil '/' hmem) rfl
  have hhead : (text.rdropWhile fun c => c ≠ '/').head? = some '/' :=
    (head?_eq_of_start (List.rdropWhile_prefix _ _) hne).trans hslash
  rw [parentName_eq]
  split
  · exact hhead
  · next hall =>
    have htrim : Files.trimSlashes (text.rdropWhile fun c => c ≠ '/') ≠ [] := by
      intro hnil
      exact hall (List.all_eq_true.2 (List.rdropWhile_eq_nil_iff.1 hnil))
    rw [head?_eq_of_start (isPrefix_trimSlashes _) htrim, hhead]

namespace Archive

variable {archive : Archive} {file directory : String}

/-- The implied directories have names of directories. -/
theorem isDirectory_of_mem_impliedDirectories (h : name ∈ archive.impliedDirectories) :
    isDirectory name = true := by
  rw [impliedDirectories, mem_distinct, List.mem_flatMap] at h
  obtain ⟨⟨member, -, hname⟩, -⟩ := h
  obtain ⟨parent, -, rfl⟩ := List.mem_map.1 hname
  rw [isDirectory, endsWith_slash_iff, String.toList_ofList, List.getLast?_concat]

/-- Names that are none of directories are names of members. -/
theorem mem_memberNames_of_mem_names (h : name ∈ archive.names) (hdirectory : isDirectory name = false) :
    name ∈ archive.memberNames := by
  refine (List.mem_append.1 h).resolve_right fun himplied => ?_
  exact Bool.false_ne_true (hdirectory.symm.trans (isDirectory_of_mem_impliedDirectories himplied))

theorem le_foldl_max {lengths : List Nat} {start : Nat} :
    start ≤ lengths.foldl max start ∧ ∀ n ∈ lengths, n ≤ lengths.foldl max start := by
  induction lengths generalizing start with
  | nil => simp
  | cons first rest ih =>
    obtain ⟨hstart, hrest⟩ := @ih (max start first)
    refine ⟨(Nat.le_max_left start first).trans hstart, fun n hn => ?_⟩
    rcases List.mem_cons.1 hn with rfl | hn
    · exact (Nat.le_max_right start n).trans hstart
    · exact hrest n hn

theorem length_le_longest (h : name ∈ archive.names) : name.length ≤ archive.longest :=
  le_foldl_max.2 _ (List.mem_map_of_mem h)

/-! ### Files below a directory -/

/-- The names in a directory of the archive in a file that are none of the top. -/
def inside (archive : Archive) (file directory : String) : List String :=
  (archive.children file directory).filter fun name => !isTop name

/-- The files below a directory, no deeper than `depth`, where names of the top are passed over. -/
def filesWithin (archive : Archive) (file : String) (depth : Nat) (directory : String) : List String :=
  match depth with
  | 0 => []
  | depth + 1 =>
    (archive.inside file directory).flatMap fun name =>
      if isDirectory name then archive.filesWithin file depth name else [name]

/-- The files below a directory, where names of the top are passed over. -/
def files (archive : Archive) (file directory : String) : List String :=
  archive.filesWithin file (archive.longest + 1) directory

theorem mem_children_iff : name ∈ archive.children file directory ↔
    name ∈ archive.names ∧ parentName (trimSlashes name.toList) = trimSlashes directory.toList := by
  simp [children]

theorem mem_inside_iff : name ∈ archive.inside file directory ↔
    name ∈ archive.names ∧ trimSlashes name.toList ≠ [] ∧
      parentName (trimSlashes name.toList) = trimSlashes directory.toList := by
  rw [inside, List.mem_filter, mem_children_iff, Bool.not_eq_true', isTop, decide_eq_false_iff_not,
    and_assoc]
  exact and_congr_right fun _ => and_comm

/-- What lies in a directory has a relative name if the directory has one. -/
theorem isRelative_of_mem_inside (hdirectory : IsRelative (trimSlashes directory.toList))
    (h : name ∈ archive.inside file directory) : IsRelative name.toList := by
  obtain ⟨-, hne, hparent⟩ := mem_inside_iff.1 h
  rw [← hparent] at hdirectory
  exact hdirectory.of_parentName.of_trimSlashes hne

/-- The files below a relative name are members with relative names. -/
theorem mem_memberNames_of_mem_filesWithin {depth : Nat}
    (hdirectory : IsRelative (trimSlashes directory.toList))
    (h : name ∈ archive.filesWithin file depth directory) :
    name ∈ archive.memberNames ∧ name ≠ "" ∧ IsRelative name.toList := by
  induction depth generalizing directory with
  | zero => exact absurd h List.not_mem_nil
  | succ depth ih =>
    obtain ⟨child, hchild, hname⟩ := List.mem_flatMap.1 h
    have hrelative := isRelative_of_mem_inside hdirectory hchild
    by_cases hisDirectory : isDirectory child = true
    · rw [if_pos hisDirectory] at hname
      exact ih hrelative.trimSlashes hname
    · rw [if_neg hisDirectory, List.mem_singleton] at hname
      subst hname
      obtain ⟨hmem, hne, -⟩ := mem_inside_iff.1 hchild
      refine ⟨mem_memberNames_of_mem_names hmem (by simpa using hisDirectory), ?_, hrelative⟩
      rintro rfl
      exact hne rfl

/-! ### Walks -/

theorem isTop_iff : isTop name = true ↔ trimSlashes name.toList = [] := by
  rw [isTop, decide_eq_true_eq]

/-- An archive with a member that is the top itself. -/
def IsCircular (archive : Archive) : Prop := ∃ name ∈ archive.memberNames, isTop name = true

instance (archive : Archive) : Decidable archive.IsCircular :=
  inferInstanceAs (Decidable (∃ name ∈ archive.memberNames, isTop name = true))

/-- No implied directory is the top. -/
theorem isCircular_of_mem_names (h : name ∈ archive.names) (htop : isTop name = true) :
    archive.IsCircular := by
  refine (List.mem_append.1 h).elim (fun hmember => ⟨name, hmember, htop⟩) fun himplied => ?_
  rw [impliedDirectories, mem_distinct, List.mem_flatMap] at himplied
  obtain ⟨⟨member, -, hname⟩, -⟩ := himplied
  obtain ⟨parent, hparent, rfl⟩ := List.mem_map.1 hname
  rw [isTop_iff, String.toList_ofList] at htop
  refine absurd ?_ (trimSlashes_ne_nil_of_mem_ancestors hparent)
  exact (List.rdropWhile_concat_pos _ _ _ (by simp)).symm.trans htop

/-- Names of the top lie in the top only. -/
theorem inside_eq_children (h : trimSlashes directory.toList = [] → ¬ archive.IsCircular) :
    archive.inside file directory = archive.children file directory := by
  refine List.filter_eq_self.2 fun name hname => ?_
  rw [mem_children_iff] at hname
  rw [Bool.not_eq_true', ← Bool.not_eq_true]
  intro htop
  have hparent := hname.2
  rw [isTop_iff.1 htop] at hparent
  exact h hparent.symm (isCircular_of_mem_names hname.1 htop)

/-- What lies in a directory that no walk leads back from. -/
theorem not_isTop_of_mem_inside (h : name ∈ archive.inside file directory) :
    isTop name = false := by simpa using (List.mem_filter.1 h).2

end Archive

namespace Trail

variable {α : Type} {items : List α} {trail : α → Trail} {found : α → List String}

/-- Walks that all end come to their names one after the other, and go on to the next walk. -/
theorem join_append (rest : List Trail) (h : ∀ item ∈ items, trail item = ⟨found item, false⟩) :
    join (items.map trail ++ rest) =
      ⟨items.flatMap found ++ (join rest).names, (join rest).endless⟩ := by
  induction items with
  | nil => rfl
  | cons item items ih =>
    rw [List.map_cons, List.cons_append, join, h item List.mem_cons_self, if_neg Bool.false_ne_true,
      ih fun other hother => h other (List.mem_cons_of_mem _ hother)]
    simp

theorem join_map (h : ∀ item ∈ items, trail item = ⟨found item, false⟩) :
    join (items.map trail) = ⟨items.flatMap found, false⟩ := by
  simpa [join] using join_append [] h

end Trail

namespace Archive

variable {archive : Archive} {file directory : String} {again : Trail} {depth rounds : Nat}

/-- A walk that is not led back to the top ends, and comes to the files below its start. -/
theorem walkWithin_eq (h : trimSlashes directory.toList = [] → ¬ archive.IsCircular) :
    archive.walkWithin file again depth directory =
      ⟨archive.filesWithin file depth directory, false⟩ := by
  induction depth generalizing directory with
  | zero => rfl
  | succ depth ih =>
    rw [walkWithin, ← inside_eq_children h]
    refine Trail.join_map fun name hname => ?_
    have hne := (mem_inside_iff.1 hname).2.1
    rw [not_isTop_of_mem_inside hname, if_neg Bool.false_ne_true]
    -- Below its start a walk comes to no directory that is the top.
    split
    · exact ih fun htop => absurd htop hne
    · rfl

theorem walk_eq_files (h : trimSlashes directory.toList = [] → ¬ archive.IsCircular) :
    archive.walk file rounds directory = ⟨archive.files file directory, false⟩ := walkWithin_eq h

/-- The files that a walk from the top comes to before it is led back there. -/
def filesBefore (archive : Archive) (file : String) : List String :=
  ((archive.children file "").takeWhile fun name => !isTop name).flatMap fun name =>
    if isDirectory name then archive.filesWithin file archive.longest name else [name]

/-- A walk from the top of a circular archive comes to some of the files and is led back to the top. -/
theorem walkWithin_of_isCircular (h : archive.IsCircular) (htop : trimSlashes directory.toList = [])
    (hagain : again.endless = true) :
    archive.walkWithin file again (archive.longest + 1) directory =
      ⟨archive.filesBefore file ++ again.names, true⟩ := by
  obtain ⟨top, hmem, histop⟩ := h
  have hchildren : archive.children file directory = archive.children file "" := by
    rw [children, htop]
    rfl
  have htopMem : top ∈ archive.children file "" := by
    rw [mem_children_iff, isTop_iff.1 histop]
    exact ⟨List.mem_append_left _ hmem, rfl⟩
  -- The first name of the top splits what lies there.
  obtain ⟨first, after, hdrop⟩ : ∃ first after,
      (archive.children file "").dropWhile (fun name => !isTop name) = first :: after := by
    refine List.exists_cons_of_ne_nil fun hnil => ?_
    have hnone := List.dropWhile_eq_nil_iff.1 hnil top htopMem
    rw [histop] at hnone
    exact Bool.false_ne_true hnone
  have hfirst : isTop first = true := by
    have hhead := List.head?_dropWhile_not (fun name => !isTop name) (archive.children file "")
    rw [hdrop] at hhead
    simpa using hhead
  rw [walkWithin, hchildren, ← List.takeWhile_append_dropWhile (p := fun name => !isTop name)
    (l := archive.children file ""), hdrop, List.map_append, Trail.join_append _ fun name hname => ?_]
  · rw [List.map_cons, if_pos hfirst, Trail.join, if_pos hagain, hagain]
    rfl
  · have hname' : isTop name = false := by simpa using List.mem_takeWhile_imp hname
    rw [hname', if_neg Bool.false_ne_true]
    split
    · refine walkWithin_eq fun hnil => ?_
      rw [isTop_iff.2 hnil] at hname'
      exact absurd hname' (by simp)
    · rfl

/-- A walk from the top of a circular archive comes to the same files again and again. -/
theorem walkTop_of_isCircular (h : archive.IsCircular) (rounds : Nat) :
    archive.walkTop file rounds =
      ⟨(List.replicate rounds (archive.filesBefore file)).flatten, true⟩ := by
  induction rounds with
  | zero => rfl
  | succ rounds ih =>
    rw [walkTop, walkWithin_of_isCircular h rfl (by rw [ih]), ih, List.replicate_succ, List.flatten_cons]

theorem walk_of_isCircular (h : archive.IsCircular) (htop : trimSlashes directory.toList = []) :
    archive.walk file rounds directory =
      ⟨(List.replicate (rounds + 2) (archive.filesBefore file)).flatten, true⟩ := by
  rw [walk, walkWithin_of_isCircular h htop (by rw [walkTop_of_isCircular h]), walkTop_of_isCircular h,
    List.replicate_succ (n := rounds + 1), List.flatten_cons]

/-- The files before a walk is led back to the top are some of all files. -/
theorem filesBefore_subset (htop : trimSlashes directory.toList = []) :
    archive.filesBefore file ⊆ archive.files file directory := by
  intro name hname
  obtain ⟨child, hchild, hname⟩ := List.mem_flatMap.1 hname
  have hinside : child ∈ archive.inside file directory := by
    rw [inside, children, htop]
    exact List.mem_filter.2
      ⟨(List.takeWhile_sublist _).subset hchild, by simpa using List.mem_takeWhile_imp hchild⟩
  exact List.mem_flatMap.2 ⟨child, hinside, hname⟩

/-- Whether an archive leads a walk that starts in a directory back to its start. -/
def LeadsBack (archive : Archive) (directory : List Char) : Prop := directory = [] ∧ archive.IsCircular

/-- A walk ends and comes to the files below its start, or is led back to the top and comes to some of them
again and again. -/
theorem walk_cases (archive : Archive) (file : String) (rounds : Nat) (directory : String) :
    (¬ archive.LeadsBack (trimSlashes directory.toList) ∧
      archive.walk file rounds directory = ⟨archive.files file directory, false⟩) ∨
    (archive.LeadsBack (trimSlashes directory.toList) ∧ archive.walk file rounds directory =
      ⟨(List.replicate (rounds + 2) (archive.filesBefore file)).flatten, true⟩) := by
  by_cases h : archive.LeadsBack (trimSlashes directory.toList)
  · exact .inr ⟨h, walk_of_isCircular h.2 h.1⟩
  · exact .inl ⟨h, walk_eq_files fun htop hcircular => h ⟨htop, hcircular⟩⟩

/-- A walk comes to files below its start only. -/
theorem names_walk_subset : (archive.walk file rounds directory).names ⊆ archive.files file directory := by
  rcases archive.walk_cases file rounds directory with ⟨-, hwalk⟩ | ⟨hback, hwalk⟩
  · rw [hwalk]
    exact List.Subset.refl _
  · rw [hwalk]
    intro name hname
    obtain ⟨round, hround, hname⟩ := List.mem_flatten.1 hname
    obtain ⟨-, rfl⟩ := List.mem_replicate.1 hround
    exact filesBefore_subset hback.1 hname

theorem mem_memberNames_of_mem_walk (hdirectory : IsRelative (trimSlashes directory.toList))
    (h : name ∈ (archive.walk file rounds directory).names) :
    name ∈ archive.memberNames ∧ name ≠ "" ∧ IsRelative name.toList :=
  mem_memberNames_of_mem_filesWithin hdirectory (names_walk_subset h)

end Archive

end Lookup.Files
