import Mathlib.Algebra.BigOperators.Group.List.Lemmas
import Mathlib.Algebra.Order.BigOperators.GroupWithZero.List
import Mathlib.Algebra.Order.Ring.Nat
import Lookup.Proofs.Files.MemberName

/-!
# How often a walk comes to a member

A walk through an archive enters each directory once for every name it has in the archive, so it comes to
a member as often as there are ways through these names. The directories on the way to a member are
determined by its name, hence the number of ways is a product: the number of members of that name times,
for each directory on the way, the number of its names.

## Main definitions

* `Way` — the directories from one down to a name, the outermost first
* `Archive.directoryCount` — how many names a directory has
* `Archive.IsBelow` — the members that lie below a directory
* `Archive.ListsOnce` — archives that repeat nothing below a directory

## Main results

* `Way.unique` — there is one way from a directory to a name
* `Way.exists_of_append`, `Way.exists_eq_append` — ways between the names of paths
* `Archive.count_files` — how often a walk comes to a member
* `Archive.mem_files_iff` — a walk comes to the members below its start
* `Archive.nodup_files_iff` — when a walk comes to no member twice
-/

namespace Lookup.Files

open Text

variable {start text directory : List Char} {directories : List (List Char)}

/-! ### Parents -/

theorem length_trimSlashes_le (text : List Char) : (trimSlashes text).length ≤ text.length :=
  length_trimEnd_le text

theorem trimSlashes_eq_nil_iff : trimSlashes text = [] ↔ ∀ c ∈ text, c = '/' := by
  rw [show trimSlashes text = text.rdropWhile fun c => c = '/' from rfl, List.rdropWhile_eq_nil_iff]
  simp

/-- The parent of a name that is not all slashes is shorter. -/
theorem length_parentName_lt (h : trimSlashes text ≠ []) :
    (parentName text).length < text.length := by
  have hhead : text.rdropWhile (fun c => c ≠ '/') <+: text := List.rdropWhile_prefix _ _
  rw [parentName_eq]
  by_cases heq : text.rdropWhile (fun c => c ≠ '/') = text
  · -- The name ends in a slash, which is trimmed away.
    rw [heq, if_neg fun hall => h (trimSlashes_eq_nil_iff.2 fun c hc =>
      of_decide_eq_true (List.all_eq_true.1 hall c hc))]
    have hne : text ≠ [] := fun hnil => h (by rw [hnil]; rfl)
    have hlast : text.getLast hne = '/' := by
      have hkeep := List.rdropWhile_eq_self_iff.1 heq hne
      simpa using hkeep
    have htrim : trimSlashes text = trimSlashes text.dropLast := by
      conv_lhs => rw [← List.dropLast_append_getLast hne, hlast]
      exact trimSlashes_append_slash _
    have hle := length_trimSlashes_le text.dropLast
    have hpos := List.length_pos_iff.2 hne
    rw [List.length_dropLast] at hle
    rw [htrim]
    omega
  · have hlt : (text.rdropWhile fun c => c ≠ '/').length < text.length :=
      lt_of_le_of_ne hhead.length_le fun hlen => heq (hhead.eq_of_length hlen)
    split
    · exact hlt
    · exact (length_trimSlashes_le _).trans_lt hlt

/-- A name of slashes alone has a parent of slashes alone. -/
theorem trimSlashes_parentName_eq_nil (h : trimSlashes text = []) :
    trimSlashes (parentName text) = [] := by
  rw [trimSlashes_eq_nil_iff] at h ⊢
  have hhead : ∀ c ∈ text.rdropWhile (fun c => c ≠ '/'), c = '/' := fun c hc =>
    h c ((List.rdropWhile_prefix _ _).subset hc)
  intro c hc
  rw [parentName_eq] at hc
  split at hc
  · exact hhead c hc
  · exact hhead c ((isPrefix_trimSlashes _).subset hc)

theorem trimSlashes_iterate_eq_nil (h : trimSlashes text = []) (n : Nat) :
    trimSlashes (parentName^[n] text) = [] := by
  induction n generalizing text with
  | zero => exact h
  | succ n ih => exact ih (trimSlashes_parentName_eq_nil h)

theorem length_iterate_le (text : List Char) (n : Nat) :
    (parentName^[n] text).length ≤ text.length := by
  induction n generalizing text with
  | zero => exact Nat.le_refl _
  | succ n ih => exact (ih _).trans (parentName_length_le text)

/-- Two names on the way up from a text that have the same parent, which is shorter, are the same. -/
theorem eq_of_parentName_eq {m n : Nat} {a b : List Char} (ha : parentName^[m] text = a)
    (hb : parentName^[n] text = b) (hparent : parentName a = parentName b)
    (hla : (parentName a).length < a.length) (hlb : (parentName b).length < b.length) : a = b := by
  -- The later one would be reached from the parent of the earlier one, and so be too short.
  have hlater : ∀ {m n : Nat} {a b : List Char}, parentName^[m] text = a → parentName^[n] text = b →
      parentName a = parentName b → (parentName b).length < b.length → ¬ m < n := by
    intro m n a b ha hb hparent hlb hlt
    obtain ⟨k, rfl⟩ := Nat.exists_eq_add_of_lt hlt
    have hiterate : parentName^[k] (parentName a) = b := by
      rw [← hb, ← ha, ← Function.iterate_succ_apply' parentName, ← Function.iterate_add_apply]
      exact congrArg (fun count => parentName^[count] text) (by omega)
    have hle := length_iterate_le (parentName a) k
    rw [hiterate, hparent] at hle
    omega
  rcases Nat.lt_trichotomy m n with hlt | rfl | hlt
  · exact absurd hlt (hlater ha hb hparent hlb)
  · exact ha.symm.trans hb
  · exact absurd hlt (hlater hb ha hparent.symm hla)

/-- The names on the way up from a text are among those of its directories. -/
theorem iterate_mem_ancestors {fuel n : Nat} (hfuel : text.length ≤ fuel)
    (h : trimSlashes (parentName^[n + 1] text) ≠ []) :
    parentName^[n + 1] text ∈ ancestors fuel text := by
  have hparent : trimSlashes (parentName text) ≠ [] := fun hnil =>
    h (trimSlashes_iterate_eq_nil hnil n)
  have htext : trimSlashes text ≠ [] := fun hnil => hparent (trimSlashes_parentName_eq_nil hnil)
  have hlt := length_parentName_lt htext
  induction fuel generalizing text n with
  | zero => omega
  | succ fuel ih =>
    rw [ancestors, if_neg hparent]
    cases n with
    | zero => exact List.mem_cons_self
    | succ n =>
      have hnext : trimSlashes (parentName (parentName text)) ≠ [] := fun hnil =>
        h (trimSlashes_iterate_eq_nil hnil n)
      exact List.mem_cons_of_mem _
        (ih (by omega) h hnext hparent (length_parentName_lt hparent))

/-! ### Ways -/

/-- The directories strictly between one and a name below it, the outermost first. -/
inductive Way : List Char → List Char → List (List Char) → Prop where
  /-- The name lies in the directory. -/
  | here {start text : List Char} (ne_nil : text ≠ []) (parent : parentName text = start) :
      Way start text []
  /-- The name lies below a directory that lies in the directory. -/
  | down {start directory text : List Char} {directories : List (List Char)}
      (ne_nil : directory ≠ []) (trimmed : trimSlashes directory = directory)
      (parent : parentName directory = start) (rest : Way directory text directories) :
      Way start text (directory :: directories)

namespace Way

/-- The start of a way is reached from the name by going up. -/
theorem iterate_eq (h : Way start text directories) :
    parentName^[directories.length + 1] text = start := by
  induction h with
  | here _ parent => exact parent
  | down _ _ parent _ ih =>
    rw [List.length_cons, Function.iterate_succ_apply', ih, parent]

theorem length_parentName_lt_of_ne_nil (hne : directory ≠ []) (htrim : trimSlashes directory = directory) :
    (parentName directory).length < directory.length :=
  length_parentName_lt (by rwa [htrim])

/-- No name is reached from another one that lies in the same directory. -/
theorem not_of_parentName_eq (hne : text ≠ []) (htext : trimSlashes text = text)
    (hparent : parentName text = parentName directory) (hdirectory : directory ≠ [])
    (htrim : trimSlashes directory = directory) : ¬ Way directory text directories := by
  intro hway
  have hlt := length_parentName_lt_of_ne_nil hdirectory htrim
  have heq : text = directory := eq_of_parentName_eq (m := 0) rfl hway.iterate_eq hparent
    (length_parentName_lt_of_ne_nil hne htext) hlt
  have hle := length_iterate_le (parentName text) directories.length
  rw [← Function.iterate_succ_apply, hway.iterate_eq, heq] at hle
  omega

/-- There is one way from a directory to a name. -/
theorem unique (htext : trimSlashes text = text) (h : Way start text directories)
    {others : List (List Char)} (hother : Way start text others) : directories = others := by
  induction h generalizing others with
  | here ne_nil parent =>
    cases hother with
    | here _ _ => rfl
    | down ne_nil' trimmed parent' rest =>
      exact absurd rest (not_of_parentName_eq ne_nil htext (parent.trans parent'.symm) ne_nil' trimmed)
  | @down start directory text directories ne_nil trimmed parent rest ih =>
    cases hother with
    | here ne_nil' parent' =>
      exact absurd rest (not_of_parentName_eq ne_nil' htext (parent'.trans parent.symm) ne_nil trimmed)
    | @down _ other _ others ne_nil' trimmed' parent' rest' =>
      have heq : directory = other := eq_of_parentName_eq rest.iterate_eq rest'.iterate_eq
        (parent.trans parent'.symm) (length_parentName_lt_of_ne_nil ne_nil trimmed)
        (length_parentName_lt_of_ne_nil ne_nil' trimmed')
      subst heq
      rw [ih htext rest']

/-- The directories on the way get longer, so there are fewer than the name has characters. -/
theorem length_lt (htext : trimSlashes text = text) (h : Way start text directories) :
    start.length + directories.length < text.length := by
  induction h with
  | here ne_nil parent =>
    have hlt := length_parentName_lt_of_ne_nil ne_nil htext
    rw [parent] at hlt
    simpa using hlt
  | down ne_nil trimmed parent _ ih =>
    have hlt := length_parentName_lt_of_ne_nil ne_nil trimmed
    have hrest := ih htext
    rw [parent] at hlt
    rw [List.length_cons]
    omega

/-- The directories on the way are among those that the name implies. -/
theorem mem_ancestors (h : Way start text directories) (hmem : directory ∈ directories) :
    directory ∈ ancestors text.length text ∧ trimSlashes directory = directory := by
  induction h with
  | here _ _ => exact absurd hmem List.not_mem_nil
  | @down start first text directories ne_nil trimmed parent rest ih =>
    rcases List.mem_cons.1 hmem with rfl | hmem
    · refine ⟨?_, trimmed⟩
      have hiterate := rest.iterate_eq
      rw [← hiterate]
      exact iterate_mem_ancestors (Nat.le_refl _) (by rwa [hiterate, trimmed])
    · exact ih hmem

/-! ### Ways between paths -/

variable {path rest above : List String}

/-- The directories on the way down a path lead to its name. -/
theorem exists_of_append (hpath : ∀ name ∈ path ++ rest, IsComponent name) (hne : rest ≠ []) :
    ∃ directories, Way (fileName path).toList (fileName (path ++ rest)).toList directories := by
  induction rest generalizing path with
  | nil => exact absurd rfl hne
  | cons first rest ih =>
    rw [List.append_cons] at hpath ⊢
    have hfirst : ∀ name ∈ path ++ [first], IsComponent name := fun name hname =>
      hpath name (List.mem_append_left _ hname)
    have hchild : (fileName (path ++ [first])).toList ≠ [] := fileName_ne_nil hfirst (by simp)
    by_cases hrest : rest = []
    · subst hrest
      rw [List.append_nil]
      exact ⟨[], .here hchild (parentName_fileName hfirst)⟩
    · obtain ⟨directories, hway⟩ := ih hpath hrest
      exact ⟨_, .down hchild (trimSlashes_fileName hfirst) (parentName_fileName hfirst) hway⟩

/-- Going up from the name of a path takes components away from its end. -/
theorem iterate_fileName (hpath : ∀ name ∈ path, IsComponent name) (n : Nat) :
    parentName^[n] (fileName path).toList = (fileName (path.take (path.length - n))).toList := by
  induction n generalizing path with
  | zero => simp
  | succ n ih =>
    rcases List.eq_nil_or_concat path with rfl | ⟨front, last, rfl⟩
    · have hparent : parentName (fileName []).toList = (fileName []).toList := rfl
      rw [Function.iterate_succ_apply, hparent, ih hpath]
      simp
    · rw [List.concat_eq_append] at *
      have hfront : ∀ name ∈ front, IsComponent name := fun name hname =>
        hpath name (List.mem_append_left _ hname)
      rw [Function.iterate_succ_apply, parentName_fileName hpath, ih hfront, List.length_append,
        List.length_singleton, Nat.add_sub_add_right, List.take_append_of_le_length (Nat.sub_le _ _)]

/-- A way between the names of two paths leads from the one to a path below it. -/
theorem exists_eq_append (hpath : ∀ name ∈ path, IsComponent name)
    (habove : ∀ name ∈ above, IsComponent name)
    (h : Way (fileName above).toList (fileName path).toList directories) :
    ∃ rest, rest ≠ [] ∧ path = above ++ rest := by
  have hiterate := h.iterate_eq
  rw [iterate_fileName hpath] at hiterate
  have hfront : above = path.take (path.length - (directories.length + 1)) :=
    fileName_injective habove (fun name hname => hpath name (List.mem_of_mem_take hname))
      (String.toList_inj.1 hiterate.symm)
  refine ⟨path.drop (path.length - (directories.length + 1)), fun hnil => ?_, ?_⟩
  · -- Without a rest the two names would be the same, but the lower one is longer.
    have hsame : above = path := by
      rw [hfront, ← List.append_nil (List.take _ _), ← hnil, List.take_append_drop]
    have hlt := h.length_lt (trimSlashes_fileName hpath)
    rw [hsame] at hlt
    omega
  · conv_rhs => rw [hfront]
    exact (List.take_append_drop _ _).symm

end Way

/-! ### Walks -/

/-- Lists that hold an item equally often, or not at all, hold it as often as there are lists that
do, times how often each of these does. -/
theorem count_flatMap_eq_mul {α β : Type} [DecidableEq β] {items : List α} {lists : α → List β} {b : β}
    {holds : α → Bool} {times : Nat}
    (h : ∀ item ∈ items, (lists item).count b = if holds item then times else 0) :
    (items.flatMap lists).count b = items.countP holds * times := by
  induction items with
  | nil => simp
  | cons item rest ih =>
    have hfirst := h item List.mem_cons_self
    have hrest := ih fun other hother => h other (List.mem_cons_of_mem _ hother)
    rw [List.flatMap_cons, List.count_append, hfirst, hrest, List.countP_cons]
    split
    · rw [Nat.add_mul, Nat.one_mul, Nat.add_comm]
    · rw [Nat.add_zero, Nat.zero_add]

namespace Archive

variable {archive : Archive} {file entered name : String} {depth : Nat}

/-- How many names of an archive are those of a directory. -/
def directoryCount (archive : Archive) (directory : List Char) : Nat :=
  archive.names.countP fun name => isDirectory name && trimSlashes name.toList = directory

/-- The members below a directory that are no directories. -/
def IsBelow (archive : Archive) (start : List Char) (name : String) : Prop :=
  name ∈ archive.memberNames ∧ isDirectory name = false ∧
    ∃ directories, Way start name.toList directories

/-- The name of a file ends in no slash. -/
theorem trimSlashes_of_not_isDirectory (h : isDirectory name = false) :
    trimSlashes name.toList = name.toList := by
  refine trimEnd_eq_self fun c hc => decide_eq_false fun heq => ?_
  rw [isDirectory, ← Bool.not_eq_true, endsWith_slash_iff] at h
  exact h (heq ▸ hc)

theorem count_names (h : isDirectory name = false) :
    archive.names.count name = archive.memberNames.count name := by
  have himplied : name ∉ archive.impliedDirectories := fun hmem => by
    simp [isDirectory_of_mem_impliedDirectories hmem] at h
  rw [names, List.count_append, List.count_eq_zero_of_not_mem himplied, Nat.add_zero]

/-- What a walk comes to is a member below its start. -/
theorem isBelow_of_mem_filesWithin (h : name ∈ archive.filesWithin file depth entered) :
    archive.IsBelow (trimSlashes entered.toList) name := by
  induction depth generalizing entered with
  | zero => exact absurd h List.not_mem_nil
  | succ depth ih =>
    obtain ⟨child, hchild, hname⟩ := List.mem_flatMap.1 h
    obtain ⟨hmem, hne, hparent⟩ := mem_inside_iff.1 hchild
    by_cases hdirectory : isDirectory child = true
    · rw [if_pos hdirectory] at hname
      obtain ⟨hmember, hfile, directories, hway⟩ := ih hname
      have htrim : trimSlashes (trimSlashes child.toList) = trimSlashes child.toList :=
        List.rdropWhile_idempotent _ _
      exact ⟨hmember, hfile, _, .down hne htrim hparent hway⟩
    · rw [if_neg hdirectory, List.mem_singleton] at hname
      subst hname
      have hfile : isDirectory name = false := by simpa using hdirectory
      rw [trimSlashes_of_not_isDirectory hfile] at hne hparent
      exact ⟨mem_memberNames_of_mem_names hmem hfile, hfile, [], .here hne hparent⟩

/-- Directories on the way to a member have a name in the archive. -/
theorem directoryCount_pos (h : name ∈ archive.memberNames) (hfile : isDirectory name = false)
    (hway : Way start name.toList directories) (hmem : directory ∈ directories) :
    0 < archive.directoryCount directory := by
  obtain ⟨hancestor, htrim⟩ := hway.mem_ancestors hmem
  have hname : String.ofList (directory ++ ['/']) ∈ archive.names := by
    rw [names, List.mem_append]
    by_cases hmember : String.ofList (directory ++ ['/']) ∈ archive.memberNames
    · exact .inl hmember
    · refine .inr (mem_distinct.2 ⟨List.mem_flatMap.2 ⟨name, h, ?_⟩, hmember⟩)
      rw [trimSlashes_of_not_isDirectory hfile]
      exact List.mem_map_of_mem hancestor
  refine List.countP_pos_iff.2 ⟨_, hname, ?_⟩
  have hdirectory : isDirectory (String.ofList (directory ++ ['/'])) = true := by
    rw [isDirectory, endsWith_slash_iff, String.toList_ofList, List.getLast?_concat]
  rw [hdirectory, String.toList_ofList, trimSlashes_append_slash, htrim]
  simp

/-- The names in a directory are counted among all names. -/
theorem countP_inside {holds : String → Bool}
    (h : ∀ child, holds child = true → trimSlashes child.toList ≠ [] ∧
      parentName (trimSlashes child.toList) = trimSlashes entered.toList) :
    (archive.inside file entered).countP holds = archive.names.countP holds := by
  rw [inside, List.countP_filter, children, (List.mergeSort_perm _ _).countP_eq, List.countP_filter]
  refine List.countP_congr fun child _ => ?_
  simp only [Bool.and_eq_true, decide_eq_true_eq, isTop, Bool.not_eq_true', decide_eq_false_iff_not]
  exact ⟨fun hboth => hboth.1.1, fun hholds => ⟨⟨hholds, (h child hholds).1⟩, (h child hholds).2⟩⟩

/-- How often a walk comes to a file that lies in the directory at which it starts. -/
theorem count_filesWithin_here (hfile : isDirectory name = false) (hne : name.toList ≠ [])
    (hparent : parentName name.toList = trimSlashes entered.toList) :
    (archive.filesWithin file (depth + 1) entered).count name = archive.memberNames.count name := by
  have htext := trimSlashes_of_not_isDirectory hfile
  have hchild : ∀ child ∈ archive.inside file entered,
      (if isDirectory child then archive.filesWithin file depth child else [child]).count name =
        if child == name then 1 else 0 := by
    intro child hchild
    obtain ⟨-, hchildNe, hchildParent⟩ := mem_inside_iff.1 hchild
    by_cases hdirectory : isDirectory child = true
    · have hdiffers : child ≠ name := fun heq => by simp [heq, hfile] at hdirectory
      rw [if_pos hdirectory, if_neg (by simpa using hdiffers), List.count_eq_zero]
      intro hmem
      -- The file would lie in the directory and below a child of it.
      obtain ⟨-, -, directories, hway⟩ := isBelow_of_mem_filesWithin hmem
      exact hway.not_of_parentName_eq hne htext (hparent.trans hchildParent.symm) hchildNe
        (List.rdropWhile_idempotent _ _)
    · rw [if_neg hdirectory, List.count_singleton]
  rw [filesWithin, count_flatMap_eq_mul hchild, Nat.mul_one, countP_inside, ← count_names hfile]
  · rfl
  · intro child heq
    obtain rfl := eq_of_beq heq
    rw [htext]
    exact ⟨hne, hparent⟩

/-- How often a walk comes to a file below a directory that lies in the one at which it starts. -/
theorem count_filesWithin_down (hfile : isDirectory name = false) {times : Nat}
    (hne : directory ≠ []) (htrim : trimSlashes directory = directory)
    (hparent : parentName directory = trimSlashes entered.toList)
    (hway : Way directory name.toList directories)
    (htimes : ∀ child, trimSlashes child.toList = directory →
      (archive.filesWithin file depth child).count name = times) :
    (archive.filesWithin file (depth + 1) entered).count name = archive.directoryCount directory * times := by
  have htext := trimSlashes_of_not_isDirectory hfile
  have hchild : ∀ child ∈ archive.inside file entered,
      (if isDirectory child then archive.filesWithin file depth child else [child]).count name =
        if isDirectory child && trimSlashes child.toList = directory then times else 0 := by
    intro child hchild
    obtain ⟨-, hchildNe, hchildParent⟩ := mem_inside_iff.1 hchild
    by_cases hdirectory : isDirectory child = true
    · rw [if_pos hdirectory, hdirectory]
      by_cases heq : trimSlashes child.toList = directory
      · rw [htimes child heq]
        simp [heq]
      · -- The way to the file leads through the directory, so not through the child.
        have hzero : (archive.filesWithin file depth child).count name = 0 := by
          rw [List.count_eq_zero]
          intro hmem
          obtain ⟨-, -, others, hother⟩ := isBelow_of_mem_filesWithin hmem
          have hsame := (Way.down hne htrim hparent hway).unique htext
            (.down hchildNe (List.rdropWhile_idempotent _ _) hchildParent hother)
          exact heq (List.cons.inj hsame).1.symm
        rw [hzero]
        simp [heq]
    · have hdiffers : child ≠ name := by
        rintro rfl
        rw [htext] at hchildNe hchildParent
        exact hway.not_of_parentName_eq hchildNe htext (hchildParent.trans hparent.symm) hne htrim
      rw [if_neg hdirectory, List.count_singleton]
      simp [hdirectory, hdiffers]
  rw [filesWithin, count_flatMap_eq_mul hchild, countP_inside]
  · rfl
  · intro child hholds
    obtain ⟨-, heq⟩ := Bool.and_eq_true_iff.1 hholds
    rw [of_decide_eq_true heq]
    exact ⟨hne, hparent⟩

/-- A walk comes to a member as often as there are names for it, times the names of each directory on the
way. -/
theorem count_filesWithin (hfile : isDirectory name = false)
    (hway : Way (trimSlashes entered.toList) name.toList directories)
    (hdepth : directories.length < depth) :
    (archive.filesWithin file depth entered).count name =
      archive.memberNames.count name * (directories.map archive.directoryCount).prod := by
  induction directories generalizing entered depth with
  | nil =>
    obtain ⟨depth, rfl⟩ := Nat.exists_eq_add_of_lt hdepth
    cases hway with
    | here hne hparent =>
      rw [count_filesWithin_here hfile hne hparent, List.map_nil, List.prod_nil, Nat.mul_one]
  | cons directory directories ih =>
    obtain ⟨depth, rfl⟩ := Nat.exists_eq_add_of_lt hdepth
    cases hway with
    | down hne htrim hparent hrest =>
      rw [count_filesWithin_down hfile hne htrim hparent hrest fun child hchild =>
        ih (hchild ▸ hrest) (by rw [List.length_cons]; omega)]
      rw [List.map_cons, List.prod_cons, Nat.mul_left_comm]

/-- A walk comes to a member as often as there are names for it, times the names of each directory on the
way. -/
theorem count_files (h : name ∈ archive.memberNames) (hfile : isDirectory name = false)
    (hway : Way (trimSlashes entered.toList) name.toList directories) :
    (archive.files file entered).count name =
      archive.memberNames.count name * (directories.map archive.directoryCount).prod := by
  refine count_filesWithin hfile hway ?_
  have hshort := hway.length_lt (trimSlashes_of_not_isDirectory hfile)
  have hlongest : name.length ≤ archive.longest :=
    length_le_longest (List.mem_append_left _ h)
  rw [String.length_toList] at hshort
  omega

/-- A walk comes to the members below its start. -/
theorem mem_files_iff :
    name ∈ archive.files file entered ↔ archive.IsBelow (trimSlashes entered.toList) name := by
  refine ⟨isBelow_of_mem_filesWithin, ?_⟩
  rintro ⟨hmember, hfile, directories, hway⟩
  rw [← List.count_pos_iff, count_files hmember hfile hway]
  refine Nat.mul_pos (List.count_pos_iff.2 hmember) (List.prod_pos fun count hcount => ?_)
  obtain ⟨directory, hdirectory, rfl⟩ := List.mem_map.1 hcount
  exact directoryCount_pos hmember hfile hway hdirectory

/-! ### Repetitions -/

/-- An archive that repeats nothing below a directory: neither a member nor a directory on the way to
one has two names. -/
structure ListsOnce (archive : Archive) (start : List Char) : Prop where
  member : ∀ name, archive.IsBelow start name → archive.memberNames.count name = 1
  directory : ∀ name, archive.IsBelow start name → ∀ directories, Way start name.toList directories →
    ∀ directory ∈ directories, archive.directoryCount directory = 1

/-- A walk comes to no member twice if and only if the archive repeats nothing below its start. -/
theorem nodup_files_iff :
    (archive.files file entered).Nodup ↔ archive.ListsOnce (trimSlashes entered.toList) := by
  have hcount : ∀ name, archive.IsBelow (trimSlashes entered.toList) name →
      0 < (archive.files file entered).count name := fun name hbelow =>
    List.count_pos_iff.2 (mem_files_iff.2 hbelow)
  rw [List.nodup_iff_count]
  constructor
  · intro hle
    -- A product that is one has no other factor than one.
    have hone : ∀ name, archive.IsBelow (trimSlashes entered.toList) name →
        ∀ directories, Way (trimSlashes entered.toList) name.toList directories →
          archive.memberNames.count name * (directories.map archive.directoryCount).prod = 1 := by
      intro name hbelow directories hway
      rw [← count_files hbelow.1 hbelow.2.1 hway]
      exact Nat.le_antisymm (hle name) (hcount name hbelow)
    refine ⟨fun name hbelow => ?_, fun name hbelow directories hway directory hmem => ?_⟩
    · obtain ⟨directories, hway⟩ := hbelow.2.2
      exact Nat.eq_one_of_mul_eq_one_right (hone name hbelow directories hway)
    · have hprod := Nat.eq_one_of_mul_eq_one_left (hone name hbelow directories hway)
      have hdvd := List.dvd_prod (List.mem_map_of_mem (f := archive.directoryCount) hmem)
      rw [hprod] at hdvd
      exact Nat.dvd_one.1 hdvd
  · intro honce name
    by_cases hmem : name ∈ archive.files file entered
    · have hbelow := mem_files_iff.1 hmem
      obtain ⟨directories, hway⟩ := hbelow.2.2
      have hprod : (directories.map archive.directoryCount).prod = 1 := by
        refine List.prod_eq_one fun count hcount => ?_
        obtain ⟨directory, hdirectory, rfl⟩ := List.mem_map.1 hcount
        exact honce.directory name hbelow directories hway directory hdirectory
      rw [count_files hbelow.1 hbelow.2.1 hway, honce.member name hbelow, hprod]
    · rw [List.count_eq_zero_of_not_mem hmem]
      exact Nat.zero_le 1

end Archive

end Lookup.Files
