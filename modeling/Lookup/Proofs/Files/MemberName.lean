import Lookup.Proofs.Files.Archive
import Lookup.Proofs.Files.Path

/-!
# Names of members

The name of a member has slashes between the components of its path, and that of a directory one more
at its end. The path of the directory around a member and the last component are found again from
the name, and the directories that a name implies are those on the way to it.

## Main definitions

* `fileName`, `directoryName` — the names of the files and directories in an archive

## Main results

* `fileName_injective` — different paths have different names
* `toList_text_below` — the text of a path below another ends in a name
* `parentName_fileName` — the directory around a member
* `mem_ancestors_fileName` — the directories on the way to a member
-/

namespace Lookup.Files

open Text

variable {path : List String} {file last : String}

/-- The name of the file at a path in an archive. -/
def fileName (path : List String) : String := String.intercalate "/" path

/-- The name of the directory at a path in an archive, which is empty for the top. -/
def directoryName (path : List String) : String :=
  if path = [] then "" else fileName path ++ "/"

theorem toList_fileName (path : List String) :
    (fileName path).toList = join ['/'] (path.map String.toList) := toList_intercalate_eq_join path

theorem toList_directoryName (hne : path ≠ []) :
    (directoryName path).toList = (fileName path).toList ++ ['/'] := by
  rw [directoryName, if_neg hne, String.toList_append]
  rfl

theorem fileName_append {more : List String} (hne : path ≠ []) (hmore : more ≠ []) :
    fileName (path ++ more) = fileName path ++ "/" ++ fileName more := by
  rw [← String.toList_inj]
  simp only [toList_fileName, String.toList_append, List.map_append]
  exact join_append (by simpa using hne) (by simpa using hmore)

/-- Different paths have different names. -/
theorem fileName_injective {other : List String} (hpath : ∀ name ∈ path, IsComponent name)
    (hother : ∀ name ∈ other, IsComponent name) (h : fileName path = fileName other) :
    path = other := by
  rw [← Path.names_ofText_intercalate hpath, ← Path.names_ofText_intercalate hother]
  exact congrArg (fun text => (split '/' text).filter fun name => name ≠ "" ∧ name ≠ ".") h

theorem getLast?_fileName_ne (hpath : ∀ name ∈ path, IsComponent name) :
    (fileName path).toList.getLast? ≠ some '/' := by
  rw [toList_fileName]
  rcases List.eq_nil_or_concat path with rfl | ⟨first, last, rfl⟩
  · simp [join]
  · have hlast := hpath last (by simp)
    rw [List.concat_eq_append, List.map_append, List.map_singleton,
      getLast?_join_concat hlast.toList_ne_nil]
    exact fun h => hlast.slash_notMem (List.mem_of_getLast? h)

theorem fileName_ne_nil (hpath : ∀ name ∈ path, IsComponent name) (hne : path ≠ []) :
    (fileName path).toList ≠ [] := by
  intro hnil
  refine hne (fileName_injective hpath (fun name hname => absurd hname List.not_mem_nil) ?_)
  exact String.toList_eq_nil_iff.1 hnil

theorem length_le_length_fileName (hpath : ∀ name ∈ path, IsComponent name) :
    path.length ≤ (fileName path).toList.length := by
  induction path with
  | nil => exact Nat.zero_le _
  | cons name rest ih =>
    have hname := List.length_pos_iff.2 (hpath name List.mem_cons_self).toList_ne_nil
    have hrest := ih fun n hn => hpath n (List.mem_cons_of_mem _ hn)
    rw [toList_fileName] at hrest ⊢
    cases rest with
    | nil => simpa [join] using Nat.succ_le_of_lt hname
    | cons next rest =>
      rw [List.map_cons, join_cons_of_ne_nil (by simp)]
      simp only [List.length_append, List.length_cons, List.length_nil] at hrest ⊢
      omega

/-! ### Names and paths -/

/-- The text of a path below another one, which is the root or ends in a component. -/
theorem toList_text_below {entry : Path} {names : List String} (h : entry.IsNormal)
    (hne : names ≠ []) :
    (entry.below names).text.toList =
      entry.text.toList ++ (if entry.names = [] then [] else ['/']) ++ (fileName names).toList := by
  have hbelow : (entry.below names).isAbsolute = true := h.isAbsolute
  rw [Path.toList_text_of_isAbsolute hbelow, Path.toList_text_of_isAbsolute h.isAbsolute,
    toList_fileName]
  by_cases hnames : entry.names = []
  · simp [Path.below, hnames, join]
  · rw [if_neg hnames, Path.below, List.map_append,
      join_append (by simpa using hnames) (by simpa using hne)]
    simp only [List.append_assoc]

/-- Paths below another one that lead to files have different texts. -/
theorem Path.text_below_injective {path : Path} {names more : List String}
    (hnames : ∀ name ∈ names, IsComponent name) (hne : names ≠ [])
    (hmore : ∀ name ∈ more, IsComponent name) (hne' : more ≠ [])
    (h : (path.below names).text = (path.below more).text) : names = more := by
  -- The texts start with the same characters, whatever the path above is.
  obtain ⟨start, hstart⟩ : ∃ start, ∀ below, below ≠ [] →
      (path.below below).text = start ++ fileName below := by
    by_cases hpath : path.names = []
    · refine ⟨path.root.text, fun below hbelow => ?_⟩
      rw [Path.text, if_neg fun hhere => hbelow (List.append_eq_nil_iff.1 hhere.2).2, Path.below, hpath,
        List.nil_append]
      rfl
    · refine ⟨path.root.text ++ fileName path.names ++ "/", fun below hbelow => ?_⟩
      rw [Path.text, if_neg fun hhere => hbelow (List.append_eq_nil_iff.1 hhere.2).2]
      have hjoin := fileName_append hpath hbelow
      rw [fileName] at hjoin
      rw [Path.below, hjoin]
      simp only [String.append_assoc]
  rw [hstart names hne, hstart more hne', String.append_right_inj] at h
  exact fileName_injective hnames hmore h

/-! ### Parts of names -/

/-- The name of a file is none of a directory. -/
theorem isDirectory_fileName (hpath : ∀ name ∈ path, IsComponent name) :
    Archive.isDirectory (fileName path) = false := by
  rw [Archive.isDirectory, ← Bool.not_eq_true, endsWith_slash_iff]
  exact getLast?_fileName_ne hpath

theorem isDirectory_directoryName (hne : path ≠ []) :
    Archive.isDirectory (directoryName path) = true := by
  rw [Archive.isDirectory, endsWith_slash_iff, toList_directoryName hne, List.getLast?_concat]

theorem trimSlashes_append_slash (text : List Char) :
    trimSlashes (text ++ ['/']) = trimSlashes text := List.rdropWhile_concat_pos _ _ _ (by simp)

theorem trimSlashes_fileName (hpath : ∀ name ∈ path, IsComponent name) :
    trimSlashes (fileName path).toList = (fileName path).toList :=
  trimEnd_eq_self fun _ hc => decide_eq_false fun heq => getLast?_fileName_ne hpath (heq ▸ hc)

theorem trimSlashes_directoryName (hpath : ∀ name ∈ path, IsComponent name) :
    trimSlashes (directoryName path).toList = (fileName path).toList := by
  by_cases hne : path = []
  · subst hne
    rfl
  · rw [toList_directoryName hne, trimSlashes_append_slash, trimSlashes_fileName hpath]

theorem parentName_of_notMem {text : List Char} (h : '/' ∉ text) : parentName text = [] := by
  have hdrop : text.rdropWhile (fun c => c ≠ '/') = [] :=
    List.rdropWhile_eq_nil_iff.2 fun c hc => decide_eq_true fun heq => h (heq ▸ hc)
  rw [parentName_eq, hdrop]
  rfl

/-- What stands before the last slash, unless it ends in a slash itself. -/
theorem parentName_append {head text : List Char} (hne : head ≠ []) (hhead : head.getLast? ≠ some '/')
    (h : '/' ∉ text) : parentName (head ++ '/' :: text) = head := by
  have hkept : ∀ c ∈ text.reverse, decide (c ≠ '/') = true := fun c hc =>
    decide_eq_true fun heq => h (heq ▸ List.mem_reverse.1 hc)
  have hdrop : (head ++ '/' :: text).rdropWhile (fun c => c ≠ '/') = head ++ ['/'] := by
    rw [List.rdropWhile, List.reverse_append, List.reverse_cons, List.append_assoc,
      List.dropWhile_append_of_pos hkept]
    simp
  -- Only a text of nothing but slashes would keep the slash.
  have hlast : ¬ (head ++ ['/']).all (fun c => c = '/') = true := by
    intro hall
    refine hhead ?_
    rw [List.getLast?_eq_some_getLast hne, Option.some_inj]
    exact of_decide_eq_true
      (List.all_eq_true.1 hall _ (List.mem_append_left _ (List.getLast_mem hne)))
  have htrim : trimSlashes head = head :=
    trimEnd_eq_self fun c hc => decide_eq_false fun heq => hhead (heq ▸ hc)
  rw [parentName_eq, hdrop, if_neg hlast, trimSlashes_append_slash, htrim]

/-- The directory around a member is at the path without its last component. -/
theorem parentName_fileName (hpath : ∀ name ∈ path ++ [last], IsComponent name) :
    parentName (fileName (path ++ [last])).toList = (fileName path).toList := by
  have hlast : '/' ∉ last.toList := (hpath last (by simp)).slash_notMem
  have hfirst : ∀ name ∈ path, IsComponent name := fun name hname =>
    hpath name (List.mem_append_left _ hname)
  by_cases hne : path = []
  · subst hne
    simpa [toList_fileName, join] using parentName_of_notMem hlast
  · have hchars : (fileName (path ++ [last])).toList =
        (fileName path).toList ++ '/' :: last.toList := by
      rw [fileName_append hne (by simp)]
      simp [toList_fileName, join]
    rw [hchars, parentName_append (fileName_ne_nil hfirst hne) (getLast?_fileName_ne hfirst) hlast]

/-- The last component of the path is found in the name of a file. -/
theorem lastComponent_fileName (hpath : ∀ name ∈ path ++ [last], IsComponent name) :
    Archive.lastComponent file (fileName (path ++ [last])) = last := by
  have hne : fileName (path ++ [last]) ≠ "" := fun hempty =>
    fileName_ne_nil hpath (by simp) (String.toList_eq_nil_iff.2 hempty)
  rw [Archive.lastComponent, if_neg hne, fileName, Path.names_ofText_intercalate hpath,
    List.getLast?_concat]
  rfl

/-- The last component of the path is found in the name of a directory. -/
theorem lastComponent_directoryName (hpath : ∀ name ∈ path ++ [last], IsComponent name) :
    Archive.lastComponent file (directoryName (path ++ [last])) = last := by
  have hnonempty : directoryName (path ++ [last]) ≠ "" := by
    rw [Ne, ← String.toList_eq_nil_iff, toList_directoryName (by simp)]
    simp
  have hname : directoryName (path ++ [last]) = fileName (path ++ [last] ++ [""]) := by
    have hne : path ++ [last] ≠ [] := by simp
    have hempty : fileName [""] = "" := rfl
    rw [directoryName, if_neg hne, fileName_append hne (by simp), hempty, String.append_empty]
  have hsplit : split '/' (fileName (path ++ [last] ++ [""])) = path ++ [last] ++ [""] := by
    refine split_intercalate (fun name hmem => ?_) (by simp)
    rcases List.mem_append.1 hmem with hmem | hmem
    · exact (hpath name hmem).slash_notMem
    · simp [List.mem_singleton.1 hmem]
  have hfilter : (path ++ [last] ++ [""]).filter (fun name => name ≠ "" ∧ name ≠ ".") =
      path ++ [last] := by
    rw [List.filter_append, List.filter_cons_of_neg (by simp), List.filter_nil, List.append_nil,
      List.filter_eq_self]
    exact fun name hmem => decide_eq_true ⟨(hpath name hmem).ne_empty, (hpath name hmem).ne_dot⟩
  rw [Archive.lastComponent, if_neg hnonempty, hname, hsplit, hfilter, List.getLast?_concat]
  rfl

/-! ### Directories on the way -/

/-- The names of the directories on the way to a member are those at the shorter paths. -/
theorem mem_ancestors_fileName {fuel : Nat} (hpath : ∀ name ∈ path, IsComponent name)
    (hfuel : path.length ≤ fuel) {parent : List Char} :
    parent ∈ ancestors fuel (fileName path).toList ↔
      ∃ directory, directory ≠ [] ∧ directory <+: path ∧ directory ≠ path ∧
        parent = (fileName directory).toList := by
  induction fuel generalizing path with
  | zero =>
    obtain rfl : path = [] := List.length_eq_zero_iff.1 (Nat.le_zero.1 hfuel)
    simp [ancestors]
  | succ fuel ih =>
    rcases List.eq_nil_or_concat path with rfl | ⟨first, last, rfl⟩
    · simp [ancestors, toList_fileName, join, parentName_of_notMem, trimSlashes, trimEnd]
    rw [List.concat_eq_append] at *
    have hfirst : ∀ name ∈ first, IsComponent name := fun name hname =>
      hpath name (List.mem_append_left _ hname)
    -- The directory around the path comes first, and those on the way to it follow.
    rw [ancestors]
    simp only [parentName_fileName hpath, trimSlashes_fileName hfirst]
    simp only [List.prefix_concat_iff]
    by_cases hne : first = []
    · subst hne
      have hnil : (fileName []).toList = [] := rfl
      rw [if_pos hnil]
      refine ⟨fun h => absurd h List.not_mem_nil, ?_⟩
      rintro ⟨directory, hne, hself | hfront, hother, -⟩
      · exact absurd hself hother
      · exact absurd (List.prefix_nil.1 hfront) hne
    · rw [if_neg (fileName_ne_nil hfirst hne), List.mem_cons, ih hfirst (by simpa using hfuel)]
      constructor
      · rintro (rfl | ⟨directory, hnil, hfront, -, rfl⟩)
        · exact ⟨first, hne, .inr List.prefix_rfl, by simp, rfl⟩
        · refine ⟨directory, hnil, .inr hfront, fun heq => ?_, rfl⟩
          have hle := hfront.length_le
          rw [heq, List.length_append, List.length_singleton] at hle
          omega
      · rintro ⟨directory, hnil, hself | hfront, hother, rfl⟩
        · exact absurd hself hother
        · by_cases heq : directory = first
          · exact .inl (by rw [heq])
          · exact .inr ⟨directory, hnil, hfront, heq, rfl⟩

end Lookup.Files
