import Lookup.Proofs.Files.Multiplicity

/-!
# Walks down through archives

What lies in a directory of an archive has a longer name than the directory, and no name is longer than
the longest one. So going down from directory to directory comes to an end, and a walk with its bound is the
recursion without one. The members it comes to are told by the start of their names: a relative name lies
below a directory if it starts with the name of the directory and a slash, whatever its components are.

## Main results

* `Way.exists_iff` — the names below a directory
* `Archive.wellFounded_children` — going down comes to an end
* `Archive.walk_eq` — a walk is what lies in a directory, with walks through the directories among it
* `Archive.isBelow_iff` — the members below a directory, by the start of their names
-/

namespace Lookup.Files

open Text

variable {start text directory rest : List Char} {directories : List (List Char)}

/-! ### Parents of relative names -/

/-- A relative name is more than slashes. -/
theorem trimSlashes_ne_nil (h : IsRelative text) (hne : text ≠ []) : trimSlashes text ≠ [] := by
  intro hnil
  obtain ⟨c, rest, rfl⟩ := List.exists_cons_of_ne_nil hne
  have hslash := trimSlashes_eq_nil_iff.1 hnil c List.mem_cons_self
  exact h (by rw [hslash, List.head?_cons])

theorem IsRelative.of_isPrefix (h : IsRelative text) (hstart : start <+: text) : IsRelative start := by
  by_cases hne : start = []
  · simp [hne, IsRelative]
  · rwa [IsRelative, head?_eq_of_start hstart hne]

/-- A text that ends in a slash goes on with a slash where its slashes are dropped. -/
theorem trimSlashes_concat_isPrefix (h : text.getLast? = some '/') :
    trimSlashes text ++ ['/'] <+: text := by
  have hsplit : trimSlashes text ++ text.rtakeWhile (fun c => c = '/') = text :=
    List.rdropWhile_append_rtakeWhile
  have hne : text.rtakeWhile (fun c => c = '/') ≠ [] := by
    rw [Ne, List.rtakeWhile_eq_nil_iff]
    intro hlast
    obtain ⟨front, rfl⟩ := List.getLast?_eq_some_iff.1 h
    simp at hlast
  obtain ⟨c, slashes, hslashes⟩ := List.exists_cons_of_ne_nil hne
  have hc : c = '/' := by
    have hmem : c ∈ text.rtakeWhile (fun c => c = '/') := by
      rw [hslashes]
      exact List.mem_cons_self
    simpa using List.mem_rtakeWhile_imp hmem
  refine ⟨slashes, ?_⟩
  rw [List.append_assoc, List.singleton_append, ← hc, ← hslashes, hsplit]

/-- The directory of a relative name is what stands before its last component, without the slashes. -/
theorem parentName_eq_trimSlashes (h : IsRelative text) :
    parentName text = trimSlashes (text.rdropWhile fun c => c ≠ '/') := by
  rw [parentName_eq]
  split
  · next hall =>
    have hnil : trimSlashes (text.rdropWhile fun c => c ≠ '/') = [] :=
      trimSlashes_eq_nil_iff.2 fun c hc => of_decide_eq_true (List.all_eq_true.1 hall c hc)
    by_contra hne
    refine trimSlashes_ne_nil (h.of_isPrefix (List.rdropWhile_prefix _ _)) (fun hhead => ?_) hnil
    exact hne (by rw [hnil, hhead])
  · rfl

theorem trimSlashes_parentName (h : IsRelative text) :
    trimSlashes (parentName text) = parentName text := by
  rw [parentName_eq_trimSlashes h]
  exact List.rdropWhile_idempotent _ _

/-- A relative name starts with the name of its directory and a slash, unless it lies at the top. -/
theorem parentName_concat_isPrefix (h : IsRelative text) (hne : parentName text ≠ []) :
    parentName text ++ ['/'] <+: text := by
  rw [parentName_eq_trimSlashes h] at hne ⊢
  have hhead : text.rdropWhile (fun c => c ≠ '/') ≠ [] := by
    intro hnil
    rw [hnil] at hne
    exact hne rfl
  have hlast : (text.rdropWhile fun c => c ≠ '/').getLast? = some '/' := by
    rw [List.getLast?_eq_some_getLast hhead, Option.some_inj]
    have hslash := List.rdropWhile_last_not (fun c => decide (c ≠ '/')) text hhead
    rwa [decide_eq_true_eq, Ne, not_not] at hslash
  exact (trimSlashes_concat_isPrefix hlast).trans (List.rdropWhile_prefix _ _)

/-- Dropping from the end goes on to the front only if nothing of the end is left. -/
theorem rdropWhile_append (drop : Char → Bool) (front back : List Char) :
    (front ++ back).rdropWhile drop =
      if back.rdropWhile drop = [] then front.rdropWhile drop else front ++ back.rdropWhile drop := by
  simp only [List.rdropWhile, List.reverse_append, List.dropWhile_append, List.isEmpty_iff,
    List.reverse_eq_nil_iff]
  split
  · rfl
  · rw [List.reverse_append, List.reverse_reverse]

/-- What is left of a text in front of which a kept character stands. -/
theorem rdropWhile_cons_of_neg {drop : Char → Bool} {c : Char} (h : drop c = false)
    (text : List Char) : (c :: text).rdropWhile drop = c :: text.rdropWhile drop := by
  rw [← List.singleton_append, rdropWhile_append]
  split
  · next hnil => rw [hnil, List.rdropWhile_singleton, if_neg (by simp [h])]
  · rfl

/-- The directory of a name below a directory is that directory or lies below it too. -/
theorem parentName_append_cases (hrelative : IsRelative (start ++ '/' :: rest))
    (htrim : trimSlashes start = start) :
    parentName (start ++ '/' :: rest) = start ∨
      start ++ ['/'] <+: parentName (start ++ '/' :: rest) := by
  -- The last component is dropped first, which leaves the slash behind the start.
  have hhead : (start ++ '/' :: rest).rdropWhile (fun c => c ≠ '/') =
      start ++ '/' :: rest.rdropWhile (fun c => c ≠ '/') := by
    rw [rdropWhile_append, rdropWhile_cons_of_neg (by simp), if_neg (List.cons_ne_nil _ _)]
  rw [parentName_eq_trimSlashes hrelative, hhead]
  generalize rest.rdropWhile (fun c => c ≠ '/') = more
  -- Then slashes are dropped, which comes back to the start if there is nothing else behind it.
  have hdrop : trimSlashes (start ++ '/' :: more) =
      if trimSlashes ('/' :: more) = [] then trimSlashes start else start ++ trimSlashes ('/' :: more) :=
    rdropWhile_append _ _ _
  rw [hdrop]
  split
  · exact .inl htrim
  · next hkept =>
    refine .inr ((List.prefix_append_right_inj start).2 ?_)
    obtain ⟨c, kept, hcons⟩ := List.exists_cons_of_ne_nil hkept
    have hfront := isPrefix_trimSlashes ('/' :: more)
    rw [hcons] at hfront ⊢
    obtain ⟨rfl, -⟩ := List.cons_prefix_cons.1 hfront
    exact List.cons_prefix_cons.2 ⟨rfl, List.nil_prefix⟩

/-! ### Ways down -/

namespace Way

/-- A way goes on to what lies in the directory it leads to. -/
theorem concat (h : Way start directory directories) (htrim : trimSlashes directory = directory)
    (hne : text ≠ []) (hparent : parentName text = directory) :
    Way start text (directories ++ [directory]) := by
  induction h with
  | here ne_nil parent => exact .down ne_nil htrim parent (.here hne hparent)
  | down ne_nil trimmed parent _ ih => exact .down ne_nil trimmed parent (ih htrim hparent)

/-- A relative name below a directory starts with the name of the directory and a slash. -/
theorem isPrefix (h : Way start text directories) (hrelative : IsRelative text) :
    start = [] ∨ start ++ ['/'] <+: text := by
  induction h with
  | @here start text ne_nil parent =>
    subst parent
    exact or_iff_not_imp_left.2 (parentName_concat_isPrefix hrelative)
  | @down start directory text directories ne_nil trimmed parent _ ih =>
    have hfront : directory <+: text :=
      (List.prefix_append _ _).trans ((ih hrelative).resolve_left ne_nil)
    subst parent
    refine or_iff_not_imp_left.2 fun hne => ?_
    exact (parentName_concat_isPrefix (hrelative.of_isPrefix hfront) hne).trans hfront

/-- A name that starts with that of a directory and a slash lies below the directory. The induction goes up
from the name, whose directory starts in the same way unless it is the directory itself. -/
theorem exists_of_isPrefix (hrelative : IsRelative text) (hne : text ≠ [])
    (hstart : trimSlashes start = start) (h : start = [] ∨ start ++ ['/'] <+: text) :
    ∃ directories, Way start text directories := by
  induction hlength : text.length using Nat.strong_induction_on generalizing text with
  | _ length ih =>
  subst hlength
  by_cases hparent : parentName text = start
  · exact ⟨[], .here hne hparent⟩
  have habove : parentName text <+: text := by
    by_cases hnil : parentName text = []
    · rw [hnil]
      exact List.nil_prefix
    · exact (List.prefix_append _ _).trans (parentName_concat_isPrefix hrelative hnil)
  have hnext : start = [] ∨ start ++ ['/'] <+: parentName text := by
    refine or_iff_not_imp_left.2 fun hnil => ?_
    obtain ⟨rest, rfl⟩ := h.resolve_left hnil
    rw [List.append_assoc, List.singleton_append] at hrelative hparent ⊢
    exact (parentName_append_cases hrelative hstart).resolve_left hparent
  have hparentNe : parentName text ≠ [] := by
    intro hnil
    rcases hnext with rfl | hnext
    · exact hparent hnil
    · simp [hnil] at hnext
  have hshorter : (parentName text).length < text.length :=
    length_parentName_lt (trimSlashes_ne_nil hrelative hne)
  obtain ⟨directories, hway⟩ :=
    ih _ hshorter (hrelative.of_isPrefix habove) hparentNe hnext rfl
  exact ⟨_, hway.concat (trimSlashes_parentName hrelative) hne rfl⟩

/-- The relative names below a directory are those that start with its name and a slash. -/
theorem exists_iff (hrelative : IsRelative text) (hne : text ≠ [])
    (hstart : trimSlashes start = start) :
    (∃ directories, Way start text directories) ↔ start = [] ∨ start ++ ['/'] <+: text :=
  ⟨fun ⟨_, hway⟩ => hway.isPrefix hrelative, exists_of_isPrefix hrelative hne hstart⟩

end Way

/-! ### Descent -/

namespace Archive

variable {archive : Archive} {file entered name : String} {depth : Nat}

/-- What lies in a directory has a longer name than the directory, but none longer than the longest. -/
theorem length_lt_of_mem_inside (h : name ∈ archive.inside file entered) :
    (trimSlashes entered.toList).length < (trimSlashes name.toList).length ∧
      (trimSlashes name.toList).length ≤ archive.longest := by
  obtain ⟨hmem, hne, hparent⟩ := mem_inside_iff.1 h
  constructor
  · have htrim : trimSlashes (trimSlashes name.toList) = trimSlashes name.toList :=
      List.rdropWhile_idempotent _ _
    rw [← hparent]
    exact length_parentName_lt (by rwa [htrim])
  · have hle := length_trimSlashes_le name.toList
    rw [String.length_toList] at hle
    exact hle.trans (length_le_longest hmem)

/-- Going down in an archive comes to an end, unless a member is the top. -/
theorem wellFounded_children (h : ¬ archive.IsCircular) (file : String) :
    WellFounded fun child directory => child ∈ archive.children file directory := by
  simp only [← inside_eq_children fun _ => h]
  refine Subrelation.wf ?_
    (measure fun name : String => archive.longest - (trimSlashes name.toList).length).wf
  intro child directory h
  obtain ⟨hlt, hle⟩ := length_lt_of_mem_inside h
  exact Nat.sub_lt_sub_left (hlt.trans_le hle) hlt

/-- A walk that may go as deep as names are long is not cut off: one more level changes nothing. -/
theorem filesWithin_succ_eq (h : archive.longest < depth + (trimSlashes entered.toList).length) :
    archive.filesWithin file (depth + 1) entered = archive.filesWithin file depth entered := by
  induction depth generalizing entered with
  | zero =>
    have hnone : archive.inside file entered = [] := by
      refine List.eq_nil_iff_forall_not_mem.2 fun name hname => ?_
      obtain ⟨hlt, hle⟩ := length_lt_of_mem_inside hname
      omega
    simp [filesWithin, hnone]
  | succ depth ih =>
    rw [filesWithin, filesWithin]
    refine List.flatMap_congr fun child hchild => ?_
    obtain ⟨hlt, -⟩ := length_lt_of_mem_inside hchild
    rw [ih (by omega)]

/-- The files below a directory are those that lie there and those below the directories that lie there. -/
theorem files_eq (archive : Archive) (file directory : String) :
    archive.files file directory = (archive.inside file directory).flatMap fun name =>
      if isDirectory name then archive.files file name else [name] := by
  rw [files, filesWithin]
  refine List.flatMap_congr fun child hchild => ?_
  obtain ⟨hlt, -⟩ := length_lt_of_mem_inside hchild
  rw [files, filesWithin_succ_eq (by omega)]

/-- A walk through a directory comes to the files that lie there and walks through the directories that lie
there, whatever its bound. -/
theorem walk_eq (h : ¬ archive.IsCircular) (file : String) (rounds : Nat) (directory : String) :
    archive.walk file rounds directory = ⟨(archive.children file directory).flatMap fun name =>
      if isDirectory name then (archive.walk file rounds name).names else [name], false⟩ := by
  simp only [walk_eq_files fun _ => h]
  rw [files_eq, inside_eq_children fun _ => h]

/-- An archive whose members have relative names has no member that is the top. -/
theorem not_isCircular (hnames : ∀ name ∈ archive.memberNames, name ≠ "" ∧ IsRelative name.toList) :
    ¬ archive.IsCircular := by
  rintro ⟨name, hname, htop⟩
  obtain ⟨hne, hrelative⟩ := hnames name hname
  exact trimSlashes_ne_nil hrelative (by simpa using hne) (isTop_iff.1 htop)

/-- The members below a directory of an archive whose names are relative are the files whose names start
with that of the directory and a slash. -/
theorem isBelow_iff (hnames : ∀ name ∈ archive.memberNames, name ≠ "" ∧ IsRelative name.toList)
    (hstart : trimSlashes start = start) :
    archive.IsBelow start name ↔ name ∈ archive.memberNames ∧ isDirectory name = false ∧
      (start = [] ∨ start ++ ['/'] <+: name.toList) := by
  refine and_congr_right fun hmem => and_congr_right fun _ => ?_
  obtain ⟨hne, hrelative⟩ := hnames name hmem
  exact Way.exists_iff hrelative (by simpa using hne) hstart

end Archive

end Lookup.Files
