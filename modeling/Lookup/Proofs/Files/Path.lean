import Lookup.Files.Path
import Lookup.Proofs.Text.Fields

/-!
# Paths and their text

The components that reading a text yields are neither empty nor a single dot and hold no slash. A path
that starts at the root and consists of such components is read back from its text. Making a path
absolute yields a path of this kind.

## Main definitions

* `IsComponent` — names that reading a path yields
* `Path.IsNormal` — paths from the root that consist of such names
* `Path.below` — a path below another, given by names

## Main results

* `Path.ofText_text` — a normal path is read back from its text
* `Path.filter_split_text` — the parts of the text of a path are those of its joined names
* `Path.isNormal_absolute` — a path that is made absolute is normal
-/

namespace Lookup.Files

open Text

/-- A name that reading a path yields. -/
structure IsComponent (name : String) : Prop where
  ne_empty : name ≠ ""
  ne_dot : name ≠ "."
  slash_notMem : '/' ∉ name.toList

instance (name : String) : Decidable (IsComponent name) :=
  decidable_of_iff (name ≠ "" ∧ name ≠ "." ∧ '/' ∉ name.toList)
    ⟨fun ⟨hempty, hdot, hslash⟩ => ⟨hempty, hdot, hslash⟩,
      fun ⟨hempty, hdot, hslash⟩ => ⟨hempty, hdot, hslash⟩⟩

theorem IsComponent.toList_ne_nil {name : String} (h : IsComponent name) : name.toList ≠ [] :=
  fun hnil => h.ne_empty (String.toList_eq_nil_iff.1 hnil)

namespace Path

variable {path : Path} {names more : List String}

/-- A path from the root that consists of names that reading a path yields. -/
structure IsNormal (path : Path) : Prop where
  isAbsolute : path.isAbsolute = true
  isComponent : ∀ name ∈ path.names, IsComponent name

/-- The path below another that names lead to. -/
def below (path : Path) (names : List String) : Path := ⟨path.root, path.names ++ names⟩

@[simp] theorem below_nil (path : Path) : path.below [] = path := by simp [below]

theorem below_append (path : Path) (names more : List String) :
    path.below (names ++ more) = (path.below names).below more := by simp [below]

theorem below_injective (path : Path) : Function.Injective path.below := by
  intro names more h
  exact List.append_cancel_left (congrArg Path.names h)

theorem child_eq_below (path : Path) (name : String) : path.child name = path.below [name] := rfl

theorem IsNormal.below (h : path.IsNormal) (hnames : ∀ name ∈ names, IsComponent name) :
    (path.below names).IsNormal :=
  ⟨h.isAbsolute, fun name hname => (List.mem_append.1 hname).elim (h.isComponent name) (hnames name)⟩

theorem isComponent_of_mem_ofText {text name : String} (h : name ∈ (ofText text).names) :
    IsComponent name := by
  obtain ⟨hmem, hname⟩ := List.mem_filter.1 h
  obtain ⟨hempty, hdot⟩ := of_decide_eq_true hname
  obtain ⟨part, hpart, rfl⟩ := List.mem_map.1 hmem
  exact ⟨hempty, hdot, by simpa using notMem_of_mem_fields hpart⟩

/-! ### Text -/

theorem root_eq_of_isAbsolute (h : path.isAbsolute = true) :
    path.root = .slash ∨ path.root = .slashes := by
  cases hroot : path.root with
  | here => simp [isAbsolute, hroot] at h
  | slash => exact .inl rfl
  | slashes => exact .inr rfl

theorem text_of_isAbsolute (h : path.isAbsolute = true) :
    path.text = path.root.text ++ String.intercalate "/" path.names := by
  have hroot : path.root ≠ .here := by simpa [isAbsolute] using h
  rw [text, if_neg fun hhere => hroot hhere.1]

theorem toList_text_of_isAbsolute (h : path.isAbsolute = true) :
    path.text.toList = path.root.text.toList ++ join ['/'] (path.names.map String.toList) := by
  rw [text_of_isAbsolute h, String.toList_append, toList_intercalate_eq_join]

theorem exists_toList_text_eq_cons (h : path.isAbsolute = true) :
    ∃ rest, path.text.toList = '/' :: rest := by
  rw [toList_text_of_isAbsolute h]
  rcases root_eq_of_isAbsolute h with hroot | hroot
  · exact ⟨_, by rw [hroot]; rfl⟩
  · exact ⟨_, by rw [hroot]; rfl⟩

/-- The names of joined components are the components. -/
theorem names_ofText_intercalate (hnames : ∀ name ∈ names, IsComponent name) :
    (split '/' (String.intercalate "/" names)).filter (fun name => name ≠ "" ∧ name ≠ ".") = names := by
  cases names with
  | nil => rfl
  | cons name rest =>
    rw [split_intercalate (fun name hname => (hnames name hname).slash_notMem) (by simp),
      List.filter_eq_self]
    exact fun name hname => by simpa using ⟨(hnames name hname).ne_empty, (hnames name hname).ne_dot⟩

/-- Joined components do not start with a slash. -/
theorem takeWhile_slash_intercalate (hnames : ∀ name ∈ names, IsComponent name) :
    (String.intercalate "/" names).toList.takeWhile (fun c => c = '/') = [] := by
  rw [toList_intercalate_eq_join]
  cases names with
  | nil => rfl
  | cons name rest =>
    have hname := hnames name List.mem_cons_self
    obtain ⟨c, cs, hcs⟩ := List.exists_cons_of_ne_nil hname.toList_ne_nil
    have hc : c ≠ '/' := fun heq => hname.slash_notMem (by simp [hcs, heq])
    have hhead : (join ['/'] (name.toList :: rest.map String.toList)).head? = name.toList.head? :=
      head?_join_cons hname.toList_ne_nil
    rw [List.map_cons]
    generalize join ['/'] (name.toList :: rest.map String.toList) = joined at hhead ⊢
    cases joined with
    | nil => rfl
    | cons d more =>
      obtain rfl : d = c := by simpa [hcs] using hhead
      rw [List.takeWhile_cons, if_neg (by simpa using hc)]

theorem split_cons_slash (text : String) : split '/' ("/" ++ text) = "" :: split '/' text := by
  have hchars : ("/" ++ text).toList = '/' :: text.toList := by simp
  rw [split, split, hchars, fields_cons_self, List.map_cons]

/-- The parts of the text of a path are those of its joined names, apart from empty ones in front. -/
theorem filter_split_text (h : path.isAbsolute = true) {keep : String → Bool}
    (hkeep : keep "" = false) :
    (split '/' path.text).filter keep =
      (split '/' (String.intercalate "/" path.names)).filter keep := by
  have hempty : ¬ keep "" = true := by simp [hkeep]
  rw [text_of_isAbsolute h]
  rcases root_eq_of_isAbsolute h with hroot | hroot
  · rw [hroot, Root.text, split_cons_slash, List.filter_cons_of_neg hempty]
  · have hslashes : "//" = "/" ++ "/" := rfl
    rw [hroot, Root.text, hslashes, String.append_assoc, split_cons_slash, split_cons_slash,
      List.filter_cons_of_neg hempty, List.filter_cons_of_neg hempty]

/-- The start of a normal path is read back from its text. -/
theorem root_ofText_text (h : path.IsNormal) : Root.ofText path.text.toList = path.root := by
  -- The components put no slash behind those of the root.
  have htake := takeWhile_slash_intercalate h.isComponent
  rw [text_of_isAbsolute h.isAbsolute, String.toList_append, Root.ofText]
  rcases root_eq_of_isAbsolute h.isAbsolute with hroot | hroot
  · have hchars : Root.slash.text.toList = ['/'] := rfl
    rw [hroot, hchars, List.singleton_append, List.takeWhile_cons_of_pos (by simp), htake]
    rfl
  · have hchars : Root.slashes.text.toList = ['/', '/'] := rfl
    rw [hroot, hchars, List.cons_append, List.singleton_append,
      List.takeWhile_cons_of_pos (by simp), List.takeWhile_cons_of_pos (by simp), htake]
    rfl

/-- A normal path is read back from its text. -/
theorem ofText_text (h : path.IsNormal) : ofText path.text = path := by
  rw [ofText, root_ofText_text h, filter_split_text h.isAbsolute (by simp),
    names_ofText_intercalate h.isComponent]

/-- A text is read as an absolute path exactly if it starts with a slash. -/
theorem isAbsolute_ofText_iff {text : String} :
    (ofText text).isAbsolute = true ↔ ∃ rest, text.toList = '/' :: rest := by
  have hroot : (ofText text).isAbsolute = true ↔ Root.ofText text.toList ≠ .here := by
    simp [isAbsolute, ofText]
  rw [hroot, Root.ofText]
  cases htext : text.toList with
  | nil => simp
  | cons c rest =>
    by_cases hc : c = '/'
    · subst hc
      refine iff_of_true ?_ ⟨rest, rfl⟩
      rw [List.takeWhile_cons_of_pos (by simp), List.length_cons]
      split
      · next hzero => exact absurd hzero (Nat.succ_ne_zero _)
      · simp
      · simp
    · simp [hc]

theorem split_text (h : path.IsNormal) (hne : path.names ≠ []) :
    (split '/' path.text).filter (· ≠ "") = path.names := by
  rw [filter_split_text h.isAbsolute (by simp),
    split_intercalate (fun name hname => (h.isComponent name hname).slash_notMem) hne,
    List.filter_eq_self]
  exact fun name hname => decide_eq_true (h.isComponent name hname).ne_empty

/-- The text of a path that has a component ends as its last component does. -/
theorem getLast?_text (h : path.IsNormal) {first : List String} {last : String}
    (hnames : path.names = first ++ [last]) :
    path.text.toList.getLast? = last.toList.getLast? := by
  have hlast : last.toList ≠ [] :=
    (h.isComponent last (by rw [hnames]; exact List.mem_concat_self)).toList_ne_nil
  have hjoin : (join ['/'] (path.names.map String.toList)).getLast? = last.toList.getLast? := by
    rw [hnames, List.map_append, List.map_singleton, getLast?_join_concat hlast]
  have hne : join ['/'] (path.names.map String.toList) ≠ [] := by
    intro hnil
    rw [hnil, List.getLast?_nil, eq_comm, List.getLast?_eq_none_iff] at hjoin
    exact hlast hjoin
  rw [toList_text_of_isAbsolute h.isAbsolute, List.getLast?_append_of_ne_nil _ hne, hjoin]

/-- A path that has a component does not end in a slash. -/
theorem getLast?_text_ne (h : path.IsNormal) (hne : path.names ≠ []) :
    path.text.toList.getLast? ≠ some '/' := by
  obtain ⟨first, last, hnames⟩ := (List.eq_nil_or_concat path.names).resolve_left hne
  rw [List.concat_eq_append] at hnames
  have hlast : IsComponent last := h.isComponent last (by rw [hnames]; exact List.mem_concat_self)
  rw [getLast?_text h hnames]
  exact fun hslash => hlast.slash_notMem (List.mem_of_getLast? hslash)

theorem mem_text_below {c : Char} (h : path.IsNormal) (hc : c ∈ (path.below names).text.toList) :
    c = '/' ∨ c ∈ path.text.toList ∨ ∃ name ∈ names, c ∈ name.toList := by
  have habsolute : (path.below names).isAbsolute = true := h.isAbsolute
  rw [toList_text_of_isAbsolute habsolute] at hc
  rw [toList_text_of_isAbsolute h.isAbsolute]
  rcases List.mem_append.1 hc with hroot | hjoin
  · exact .inr (.inl (List.mem_append_left _ hroot))
  rcases mem_join hjoin with hslash | ⟨part, hpart, hc⟩
  · exact .inl (List.mem_singleton.1 hslash)
  obtain ⟨name, hname, rfl⟩ := List.mem_map.1 hpart
  rcases List.mem_append.1 hname with hname | hname
  · exact .inr (.inl (List.mem_append_right _ (mem_join_of_mem (List.mem_map_of_mem hname) hc)))
  · exact .inr (.inr ⟨name, hname, hc⟩)

/-- Joined components are read as a relative path. -/
theorem ofText_intercalate (hnames : ∀ name ∈ names, IsComponent name) :
    ofText (String.intercalate "/" names) = ⟨.here, names⟩ := by
  have hroot : Root.ofText (String.intercalate "/" names).toList = .here := by
    rw [Root.ofText, takeWhile_slash_intercalate hnames]
    rfl
  rw [ofText, hroot, names_ofText_intercalate hnames]

/-- A relative path leads below another one. -/
theorem append_relative (path : Path) (names : List String) :
    path.append ⟨.here, names⟩ = path.below names := if_neg (by simp [isAbsolute])

/-! ### Absolute paths -/

theorem mem_of_mem_settle {name : String} (h : name ∈ settle names) : name ∈ names := by
  rw [settle, List.mem_reverse] at h
  revert h
  refine List.foldlRecOn (motive := fun done => name ∈ done → name ∈ names) names _
    (fun hmem => absurd hmem List.not_mem_nil) fun done hdone other hother hmem => ?_
  split at hmem
  · exact hdone (List.mem_of_mem_tail hmem)
  · rcases List.mem_cons.1 hmem with rfl | hmem
    · exact hother
    · exact hdone hmem

/-- A path that is read from a text and made absolute is normal, provided that the names of the
current directory are names that reading a path yields. -/
theorem isNormal_absolute {cwd : List String} (hcwd : ∀ name ∈ cwd, IsComponent name)
    (text : String) : ((ofText text).absolute cwd).IsNormal := by
  refine ⟨isAbsolute_absolute cwd _, fun name hname => ?_⟩
  rw [absolute] at hname
  split at hname
  · exact isComponent_of_mem_ofText (mem_of_mem_settle hname)
  · rcases List.mem_append.1 (mem_of_mem_settle hname) with hmem | hmem
    · exact hcwd name hmem
    · exact isComponent_of_mem_ofText hmem

end Path

end Lookup.Files
