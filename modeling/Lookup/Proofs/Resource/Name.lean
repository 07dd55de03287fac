import Lookup.Proofs.Files.MemberName
import Lookup.Proofs.Resource.Package
import Lookup.Resource.Mount

/-!
# Names of resources

The name of a file in a directory is what is left of its path when the text of the directory has been
taken away, with every backslash turned. A directory whose text ends in a backslash is cut short by
it, so that one slash too many is left.

## Main definitions

* `IsPlainPart` — components that stand for themselves

## Main results

* `drop_text_below` — what is left of the path of a file
* `toList_name_resource` — the name of a file in a directory
* `canonicalName_eq_self` — names without backslashes are kept
* `canonicalName_fileName`, `name_resource_eq_fileName` — names of plain components
-/

namespace Lookup

open Files Text

variable {entry : Path} {names : List String}

theorem toList_dropTrailingSlash_concat (chars : List Char) (c : Char) :
    (dropTrailingSlash (String.ofList (chars ++ [c]))).toList =
      if isSlash c then chars else chars ++ [c] := by
  rw [dropTrailingSlash, String.toList_ofList, String.toList_ofList, List.reverse_append,
    List.reverse_singleton, List.singleton_append, dropLeading]
  split
  · rw [List.reverse_reverse]
  · rw [List.reverse_cons, List.reverse_reverse]

/-- What is left of the path of a file starts with a slash, before which a backslash at the end of the
directory stays. -/
theorem drop_text_below (h : entry.IsNormal) (hne : names ≠ []) :
    (entry.below names).text.toList.drop (dropTrailingSlash entry.text).length =
      (if entry.text.toList.getLast? = some '\\' then ['\\'] else []) ++
        '/' :: (fileName names).toList := by
  rw [toList_text_below h hne, ← String.length_toList]
  by_cases hnames : entry.names = []
  · -- The text of a root ends in the slash that is taken away, so it is the one in front of the names.
    obtain ⟨chars, htext⟩ : ∃ chars, entry.text.toList = chars ++ ['/'] := by
      rw [Path.toList_text_of_isAbsolute h.isAbsolute, hnames]
      rcases Path.root_eq_of_isAbsolute h.isAbsolute with hroot | hroot
      · exact ⟨[], by rw [hroot]; rfl⟩
      · exact ⟨['/'], by rw [hroot]; rfl⟩
    rw [if_pos hnames, ← String.ofList_toList (s := entry.text), htext,
      toList_dropTrailingSlash_concat, String.toList_ofList]
    simp [isSlash]
  · have hend := Path.getLast?_text_ne h hnames
    obtain ⟨chars, c, htext⟩ := (List.eq_nil_or_concat entry.text.toList).resolve_left fun hnil => by
      obtain ⟨rest, hrest⟩ := Path.exists_toList_text_eq_cons h.isAbsolute
      simp [hnil] at hrest
    rw [List.concat_eq_append] at htext
    rw [if_neg hnames, ← String.ofList_toList (s := entry.text), htext,
      toList_dropTrailingSlash_concat, String.toList_ofList]
    rw [htext, List.getLast?_concat] at hend
    by_cases hback : c = '\\'
    · simp [hback, isSlash]
    · have hslash : c ≠ '/' := fun heq => hend (by rw [heq])
      simp [hback, hslash, isSlash]

/-- The name of a file in a directory, which starts with a slash if the text of the directory ends in a
backslash. -/
theorem toList_name_resource (h : entry.IsNormal) (hne : names ≠ []) (root : Path) :
    (DirectoryMount.resource ⟨root, dropTrailingSlash entry.text⟩ (entry.below names)).name.toList =
      (if entry.text.toList.getLast? = some '\\' then ['/'] else []) ++
        exchange '\\' '/' (fileName names).toList := by
  rw [DirectoryMount.resource]
  simp only
  rw [drop_text_below h hne, canonicalName, String.toList_ofList, String.toList_ofList]
  split
  · simp [exchange, dropLeading, isSlash]
  · simp [exchange, dropLeading, isSlash]

/-- A name that holds no backslash and does not start with a slash is kept. -/
theorem canonicalName_eq_self {text : String} (hback : '\\' ∉ text.toList)
    (hslash : text.toList.head? ≠ some '/') : canonicalName text = text := by
  rw [canonicalName, exchange_eq_self hback]
  cases hchars : text.toList with
  | nil => rw [dropLeading, ← hchars, String.ofList_toList]
  | cons c rest =>
    have hc : isSlash c = false := by
      rw [hchars] at hback hslash
      have hne : c ≠ '/' := fun heq => hslash (by rw [heq]; rfl)
      have hne' : c ≠ '\\' := fun heq => hback (by simp [heq])
      simp [isSlash, hne, hne']
    rw [dropLeading, hc]
    simp [← hchars]

/-! ### Plain names -/

/-- A component that stands for itself in the path of a file, in the name of a member and in that of a
resource. -/
structure IsPlainPart (part : String) : Prop extends IsComponent part where
  ne_dotdot : part ≠ ".."
  backslash_notMem : '\\' ∉ part.toList

instance (part : String) : Decidable (IsPlainPart part) :=
  decidable_of_iff (IsComponent part ∧ part ≠ ".." ∧ '\\' ∉ part.toList)
    ⟨fun ⟨hcomponent, hdotdot, hback⟩ => ⟨hcomponent, hdotdot, hback⟩,
      fun ⟨hcomponent, hdotdot, hback⟩ => ⟨hcomponent, hdotdot, hback⟩⟩

theorem backslash_notMem_fileName (h : ∀ part ∈ names, IsPlainPart part) :
    '\\' ∉ (fileName names).toList := by
  rw [toList_fileName]
  intro hback
  rcases mem_join hback with hback | ⟨part, hpart, hmem⟩
  · exact absurd hback (by decide)
  · obtain ⟨name, hname, rfl⟩ := List.mem_map.1 hpart
    exact (h name hname).backslash_notMem hmem

theorem isRelative_fileName (h : ∀ name ∈ names, IsComponent name) :
    IsRelative (fileName names).toList := by
  cases names with
  | nil => simp [IsRelative, fileName]
  | cons first rest =>
    have hfirst := h first List.mem_cons_self
    rw [IsRelative, toList_fileName, List.map_cons, head?_join_cons hfirst.toList_ne_nil]
    exact fun hslash => hfirst.slash_notMem (List.mem_of_head? hslash)

/-- A name of plain components is kept when it is the name of a resource. -/
theorem canonicalName_fileName (h : ∀ part ∈ names, IsPlainPart part) :
    canonicalName (fileName names) = fileName names :=
  canonicalName_eq_self (backslash_notMem_fileName h)
    (isRelative_fileName fun name hname => (h name hname).toIsComponent)

/-- A file in a directory is named by the components of its path from there, if they are plain and the
path of the directory holds no backslash. -/
theorem name_resource_eq_fileName (h : entry.IsNormal) (hback : '\\' ∉ entry.text.toList)
    (hne : names ≠ []) (hnames : ∀ part ∈ names, IsPlainPart part) (root : Path) :
    (DirectoryMount.resource ⟨root, dropTrailingSlash entry.text⟩ (entry.below names)).name =
      fileName names := by
  have hlast : entry.text.toList.getLast? ≠ some '\\' := fun hlast =>
    hback (List.mem_of_getLast? hlast)
  rw [← String.toList_inj, toList_name_resource h hne, if_neg hlast,
    exchange_eq_self (backslash_notMem_fileName hnames), List.nil_append]

/-! ### Packages -/

variable {package : String}

theorem isPlainPart_packageNames {name : String} (h : name ∈ packageNames package) :
    IsPlainPart name := by
  refine ⟨isComponent_packageNames h, ne_dotdot_of_mem_packageNames h, ?_⟩
  obtain ⟨part, hpart, rfl⟩ := List.mem_map.1 h
  rw [String.toList_ofList]
  exact (isPackageComponent hpart).backslash_notMem

/-- The path of a file below the directory of a package is made up of plain components if the rest is. -/
theorem isPlainPart_append (package : String) {rest : List String}
    (hrest : ∀ part ∈ rest, IsPlainPart part) :
    ∀ part ∈ packageNames package ++ rest, IsPlainPart part := by
  intro part hpart
  rcases List.mem_append.1 hpart with hpart | hpart
  · exact isPlainPart_packageNames hpart
  · exact hrest part hpart

theorem packagePath_eq_fileName (package : String) :
    packagePath package = fileName (packageNames package) := packagePath_eq_intercalate package

end Lookup
