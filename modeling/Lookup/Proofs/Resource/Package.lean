import Lookup.Proofs.Files.Path
import Lookup.Resource.Basic

/-!
# The components of a package

The components of a package are not empty and hold neither a dot nor a slash of either kind. The path
of the package is read back as these components, so that joining it to a directory goes down by as
many names as there are components.

## Main definitions

* `packageNames` — the components of a package as names of directories

## Main results

* `isComponent_packageNames` — they are names of directories
* `ofText_packagePath` — the path of a package is read as its names
* `fields_packagePath` — the fields of the path are the components
-/

namespace Lookup

open Files Text

variable {package : String}

/-- The components of a package as names of directories. -/
def packageNames (package : String) : List String := (packageComponents package).map String.ofList

/-- A component of a package is not empty and holds no character that separates components. -/
structure IsPackageComponent (part : List Char) : Prop where
  ne_nil : part ≠ []
  slash_notMem : '/' ∉ part
  backslash_notMem : '\\' ∉ part
  dot_notMem : '.' ∉ part

theorem notMem_exchange_of_notMem {old new c : Char} {text : List Char} (h : c ∉ text)
    (hne : c ≠ new) : c ∉ exchange old new text :=
  fun hmem => (mem_of_mem_exchange hmem).elim hne h

theorem mem_exchange_of_mem_packageComponents {part : List Char} {c : Char}
    (hpart : part ∈ packageComponents package) (hc : c ∈ part) :
    c ∈ exchange '\\' '/' (exchange '.' '/' package.toList) := by
  rw [← join_fields '/' (exchange '\\' '/' (exchange '.' '/' package.toList))]
  exact mem_join_of_mem (List.mem_filter.1 hpart).1 hc

theorem isPackageComponent {part : List Char} (h : part ∈ packageComponents package) :
    IsPackageComponent part := by
  obtain ⟨hfield, hne⟩ := List.mem_filter.1 h
  refine ⟨of_decide_eq_true hne, notMem_of_mem_fields hfield, fun hmem => ?_, fun hmem => ?_⟩
  · exact notMem_exchange (by decide) _ (mem_exchange_of_mem_packageComponents h hmem)
  · exact notMem_exchange_of_notMem (notMem_exchange (by decide) _) (by decide)
      (mem_exchange_of_mem_packageComponents h hmem)

/-- The path of a package holds only slashes and characters of the package. -/
theorem mem_of_mem_packagePath {c : Char} (h : c ∈ (packagePath package).toList) :
    c = '/' ∨ c ∈ package.toList := by
  rw [packagePath, String.toList_ofList] at h
  rcases mem_join h with hslash | ⟨part, hpart, hc⟩
  · exact .inl (List.mem_singleton.1 hslash)
  rcases mem_of_mem_exchange (mem_exchange_of_mem_packageComponents hpart hc) with hslash | hc
  · exact .inl hslash
  · exact mem_of_mem_exchange hc

theorem isComponent_packageNames {name : String} (h : name ∈ packageNames package) :
    IsComponent name := by
  obtain ⟨part, hpart, rfl⟩ := List.mem_map.1 h
  have hpart := isPackageComponent hpart
  refine ⟨by simpa using hpart.ne_nil, fun hdot => ?_, by simpa using hpart.slash_notMem⟩
  have hchars : part = ['.'] := by simpa using congrArg String.toList hdot
  exact hpart.dot_notMem (by simp [hchars])

/-- A package without separators is its only component. -/
theorem packageNames_eq_singleton (hne : package ≠ "") (hdot : '.' ∉ package.toList)
    (hback : '\\' ∉ package.toList) (hslash : '/' ∉ package.toList) :
    packageNames package = [package] := by
  have hnil : package.toList ≠ [] := mt String.toList_eq_nil_iff.1 hne
  rw [packageNames, packageComponents, exchange_eq_self hdot, exchange_eq_self hback,
    fields_eq_singleton hslash, List.filter_cons_of_pos (by simpa using hnil), List.filter_nil,
    List.map_singleton, String.ofList_toList]

theorem ne_dotdot_of_mem_packageNames {name : String} (h : name ∈ packageNames package) :
    name ≠ ".." := by
  obtain ⟨part, hpart, rfl⟩ := List.mem_map.1 h
  intro hdotdot
  have hchars : part = ['.', '.'] := by simpa using congrArg String.toList hdotdot
  exact (isPackageComponent hpart).dot_notMem (by simp [hchars])

theorem packagePath_eq_intercalate (package : String) :
    packagePath package = String.intercalate "/" (packageNames package) := by
  rw [packagePath, ← String.toList_inj, toList_intercalate_eq_join]
  simp [packageNames, Function.comp_def]

/-- The path of a package is read as its names. -/
theorem ofText_packagePath (package : String) :
    Path.ofText (packagePath package) = ⟨.here, packageNames package⟩ := by
  rw [packagePath_eq_intercalate, Path.ofText_intercalate fun _ => isComponent_packageNames]

theorem packagePath_eq_empty_iff : packagePath package = "" ↔ packageNames package = [] := by
  constructor
  · intro h
    have hread := ofText_packagePath package
    rw [h] at hread
    exact (congrArg Path.names hread).symm
  · intro h
    rw [packagePath_eq_intercalate, h]
    rfl

/-- The fields of the path of a package are its components. -/
theorem fields_packagePath (package : String) :
    (fields '/' (packagePath package).toList).filter (fun part => part ≠ []) =
      packageComponents package := by
  have hpart : ∀ part ∈ packageComponents package, '/' ∉ part := fun part hpart =>
    (isPackageComponent hpart).slash_notMem
  rw [packagePath, String.toList_ofList]
  by_cases hnil : packageComponents package = []
  · rw [hnil]
    rfl
  · rw [fields_join hpart hnil, List.filter_eq_self]
    exact fun part hpart => decide_eq_true (isPackageComponent hpart).ne_nil

/-- The path of a package neither starts nor ends with a slash. -/
theorem trimBoth_packagePath (package : String) :
    trimBoth (fun c => c = '/') (packagePath package).toList = (packagePath package).toList := by
  have hpart : ∀ part ∈ packageComponents package, part ≠ [] ∧ '/' ∉ part := fun part hpart =>
    ⟨(isPackageComponent hpart).ne_nil, (isPackageComponent hpart).slash_notMem⟩
  rw [packagePath, String.toList_ofList]
  generalize packageComponents package = parts at hpart
  refine trimBoth_eq_self (fun c hc => ?_) fun c hc => ?_
  · cases parts with
    | nil => simp [join] at hc
    | cons part rest =>
      obtain ⟨hne, hslash⟩ := hpart part List.mem_cons_self
      rw [head?_join_cons hne] at hc
      exact decide_eq_false fun heq => hslash (heq ▸ List.mem_of_head? hc)
  · rcases List.eq_nil_or_concat parts with rfl | ⟨rest, part, rfl⟩
    · simp [join] at hc
    · obtain ⟨hne, hslash⟩ := hpart part (by simp)
      rw [List.concat_eq_append, getLast?_join_concat hne] at hc
      exact decide_eq_false fun heq => hslash (heq ▸ List.mem_of_getLast? hc)

end Lookup
