import Mathlib.Data.Set.Card
import Lookup.Proofs.Text.Fields
import Lookup.Resource.Basic

/-!
# Modules and their files

The name of a module consists of identifiers between dots. Its path has slashes for the dots, and the
module is held by one of two files: the one of its path with an ending, or the file of a package in the
directory of its path. A file that is named as that of a package holds the package, so that the first
file of a module of this name holds another module, or none.

## Main definitions

* `AreIdentifiers`, `moduleOf` — the parts of a module's name and the name
* `modulePath` — the path of a module
* `HoldsModule` — which file holds which module

## Main results

* `moduleName?_parts` — the module that a file holds, by the parts of its path
* `moduleName?_inverts` — a file holds a module exactly if its name is one of the module's two
-/

namespace Lookup

open Text

variable {parts : List (List Char)} {name module : String}

/-! ### Identifiers -/

/-- A character that may not continue an identifier is in none. -/
theorem notMem_of_isIdentifier {c : Char} {part : List Char} (hpart : isIdentifier part = true)
    (hstart : identifierStart.contains c = false) (hmore : identifierContinue.contains c = false) :
    c ∉ part := by
  cases part with
  | nil => exact List.not_mem_nil
  | cons first rest =>
    obtain ⟨hfirst, hrest⟩ := Bool.and_eq_true_iff.1 hpart
    rw [List.mem_cons, not_or]
    constructor
    · rintro rfl
      rw [hstart] at hfirst
      exact Bool.noConfusion hfirst
    · intro hc
      have hcontinues := List.all_eq_true.1 hrest c hc
      rw [hmore] at hcontinues
      exact Bool.noConfusion hcontinues

theorem slash_notMem_of_isIdentifier {part : List Char} (h : isIdentifier part = true) : '/' ∉ part :=
  notMem_of_isIdentifier h (by decide +kernel) (by decide +kernel)

theorem dot_notMem_of_isIdentifier {part : List Char} (h : isIdentifier part = true) : '.' ∉ part :=
  notMem_of_isIdentifier h (by decide +kernel) (by decide +kernel)

theorem isIdentifier_packageFile : isIdentifier packageFile = true := by decide +kernel

/-! ### Names and paths of modules -/

/-- The parts of the name of a module: one identifier or more. -/
structure AreIdentifiers (parts : List (List Char)) : Prop where
  ne_nil : parts ≠ []
  isIdentifier : ∀ part ∈ parts, isIdentifier part = true

/-- The name of the module with the given parts. -/
def moduleOf (parts : List (List Char)) : String := String.ofList (join ['.'] parts)

/-- The path of a module: its name with slashes for the dots. -/
def modulePath (module : String) : String := String.ofList (exchange '.' '/' module.toList)

/-- The name of a file holds a module: that of the package's own file in the directory of the module, or
that of the file with the path of the module. The latter is no file of the module if it has the name of a
package's own file. -/
inductive HoldsModule : String → String → Prop
  | ofPackage {parts : List (List Char)} (h : AreIdentifiers parts) :
    HoldsModule (modulePath (moduleOf parts) ++ "/__init__.py") (moduleOf parts)
  | ofPath {parts : List (List Char)} (h : AreIdentifiers parts)
    (hlast : parts.getLast? ≠ some packageFile) :
    HoldsModule (modulePath (moduleOf parts) ++ ".py") (moduleOf parts)

theorem AreIdentifiers.concat (h : AreIdentifiers parts) : AreIdentifiers (parts ++ [packageFile]) :=
  ⟨by simp, fun part hpart => (List.mem_append.1 hpart).elim (h.isIdentifier part)
    fun hlast => List.mem_singleton.1 hlast ▸ isIdentifier_packageFile⟩

theorem exchange_append {old new : Char} (text more : List Char) :
    exchange old new (text ++ more) = exchange old new text ++ exchange old new more := List.map_append

/-- Exchanging the separator of a join that its parts do not hold. -/
theorem exchange_join {old new : Char} (h : ∀ part ∈ parts, old ∉ part) :
    exchange old new (join [old] parts) = join [new] parts := by
  induction parts with
  | nil => rfl
  | cons part rest ih =>
    have hpart : exchange old new part = part := exchange_eq_self (h part List.mem_cons_self)
    have hrest := ih fun other hother => h other (List.mem_cons_of_mem part hother)
    cases rest with
    | nil => exact hpart
    | cons next rest =>
      have hold : exchange old new [old] = [new] := by simp [exchange]
      rw [join_cons_of_ne_nil (List.cons_ne_nil next rest), join_cons_of_ne_nil (List.cons_ne_nil next rest),
        exchange_append, exchange_append, hpart, hold, hrest]

/-- The path of a module joins its parts by slashes. -/
theorem AreIdentifiers.modulePath_moduleOf (h : AreIdentifiers parts) :
    modulePath (moduleOf parts) = String.ofList (join ['/'] parts) := by
  rw [modulePath, moduleOf, String.toList_ofList,
    exchange_join fun part hpart => dot_notMem_of_isIdentifier (h.isIdentifier part hpart)]

/-- The name of a package's own file, by its parts. -/
theorem AreIdentifiers.packageFile_eq (h : AreIdentifiers parts) :
    modulePath (moduleOf parts) ++ "/__init__.py" =
      String.ofList (join ['/'] (parts ++ [packageFile]) ++ moduleSuffix) := by
  have hfile : "/__init__.py" = String.ofList ('/' :: packageFile ++ moduleSuffix) := rfl
  rw [h.modulePath_moduleOf, join_append h.ne_nil (List.cons_ne_nil _ _), hfile, ← String.ofList_append,
    join, List.append_assoc, List.append_assoc, List.singleton_append, List.cons_append]

/-- The name of the file with the path of a module, by its parts. -/
theorem AreIdentifiers.pathFile_eq (h : AreIdentifiers parts) :
    modulePath (moduleOf parts) ++ ".py" = String.ofList (join ['/'] parts ++ moduleSuffix) := by
  have hend : ".py" = String.ofList moduleSuffix := rfl
  rw [h.modulePath_moduleOf, hend, ← String.ofList_append]

/-! ### The module of a file -/

/-- Only names with the ending are names of files that hold modules. -/
theorem moduleName?_of_not_suffix (h : ¬ moduleSuffix <:+ name.toList) : moduleName? name = none := by
  have hends : moduleSuffix.isSuffixOf name.toList = false := by
    rwa [Bool.eq_false_iff, ne_eq, List.isSuffixOf_iff_suffix]
  simp only [moduleName?, hends]
  rfl

/-- The module that a file holds, by the parts of the file's path without its ending: the last one does
not count if it is the name of a package's own file, and the others are identifiers. -/
theorem moduleName?_parts {kept : List (List Char)} (hslash : ∀ part ∈ parts, '/' ∉ part)
    (hne : parts ≠ [])
    (hkept : (if parts.getLast? = some packageFile then parts.dropLast else parts) = kept) :
    moduleName? (String.ofList (join ['/'] parts ++ moduleSuffix)) = some module ↔
      AreIdentifiers kept ∧ moduleOf kept = module := by
  have hends : moduleSuffix.isSuffixOf (join ['/'] parts ++ moduleSuffix) = true :=
    List.isSuffixOf_iff_suffix.2 (List.suffix_append _ _)
  have htake : (join ['/'] parts ++ moduleSuffix).take
      ((join ['/'] parts ++ moduleSuffix).length - moduleSuffix.length) = join ['/'] parts := by
    rw [List.length_append, Nat.add_sub_cancel, List.take_left']
    rfl
  have hrefused : (kept.isEmpty || !kept.all isIdentifier) = false ↔ AreIdentifiers kept := by
    rw [Bool.or_eq_false_iff, List.isEmpty_eq_false_iff, Bool.not_eq_false', List.all_eq_true]
    exact ⟨fun ⟨hkept, hall⟩ => ⟨hkept, hall⟩, fun h => ⟨h.ne_nil, h.isIdentifier⟩⟩
  simp only [moduleName?, String.toList_ofList, hends, htake, fields_join hslash hne, hkept,
    Bool.not_true, Bool.false_eq_true, if_false]
  cases hcase : kept.isEmpty || !kept.all isIdentifier with
  | false => simp [← hrefused, hcase, moduleOf]
  | true => simp [← hrefused, hcase]

/-- A file that a module is named for holds it. -/
theorem HoldsModule.moduleName?_eq (h : HoldsModule name module) : moduleName? name = some module := by
  cases h with
  | @ofPackage parts h =>
    have hslash : ∀ part ∈ parts ++ [packageFile], '/' ∉ part := fun part hpart =>
      slash_notMem_of_isIdentifier (h.concat.isIdentifier part hpart)
    rw [h.packageFile_eq]
    exact (moduleName?_parts hslash (by simp) (by simp)).2 ⟨h, rfl⟩
  | @ofPath parts h hlast =>
    have hslash : ∀ part ∈ parts, '/' ∉ part := fun part hpart =>
      slash_notMem_of_isIdentifier (h.isIdentifier part hpart)
    rw [h.pathFile_eq]
    exact (moduleName?_parts hslash h.ne_nil (if_neg hlast)).2 ⟨h, rfl⟩

/-- A file that holds a module is named for it. -/
theorem holdsModule_of_moduleName?_eq (h : moduleName? name = some module) : HoldsModule name module := by
  by_cases hends : moduleSuffix <:+ name.toList
  · obtain ⟨stem, hstem⟩ := hends
    -- The parts of the path are the fields of what stands before the ending.
    have hname : name = String.ofList (join ['/'] (fields '/' stem) ++ moduleSuffix) := by
      rw [join_fields, hstem, String.ofList_toList]
    have hslash : ∀ part ∈ fields '/' stem, '/' ∉ part := fun _ => notMem_of_mem_fields
    rw [hname, moduleName?_parts hslash (fields_ne_nil '/' stem) rfl] at h
    by_cases hlast : (fields '/' stem).getLast? = some packageFile
    · obtain ⟨front, hfront⟩ := List.getLast?_eq_some_iff.1 hlast
      rw [if_pos hlast, hfront, List.dropLast_concat] at h
      obtain ⟨hparts, rfl⟩ := h
      rw [hname, hfront, ← hparts.packageFile_eq]
      exact .ofPackage hparts
    · rw [if_neg hlast] at h
      obtain ⟨hparts, rfl⟩ := h
      rw [hname, ← hparts.pathFile_eq]
      exact .ofPath hparts hlast
  · rw [moduleName?_of_not_suffix hends] at h
    exact absurd h (by simp)

/-- The names of files that hold a module are among two. -/
theorem HoldsModule.name_eq (h : HoldsModule name module) :
    name = modulePath module ++ "/__init__.py" ∨ name = modulePath module ++ ".py" := by
  cases h with
  | ofPackage => exact .inl rfl
  | ofPath => exact .inr rfl

theorem encard_holders_le_two (module : String) : {name | HoldsModule name module}.encard ≤ 2 := by
  have hpair : {name | HoldsModule name module} ⊆
      {modulePath module ++ "/__init__.py", modulePath module ++ ".py"} := fun _ h => h.name_eq
  calc {name | HoldsModule name module}.encard
      ≤ Set.encard {modulePath module ++ "/__init__.py", modulePath module ++ ".py"} :=
        Set.encard_le_encard hpair
    _ ≤ Set.encard {modulePath module ++ ".py"} + 1 := Set.encard_insert_le _ _
    _ = 2 := by rw [Set.encard_singleton, one_add_one_eq_two]

/-- A file holds a module exactly if its name is that of the package's own file in the directory of the
module, or the path of the module with the ending and not the name of such a file. Any other file holds
no module, and no module is held by more than two files. -/
theorem moduleName?_inverts :
    (∀ name module, moduleName? name = some module ↔ HoldsModule name module) ∧
      (∀ name, moduleName? name = none ↔ ∀ module, ¬ HoldsModule name module) ∧
      ∀ module, {name | moduleName? name = some module}.encard ≤ 2 := by
  have hiff : ∀ name module, moduleName? name = some module ↔ HoldsModule name module := fun _ _ =>
    ⟨holdsModule_of_moduleName?_eq, HoldsModule.moduleName?_eq⟩
  refine ⟨hiff, fun name => ?_, fun module => ?_⟩
  · rw [Option.eq_none_iff_forall_ne_some]
    exact forall_congr' fun module => not_congr (hiff name module)
  · simp only [hiff]
    exact encard_holders_le_two module

example : moduleName? "pkg/__init__/__init__.py" = some "pkg.__init__" ∧ moduleName? "__init__.py" = none := by
  decide +kernel

end Lookup
