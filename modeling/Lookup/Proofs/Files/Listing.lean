import Mathlib.Data.Finset.Sort
import Mathlib.Data.List.Lex
import Mathlib.Data.String.Basic

/-!
# Listings

A listing names the files of a set in the order of their paths, component by component. A walk that
visits the entries of a directory in the order of their names, and lists what is below each entry
before it goes on, lists all files below the directory.

## Main definitions

* `IsListing` — a list of the paths of a set in order

## Main results

* `IsListing.flatMap` — the listing of a directory is made up of those of its entries
* `IsListing.eq_sort` — a finite set has one listing
-/

namespace Lookup.Files

/-- The paths of a set in their order, each of them once. -/
structure IsListing (paths : List (List String)) (files : Set (List String)) : Prop where
  pairwise_lt : paths.Pairwise (· < ·)
  mem_iff : ∀ path, path ∈ paths ↔ path ∈ files

namespace IsListing

variable {paths : List (List String)} {files : Set (List String)}

theorem of_forall_notMem (h : ∀ path, path ∉ files) : IsListing [] files :=
  ⟨.nil, fun path => ⟨fun hmem => absurd hmem List.not_mem_nil, fun hmem => absurd hmem (h path)⟩⟩

theorem singleton {path : List String} (h : ∀ other, other ∈ files ↔ other = path) :
    IsListing [path] files :=
  ⟨List.pairwise_singleton _ _, fun other => by rw [List.mem_singleton, h]⟩

/-- Entries in the order of their names, each with a listing of what is below it, make up a listing
of everything that is below an entry. -/
theorem flatMap {ι : Type} {items : List ι} {key : ι → String} {below : ι → List (List String)}
    (hkeys : items.Pairwise fun a b => key a < key b)
    (hbelow : ∀ item ∈ items, IsListing (below item) {rest | key item :: rest ∈ files})
    (hfiles : ∀ path ∈ files, ∃ item ∈ items, ∃ rest, path = key item :: rest) :
    IsListing (items.flatMap fun item => (below item).map (key item :: ·)) files := by
  constructor
  · -- Paths below one entry have the same first component, and paths below two differ in it.
    rw [List.pairwise_flatMap]
    constructor
    · intro item hitem
      rw [List.pairwise_map]
      exact (hbelow item hitem).pairwise_lt.imp fun hlt => List.cons_lt_cons_iff.2 (.inr ⟨rfl, hlt⟩)
    · refine hkeys.imp fun {a b} hab path hpath other hother => ?_
      obtain ⟨rest, -, rfl⟩ := List.mem_map.1 hpath
      obtain ⟨more, -, rfl⟩ := List.mem_map.1 hother
      exact List.cons_lt_cons_iff.2 (.inl hab)
  · intro path
    rw [List.mem_flatMap]
    constructor
    · rintro ⟨item, hitem, hpath⟩
      obtain ⟨rest, hrest, rfl⟩ := List.mem_map.1 hpath
      exact ((hbelow item hitem).mem_iff rest).1 hrest
    · intro hpath
      obtain ⟨item, hitem, rest, rfl⟩ := hfiles path hpath
      exact ⟨item, hitem, List.mem_map.2 ⟨rest, ((hbelow item hitem).mem_iff rest).2 hpath, rfl⟩⟩

/-- The listing of a finite set sorts it. -/
theorem eq_sort {files : Finset (List String)} (h : IsListing paths ↑files) : paths = files.sort := by
  have hnodup : paths.Nodup := h.pairwise_lt.imp fun hlt => ne_of_lt hlt
  have hfiles : paths.toFinset = files := by
    ext path
    rw [List.mem_toFinset, h.mem_iff, Finset.mem_coe]
  rw [← hfiles]
  exact ((List.toFinset_sort (· ≤ ·) hnodup).2 (h.pairwise_lt.imp fun hlt => le_of_lt hlt)).symm

end IsListing

end Lookup.Files
