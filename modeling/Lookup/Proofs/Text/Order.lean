import Mathlib.Data.List.Sort
import Mathlib.Data.String.Basic
import Lookup.Text.Basic

/-!
# The order of texts, and keys

Texts are ordered by code point, which is the lexicographic order of strings. Sorting by keys that
differ puts the keys in strictly increasing order, and an entry is found by its key if the keys differ.

## Main results

* `precedes_iff_le` — the order of texts is that of strings
* `pairwise_key_lt_mergeSort` — sorting by different keys
* `lookup_eq_some_of_mem` — looking up among different keys
-/

namespace Lookup.Text

theorem before_iff_lt {text other : List Char} : before text other = true ↔ text < other := by
  induction text generalizing other with
  | nil =>
    cases other with
    | nil => simp [before]
    | cons d other => simp [before, List.nil_lt_cons]
  | cons c text ih =>
    cases other with
    | nil => simp [before]
    | cons d other =>
      have hlt : c.toNat < d.toNat ↔ c < d := (Char.lt_def.trans UInt32.lt_iff_toNat_lt).symm
      have heq : c.toNat = d.toNat ↔ c = d := Char.toNat_inj
      simp only [before, Bool.or_eq_true, Bool.and_eq_true, decide_eq_true_eq, beq_iff_eq,
        List.cons_lt_cons_iff, hlt, heq, ih]

/-- The order of texts is the lexicographic order of strings. -/
theorem precedes_iff_le {a b : String} : precedes a b = true ↔ a ≤ b := by
  rw [precedes, Bool.not_eq_true', ← Bool.not_eq_true, before_iff_lt, ← String.lt_iff, not_lt]

/-- Sorting items by keys that differ puts the keys in strictly increasing order. -/
theorem pairwise_key_lt_mergeSort {α : Type} {items : List α} {key : α → String}
    (hkeys : (items.map key).Nodup) :
    (items.mergeSort fun a b => precedes (key a) (key b)).Pairwise fun a b => key a < key b := by
  have hsorted : (items.mergeSort fun a b => precedes (key a) (key b)).Pairwise
      fun a b => precedes (key a) (key b) = true := by
    refine List.pairwise_mergeSort (fun a b c hab hbc => ?_) (fun a b => ?_) items
    · rw [precedes_iff_le] at hab hbc ⊢
      exact hab.trans hbc
    · rw [Bool.or_eq_true, precedes_iff_le, precedes_iff_le]
      exact le_total _ _
  have hdistinct : (items.mergeSort fun a b => precedes (key a) (key b)).Pairwise
      fun a b => key a ≠ key b := by
    have hperm := (List.mergeSort_perm items fun a b => precedes (key a) (key b)).map key
    exact List.pairwise_map.1 (hperm.nodup_iff.2 hkeys)
  exact hsorted.imp₂ (fun a b hle hne => lt_of_le_of_ne (precedes_iff_le.1 hle) hne) hdistinct

section Lookup

variable {α : Type} {entries : List (String × α)}

theorem mem_of_lookup_eq_some {key : String} {value : α} (h : entries.lookup key = some value) :
    (key, value) ∈ entries := by
  obtain ⟨before, after, rfl, -⟩ := List.lookup_eq_some_iff.1 h
  simp

/-- An entry is found by its key if no other entry has that key. -/
theorem lookup_eq_some_of_mem {entry : String × α} (hnodup : (entries.map Prod.fst).Nodup)
    (h : entry ∈ entries) : entries.lookup entry.1 = some entry.2 := by
  obtain ⟨before, after, rfl⟩ := List.append_of_mem h
  refine List.lookup_eq_some_iff.2 ⟨before, after, rfl, fun other hother => ?_⟩
  rw [List.map_append, List.map_cons, List.nodup_append] at hnodup
  have hne : other.1 ≠ entry.1 :=
    hnodup.2.2 other.1 (List.mem_map_of_mem hother) entry.1 List.mem_cons_self
  simpa using hne.symm

end Lookup

end Lookup.Text
