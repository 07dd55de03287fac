import Lookup.Property.Store
import Lookup.Proofs.Text.Order

/-!
# Entries put into stores

A store keeps the place of each key and the value that was put in last. So putting entries into a store
and the store over another one is the same as putting the entries over the other one, and a store is what
its own entries put in one after the other make. Listed in order, its entries are just those that are found.

## Main results

* `Store.merge_ofList` — entries put over a store together are put over it one after the other
* `Store.entries_insertAll` — entries with new keys follow those that are there
* `Store.ofList_entries` — a store is made of its entries
* `Store.pairwise_toList`, `Store.mem_toList_iff` — the entries in order
-/

namespace Lookup

variable {key other value value' : String} {entries : List (String × String)}

/-! ### One entry -/

theorem put_of_notMem (h : key ∉ entries.map (·.1)) (value : String) :
    put key value entries = entries ++ [(key, value)] := by
  induction entries with
  | nil => rfl
  | cons e rest ih =>
    rw [List.map_cons, List.mem_cons, not_or] at h
    rw [put, if_neg (Ne.symm h.1), ih h.2, List.cons_append]

/-- Of two values for a key the first one leaves only its place. -/
theorem put_put_self (key value value' : String) (entries : List (String × String)) :
    put key value (put key value' entries) = put key value entries := by
  induction entries with
  | nil => simp [put]
  | cons e rest ih =>
    by_cases h : e.1 = key
    · simp [put, h]
    · rw [put, if_neg h, put, if_neg h, ih, put, if_neg h]

/-- A key that has a place already takes its value before or after another key. -/
theorem put_comm_of_mem (hne : key ≠ other) (h : key ∈ entries.map (·.1)) :
    put key value (put other value' entries) = put other value' (put key value entries) := by
  induction entries with
  | nil => exact absurd h List.not_mem_nil
  | cons e rest ih =>
    rw [List.map_cons, List.mem_cons] at h
    by_cases hkey : e.1 = key
    · have hother : e.1 ≠ other := hkey ▸ hne
      rw [put, if_neg hother, put, if_pos hkey, put, if_pos hkey, put, if_neg hne]
    · by_cases hother : e.1 = other
      · rw [put, if_pos hother, put, if_neg (Ne.symm hne), put, if_neg hkey, put, if_pos hother]
      · rw [put, if_neg hother, put, if_neg hkey, put, if_neg hkey, put, if_neg hother,
          ih (h.resolve_left (Ne.symm hkey))]

namespace Store

variable {store : Store}

theorem eq_of_entries {store' : Store} (h : store.entries = store'.entries) : store = store' := by
  cases store
  cases store'
  congr

/-! ### Many entries -/

theorem insertAll_cons (store : Store) (e : String × String) (entries : List (String × String)) :
    store.insertAll (e :: entries) = (store.insert e.1 e.2).insertAll entries := rfl

theorem insertAll_append (store : Store) (entries more : List (String × String)) :
    store.insertAll (entries ++ more) = (store.insertAll entries).insertAll more := List.foldl_append

theorem mem_keys_insert_self (store : Store) (key value : String) :
    key ∈ (store.insert key value).entries.map (·.1) := mem_keys_put.2 (.inl rfl)

/-- A key that has a place already takes its value before or after others. -/
theorem insert_insertAll (hmem : key ∈ store.entries.map (·.1)) (hnew : key ∉ entries.map (·.1)) :
    (store.insertAll entries).insert key value = (store.insert key value).insertAll entries := by
  induction entries generalizing store with
  | nil => rfl
  | cons e rest ih =>
    rw [List.map_cons, List.mem_cons, not_or] at hnew
    have hcomm : (store.insert e.1 e.2).insert key value = (store.insert key value).insert e.1 e.2 :=
      eq_of_entries (put_comm_of_mem hnew.1 hmem)
    rw [insertAll_cons, insertAll_cons, ih (mem_keys_put.2 (.inr hmem)) hnew.2, hcomm]

/-- An entry put among others with different keys is put in after them. -/
theorem insertAll_put (store : Store) (h : (entries.map (·.1)).Nodup) (key value : String) :
    store.insertAll (put key value entries) = (store.insertAll entries).insert key value := by
  induction entries generalizing store with
  | nil => rfl
  | cons e rest ih =>
    obtain ⟨hnew, hrest⟩ := List.nodup_cons.1 h
    by_cases hkey : e.1 = key
    · have hself : (store.insert key e.2).insert key value = store.insert key value :=
        eq_of_entries (put_put_self key value e.2 store.entries)
      rw [put, if_pos hkey, insertAll_cons, insertAll_cons, hkey,
        insert_insertAll (mem_keys_insert_self store key e.2) (hkey ▸ hnew), hself]
    · rw [put, if_neg hkey, insertAll_cons, insertAll_cons, ih _ hrest]

theorem merge_insert (store later : Store) (key value : String) :
    store.merge (later.insert key value) = (store.merge later).insert key value :=
  insertAll_put store later.nodup key value

/-- Entries put into the later store are put over both. -/
theorem merge_insertAll (store later : Store) (entries : List (String × String)) :
    store.merge (later.insertAll entries) = (store.merge later).insertAll entries := by
  induction entries generalizing later with
  | nil => rfl
  | cons e rest ih => rw [insertAll_cons, ih, merge_insert, insertAll_cons]

/-- Entries put over a store together are put over it one after the other. -/
theorem merge_ofList (store : Store) (entries : List (String × String)) :
    store.merge (ofList entries) = store.insertAll entries := by
  rw [ofList, merge_insertAll]
  rfl

/-- Entries with keys that are new and different follow those that are there. -/
theorem entries_insertAll (h : ((store.entries ++ entries).map (·.1)).Nodup) :
    (store.insertAll entries).entries = store.entries ++ entries := by
  induction entries generalizing store with
  | nil => exact (List.append_nil _).symm
  | cons e rest ih =>
    have hnew : e.1 ∉ store.entries.map (·.1) := by
      rw [List.map_append, List.map_cons, List.nodup_append] at h
      exact fun hmem => h.2.2 _ hmem _ List.mem_cons_self rfl
    have hinsert : (store.insert e.1 e.2).entries = store.entries ++ [e] := put_of_notMem hnew e.2
    have hsplit : (store.insert e.1 e.2).entries ++ rest = store.entries ++ e :: rest := by
      rw [hinsert, List.append_assoc, List.singleton_append]
    rw [insertAll_cons, ih (hsplit ▸ h), hsplit]

theorem entries_ofList (h : (entries.map (·.1)).Nodup) : (ofList entries).entries = entries :=
  entries_insertAll h

/-- A store is made of its entries. -/
@[simp] theorem ofList_entries (store : Store) : ofList store.entries = store :=
  eq_of_entries (entries_ofList store.nodup)

/-! ### Entries in the order of their keys -/

/-- The entries of a store are listed in strictly increasing order of their keys. -/
theorem pairwise_toList (store : Store) : store.toList.Pairwise fun a b => a.1 < b.1 :=
  Text.pairwise_key_lt_mergeSort store.nodup

/-- What is listed is what is found. -/
theorem mem_toList_iff : (key, value) ∈ store.toList ↔ store.get? key = some value := by
  rw [toList, List.mem_mergeSort, get?]
  exact ⟨fun h => Text.lookup_eq_some_of_mem store.nodup h, Text.mem_of_lookup_eq_some⟩

end Store

end Lookup
