import Lookup.Text.Basic

/-!
# Property stores

A store holds at most one value for each key. A value that is put in later takes the place of the one
before it.

## Main definitions

* `Store`, `Store.get?` — stores and what they hold
* `Store.insert`, `Store.insertAll`, `Store.ofList` — putting values in
* `Store.merge` — one store over another
* `Store.keys`, `Store.toList` — what a store holds, in the order of the keys

## Main results

* `Store.get?_insert` — a value put in is found under its key, and all other values are kept
* `Store.get?_ofList` — of several entries for a key the last one wins
* `Store.get?_merge` — in a merged store the later one wins
-/

namespace Lookup

/-- Entries with one more, which replaces an entry of the same key in its place. -/
def put (key value : String) : List (String × String) → List (String × String)
  | [] => [(key, value)]
  | e :: rest => if e.1 = key then (key, value) :: rest else e :: put key value rest

theorem mem_keys_put {key value k : String} {entries : List (String × String)} :
    k ∈ (put key value entries).map (·.1) ↔ k = key ∨ k ∈ entries.map (·.1) := by
  induction entries with
  | nil => simp [put]
  | cons e rest ih =>
    by_cases h : e.1 = key
    · simp [put, h]
    · simp only [put, h, if_false, List.map_cons, List.mem_cons, ih]
      exact or_left_comm

theorem nodup_put {key value : String} {entries : List (String × String)}
    (h : (entries.map (·.1)).Nodup) : ((put key value entries).map (·.1)).Nodup := by
  induction entries with
  | nil => simp [put]
  | cons e rest ih =>
    obtain ⟨hnew, hrest⟩ := List.nodup_cons.1 h
    by_cases he : e.1 = key
    · rw [put, if_pos he, List.map_cons]
      exact List.nodup_cons.2 ⟨he ▸ hnew, hrest⟩
    · rw [put, if_neg he, List.map_cons]
      exact List.nodup_cons.2 ⟨fun hmem => (mem_keys_put.1 hmem).elim he hnew, ih hrest⟩

theorem lookup_cons_if {k : String} {e : String × String} {rest : List (String × String)} :
    (e :: rest).lookup k = if k = e.1 then some e.2 else rest.lookup k := by
  by_cases h : k = e.1
  · rw [if_pos h, h]
    exact List.lookup_cons_self
  · rw [if_neg h, List.lookup_cons, beq_false_of_ne h]

theorem lookup_put {key value k : String} {entries : List (String × String)} :
    (put key value entries).lookup k = if k = key then some value else entries.lookup k := by
  induction entries with
  | nil => simp [put]
  | cons e rest ih =>
    by_cases he : e.1 = key
    · rw [put, if_pos he, lookup_cons_if, lookup_cons_if, he]
      split <;> rfl
    · rw [put, if_neg he, lookup_cons_if, lookup_cons_if, ih]
      by_cases hk : k = e.1
      · rw [if_pos hk, if_pos hk, if_neg fun h => he (hk ▸ h)]
      · rw [if_neg hk, if_neg hk]

/-- A mapping from keys to values. -/
structure Store where
  /-- The entries, in the order in which their keys were first put in. -/
  entries : List (String × String)
  /-- No key has two entries. -/
  nodup : (entries.map (·.1)).Nodup

namespace Store

/-- The store without entries. -/
def empty : Store := ⟨[], by simp⟩

/-- The value of a key. -/
def get? (store : Store) (key : String) : Option String := store.entries.lookup key

/-- Whether a key has a value. -/
def contains (store : Store) (key : String) : Bool := (store.get? key).isSome

/-- The number of entries. -/
def size (store : Store) : Nat := store.entries.length

/-- The store with a value for a key. -/
def insert (store : Store) (key value : String) : Store :=
  ⟨put key value store.entries, nodup_put store.nodup⟩

/-- The store with further entries, one after the other. -/
def insertAll (store : Store) (entries : List (String × String)) : Store :=
  entries.foldl (fun store e => store.insert e.1 e.2) store

/-- The store of a list of entries, of which the last one for a key counts. -/
def ofList (entries : List (String × String)) : Store := empty.insertAll entries

/-- The store with the entries of another one put over its own. -/
def merge (store later : Store) : Store := store.insertAll later.entries

@[simp] theorem get?_empty (k : String) : empty.get? k = none := rfl

theorem get?_insert (store : Store) (key value k : String) :
    (store.insert key value).get? k = if k = key then some value else store.get? k :=
  lookup_put

theorem get?_insertAll_of_notMem {k : String} {entries : List (String × String)} (store : Store)
    (h : k ∉ entries.map (·.1)) : (store.insertAll entries).get? k = store.get? k := by
  induction entries generalizing store with
  | nil => rfl
  | cons e rest ih =>
    simp only [List.map_cons, List.mem_cons, not_or] at h
    rw [insertAll, List.foldl_cons]
    refine (ih (store.insert e.1 e.2) h.2).trans ?_
    rw [get?_insert, if_neg h.1]

theorem get?_insertAll {k : String} {entries : List (String × String)} (store : Store)
    (h : (entries.map (·.1)).Nodup) :
    (store.insertAll entries).get? k = (entries.lookup k).or (store.get? k) := by
  induction entries generalizing store with
  | nil => rfl
  | cons e rest ih =>
    obtain ⟨hnew, hrest⟩ := List.nodup_cons.1 h
    by_cases hk : k = e.1
    · subst hk
      refine (get?_insertAll_of_notMem (store.insert e.1 e.2) hnew).trans ?_
      rw [get?_insert, if_pos rfl, lookup_cons_if, if_pos rfl, Option.some_or]
    · refine (ih (store.insert e.1 e.2) hrest).trans ?_
      rw [get?_insert, if_neg hk, lookup_cons_if, if_neg hk]

/-- Of several entries for a key the last one counts. -/
theorem get?_insertAll_eq_lookup_reverse {k : String} {entries : List (String × String)}
    (store : Store) :
    (store.insertAll entries).get? k = (entries.reverse.lookup k).or (store.get? k) := by
  induction entries generalizing store with
  | nil => rfl
  | cons e rest ih =>
    refine (ih (store.insert e.1 e.2)).trans ?_
    rw [List.reverse_cons, List.lookup_append, get?_insert, Option.or_assoc, lookup_cons_if]
    split <;> rfl

theorem get?_ofList {k : String} {entries : List (String × String)} :
    (ofList entries).get? k = entries.reverse.lookup k := by
  rw [ofList, get?_insertAll_eq_lookup_reverse, get?_empty, Option.or_none]

/-- A merged store has the values of the later store, and its own where that one has none. -/
theorem get?_merge (store later : Store) (k : String) :
    (store.merge later).get? k = (later.get? k).or (store.get? k) :=
  get?_insertAll store later.nodup

/-- The entries in the order of their keys. -/
def toList (store : Store) : List (String × String) :=
  store.entries.mergeSort fun a b => Text.precedes a.1 b.1

/-- The keys in order. -/
def keys (store : Store) : List String := Text.sorted (store.entries.map (·.1))

end Store

end Lookup
