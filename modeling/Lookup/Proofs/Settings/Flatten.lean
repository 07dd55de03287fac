import Lookup.Proofs.Property.Store
import Lookup.Settings.Flatten

/-!
# What flat settings hold

Each leaf of a document stands at the end of a path of keys. In the flat settings it has the text of this
path as its key. Where two paths have the same text, the flat settings hold the leaf that comes later in
the document.

## Main definitions

* `leafPaths`, `leafPathsOf` — the leaves with the paths of keys to them
* `dotted` — the text of a path of keys
* `flatValue?` — the text that a document has for a key

## Main results

* `flatten_dotted` — flat settings are made of the leaves of the document, one after the other
* `get?_flatten` — the flat settings hold the texts of the document
-/

namespace Lookup

variable {path : List String} {name : String}

/-! ### The text of a path -/

/-- The text of a path of keys: the keys joined by dots. Empty keys in front count for nothing. -/
def dotted (path : List String) : String := String.intercalate "." (path.dropWhile (· = ""))

@[simp] theorem dotted_nil : dotted [] = "" := String.intercalate_nil

@[simp] theorem dotted_empty_cons : dotted ("" :: path) = dotted path := by
  rw [dotted, List.dropWhile_cons_of_pos (by simp), dotted]

theorem dotted_cons_of_ne (h : name ≠ "") :
    dotted (name :: path) = String.intercalate "." (name :: path) := by
  rw [dotted, List.dropWhile_cons_of_neg (by simpa using h)]

theorem dotted_cons_ne_empty (h : name ≠ "") : dotted (name :: path) ≠ "" := by
  rw [dotted_cons_of_ne h]
  cases path with
  | nil => rwa [String.intercalate_singleton]
  | cons next rest =>
    intro hempty
    rw [String.intercalate_cons_cons] at hempty
    simp [h] at hempty

theorem dotted_singleton : dotted [name] = name := by
  by_cases h : name = ""
  · rw [h, dotted_empty_cons, dotted_nil]
  · rw [dotted_cons_of_ne h, String.intercalate_singleton]

/-- A key below a path makes the path longer by its text. -/
theorem keyBelow_dotted (key : Datum) :
    keyBelow (dotted path) key = dotted (path ++ [key.plain]) := by
  induction path with
  | nil => rw [dotted_nil, keyBelow, if_pos rfl, List.nil_append, dotted_singleton]
  | cons name rest ih =>
    by_cases h : name = ""
    -- An empty key in front counts for nothing on both sides.
    · rw [h, List.cons_append, dotted_empty_cons, dotted_empty_cons, ih]
    · rw [keyBelow, if_neg (dotted_cons_ne_empty h), dotted_cons_of_ne h, List.cons_append,
        dotted_cons_of_ne h, ← List.cons_append,
        String.intercalate_append_of_ne_nil (List.cons_ne_nil _ _) (List.cons_ne_nil _ _),
        String.intercalate_singleton]

/-! ### The leaves of a document -/

mutual

/-- The leaves of a datum with the plain forms of the keys on the way to them, in the order of the
document. -/
def leafPaths : Datum → List (List String × Datum)
  | .map entries => leafPathsOf entries
  | leaf => [([], leaf)]

/-- The leaves of the entries of a mapping with the plain forms of the keys on the way to them. -/
def leafPathsOf : List (Datum × Datum) → List (List String × Datum)
  | [] => []
  | (key, value) :: rest =>
    (leafPaths value).map (fun leaf => (key.plain :: leaf.1, leaf.2)) ++ leafPathsOf rest

end

/-- The text that the entries of a document have for a key: that of the last leaf whose path has the
key as its text. -/
def flatValue? (entries : List (Datum × Datum)) (key : String) : Option String :=
  ((leafPathsOf entries).reverse.find? fun leaf => dotted leaf.1 = key).map
    fun leaf => settingText leaf.2

/-- The entry that a leaf has in flat settings. -/
def leafEntry (path : List String) (leaf : List String × Datum) : String × String :=
  (dotted (path ++ leaf.1), settingText leaf.2)

mutual

/-- Putting in a datum at the end of a path puts in its leaves one after the other, with the texts of their
paths as keys. -/
theorem putDatum_dotted (settings : Store) (path : List String) (datum : Datum) :
    putDatum settings (dotted path) datum =
      settings.insertAll ((leafPaths datum).map (leafEntry path)) := by
  cases datum with
  | map entries =>
    rw [putDatum, leafPaths, putEntries_dotted .empty path entries]
    exact Store.merge_ofList settings _
  | _ => simp [putDatum, leafPaths, leafEntry, Store.insertAll]

/-- Putting in the entries of a mapping at the end of a path puts in its leaves one after the other. -/
theorem putEntries_dotted (settings : Store) (path : List String) (entries : List (Datum × Datum)) :
    putEntries settings (dotted path) entries =
      settings.insertAll ((leafPathsOf entries).map (leafEntry path)) := by
  cases entries with
  | nil => rfl
  | cons entry rest =>
    obtain ⟨key, value⟩ := entry
    have hbelow : leafEntry path ∘ (fun leaf => (key.plain :: leaf.1, leaf.2)) =
        leafEntry (path ++ [key.plain]) := by
      funext leaf
      simp [leafEntry]
    rw [putEntries, leafPathsOf, keyBelow_dotted, putDatum_dotted settings (path ++ [key.plain]) value,
      putEntries_dotted _ path rest, List.map_append, List.map_map, Store.insertAll_append, hbelow]

end

/-! ### Flat settings -/

/-- The flat settings of a document are made of its leaves, one after the other. -/
theorem flatten_dotted (path : List String) (entries : List (Datum × Datum)) :
    flatten (dotted path) entries = .ofList ((leafPathsOf entries).map (leafEntry path)) :=
  putEntries_dotted .empty path entries

/-- The flat settings of a document hold for each key what the document has for it. -/
theorem get?_flatten (entries : List (Datum × Datum)) (key : String) :
    (flatten "" entries).get? key = flatValue? entries key := by
  have hleaves : flatten "" entries =
      .ofList ((leafPathsOf entries).map fun leaf => (dotted leaf.1, settingText leaf.2)) :=
    flatten_dotted [] entries
  -- A later leaf takes the place of an earlier one, so the search is from the end.
  rw [hleaves, Store.get?_ofList, ← List.map_reverse, flatValue?]
  induction (leafPathsOf entries).reverse with
  | nil => rfl
  | cons leaf rest ih =>
    rw [List.map_cons, lookup_cons_if, List.find?_cons, ih]
    by_cases h : dotted leaf.1 = key
    · simp [h]
    · simp [h, Ne.symm h]

end Lookup
