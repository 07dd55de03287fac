import Lookup.Proofs.Settings.Flatten
import Lookup.Proofs.Text.Fields

/-!
# One entry for each leaf

Flat settings are made of the leaves of a document, one after the other. The key of a leaf joins the keys
on the way to it by dots. Keys that are not empty and hold no dot are found again in their join, so that
leaves at different places have different keys and none of them takes the place of another.

A list is a leaf, whose text joins the texts of its items by commas. A list among the items is joined in
the same way, so that it makes no difference whether its items stand in a list of their own.

## Main definitions

* `keyAlong` — the key of a leaf
* `HasPlainKeys` — documents whose keys are found again in their joins
* `Datum.spread` — the items that a datum stands for in a list

## Main results

* `flatten_eq_ofList` — flat settings are made of the leaves of the document
* `HasPlainKeys.nodup_keys` — leaves have different keys
* `settingText_spread` — lists in a list are joined like their items
* `flatten_isFold` — flat settings as a whole
-/

namespace Lookup

open Text

variable {path path' : List String} {entries : List (Datum × Datum)} {leaf : List String × Datum}

/-! ### Keys of leaves -/

/-- The key of the leaf at the end of a path of keys below `start`: all of them joined by dots. Below the
empty key the empty keys in front of the path count for nothing. -/
def keyAlong (start : String) (path : List String) : String :=
  if start = "" then dotted path else start ++ "." ++ String.intercalate "." path

theorem dotted_cons (start : String) (hne : path ≠ []) : dotted (start :: path) = keyAlong start path := by
  by_cases h : start = ""
  · rw [h, dotted_empty_cons, keyAlong, if_pos rfl]
  · rw [dotted_cons_of_ne h, String.intercalate_cons_of_ne_nil hne, keyAlong, if_neg h]

/-- The path to a leaf starts with a key of the document. -/
theorem exists_eq_cons_of_mem_leafPathsOf (h : leaf ∈ leafPathsOf entries) :
    ∃ name rest, leaf.1 = name :: rest ∧ name ∈ entries.map fun entry => entry.1.plain := by
  induction entries with
  | nil => exact absurd h List.not_mem_nil
  | cons entry rest ih =>
    obtain ⟨key, value⟩ := entry
    rw [leafPathsOf, List.mem_append, List.mem_map] at h
    rcases h with ⟨below, -, rfl⟩ | h
    · exact ⟨key.plain, below.1, rfl, List.mem_cons_self⟩
    · obtain ⟨name, more, hpath, hname⟩ := ih h
      exact ⟨name, more, hpath, List.mem_cons_of_mem _ hname⟩

theorem ne_nil_of_mem_leafPathsOf (h : leaf ∈ leafPathsOf entries) : leaf.1 ≠ [] := by
  obtain ⟨name, rest, hpath, -⟩ := exists_eq_cons_of_mem_leafPathsOf h
  exact hpath ▸ List.cons_ne_nil name rest

/-- Flat settings are made of the leaves of the document, one after the other. -/
theorem flatten_eq_ofList (start : String) (entries : List (Datum × Datum)) :
    flatten start entries =
      .ofList ((leafPathsOf entries).map fun leaf => (keyAlong start leaf.1, settingText leaf.2)) := by
  have hflat := flatten_dotted [start] entries
  rw [dotted_singleton] at hflat
  rw [hflat]
  congr 1
  refine List.map_congr_left fun leaf hleaf => ?_
  rw [leafEntry, List.singleton_append, dotted_cons start (ne_nil_of_mem_leafPathsOf hleaf)]

/-- The settings of a mapping that a document has under its only key are those of the mapping below this
key. -/
theorem flatten_singleton (key : Datum) (entries : List (Datum × Datum)) :
    flatten "" [(key, .map entries)] = flatten key.plain entries := by
  rw [flatten, putEntries, putEntries, putDatum, keyBelow, if_pos rfl, ← flatten]
  exact Store.ofList_entries (flatten key.plain entries)

/-! ### Keys that are found again -/

/-- A key that is not empty and has no dot. -/
structure IsPlainKey (name : String) : Prop where
  ne_empty : name ≠ ""
  dot_notMem : '.' ∉ name.toList

/-- Entries whose keys have different texts, which are not empty and have no dot; and so in all mappings
below. -/
inductive HasPlainKeys : List (Datum × Datum) → Prop
  | nil : HasPlainKeys []
  | cons {key value : Datum} {rest : List (Datum × Datum)} (hkey : IsPlainKey key.plain)
    (hnew : key.plain ∉ rest.map fun entry => entry.1.plain)
    (hvalue : ∀ entries, value = .map entries → HasPlainKeys entries) (hrest : HasPlainKeys rest) :
    HasPlainKeys ((key, value) :: rest)

/-- Paths of plain keys are found again in their joins. -/
theorem intercalate_dot_injective (hpath : ∀ name ∈ path, IsPlainKey name)
    (hpath' : ∀ name ∈ path', IsPlainKey name) (hne : path ≠ []) (hne' : path' ≠ [])
    (h : String.intercalate "." path = String.intercalate "." path') : path = path' := by
  have hread : ∀ names : List String, (∀ name ∈ names, IsPlainKey name) → names ≠ [] →
      split '.' (String.intercalate "." names) = names := fun names hnames =>
    split_intercalate_singleton fun name hname => (hnames name hname).dot_notMem
  rw [← hread path hpath hne, h, hread path' hpath' hne']

/-- Different paths of plain keys lead to leaves with different keys. -/
theorem keyAlong_injective (start : String) (hpath : ∀ name ∈ path, IsPlainKey name)
    (hpath' : ∀ name ∈ path', IsPlainKey name) (hne : path ≠ []) (hne' : path' ≠ [])
    (h : keyAlong start path = keyAlong start path') : path = path' := by
  -- No key of such a path is left out of the join, also below the empty key.
  have hdotted : ∀ names : List String, (∀ name ∈ names, IsPlainKey name) → names ≠ [] →
      dotted names = String.intercalate "." names := by
    intro names hnames hne
    obtain ⟨first, rest, rfl⟩ := List.exists_cons_of_ne_nil hne
    exact dotted_cons_of_ne (hnames first List.mem_cons_self).ne_empty
  apply intercalate_dot_injective hpath hpath' hne hne'
  by_cases hstart : start = ""
  · rwa [keyAlong, keyAlong, if_pos hstart, if_pos hstart, hdotted path hpath hne,
      hdotted path' hpath' hne'] at h
  · rw [keyAlong, keyAlong, if_neg hstart, if_neg hstart, ← String.toList_inj,
      String.toList_append, String.toList_append (s := start ++ ".")] at h
    exact String.toList_inj.1 (List.append_cancel_left h)

namespace HasPlainKeys

theorem isPlainKey (h : HasPlainKeys entries) (hleaf : leaf ∈ leafPathsOf entries) :
    ∀ name ∈ leaf.1, IsPlainKey name := by
  induction h generalizing leaf with
  | nil => exact absurd hleaf List.not_mem_nil
  | @cons key value rest hkey _ _ _ ihvalue ihrest =>
    rw [leafPathsOf, List.mem_append, List.mem_map] at hleaf
    rcases hleaf with ⟨below, hbelow, rfl⟩ | hleaf
    · refine List.forall_mem_cons.2 ⟨hkey, ?_⟩
      cases value with
      | map entries => exact ihvalue entries rfl hbelow
      | _ =>
        obtain rfl := List.mem_singleton.1 hbelow
        exact fun name hname => absurd hname List.not_mem_nil
    · exact ihrest hleaf

/-- No two leaves stand at the end of one path. -/
theorem nodup_paths (h : HasPlainKeys entries) : ((leafPathsOf entries).map Prod.fst).Nodup := by
  induction h with
  | nil => exact List.nodup_nil
  | @cons key value rest _ hnew _ _ ihvalue ihrest =>
    have hbelow : ((leafPaths value).map Prod.fst).Nodup := by
      cases value with
      | map entries => exact ihvalue entries rfl
      | _ => exact List.nodup_singleton []
    have hsplit : (leafPathsOf ((key, value) :: rest)).map Prod.fst =
        ((leafPaths value).map Prod.fst).map (key.plain :: ·) ++ (leafPathsOf rest).map Prod.fst := by
      rw [leafPathsOf, List.map_append, List.map_map, List.map_map]
      rfl
    rw [hsplit, List.nodup_append]
    refine ⟨hbelow.map fun _ _ heq => (List.cons.inj heq).2, ihrest, ?_⟩
    -- A path among the others starts with another key.
    rintro _ hfirst _ hother rfl
    obtain ⟨path, -, rfl⟩ := List.mem_map.1 hfirst
    obtain ⟨leaf, hleaf, hpath⟩ := List.mem_map.1 hother
    obtain ⟨name, more, hcons, hname⟩ := exists_eq_cons_of_mem_leafPathsOf hleaf
    rw [hcons] at hpath
    exact hnew ((List.cons.inj hpath).1 ▸ hname)

/-- No two leaves have one key. -/
theorem nodup_keys (h : HasPlainKeys entries) (start : String) :
    ((leafPathsOf entries).map fun leaf => keyAlong start leaf.1).Nodup := by
  have hmap : ((leafPathsOf entries).map fun leaf => keyAlong start leaf.1) =
      ((leafPathsOf entries).map Prod.fst).map (keyAlong start) := by
    rw [List.map_map]
    rfl
  rw [hmap]
  refine h.nodup_paths.map_on fun path hpath path' hpath' heq => ?_
  obtain ⟨leaf, hleaf, rfl⟩ := List.mem_map.1 hpath
  obtain ⟨leaf', hleaf', rfl⟩ := List.mem_map.1 hpath'
  exact keyAlong_injective start (h.isPlainKey hleaf) (h.isPlainKey hleaf')
    (ne_nil_of_mem_leafPathsOf hleaf) (ne_nil_of_mem_leafPathsOf hleaf') heq

/-- Each leaf has an entry of its own. -/
theorem entries_flatten (h : HasPlainKeys entries) (start : String) :
    (flatten start entries).entries =
      (leafPathsOf entries).map fun leaf => (keyAlong start leaf.1, settingText leaf.2) := by
  rw [flatten_eq_ofList]
  apply Store.entries_ofList
  rw [List.map_map]
  exact h.nodup_keys start

end HasPlainKeys

/-! ### Lists -/

/-- The items that a datum stands for in a list into which it is spread out: its own if it is a list, else
itself. -/
def Datum.spread : Datum → List Datum
  | .list items | .tuple items => items
  | datum => [datum]

theorem settingTexts_eq_map (items : List Datum) : settingTexts items = items.map settingText := by
  induction items with
  | nil => rfl
  | cons item rest ih => rw [settingTexts, ih, List.map_cons]

/-- The text of a list joins the texts of its items by commas. -/
theorem settingText_list (items : List Datum) :
    settingText (.list items) = String.intercalate "," (items.map settingText) := by
  rw [settingText, settingTexts_eq_map]

theorem settingText_eq_intercalate_spread (datum : Datum) :
    settingText datum = String.intercalate "," (datum.spread.map settingText) := by
  cases datum with
  | list items => exact settingText_list items
  | tuple items => exact settingText_list items
  | _ => simp [Datum.spread]

/-- Joining parts that are joined themselves joins all that is in them. -/
theorem intercalate_map_intercalate {separator : String} {parts : List (List String)}
    (hne : ∀ part ∈ parts, part ≠ []) :
    String.intercalate separator (parts.map (String.intercalate separator)) =
      String.intercalate separator parts.flatten := by
  induction parts with
  | nil => rfl
  | cons part rest ih =>
    have hrest := ih fun other hother => hne other (List.mem_cons_of_mem part hother)
    cases rest with
    | nil => simp
    | cons next rest =>
      have hflatten : (next :: rest).flatten ≠ [] := by
        have hnext := hne next (by simp)
        simp [hnext]
      rw [List.map_cons, String.intercalate_cons_of_ne_nil (by simp), hrest,
        List.flatten_cons (l := part),
        String.intercalate_append_of_ne_nil (hne part List.mem_cons_self) hflatten]

/-- Lists among the items of a list are joined like their own items, unless one of them is empty. -/
theorem settingText_spread {items : List Datum} (hne : ∀ item ∈ items, item.spread ≠ []) :
    settingText (.list items) = settingText (.list (items.flatMap Datum.spread)) := by
  have hparts : ∀ part ∈ items.map fun item => item.spread.map settingText, part ≠ [] := by
    intro part hpart
    obtain ⟨item, hitem, rfl⟩ := List.mem_map.1 hpart
    simpa using hne item hitem
  calc settingText (.list items)
      = String.intercalate "," ((items.map fun item => item.spread.map settingText).map
          (String.intercalate ",")) := by
        rw [settingText_list, List.map_map]
        exact congrArg _ (List.map_congr_left fun item _ => settingText_eq_intercalate_spread item)
    _ = String.intercalate "," (items.map fun item => item.spread.map settingText).flatten :=
        intercalate_map_intercalate hparts
    _ = settingText (.list (items.flatMap Datum.spread)) := by
        rw [settingText_list, List.map_flatMap, List.flatMap_def]

/-! ### Flat settings -/

/-- Flat settings result from putting in the leaves of the document in their order, each under the join of
the keys on the way to it, where a later one takes the place of an earlier one with its key. A mapping that
is alone under a key is made flat below the text of this key. If the keys are plain, each leaf has exactly
one entry. The text of a list joins those of its items by commas, also of items that are in lists again. -/
theorem flatten_isFold (start : String) (entries : List (Datum × Datum)) :
    flatten start entries =
        (leafPathsOf entries).foldl
          (fun settings leaf => settings.insert (keyAlong start leaf.1) (settingText leaf.2)) .empty ∧
      (∀ key, flatten "" [(key, .map entries)] = flatten key.plain entries) ∧
      (HasPlainKeys entries → (flatten start entries).entries =
        (leafPathsOf entries).map fun leaf => (keyAlong start leaf.1, settingText leaf.2)) ∧
      (∀ items, settingText (.list items) = String.intercalate "," (items.map settingText)) ∧
      ∀ items, (∀ item ∈ items, item.spread ≠ []) →
        settingText (.list items) = settingText (.list (items.flatMap Datum.spread)) := by
  refine ⟨?_, fun key => flatten_singleton key entries, fun h => h.entries_flatten start,
    settingText_list, fun items => settingText_spread⟩
  rw [flatten_eq_ofList, Store.ofList, Store.insertAll, List.foldl_map]

/-- The tags of a document, in two lists. -/
def nestedTags : List Datum := [.list [.str "a", .int 1], .list [.str "b"]]

/-- A document with a mapping below a key and a list of lists. -/
def nestedDocument : List (Datum × Datum) :=
  [(.str "app", .map [(.str "title", .str "x"), (.str "tags", .list nestedTags)]), (.int 1, .null)]

theorem flatten_isFold_nestedDocument :
    HasPlainKeys nestedDocument ∧
      (flatten "base" nestedDocument).entries =
        [("base.app.title", "x"), ("base.app.tags", "a,1,b"), ("base.1", "")] ∧
      (∀ item ∈ nestedTags, item.spread ≠ []) ∧
      settingText (.list nestedTags) = settingText (.list [.str "a", .int 1, .str "b"]) := by
  have hplain : ∀ name : String, name ≠ "" ∧ '.' ∉ name.toList → IsPlainKey name := fun _ h => ⟨h.1, h.2⟩
  have hinner : HasPlainKeys [(.str "title", .str "x"), (.str "tags", .list nestedTags)] :=
    .cons (hplain _ (by decide)) (by decide) (fun _ h => nomatch h)
      (.cons (hplain _ (by decide)) (by decide) (fun _ h => nomatch h) .nil)
  have hkeys : HasPlainKeys nestedDocument := by
    refine .cons (hplain _ (by decide)) (by decide) (fun entries h => ?_)
      (.cons (hplain _ (by decide)) (by decide) (fun _ h => nomatch h) .nil)
    cases h
    exact hinner
  have htags : ∀ item ∈ nestedTags, item.spread ≠ [] := by simp [nestedTags, Datum.spread]
  obtain ⟨-, -, hentries, -, hlists⟩ := flatten_isFold "base" nestedDocument
  exact ⟨hkeys, (hentries hkeys).trans (by decide +kernel), htags, hlists nestedTags htags⟩

end Lookup
