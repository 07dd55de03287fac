import Lookup.Proofs.Command.Document
import Lookup.Proofs.Property.Store
import Lookup.Proofs.Table.Printer

/-!
# The two forms of a listing

The properties of a store are listed as a document or as a table. The document tells every property as it is.
So does the table, unless its keys or its values are decimal numbers: there each number is written in six digits,
and where a truth value stands among them nothing is printed.

## Main definitions

* `Store.IsClean` — stores whose keys and values are tokens without control characters
* `ListsAs` — a printed table with certain rows
* `IsListed` — what the two forms of a listing tell of a store

## Main results

* `map_shownAmong_eq_iff` — when all entries are shown as they are
* `run_list_isListed` — what runs list, and when the table lists what the document tells
-/

namespace Lookup

open Text

namespace Store

variable {store : Store}

/-- All keys and values are clean. -/
def IsClean (store : Store) : Prop :=
  ∀ key value, store.get? key = some value → Lookup.IsClean key.toList ∧ Lookup.IsClean value.toList

theorem IsClean.of_mem_toList (h : store.IsClean) :
    ∀ e ∈ store.toList, Lookup.IsClean e.1.toList ∧ Lookup.IsClean e.2.toList :=
  fun e he => h e.1 e.2 (mem_toList_iff.1 he)

/-- The keys as they are listed. -/
def listedKeys (store : Store) : List String := store.toList.map (·.1)

/-- The values as they are listed. -/
def listedValues (store : Store) : List String := store.toList.map (·.2)

end Store

namespace Command

open Json

variable {ε : Type} {kit : Toolkit} {world : World} {line line' : List String}
  {verbose verbose' bare : Bool} {settings? : Option String} {pairs : List String} {store : Store}
  {text : String}

/-! ### Tables -/

/-- A printed table of properties with certain rows below its header and its rule. -/
def ListsAs (output : String) (rows : List (List String)) : Prop := PrintsAs output "KEY" "VALUE" rows

theorem ListsAs.rows_eq {output : String} {rows rows' : List (List String)} (h : ListsAs output rows)
    (h' : ListsAs output rows') : rows = rows' := by
  obtain ⟨left, right, -, -, hrows⟩ := h
  obtain ⟨left', right', -, -, hrows'⟩ := h'
  exact (List.cons.inj (List.cons.inj (hrows.symm.trans hrows')).2).2

/-- The table of a store. -/
def listingTable (store : Store) : Table := ⟨["KEY", "VALUE"], store.toList.map fun e => [e.1, e.2]⟩

/-- The entries of a store as they are shown in their columns. -/
def shownEntries (store : Store) : List (List String) :=
  store.toList.map fun e => [shownAmong store.listedKeys e.1, shownAmong store.listedValues e.2]

/-- The entries of a store are shown as they are exactly if all keys and all values are. -/
theorem map_shownAmong_eq_iff (store : Store) :
    shownEntries store = (store.toList.map fun e => [e.1, e.2]) ↔
      (∀ key ∈ store.listedKeys, shownAmong store.listedKeys key = key) ∧
        ∀ value ∈ store.listedValues, shownAmong store.listedValues value = value := by
  rw [shownEntries, List.map_inj_left, Store.listedKeys, Store.listedValues, List.forall_mem_map, List.forall_mem_map,
    ← forall₂_and]
  simp only [List.cons.injEq, and_true]

section Table

variable (htabulates : Tabulates kit.tabulate) (hclean : store.IsClean)

include htabulates hclean

/-- The table of a store is not printed exactly if a truth value stands among its keys or among its values, and these
are decimal numbers. -/
theorem tabulate_fails_iff :
    (∃ fault, kit.tabulate (listingTable store) = .error fault) ↔
      TruthAmongDecimals store.listedKeys ∨ TruthAmongDecimals store.listedValues :=
  htabulates.fails_iff (by decide) (by decide) hclean.of_mem_toList

/-- The table of a store lists its properties in order, as they are shown in their columns. -/
theorem listsAs_of_write (hkit : kit.IsFaithful) {output : String}
    (htable : kit.tabulate (listingTable store) = .ok text) (hwrite : kit.write (text ++ "\n") = some output) :
    ListsAs output (shownEntries store) := by
  obtain ⟨hescape, hprints⟩ := htabulates.prints (by decide) (by decide) hclean.of_mem_toList htable
  obtain rfl := hkit.write_eq hwrite (by simpa [escapeChar] using hescape)
  exact hprints

/-- Keys and values are verbatim exactly if the table is printed and shows all entries as they are. -/
theorem isVerbatim_iff_shownEntries : IsVerbatim store.listedKeys ∧ IsVerbatim store.listedValues ↔
    (¬ ∃ fault, kit.tabulate (listingTable store) = .error fault) ∧
      shownEntries store = store.toList.map fun e => [e.1, e.2] := by
  rw [tabulate_fails_iff htabulates hclean, isVerbatim_iff, isVerbatim_iff, and_and_and_comm,
    ← map_shownAmong_eq_iff, not_or]

end Table

/-! ### Runs -/

/-- The table of a store is printed, but the output lacks a character of it. -/
def LacksCharacter (kit : Toolkit) (store : Store) : Prop :=
  ∃ text, kit.tabulate (listingTable store) = .ok text ∧ kit.write (text ++ "\n") = none

/-- A run that lists a store as a table fails as the table does, or for a character that the output lacks, or it
prints the table. -/
theorem run_properties_cases
    (hread : kit.parse world line = .ok ⟨false, verbose, .list settings? pairs bare⟩)
    (hanswer : ((Request.list settings? pairs bare).answer world :
      Logged (Except (Stop ε) Answer)).2 = .ok (.properties store)) :
    (∃ fault, kit.tabulate (listingTable store) = .error fault ∧
      (run kit world line : Logged (Except (Failure ε) Outcome)).2 = .error (.fault fault)) ∨
    (LacksCharacter kit store ∧
      (run kit world line : Logged (Except (Failure ε) Outcome)).2 = .error (.fault .unencodable)) ∨
    ∃ text output, kit.tabulate (listingTable store) = .ok text ∧ kit.write (text ++ "\n") = some output ∧
      (run kit world line : Logged (Except (Failure ε) Outcome)).2 = .ok ⟨0, output, ""⟩ := by
  have hsheet : (Answer.properties store).sheet = .table (listingTable store) := rfl
  rw [run_of_read hread, Invocation.run]
  simp only [hanswer, Answer.outcome, hsheet, Toolkit.text, Bool.false_eq_true, if_false]
  cases htext : kit.tabulate (listingTable store) with
  | error fault => exact .inl ⟨fault, rfl, rfl⟩
  | ok text =>
    cases hwrite : kit.write (text ++ "\n") with
    | none => exact .inr (.inl ⟨⟨text, htext, hwrite⟩, print_eq_error_iff.2 ⟨hwrite, rfl⟩⟩)
    | some output => exact .inr (.inr ⟨text, output, rfl, hwrite, print_eq_ok_iff.2 ⟨output, hwrite, rfl⟩⟩)

/-- What the two forms of a listing tell of a store. The document tells its entries in the order of the keys,
and the table lists them as they are shown in their columns, if it can be printed and written. -/
structure IsListed (kit : Toolkit) (store : Store) (document table : Except (Failure ε) Outcome) :
    Prop where
  sorted : store.toList.Pairwise fun a b => a.1 < b.1
  complete : ∀ key value, (key, value) ∈ store.toList ↔ store.get? key = some value
  told : ∃ outcome : Outcome, document = .ok outcome ∧ outcome.status = 0 ∧
    decode? outcome.output =
      some (.object [("properties", .object (store.toList.map fun e => (e.1, .text e.2)))])
  shown : (∃ fault, table = .error (.fault fault) ∧ kit.tabulate (listingTable store) = .error fault ∧
      (TruthAmongDecimals store.listedKeys ∨ TruthAmongDecimals store.listedValues)) ∨
    (table = .error (.fault .unencodable) ∧ LacksCharacter kit store) ∨
    ∃ outcome : Outcome, table = .ok outcome ∧ outcome.status = 0 ∧
      ListsAs outcome.output (shownEntries store)
  /-- The table lists what the document tells exactly if the output has all characters and neither column is one of
  decimal numbers that six digits do not write as they are. -/
  agree_iff : (∃ outcome : Outcome, table = .ok outcome ∧ outcome.status = 0 ∧
      ListsAs outcome.output (store.toList.map fun e => [e.1, e.2])) ↔
    ¬ LacksCharacter kit store ∧ IsVerbatim store.listedKeys ∧ IsVerbatim store.listedValues

/-- Listing a store of clean texts. -/
theorem run_list_isListed (hkit : kit.IsFaithful) (htabulates : Tabulates kit.tabulate)
    (hdocument : kit.parse world line = .ok ⟨true, verbose, .list settings? pairs bare⟩)
    (htable : kit.parse world line' = .ok ⟨false, verbose', .list settings? pairs bare⟩)
    (hanswer : ((Request.list settings? pairs bare).answer world :
      Logged (Except (Stop ε) Answer)).2 = .ok (.properties store))
    (hclean : store.IsClean) :
    IsListed kit store (run kit world line : Logged (Except (Failure ε) Outcome)).2
      (run kit world line' : Logged (Except (Failure ε) Outcome)).2 := by
  have hfails := tabulate_fails_iff htabulates hclean
  have htells : ∃ outcome : Outcome, (run kit world line : Logged (Except (Failure ε) Outcome)).2 = .ok outcome ∧
      outcome.status = 0 ∧ decode? outcome.output =
        some (.object [("properties", .object (store.toList.map fun e => (e.1, .text e.2)))]) := by
    have hrun := run_of_answer (ε := ε) hkit hdocument hanswer
    obtain ⟨answer, hsame, -, hdecode, -⟩ := run_isDocument_iff_told hkit hdocument hrun rfl
    obtain rfl := Except.ok.inj (hanswer.symm.trans hsame)
    exact ⟨_, hrun, rfl, hdecode⟩
  rcases run_properties_cases htable hanswer with
    ⟨fault, htext, hrun⟩ | ⟨hlacks, hrun⟩ | ⟨text, output, htext, hwrite, hrun⟩
  · refine ⟨store.pairwise_toList, fun _ _ => Store.mem_toList_iff, htells,
      .inl ⟨fault, hrun, htext, hfails.1 ⟨fault, htext⟩⟩, ?_⟩
    rw [isVerbatim_iff_shownEntries htabulates hclean]
    exact iff_of_false (by simp [hrun]) fun h => h.2.1 ⟨fault, htext⟩
  · refine ⟨store.pairwise_toList, fun _ _ => Store.mem_toList_iff, htells, .inr (.inl ⟨hrun, hlacks⟩), ?_⟩
    rw [isVerbatim_iff_shownEntries htabulates hclean]
    exact iff_of_false (by simp [hrun]) fun h => h.1 hlacks
  · have hlists := listsAs_of_write htabulates hclean hkit htext hwrite
    refine ⟨store.pairwise_toList, fun _ _ => Store.mem_toList_iff, htells,
      .inr (.inr ⟨_, hrun, rfl, hlists⟩), ?_⟩
    -- There is only one text of the table, and it has been written.
    have hhas : ¬ LacksCharacter kit store := by
      rintro ⟨other, hother, hlacks⟩
      obtain rfl := Except.ok.inj (htext.symm.trans hother)
      simp [hwrite] at hlacks
    rw [isVerbatim_iff_shownEntries htabulates hclean]
    constructor
    · rintro ⟨outcome, houtcome, -, hraw⟩
      obtain rfl := Except.ok.inj (hrun.symm.trans houtcome)
      exact ⟨hhas, by simp [htext], hlists.rows_eq hraw⟩
    · rintro ⟨-, -, hentries⟩
      exact ⟨_, hrun, rfl, hentries ▸ hlists⟩

/-- A version number is listed without the zero at its end. -/
theorem run_list_isListed_version :
    ∃ table : Outcome,
      (run .builtin bareWorld ["props", "list", "--no-env", "--set", "version=1.10"] :
        Logged (Except (Failure Empty) Outcome)).2 = .ok table ∧
      ListsAs table.output [["version", "1.1"]] ∧ ¬ ListsAs table.output [["version", "1.10"]] := by
  have hdocument : Toolkit.builtin.parse bareWorld
      ["--json-output", "props", "list", "--no-env", "--set", "version=1.10"] =
      .ok ⟨true, false, .list none ["version=1.10"] true⟩ :=
    parse_builtin_eq_ok_iff.2 (by decide +kernel)
  have htable : Toolkit.builtin.parse bareWorld ["props", "list", "--no-env", "--set", "version=1.10"] =
      .ok ⟨false, false, .list none ["version=1.10"] true⟩ :=
    parse_builtin_eq_ok_iff.2 (by decide +kernel)
  have hanswer : ((Request.list none ["version=1.10"] true).answer bareWorld :
      Logged (Except (Stop Empty) Answer)).2 = .ok (.properties (.ofList [("version", "1.10")])) := rfl
  have hentries : (Store.ofList [("version", "1.10")]).toList = [("version", "1.10")] :=
    List.mergeSort_singleton ("version", "1.10")
  have hclean : (Store.ofList [("version", "1.10")]).IsClean := by
    intro key value hvalue
    rw [← Store.mem_toList_iff, hentries, List.mem_singleton] at hvalue
    obtain ⟨rfl, rfl⟩ := Prod.mk.inj hvalue
    exact ⟨by decide, by decide⟩
  rcases (run_list_isListed Toolkit.builtin_isFaithful Toolkit.builtin_tabulates hdocument htable hanswer
      hclean).shown with ⟨-, -, -, hkeys | hvalues⟩ | ⟨-, hlacks⟩ | ⟨table, hrun, -, hlists⟩
  · exact absurd hkeys.truth (by rw [Store.listedKeys, hentries]; decide +kernel)
  · exact absurd hvalues.truth (by rw [Store.listedValues, hentries]; decide +kernel)
  · obtain ⟨text, htext, hlacks⟩ := hlacks
    have hprinted : Toolkit.builtin.tabulate ⟨["KEY", "VALUE"], [["version", "1.10"]]⟩ =
        .ok "KEY        VALUE\n-------  -------\nversion      1.1" := by decide +kernel
    rw [listingTable, hentries] at htext
    obtain rfl := Except.ok.inj (hprinted.symm.trans htext)
    exact absurd hlacks (by decide +kernel)
  · have hshown : shownAmong ["version"] "version" = "version" ∧ shownAmong ["1.10"] "1.10" = "1.1" := by
      decide +kernel
    simp only [shownEntries, Store.listedKeys, Store.listedValues, hentries, List.map_cons, List.map_nil,
      hshown] at hlists
    exact ⟨table, hrun, hlists, fun hraw => absurd (hlists.rows_eq hraw) (by decide)⟩

end Command

end Lookup
