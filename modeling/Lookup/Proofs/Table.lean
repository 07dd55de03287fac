import Lookup.Proofs.Table.Printer

/-!
# Tables that cannot be printed

Numbers that are not whole are written anew in a column of such numbers, and so is every other cell of
the column. A truth value has no number that could be written, so that a table with a truth value among
such numbers cannot be printed. Nothing else keeps a table from being printed.

## Main definitions

* `TruthAmongNumbers` — columns in which a truth value stands among numbers

## Main results

* `columnOf_eq_numbers_iff` — when a column holds numbers
* `looseFloat?_shown_eq_none_iff` — which of the cells that are no texts are no numbers
* `Table.render?_eq_none_iff` — exactly the tables that cannot be printed
-/

namespace Lookup

open Number Text

/-! ### Cells -/

/-- A cell that is no text is no number exactly if it is a truth value. -/
theorem looseFloat?_shown_eq_none_iff {cell : List Char} (h : columnOfCell cell ≠ .texts) :
    looseFloat? (shown cell) = none ↔ columnOfCell cell = .truths := by
  rw [columnOfCell] at h ⊢
  split
  · next htruth => exact iff_of_true (looseFloat?_of_isTruth htruth) rfl
  split
  · next hwhole => exact iff_of_false (looseFloat?_ne_none_of_looseWhole? hwhole) (by simp)
  split
  · next hnumber =>
    refine iff_of_false (fun hnone => ?_) (by simp)
    simp [isNumber, hnone] at hnumber
  · next htruth hwhole hnumber => simp [htruth, hwhole, hnumber] at h

/-- What begins with another character than the escape character is shown from there on. -/
theorem shown_cons {c : Char} (hc : c ≠ escapeChar) (rest : List Char) :
    shown (c :: rest) = c :: shown rest := by
  have hcontrol : controlLength? (c :: rest) = none := by
    unfold controlLength?
    split
    · next heq => exact absurd (List.cons.inj heq).1 hc
    · rfl
  have hlink : linkAt? (c :: rest) = none := by
    have hmark : dropMark? [escapeChar, ']', '8', ';'] (c :: rest) = none := by
      rw [dropMark?, if_neg]
      simpa [List.isPrefixOf] using fun heq => absurd heq.symm hc
    rw [linkAt?, hmark]
    rfl
  have hsequence : sequence? (c :: rest) = none := by
    rw [sequence?, hcontrol, hlink]
    rfl
  rw [shown, shownAfter, hsequence]
  rfl

/-! ### Columns -/

/-- The widest of several columns holds numbers exactly if none of them holds texts and one of them
holds numbers. -/
theorem Column.foldl_join_eq_numbers_iff (columns : List Column) (first : Column) :
    columns.foldl Column.join first = .numbers ↔
      (∀ column ∈ first :: columns, column ≠ .texts) ∧ .numbers ∈ first :: columns := by
  induction columns generalizing first with
  | nil => cases first <;> simp
  | cons column rest ih =>
    rw [List.foldl_cons, ih]
    cases first <;> cases column <;> simp [Column.join, Column.rank]

/-- Cells hold numbers together exactly if none of them is a text and one of them is a number that is
not whole. -/
theorem columnOf_eq_numbers_iff {cells : List (List Char)} :
    columnOf cells = .numbers ↔
      (∀ cell ∈ cells, columnOfCell cell ≠ .texts) ∧ ∃ cell ∈ cells, columnOfCell cell = .numbers := by
  rw [columnOf, Column.foldl_join_eq_numbers_iff]
  simp

/-- Cells among which a truth value stands beside a number that is not whole, and no text does. -/
structure TruthAmongNumbers (cells : List (List Char)) : Prop where
  noText : ∀ cell ∈ cells, columnOfCell cell ≠ .texts
  number : ∃ cell ∈ cells, columnOfCell cell = .numbers
  truth : ∃ cell ∈ cells, columnOfCell cell = .truths

theorem mapM_eq_none_iff {α β : Type} {f : α → Option β} {items : List α} :
    items.mapM f = none ↔ ∃ item ∈ items, f item = none := by
  induction items with
  | nil => simp
  | cons item rest ih =>
    simp only [List.mapM_cons, List.mem_cons, exists_eq_or_imp, ← ih]
    cases hitem : f item with
    | none => simp
    | some result => cases hrest : rest.mapM f <;> simp

theorem reshape?_eq_none_iff {column : Column} {cell : List Char} :
    reshape? column cell = none ↔ column = .numbers ∧ looseFloat? (shown cell) = none := by
  cases column <;> simp [reshape?]

/-- A column cannot be printed exactly if a truth value stands among its numbers. -/
theorem Table.printColumn?_eq_none_iff {layout : Layout} {header : String} {cells : List (List Char)} :
    printColumn? layout header cells = none ↔ TruthAmongNumbers cells := by
  have hprinted : printColumn? layout header cells = none ↔
      cells.mapM (reshape? (if cells = [] then .texts else columnOf cells)) = none := by
    rw [printColumn?]
    cases hcells : cells.mapM (reshape? (if cells = [] then .texts else columnOf cells)) with
    | none => simp
    | some reshaped => simp
  rw [hprinted, mapM_eq_none_iff]
  constructor
  · rintro ⟨cell, hcell, hnone⟩
    obtain ⟨hcolumn, hfloat⟩ := reshape?_eq_none_iff.1 hnone
    rw [if_neg (List.ne_nil_of_mem hcell)] at hcolumn
    obtain ⟨hnoText, hnumber⟩ := columnOf_eq_numbers_iff.1 hcolumn
    exact ⟨hnoText, hnumber, cell, hcell, (looseFloat?_shown_eq_none_iff (hnoText cell hcell)).1 hfloat⟩
  · rintro ⟨hnoText, hnumber, cell, hcell, htruth⟩
    refine ⟨cell, hcell, reshape?_eq_none_iff.2 ⟨?_, ?_⟩⟩
    · rw [if_neg (List.ne_nil_of_mem hcell)]
      exact columnOf_eq_numbers_iff.2 ⟨hnoText, hnumber⟩
    · exact (looseFloat?_shown_eq_none_iff (hnoText cell hcell)).2 htruth

/-! ### Tables -/

/-- The rows of a table that are no rules. -/
theorem Table.cells_map {α : Type} (headers : List String) (items : List α) (row : α → List String) :
    (Table.mk headers (items.map row)).cells =
      (items.filter fun item => !isRule (row item)).map fun item => (row item).map String.toList := by
  simp [Table.cells, List.filter_map, Function.comp_def]

/-- A table cannot be printed exactly if in one of its columns a truth value stands among numbers. -/
theorem Table.render?_eq_none_iff (table : Table) :
    table.render? = none ↔
      ∃ column ∈ columnsOf table.headers.length table.cells, TruthAmongNumbers column := by
  have hlines : table.render? = none ↔
      ((table.headers.zip (columnsOf table.headers.length table.cells)).mapM fun column =>
        printColumn? table.layout column.1 column.2) = none := by
    rw [render?, Option.map_eq_none_iff, lines?]
    cases hcolumns : (table.headers.zip (columnsOf table.headers.length table.cells)).mapM
        fun column => printColumn? table.layout column.1 column.2 with
    | none => simp
    | some columns => simp
  rw [hlines, mapM_eq_none_iff]
  simp only [printColumn?_eq_none_iff]
  constructor
  · rintro ⟨column, hcolumn, htruth⟩
    exact ⟨column.2, (List.of_mem_zip hcolumn).2, htruth⟩
  · rintro ⟨column, hcolumn, htruth⟩
    have hsecond : (table.headers.zip (columnsOf table.headers.length table.cells)).map Prod.snd =
        columnsOf table.headers.length table.cells := by
      apply List.map_snd_zip
      simp [columnsOf]
    rw [← hsecond] at hcolumn
    obtain ⟨pair, hpair, rfl⟩ := List.mem_map.1 hcolumn
    exact ⟨pair, hpair, htruth⟩

end Lookup
