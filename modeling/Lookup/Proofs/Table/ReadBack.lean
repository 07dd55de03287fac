import Mathlib.Data.List.Forall2
import Lookup.Proofs.Json.Numeral
import Lookup.Proofs.Json.Token
import Lookup.Proofs.Table
import Lookup.Proofs.Text.Token

/-!
# Reading tables back

A table that is printed is read line by line, and each line by its tokens. Padding and gaps are white space, so
what is read in the place of a clean text is the form in which its column shows it. Hence tables are printed as
is known of printers of tables.

## Main results

* `columnOf_eq_numbers_iff_areDecimals`, `truthAmongNumbers_iff` — the columns of clean texts
* `exists_isPadding_alignColumn` — aligning a column pads its cells
* `Table.render?_pairs_eq_none_iff`, `Table.printsAs_of_render?` — tables with two columns of clean texts
-/

namespace Lookup

open Number Text

variable {text cell : List Char} {cells : List (List Char)} {column : Column} {layout : Layout}

/-! ### Clean texts -/

theorem notMem_of_isControl {c : Char} (h : ∀ c ∈ text, ¬ IsControl c) (hc : IsControl c) : c ∉ text :=
  fun hmem => h c hmem hc

/-- A terminal shows all of a text without the escape character. -/
theorem shown_eq_self (h : escapeChar ∉ text) : shown text = text := by
  induction text with
  | nil => rfl
  | cons c rest ih =>
    rw [List.mem_cons, not_or] at h
    rw [shown_cons (Ne.symm h.1), ih h.2]

theorem IsClean.shown_eq (h : IsClean text) : shown text = text :=
  shown_eq_self (notMem_of_isControl h.notControl (by decide))

theorem isClean_singleton_of_isNumeric {c : Char} (h : Json.isNumeric c = true) : IsClean [c] := by
  have htable : ∀ n < 128, Json.isNumeric (Char.ofNat n) = true → IsClean [Char.ofNat n] := by
    decide +kernel
  have hlt : c.toNat < 128 := by
    simp only [Json.isNumeric, Bool.or_eq_true, decide_eq_true_eq] at h
    rcases h with ((((hdigit | rfl) | rfl) | rfl) | rfl) | rfl
    · have hhigh : c.toNat ≤ 57 :=
        UInt32.le_iff_toNat_le.1 (of_decide_eq_true (Bool.and_eq_true_iff.1 hdigit).2)
      omega
    all_goals decide
  simpa using htable c.toNat hlt (by simpa using h)

/-- A number in six digits is clean. -/
theorem isClean_shortText (value : Binary) : IsClean value.shortText.toList := by
  match value with
  | .nan => decide
  | .infinite false => decide
  | .infinite true => decide
  | .finite negative significand exponent =>
    have hnumber := Json.isNumber_shortText negative significand exponent
    have hchar : ∀ c ∈ (Binary.finite negative significand exponent).shortText.toList, IsClean [c] :=
      fun c hc => isClean_singleton_of_isNumeric (Json.isNumeric_of_mem hnumber c hc)
    refine ⟨⟨?_, fun c hc => (hchar c hc).notBlank c List.mem_cons_self⟩,
      fun c hc => (hchar c hc).notControl c List.mem_cons_self⟩
    obtain ⟨sign, whole, fraction, power, -, hwhole, -, -, htext⟩ := hnumber
    rw [htext]
    simp [hwhole.1.1]

/-! ### What columns show -/

/-- A clean cell as it is shown in a column. -/
def Column.form (column : Column) (cell : List Char) : List Char :=
  match column with
  | .numbers => ((looseFloat? cell).map fun number => number.shortText.toList).getD cell
  | _ => cell

theorem Column.form_of_ne (h : column ≠ .numbers) (cell : List Char) : column.form cell = cell := by
  cases column <;> simp_all [Column.form]

theorem isClean_form (h : IsClean cell) : IsClean (column.form cell) := by
  unfold Column.form
  split
  · cases looseFloat? cell with
    | none => exact h
    | some number => exact isClean_shortText number
  · exact h

section Columns

variable {texts : List String} (hclean : ∀ text ∈ texts, IsClean text.toList)

include hclean

/-- Clean texts have a column of numbers exactly if they are decimal numbers. -/
theorem columnOf_eq_numbers_iff_areDecimals :
    columnOf (texts.map String.toList) = .numbers ↔ AreDecimals texts := by
  have hcolumn : ∀ text ∈ texts, columnOfCell text.toList =
      if isTruth text.toList then .truths else if isWhole text.toList then .wholes
        else if isNumber text.toList then .numbers else .texts := by
    intro text htext
    rw [columnOfCell, (hclean text htext).shown_eq]
  rw [columnOf_eq_numbers_iff, List.forall_mem_map]
  simp only [List.mem_map, exists_exists_and_eq_and]
  constructor
  · rintro ⟨hall, text, htext, hnumber⟩
    refine ⟨fun text htext => ?_, text, htext, ?_⟩
    · have h := hall text htext
      rw [hcolumn text htext] at h
      grind
    · rw [hcolumn text htext] at hnumber
      grind
  · rintro ⟨hall, text, htext, hnumber⟩
    refine ⟨fun text htext => ?_, text, htext, ?_⟩
    · have h := hall text htext
      rw [hcolumn text htext]
      grind
    · rw [hcolumn text htext]
      simp [hnumber]

/-- A truth value stands among the numbers of a column exactly if it does among decimal numbers. -/
theorem truthAmongNumbers_iff :
    TruthAmongNumbers (texts.map String.toList) ↔ TruthAmongDecimals texts := by
  have htruth : (∃ cell ∈ texts.map String.toList, columnOfCell cell = .truths) ↔
      ∃ text ∈ texts, isTruth text.toList = true := by
    simp only [List.mem_map, exists_exists_and_eq_and]
    refine exists_congr fun text => and_congr_right fun htext => ?_
    rw [columnOfCell, (hclean text htext).shown_eq]
    grind
  have hnumbers := columnOf_eq_numbers_iff.symm.trans (columnOf_eq_numbers_iff_areDecimals hclean)
  constructor
  · rintro ⟨hnoText, hnumber, hword⟩
    exact ⟨hnumbers.1 ⟨hnoText, hnumber⟩, htruth.1 hword⟩
  · rintro ⟨hdecimals, hword⟩
    exact ⟨(hnumbers.2 hdecimals).1, (hnumbers.2 hdecimals).2, htruth.2 hword⟩

/-- The form of a clean text in its column is what is shown of it. -/
theorem ofList_form (text : String) :
    String.ofList ((columnOf (texts.map String.toList)).form text.toList) = shownAmong texts text := by
  by_cases hdecimals : AreDecimals texts
  · rw [(columnOf_eq_numbers_iff_areDecimals hclean).2 hdecimals, shownAmong, if_pos hdecimals, Column.form]
    cases looseFloat? text.toList <;> simp
  · rw [Column.form_of_ne (mt (columnOf_eq_numbers_iff_areDecimals hclean).1 hdecimals), shownAmong,
      if_neg hdecimals, String.ofList_toList]

end Columns

/-! ### The form of a cell -/

theorem replaceAfter_length (old new rest : List Char) : replaceAfter old new rest.length rest = [] := by
  induction rest with
  | nil => rfl
  | cons c rest ih => exact ih

/-- A text that is replaced in itself becomes the new text. -/
theorem replaceAfter_self {new : List Char} (h : text ≠ []) : replaceAfter text new 0 text = new := by
  obtain ⟨c, rest, rfl⟩ := List.exists_cons_of_ne_nil h
  have hself : (c :: rest).isPrefixOf (c :: rest) = true :=
    List.isPrefixOf_iff_prefix.2 List.prefix_rfl
  rw [replaceAfter]
  simp only [hself, if_true, List.length_cons, Nat.add_sub_cancel, replaceAfter_length, List.append_nil]

/-- A clean cell is put in the form in which its column shows it. -/
theorem eq_form_of_reshape? {reshaped : List Char} (h : IsClean cell)
    (hreshape : reshape? column cell = some reshaped) : reshaped = column.form cell := by
  cases column with
  | numbers =>
    simp only [reshape?, h.shown_eq, replaceAfter_self h.ne_nil, Option.map_eq_some_iff] at hreshape
    obtain ⟨number, hnumber, rfl⟩ := hreshape
    simp [Column.form, hnumber]
  | _ => exact (Option.some.inj hreshape).symm

theorem eq_map_form_of_mapM {reshaped : List (List Char)} (h : ∀ cell ∈ cells, IsClean cell)
    (hreshape : cells.mapM (reshape? column) = some reshaped) : reshaped = cells.map column.form := by
  induction cells generalizing reshaped with
  | nil => exact (Option.some.inj hreshape).symm
  | cons cell cells ih =>
    obtain ⟨hcell, hcells⟩ := List.forall_mem_cons.1 h
    rw [List.mapM_cons] at hreshape
    obtain ⟨first, hfirst, hreshape⟩ := Option.bind_eq_some_iff.1 hreshape
    obtain ⟨others, hothers, hreshape⟩ := Option.bind_eq_some_iff.1 hreshape
    obtain rfl := Option.some.inj hreshape
    rw [eq_form_of_reshape? hcell hfirst, ih hcells hothers, List.map_cons]

/-! ### Padding -/

/-- A way to pad cells, in which the tokens of a cell stay and no character but blanks is added. -/
structure IsPadding (pad : List Char → List Char) : Prop where
  tokens_eq : ∀ cell, tokens (pad cell) = tokens cell
  mem : ∀ cell, ∀ c ∈ pad cell, c ∈ cell ∨ c = ' '

theorem isBlank_of_mem_replicate {count : Nat} {c : Char} (h : c ∈ List.replicate count ' ') :
    isBlank c = true := by
  rw [List.eq_of_mem_replicate h]
  decide

theorem isPadding_append (count : List Char → Nat) :
    IsPadding fun cell => cell ++ List.replicate (count cell) ' ' := by
  refine ⟨fun cell => tokens_append_white (fun _ => isBlank_of_mem_replicate) cell, fun cell c hc => ?_⟩
  exact (List.mem_append.1 hc).imp_right List.eq_of_mem_replicate

theorem isPadding_strip : IsPadding strip := by
  refine ⟨tokens_strip, fun cell c hc => .inl ?_⟩
  obtain ⟨front, back, -, -, hcell⟩ := exists_trimBoth isBlank cell
  rw [hcell]
  exact List.mem_append_left _ (List.mem_append_right _ hc)

theorem isPadding_fill (right : Bool) (width : List Char → Nat) :
    IsPadding fun cell => fill right (width cell) cell := by
  cases right with
  | false => exact isPadding_append fun cell => width cell - cell.length
  | true =>
    refine ⟨fun cell => tokens_white_append (fun _ => isBlank_of_mem_replicate) cell, fun cell c hc => ?_⟩
    exact (List.mem_append.1 hc).symm.imp_right List.eq_of_mem_replicate

theorem IsPadding.comp {pad pad' : List Char → List Char} (h : IsPadding pad) (h' : IsPadding pad') :
    IsPadding (pad ∘ pad') := by
  refine ⟨fun cell => (h.tokens_eq _).trans (h'.tokens_eq _), fun cell c hc => ?_⟩
  rcases h.mem _ c hc with hc | hc
  · exact h'.mem cell c hc
  · exact .inr hc

theorem IsPadding.notControl {pad : List Char → List Char} (h : IsPadding pad) (hcell : IsClean cell) :
    ∀ c ∈ pad cell, ¬ IsControl c := by
  intro c hc
  rcases h.mem cell c hc with hc | rfl
  · exact hcell.notControl c hc
  · decide

/-- Aligning a column pads its cells. -/
theorem exists_isPadding_alignColumn (h : layout.multiline = false) (column : Column) (least : Nat)
    (cells : List (List Char)) :
    ∃ pad, IsPadding pad ∧ alignColumn layout column least cells = cells.map pad := by
  have hfill : ∀ (right : Bool) (width : Nat), IsPadding (layout.fill right width) := by
    intro right width
    have hsingle : layout.fill right width = fun cell =>
        fill right (width + (cell.length - (shown cell).length)) cell := by
      funext cell
      rw [Layout.fill, h]
      rfl
    exact hsingle ▸ isPadding_fill right fun cell => width + (cell.length - (shown cell).length)
  -- Numbers are levelled first, and all other cells are stripped.
  obtain ⟨level, hlevel, hcells⟩ : ∃ level, IsPadding level ∧
      (if column.isRight then levelPoints cells else cells.map strip) = cells.map level := by
    split
    · exact ⟨_, isPadding_append _, rfl⟩
    · exact ⟨strip, isPadding_strip, rfl⟩
  rw [alignColumn, hcells]
  exact ⟨_, (hfill _ _).comp hlevel, List.map_map⟩

/-! ### Columns -/

/-- A printed column has its header and the forms of its clean cells, all of them padded. -/
theorem Table.exists_isPadding_printColumn? {header : String} {printed : Printed}
    (h : layout.multiline = false) (hcells : ∀ cell ∈ cells, IsClean cell)
    (hprinted : printColumn? layout header cells = some printed) :
    ∃ padHeader pad, IsPadding padHeader ∧ IsPadding pad ∧ 0 < printed.width ∧
      printed.header = padHeader header.toList ∧
      printed.cells = cells.map fun cell => pad ((columnOf cells).form cell) := by
  rw [printColumn?] at hprinted
  obtain ⟨reshaped, hreshaped, hprinted⟩ := Option.bind_eq_some_iff.1 hprinted
  obtain rfl := Option.some.inj hprinted
  -- Without cells the column makes no difference.
  have hforms : reshaped = cells.map (columnOf cells).form := by
    cases cells with
    | nil => exact eq_map_form_of_mapM hcells hreshaped
    | cons cell cells => exact eq_map_form_of_mapM hcells hreshaped
  obtain ⟨pad, hpad, haligned⟩ := exists_isPadding_alignColumn h
    (if cells = [] then .texts else columnOf cells) (header.length + headerMargin) reshaped
  refine ⟨fun text => fill _ _ text, pad, isPadding_fill _ fun _ => _, hpad, ?_, rfl, ?_⟩
  · exact lt_of_lt_of_le (by simp [headerMargin]) (Nat.le_max_left _ _)
  · exact haligned.trans (by rw [hforms, List.map_map]; rfl)

/-! ### Lines -/

theorem tokens_join_gap (cells : List (List Char)) :
    tokens (join columnGap cells) = cells.flatMap tokens := by
  have hgap : ∀ c ∈ columnGap, isBlank c = true := List.all_eq_true.1 (by decide)
  induction cells with
  | nil => rfl
  | cons cell rest ih =>
    match rest with
    | [] => rw [join, List.flatMap_singleton]
    | next :: rest =>
      rw [join_cons_of_ne_nil (List.cons_ne_nil next rest), tokens_append_white_append hgap (by decide),
        ih, ← List.flatMap_cons]

/-- The tokens of a line are those of its cells. -/
theorem tokens_tableLine (cells : List (List Char)) :
    tokens (tableLine cells) = cells.flatMap tokens := by
  rw [tableLine, tokens_stripEnd, tokens_join_gap]

/-- A line consists of the characters of its cells and of blanks. -/
theorem mem_tableLine {c : Char} (h : c ∈ tableLine cells) : (∃ cell ∈ cells, c ∈ cell) ∨ c = ' ' := by
  obtain ⟨back, -, htext⟩ := exists_trimEnd isBlank (join columnGap cells)
  have hmem : c ∈ join columnGap cells := by
    rw [htext]
    exact List.mem_append_left back h
  rcases mem_join hmem with hgap | hcell
  · exact .inr (by simpa [columnGap] using hgap)
  · exact .inl hcell

/-- A line that is read as certain tokens and holds no control characters. -/
structure IsLine (line : List Char) (row : List (List Char)) : Prop where
  tokens_eq : tokens line = row
  notControl : ∀ c ∈ line, ¬ IsControl c

/-- A line of two clean cells that are padded. -/
theorem isLine_tableLine {pad pad' : List Char → List Char} (hpad : IsPadding pad) (hpad' : IsPadding pad')
    (hcell : IsClean cell) (htext : IsClean text) :
    IsLine (tableLine [pad cell, pad' text]) [cell, text] := by
  constructor
  · rw [tokens_tableLine, List.flatMap_cons, List.flatMap_singleton, hpad.tokens_eq, hpad'.tokens_eq,
      tokens_of_isToken hcell.toIsToken, tokens_of_isToken htext.toIsToken]
    rfl
  · intro c hc
    rcases mem_tableLine hc with ⟨padded, hpadded, hc⟩ | rfl
    · simp only [List.mem_cons, List.not_mem_nil, or_false] at hpadded
      rcases hpadded with rfl | rfl
      · exact hpad.notControl hcell c hc
      · exact hpad'.notControl htext c hc
    · decide

theorem isClean_replicate_dash {width : Nat} (h : 0 < width) : IsClean (List.replicate width '-') := by
  have hdash : IsClean ['-'] := by decide
  refine ⟨⟨by simp [h.ne'], fun c hc => ?_⟩, fun c hc => ?_⟩
  · exact hdash.notBlank c (by simp [List.eq_of_mem_replicate hc])
  · exact hdash.notControl c (by simp [List.eq_of_mem_replicate hc])

theorem map_tokens_of_forall₂ {lines : List (List Char)} {rows : List (List (List Char))}
    (h : List.Forall₂ IsLine lines rows) : lines.map tokens = rows := by
  induction h with
  | nil => rfl
  | cons hline _ ih => rw [List.map_cons, hline.tokens_eq, ih]

theorem notControl_of_forall₂ {lines : List (List Char)} {rows : List (List (List Char))}
    (h : List.Forall₂ IsLine lines rows) : ∀ line ∈ lines, ∀ c ∈ line, ¬ IsControl c := by
  induction h with
  | nil => exact List.forall_mem_nil _
  | cons hline _ ih => exact List.forall_mem_cons.2 ⟨hline.notControl, ih⟩

/-- Lines that end in line breaks are read one by one. -/
theorem readRows_of_forall₂ {lines : List (List Char)} {rows : List (List (List Char))}
    (h : List.Forall₂ IsLine lines rows) (hrows : ∀ row ∈ rows, row ≠ []) (hne : lines ≠ []) :
    readRows (String.ofList (join ['\n'] lines) ++ "\n") = rows.map (·.map String.ofList) := by
  have hbreak : ∀ line ∈ lines ++ [[]], '\n' ∉ line := by
    intro line hline
    rcases List.mem_append.1 hline with hline | hline
    · exact notMem_of_isControl (notControl_of_forall₂ h line hline) (by decide)
    · simp [List.mem_singleton.1 hline]
  have houtput : (String.ofList (join ['\n'] lines) ++ "\n").toList = join ['\n'] (lines ++ [[]]) := by
    rw [join_append hne (by simp)]
    simp [join]
  have hkept : rows.filter (fun row => row ≠ []) = rows :=
    List.filter_eq_self.2 fun row hrow => decide_eq_true (hrows row hrow)
  rw [readRows, houtput, fields_join hbreak (by simp), List.map_append, map_tokens_of_forall₂ h,
    List.filter_append, hkept]
  simp

/-! ### Tables with two columns -/

namespace Table

theorem isRule_eq_false {row : List String} (h : ∀ text ∈ row, IsClean text.toList) :
    isRule row = false := by
  rw [isRule, Bool.eq_false_iff, ne_eq, List.contains_iff_mem]
  intro hmem
  have hclean := h ruleCell (List.mem_of_mem_take hmem)
  exact absurd hclean (by decide)

/-- Texts without control characters take one line each. -/
theorem multiline_eq_false {table : Table}
    (h : ∀ text ∈ table.headers.map String.toList ++ table.cells.flatten, ∀ c ∈ text, ¬ IsControl c) :
    table.layout.multiline = false := by
  rw [Table.layout, List.any_eq_false]
  intro c hc hreturn
  have hcontrol : IsControl c := by
    rw [isReturn, Bool.or_eq_true, decide_eq_true_eq, decide_eq_true_eq] at hreturn
    rcases hreturn with rfl | rfl <;> decide
  rcases mem_join hc with htab | ⟨text, htext, hc⟩
  · obtain rfl := List.mem_singleton.1 htab
    exact absurd hreturn (by decide)
  · exact h text htext c hc hcontrol

theorem columnsOf_pairs (pairs : List (String × String)) :
    columnsOf 2 (pairs.map fun e => [e.1.toList, e.2.toList]) =
      [pairs.map fun e => e.1.toList, pairs.map fun e => e.2.toList] := by
  have hrange : List.range 2 = [0, 1] := rfl
  simp [columnsOf, hrange]

theorem placeRules_eq_flatten {rule : List Char} {body : List (List String)}
    {lines : List (List (List Char))} (h : ∀ row ∈ body, isRule row = false)
    (hlength : lines.length = body.length) : placeRules rule body lines = lines.flatten := by
  induction body generalizing lines with
  | nil => rw [List.length_eq_zero_iff.1 hlength]; rfl
  | cons row body ih =>
    obtain ⟨hrow, hbody⟩ := List.forall_mem_cons.1 h
    cases lines with
    | nil => cases hlength
    | cons first lines =>
      rw [placeRules, if_neg (by simp [hrow])]
      simp only [List.flatten_cons, ih hbody (Nat.succ.inj hlength)]

/-- Results for two items are the results of each. -/
theorem exists_of_mapM_pair {α β : Type} {f : α → Option β} {x y : α} {results : List β}
    (h : [x, y].mapM f = some results) : ∃ u v, f x = some u ∧ f y = some v ∧ results = [u, v] := by
  simp only [List.mapM_cons, List.mapM_nil] at h
  obtain ⟨u, hu, h⟩ := Option.bind_eq_some_iff.1 h
  obtain ⟨others, hothers, h⟩ := Option.bind_eq_some_iff.1 h
  obtain ⟨v, hv, hothers⟩ := Option.bind_eq_some_iff.1 hothers
  obtain rfl := Option.some.inj hothers
  exact ⟨u, v, hu, hv, (Option.some.inj h).symm⟩

/-- The lines of the rows of two columns, each of which takes one. -/
theorem map_bodyLines_pair {α : Type} {items : List α} {f g : α → List Char} {first second : Printed}
    (hlayout : layout.multiline = false) (hfirst : first.cells = items.map f)
    (hsecond : second.cells = items.map g) (widths : List Nat) :
    ((List.range items.length).map fun i =>
        bodyLines layout widths ([first, second].map fun column => (column.cells[i]?).getD [])) =
      items.map fun item => [tableLine [f item, g item]] := by
  refine List.ext_getElem (by simp) fun i hi hi' => ?_
  have hlt : i < items.length := by simpa using hi'
  simp [bodyLines, hlayout, hfirst, hsecond, List.getElem?_eq_getElem hlt]

section Pairs

variable {a b : String} {pairs : List (String × String)}
  (hpairs : ∀ e ∈ pairs, IsClean e.1.toList ∧ IsClean e.2.toList)

include hpairs

theorem isRule_pair : ∀ row ∈ pairs.map fun e => [e.1, e.2], isRule row = false := by
  intro row hrow
  obtain ⟨e, he, rfl⟩ := List.mem_map.1 hrow
  exact isRule_eq_false (by simpa using hpairs e he)

/-- No row of clean cells is a rule. -/
theorem cells_pairs :
    (Table.mk [a, b] (pairs.map fun e => [e.1, e.2])).cells =
      pairs.map fun e => [e.1.toList, e.2.toList] := by
  have hall : pairs.filter (fun e => !isRule [e.1, e.2]) = pairs := by
    refine List.filter_eq_self.2 fun e he => ?_
    rw [isRule_pair hpairs _ (List.mem_map_of_mem he)]
    rfl
  rw [cells_map, hall]
  rfl

theorem multiline_pairs (ha : IsClean a.toList) (hb : IsClean b.toList) :
    (Table.mk [a, b] (pairs.map fun e => [e.1, e.2])).layout.multiline = false := by
  refine multiline_eq_false fun text htext => ?_
  rw [cells_pairs hpairs, List.mem_append] at htext
  rcases htext with htext | htext
  · simp only [List.map_cons, List.map_nil, List.mem_cons, List.not_mem_nil, or_false] at htext
    rcases htext with rfl | rfl
    · exact ha.notControl
    · exact hb.notControl
  · obtain ⟨row, hrow, htext⟩ := List.mem_flatten.1 htext
    obtain ⟨e, he, rfl⟩ := List.mem_map.1 hrow
    simp only [List.mem_cons, List.not_mem_nil, or_false] at htext
    rcases htext with rfl | rfl
    · exact (hpairs e he).1.notControl
    · exact (hpairs e he).2.notControl

/-- The lines of a table with two columns of clean cells: the header, a rule, and the forms of the cells. -/
theorem exists_forall₂_isLine {lines : List (List Char)} (ha : IsClean a.toList) (hb : IsClean b.toList)
    (h : (Table.mk [a, b] (pairs.map fun e => [e.1, e.2])).lines? = some lines) :
    ∃ left right, 0 < left ∧ 0 < right ∧ List.Forall₂ IsLine lines
      ([a.toList, b.toList] :: [List.replicate left '-', List.replicate right '-'] ::
        pairs.map fun e => [(columnOf (pairs.map fun e => e.1.toList)).form e.1.toList,
          (columnOf (pairs.map fun e => e.2.toList)).form e.2.toList]) := by
  have hlayout := multiline_pairs hpairs ha hb
  generalize htable : Table.mk [a, b] (pairs.map fun e => [e.1, e.2]) = table at h hlayout
  have hcells : table.cells = pairs.map fun e => [e.1.toList, e.2.toList] := htable ▸ cells_pairs hpairs
  have hbody : table.body = pairs.map fun e => [e.1, e.2] := htable ▸ rfl
  have hcolumns : table.headers.zip (columnsOf table.headers.length table.cells) =
      [(a, pairs.map fun e => e.1.toList), (b, pairs.map fun e => e.2.toList)] := by
    have hheaders : table.headers = [a, b] := htable ▸ rfl
    rw [hcells, hheaders]
    exact congrArg (List.zip [a, b]) (columnsOf_pairs pairs)
  rw [lines?] at h
  obtain ⟨columns, hprinted, h⟩ := Option.bind_eq_some_iff.1 h
  rw [hcolumns] at hprinted
  obtain ⟨first, second, hfirst, hsecond, rfl⟩ := exists_of_mapM_pair hprinted
  obtain ⟨padFirst, pad, hpadFirst, hpad, hleft, hheader, hforms⟩ :=
    exists_isPadding_printColumn? hlayout (List.forall_mem_map.2 fun e he => (hpairs e he).1) hfirst
  obtain ⟨padSecond, pad', hpadSecond, hpad', hright, hheader', hforms'⟩ :=
    exists_isPadding_printColumn? hlayout (List.forall_mem_map.2 fun e he => (hpairs e he).2) hsecond
  have hid : IsPadding id := ⟨fun _ => rfl, fun _ _ => .inl⟩
  obtain rfl := Option.some.inj h
  refine ⟨first.width, second.width, hleft, hright, .cons ?_ (.cons ?_ ?_)⟩
  · rw [List.map_cons, List.map_singleton, hheader, hheader']
    exact isLine_tableLine hpadFirst hpadSecond ha hb
  · exact isLine_tableLine hid hid (isClean_replicate_dash hleft) (isClean_replicate_dash hright)
  · rw [List.map_map] at hforms hforms'
    have hcount : table.cells.length = pairs.length := by rw [hcells, List.length_map]
    rw [placeRules_eq_flatten (hbody ▸ isRule_pair hpairs) (by simp [hbody, hcount]), hcount,
      map_bodyLines_pair hlayout hforms hforms', ← List.flatMap_def, ← List.map_eq_flatMap,
      List.forall₂_map_left_iff, List.forall₂_map_right_iff, List.forall₂_same]
    intro e he
    exact isLine_tableLine hpad hpad' (isClean_form (hpairs e he).1) (isClean_form (hpairs e he).2)

/-- A table with two columns of clean texts is not printed exactly if a truth value stands among decimal numbers. -/
theorem render?_pairs_eq_none_iff :
    (Table.mk [a, b] (pairs.map fun e => [e.1, e.2])).render? = none ↔
      TruthAmongDecimals (pairs.map (·.1)) ∨ TruthAmongDecimals (pairs.map (·.2)) := by
  have hfirst : ∀ text ∈ pairs.map (·.1), IsClean text.toList :=
    List.forall_mem_map.2 fun e he => (hpairs e he).1
  have hsecond : ∀ text ∈ pairs.map (·.2), IsClean text.toList :=
    List.forall_mem_map.2 fun e he => (hpairs e he).2
  rw [Table.render?_eq_none_iff, cells_pairs hpairs, ← truthAmongNumbers_iff hfirst,
    ← truthAmongNumbers_iff hsecond]
  have hcolumns := columnsOf_pairs pairs
  simp only [List.length_cons, List.length_nil, Nat.zero_add, Nat.reduceAdd, hcolumns, List.mem_cons,
    List.not_mem_nil, or_false, exists_eq_or_imp, exists_eq_left, List.map_map, Function.comp_def]

/-- What is read of a table with two columns of clean cells: the header, a rule, and the texts as they are shown
among the others of their columns. -/
theorem printsAs_of_render? {text : String} (ha : IsClean a.toList) (hb : IsClean b.toList)
    (h : (Table.mk [a, b] (pairs.map fun e => [e.1, e.2])).render? = some text) :
    escapeChar ∉ text.toList ∧ PrintsAs (text ++ "\n") a b
      (pairs.map fun e => [shownAmong (pairs.map (·.1)) e.1, shownAmong (pairs.map (·.2)) e.2]) := by
  obtain ⟨lines, hlines, rfl⟩ := Option.map_eq_some_iff.1 h
  obtain ⟨left, right, hleft, hright, hrows⟩ := exists_forall₂_isLine hpairs ha hb hlines
  have hne : lines ≠ [] := by
    rintro rfl
    cases hrows
  constructor
  · rw [String.toList_ofList]
    intro hmem
    rcases mem_join hmem with hbreak | ⟨line, hline, hmem⟩
    · exact absurd hbreak (by decide)
    · exact notMem_of_isControl (notControl_of_forall₂ hrows line hline) (by decide) hmem
  · refine ⟨left, right, hleft, hright, ?_⟩
    have hfirst : ∀ text ∈ pairs.map (·.1), IsClean text.toList :=
      List.forall_mem_map.2 fun e he => (hpairs e he).1
    have hsecond : ∀ text ∈ pairs.map (·.2), IsClean text.toList :=
      List.forall_mem_map.2 fun e he => (hpairs e he).2
    replace hfirst := ofList_form hfirst
    replace hsecond := ofList_form hsecond
    rw [readRows_of_forall₂ hrows ?_ hne]
    · simp only [List.map_map, Function.comp_def] at hfirst hsecond
      simp [dashes, hfirst, hsecond, List.map_map, Function.comp_def]
    · simp only [List.forall_mem_cons, List.forall_mem_map]
      exact ⟨List.cons_ne_nil _ _, List.cons_ne_nil _ _, fun _ _ => List.cons_ne_nil _ _⟩

end Pairs

end Table

end Lookup
