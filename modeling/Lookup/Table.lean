import Lookup.Number.Loose
import Lookup.Number.Shortest
import Lookup.Text.Lines
import Lookup.Text.Terminal

/-!
# Tables of text

A table is printed with a header over each column and a rule below. What a column holds decides how
its cells are printed: whole numbers as they stand and to the right, other numbers in six digits and
with their points below each other, everything else to the left. A cell with several lines takes
several lines of the table.

## Main definitions

* `Column`, `columnOf` — what a column holds
* `reshape?` — a cell in the form that its column asks for
* `alignColumn` — the cells of a column, filled up to one width
* `Table`, `Table.render?` — tables and their text
-/

namespace Lookup

open Number Text

/-! ### What columns hold -/

/-- What a column holds, from the narrowest to the widest. -/
inductive Column where
  /-- Truth values. -/
  | truths
  /-- Whole numbers. -/
  | wholes
  /-- Numbers. -/
  | numbers
  /-- Texts. -/
  | texts
  deriving DecidableEq, Repr

/-- How wide a column is among the others. -/
def Column.rank : Column → Nat
  | .truths => 0
  | .wholes => 1
  | .numbers => 2
  | .texts => 3

/-- The wider of two columns. -/
def Column.join (a b : Column) : Column := if a.rank < b.rank then b else a

/-- The words for an infinity or not-a-number that count as numbers in a cell. -/
def specialWords : List String := ["inf", "-inf", "nan"]

/-- Whether a cell is a number. -/
def isNumber (cell : List Char) : Bool :=
  match looseFloat? cell with
  | none => false
  | some (.finite _ _ _) => true
  | some _ => specialWords.contains (String.ofList (cell.map Char.toLower))

/-- Whether a cell is a whole number. -/
def isWhole (cell : List Char) : Bool := (looseWhole? 10 cell).isSome

/-- Whether a cell is a truth value. -/
def isTruth (cell : List Char) : Bool :=
  ["True", "False"].contains (String.ofList cell)

/-- The narrowest column that a cell fits into. -/
def columnOfCell (cell : List Char) : Column :=
  let cell := shown cell
  if isTruth cell then .truths
  else if isWhole cell then .wholes
  else if isNumber cell then .numbers
  else .texts

/-- The narrowest column that cells fit into. -/
def columnOf (cells : List (List Char)) : Column :=
  (cells.map columnOfCell).foldl Column.join .truths

/-- Whether a column is aligned to the right. -/
def Column.isRight : Column → Bool
  | .wholes | .numbers => true
  | .truths | .texts => false

/-! ### Cells -/

/-- The text with every occurrence of `old` replaced, its first `skip` characters left out. -/
def replaceAfter (old new : List Char) (skip : Nat) : List Char → List Char
  | [] => []
  | c :: rest =>
    match skip with
    | skip + 1 => replaceAfter old new skip rest
    | 0 =>
      if old.isPrefixOf (c :: rest) then new ++ replaceAfter old new (old.length - 1) rest
      else c :: replaceAfter old new 0 rest

/-- A cell in the form that its column asks for: a number is written in six digits among numbers. There
is no such form of a truth value among numbers. -/
def reshape? (column : Column) (cell : List Char) : Option (List Char) :=
  match column with
  | .numbers =>
    let number := shown cell
    (looseFloat? number).map fun value => replaceAfter number value.shortText.toList 0 cell
  | _ => some cell

/-- The place of the last character of a kind, counted from the end. -/
def placeFromEnd? (mark : Char → Bool) (text : List Char) : Option Nat := text.reverse.findIdx? mark

/-- The number of places that a cell takes behind the last digit before its point or exponent, and
none for a cell without them. -/
def placesBehind (cell : List Char) : Nat :=
  if isWhole cell || !isNumber cell then 0
  else
    match placeFromEnd? (fun c => c = '.') cell with
    | some places => places + 1
    | none =>
      match placeFromEnd? (fun c => c = 'e' || c = 'E') cell with
      | some places => places + 1
      | none => 0

/-- The greatest number of a list; zero if there is none. -/
def greatest (numbers : List Nat) : Nat := numbers.foldl max 0

/-- Cells made to have the same number of places behind the point. -/
def levelPoints (cells : List (List Char)) : List (List Char) :=
  let places := cells.map fun cell => placesBehind (shown cell)
  cells.map fun cell =>
    cell ++ List.replicate (greatest places - placesBehind (shown cell)) ' '

/-- A line filled up to so many characters. -/
def fill (right : Bool) (width : Nat) (line : List Char) : List Char :=
  let blanks := List.replicate (width - line.length) ' '
  if right then blanks ++ line else line ++ blanks

/-- A line filled up to so many characters beside those that are not shown of `like`. -/
def fillLike (right : Bool) (width : Nat) (like line : List Char) : List Char :=
  fill right (width + (like.length - (shown like).length)) line

/-- The width of a cell of several lines. -/
def cellWidth (cell : List Char) : Nat := greatest ((rows cell).map fun row => (shown row).length)

/-- How the cells of a table are laid out. -/
structure Layout where
  /-- Whether some cell has several lines. -/
  multiline : Bool
  /-- Whether some cell holds a control sequence. -/
  controlled : Bool

/-- The width of a cell. -/
def Layout.width (layout : Layout) (cell : List Char) : Nat :=
  if layout.multiline then cellWidth cell else (shown cell).length

/-- The lines of a cell, each filled up to a width. -/
def fillLines (controlled right : Bool) (width : Nat) (cell : List Char) : List (List Char) :=
  if controlled then (lines cell).zipWith (fun line row => fillLike right width row line) (rows cell)
  else (lines cell).map (fill right width)

/-- A cell filled up to a width. -/
def Layout.fill (layout : Layout) (right : Bool) (width : Nat) (cell : List Char) : List Char :=
  if layout.multiline then join ['\n'] (fillLines layout.controlled right width cell)
  else fillLike right width cell cell

/-- The cells of a column, filled up to the width of the widest one and at least to `least`. -/
def alignColumn (layout : Layout) (column : Column) (least : Nat) (cells : List (List Char)) :
    List (List Char) :=
  let cells := if column.isRight then levelPoints cells else cells.map strip
  let width := max (greatest (cells.map layout.width)) least
  cells.map (layout.fill column.isRight width)

/-! ### Tables -/

/-- A table: the headers, and rows of as many cells. -/
structure Table where
  headers : List String
  body : List (List String)

/-- The cell that makes a rule of its row when it is the first or the second one. -/
def ruleCell : String := "\x01"

/-- Whether a row is printed as a rule. -/
def isRule (row : List String) : Bool := (row.take 2).contains ruleCell

/-- The gap between columns. -/
def columnGap : List Char := [' ', ' ']

/-- A line of a table. -/
def tableLine (cells : List (List Char)) : List Char := stripEnd (join columnGap cells)

/-- The lines of a row whose cells may have several; a cell with fewer than another is followed by
blank ones. -/
def rowLines (widths : List Nat) (cells : List (List Char)) : List (List Char) :=
  let cells := cells.map lines
  let height := greatest (cells.map List.length)
  (List.range height).map fun i =>
    tableLine (cells.zipWith (fun lines width => (lines[i]?).getD (List.replicate width ' ')) widths)

/-- The columns of rows of a length. -/
def columnsOf (count : Nat) (body : List (List (List Char))) : List (List (List Char)) :=
  (List.range count).map fun i => body.map fun row => (row[i]?).getD []

/-- How far a column is wider than its header at least. -/
def headerMargin : Nat := 2

namespace Table

/-- The rows that are not rules. -/
def cells (table : Table) : List (List (List Char)) :=
  (table.body.filter fun row => !isRule row).map fun row => row.map String.toList

/-- How the cells are laid out. -/
def layout (table : Table) : Layout :=
  -- The layout is decided by all texts of the table together.
  let text := join ['\t'] (table.headers.map String.toList ++ table.cells.flatten)
  ⟨text.any isReturn, hasSequence text⟩

/-- A printed column: its header and its cells, filled up to its width. -/
structure Printed where
  width : Nat
  header : List Char
  cells : List (List Char)

/-- A printed column. There is none if a truth value stands among numbers. -/
def printColumn? (layout : Layout) (header : String) (cells : List (List Char)) : Option Printed := do
  let column := if cells = [] then .texts else columnOf cells
  let cells ← cells.mapM (reshape? column)
  -- The margin is kept even where the cells are wider than the header.
  let least := header.length + headerMargin
  let cells := alignColumn layout column least cells
  let width := max least (greatest (cells.map layout.width))
  pure ⟨width, fill column.isRight width header.toList, cells⟩

/-- The lines of a row of cells. -/
def bodyLines (layout : Layout) (widths : List Nat) (cells : List (List Char)) : List (List Char) :=
  if layout.multiline then rowLines widths cells else [tableLine cells]

/-- The lines of the rows, where `cells` has those of the rows that are no rules. -/
def placeRules (rule : List Char) : List (List String) → List (List (List Char)) → List (List Char)
  | [], _ => []
  | row :: body, cells =>
    if isRule row then rule :: placeRules rule body cells
    else
      match cells with
      | [] => []
      | lines :: cells => lines ++ placeRules rule body cells

/-- The lines of a table. There are none if a truth value stands among numbers. -/
def lines? (table : Table) : Option (List (List Char)) := do
  let layout := table.layout
  let cells := table.cells
  let columns ← (table.headers.zip (columnsOf table.headers.length cells)).mapM fun (header, column) =>
    printColumn? layout header column
  let widths := columns.map (·.width)
  let rule := tableLine (widths.map fun width => List.replicate width '-')
  let body := (List.range cells.length).map fun i =>
    bodyLines layout widths (columns.map fun column => (column.cells[i]?).getD [])
  pure (tableLine (columns.map (·.header)) :: rule :: placeRules rule table.body body)

/-- The text of a table, without a line break at its end. There is none if a truth value stands among
numbers. -/
def render? (table : Table) : Option String :=
  table.lines?.map fun lines => String.ofList (join ['\n'] lines)

end Table

end Lookup
