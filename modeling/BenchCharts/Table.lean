import BenchCharts.Decimal.Fixed
import BenchCharts.Text.Blank
import BenchCharts.Text.Width

/-!
Plain-text tables: one row for each tick, one column for each series, aligned by display width.
-/

namespace BenchCharts.Table

open Text

structure Column where
  header : String
  values : List Float

def missing : List Char := ['-']

/-- Values have two decimal places. -/
def cellText (x : Float) : List Char :=
  if x.isNaN then missing else Decimal.fixedText 2 x

def Column.cells (column : Column) : List (List Char) :=
  column.values.map cellText

/-- The cell of a row; a column may be too short. -/
def Column.cell (column : Column) (row : Nat) : List Char :=
  (column.values[row]?.map cellText).getD missing

def blanks (n : Nat) : List Char :=
  List.replicate n ' '

def padLeft (s : List Char) (n : Nat) : List Char :=
  blanks (n - width s) ++ s

def padRight (s : List Char) (n : Nat) : List Char :=
  s ++ blanks (n - width s)

def maxWidth (texts : List (List Char)) : Nat :=
  texts.foldl (fun n s => max n (width s)) 0

def Column.width (column : Column) : Nat :=
  maxWidth (column.header.toList :: column.cells)

def separator : List Char := [' ', ' ']

/-- A line of the table: a first cell and one of each column. -/
def layoutRow (firstWidth : Nat) (first : List Char) (cells : List (List Char × Nat)) :
    List Char :=
  trimEnd (padRight first firstWidth ++ cells.flatMap fun (cell, w) => separator ++ padLeft cell w)

def tableLines (title xHeader : String) (ticks : List String) (columns : List Column) :
    List (List Char) :=
  let firstWidth := maxWidth (xHeader.toList :: ticks.map String.toList)
  let sized := columns.map fun c => (c, c.width)
  let row := fun (tick : String) (i : Nat) =>
    layoutRow firstWidth tick.toList (sized.map fun (c, w) => (c.cell i, w))
  [title.toList, List.replicate (width title.toList) '-',
    layoutRow firstWidth xHeader.toList (sized.map fun (c, w) => (c.header.toList, w))] ++
    ticks.zipIdx.map fun (tick, i) => row tick i

/-- A table with its title; every line ends with a line feed. -/
def render (title xHeader : String) (ticks : List String) (columns : List Column) : String :=
  String.ofList ((tableLines title xHeader ticks columns).flatMap (· ++ ['\n']))

end BenchCharts.Table
