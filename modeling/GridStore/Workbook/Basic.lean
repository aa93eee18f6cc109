import GridStore.Dictionary
import GridStore.Query.Reader
import GridStore.Service.Request
import GridStore.Sorting

/-!
# Workbooks

A workbook holds spreadsheets, their worksheets, and the columns and rows of these. A row is known
by its position in its worksheet, from 1 on, so that the rows below a deleted one get new
identities. A row has cells only in columns that are named in the header.

## Main definitions

* `Workbook`, `StoredSheet`, `StoredWorksheet`, `HeaderCell`, `StoredRow`: what is stored.
* `StoredWorksheet.rawRow`, `StoredWorksheet.info`: how it is described.
* `Refusal`: why a request is refused.
* `QueryEngine`: how queries of rows are answered.
-/

namespace GridStore

/-- A stored row: its last change and its cells. -/
structure StoredRow where
  updated : Instant
  cells : Dictionary String String
deriving DecidableEq

/-- A stored name of a column and the time at which it was given. -/
structure HeaderCell where
  name : String
  updated : Instant
deriving DecidableEq

/-- A stored worksheet. The header gives the names of columns by their positions from 1 on. -/
structure StoredWorksheet where
  id : String
  title : String
  updated : Instant
  rowCount : Nat
  colCount : Nat
  header : Dictionary Nat HeaderCell
  rows : List StoredRow
deriving DecidableEq

/-- A stored spreadsheet. -/
structure StoredSheet where
  title : String
  updated : Instant
  authors : List Author
  worksheets : List StoredWorksheet
deriving DecidableEq

/-- Spreadsheets by their identities. -/
structure Workbook where
  sheets : Dictionary String StoredSheet
deriving DecidableEq

/-- The workbook without spreadsheets. -/
def Workbook.empty : Workbook := ⟨.empty⟩

/-! ### Refusals -/

/-- Why a workbook refuses a request, or breaks off without an answer to it. -/
inductive Refusal where
  | missingSheet
  | missingWorksheet
  | missingRow
  | duplicateTitle
  | invalidQuery (error : QueryError)
  | unknownColumn (name : String)
  | unusableColumn (col colCount : Nat) (name : String)
  | occupiedColumn
  | brokenOff

namespace Refusal

/-- The status of a refusal and what it says. A workbook that breaks off says nothing. -/
def reply? : Refusal → Option (Nat × String)
  | missingSheet => some (404, "spreadsheet not found")
  | missingWorksheet => some (404, "worksheet not found")
  | missingRow => some (404, "row not found")
  | duplicateTitle => some (400, "a worksheet with that title already exists")
  | invalidQuery e => some (400, "invalid query: " ++ e.message)
  | unknownColumn name => some (400, "unknown column " ++ name)
  | unusableColumn col colCount name =>
    some (400, "cannot name column " ++ countText col ++ " of " ++ countText colCount ++ " as " ++
      quotedText name)
  | occupiedColumn => some (409, "cell already holds a column name")
  | brokenOff => none

/-- The refusal of a request as an error. Where the worksheet is missing, the error is about the
worksheet and not about a part of it. -/
def toError (request : Request) (refusal : Refusal) : StoreError :=
  match refusal.reply? with
  | none => .brokenOff
  | some (status, detail) =>
    let context := match refusal with
      | missingWorksheet => request.target
      | _ => request.context
    .api ⟨status, request.operation, context, some detail⟩

end Refusal

/-- How queries of rows are answered: whether they are evaluated, or accept all rows, and how the
rows are sorted. -/
structure QueryEngine where
  evaluates : Bool
  sorter : Sorter (Nat × StoredRow) := .insertion

/-! ### Rows -/

/-- The text of a cell, which is empty if the row does not have it. -/
def StoredRow.cell (row : StoredRow) (column : String) : String := (row.cells.get? column).getD ""

namespace StoredWorksheet

/-- The names of the columns in the order of their positions. -/
def columnNames (ws : StoredWorksheet) : List String := ws.header.values.map HeaderCell.name

/-- A stored row at a position as it is shown: its cells in the order of the columns. -/
def rawRow (ws : StoredWorksheet) (position : Nat) (row : StoredRow) : RawRow where
  id := countText position
  updated := row.updated.cellText
  cells := ws.columnNames.filterMap fun name => (row.cells.get? name).map (name, ·)

/-- The stored rows with their positions. -/
def numberedRows (ws : StoredWorksheet) : List (Nat × StoredRow) :=
  ws.rows.zipIdx.map fun (row, index) => (index + 1, row)

/-- The index in the list of rows of the row that an identity names. -/
def rowIndex? (ws : StoredWorksheet) (id : String) : Option Nat :=
  (count? id).bind fun position =>
    if 1 ≤ position ∧ position ≤ ws.rows.length then some (position - 1) else none

/-- The first of several names that names no column. -/
def unknownColumn? (ws : StoredWorksheet) (cells : Cells) : Option String :=
  (cells.map Prod.fst).find? fun name => name ∉ ws.columnNames

/-! ### Descriptions -/

/-- The description of a worksheet of a sheet. -/
def info (ws : StoredWorksheet) (sheetId : String) : WorksheetInfo where
  sheetId := sheetId
  worksheetId := ws.id
  title := ws.title
  updated := some ws.updated
  colCount := ws.colCount
  rowCount := ws.rowCount

/-- The descriptions of the cells of the header. -/
def fieldCells (ws : StoredWorksheet) : List FieldCell :=
  ws.header.entries.map fun (col, cell) =>
    ⟨"R1C" ++ countText col, some cell.updated, cell.name, col⟩

end StoredWorksheet

/-- The description of a sheet with an identity. -/
def StoredSheet.info (sheet : StoredSheet) (sheetId : String) : SheetInfo where
  title := sheet.title
  updated := some sheet.updated
  worksheets := sheet.worksheets.map fun ws => ws.info sheetId
  authors := sheet.authors

end GridStore
