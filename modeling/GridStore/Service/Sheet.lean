import GridStore.Json.Record
import GridStore.Time.Instant

/-!
# What the service knows of a spreadsheet

Descriptions of spreadsheets, worksheets, columns and rows as the service gives them. All cells are
texts.

## Main definitions

* `SheetInfo`, `WorksheetInfo`, `Author`, `FieldCell`, `RawRow`.
* `WorksheetSize`: the size that a new worksheet should have.
* `RowQuery`: which rows are wanted, and in which order.
-/

namespace GridStore

/-- The text of each named cell of a row. -/
abbrev Cells := List (String × String)

/-- A description of a worksheet. -/
structure WorksheetInfo where
  sheetId : String
  worksheetId : String
  title : String
  updated : Option Instant
  colCount : Nat
  rowCount : Nat
deriving DecidableEq

/-- The worksheet in messages. -/
def WorksheetInfo.describe (info : WorksheetInfo) : String :=
  "sheet=" ++ info.sheetId ++ " worksheet=" ++ info.worksheetId

/-- An author of a spreadsheet. -/
structure Author where
  name : String
  email : String
deriving DecidableEq

/-- A description of a spreadsheet. -/
structure SheetInfo where
  title : String
  updated : Option Instant
  worksheets : List WorksheetInfo
  authors : List Author
deriving DecidableEq

/-- A cell of the header row, which names a column by its position from 1 on. -/
structure FieldCell where
  id : String
  updated : Option Instant
  cell : String
  col : Nat
deriving DecidableEq

/-- A row with its identity, the time of its last change, and its cells. -/
structure RawRow where
  id : String
  updated : String
  cells : Cells
deriving DecidableEq

/-! ### Sizes of new worksheets -/

/-- The size that a new worksheet should have. -/
structure WorksheetSize where
  rowCount : Option Nat := none
  colCount : Option Nat := none
deriving DecidableEq

namespace WorksheetSize

/-- No worksheet has fewer rows or columns. -/
def least : Nat := 10

/-- The number of rows, 5000 unless another one is wanted. -/
def rows (size : WorksheetSize) : Nat := max (size.rowCount.getD 5000) least

/-- The number of columns, 50 unless another one is wanted. -/
def cols (size : WorksheetSize) : Nat := max (size.colCount.getD 50) least

/-- The size that a document describes. -/
def ofWritten? (document : WrittenJson) : Option WorksheetSize := do
  let record ← document.record? [⟨"row_count", .null⟩, ⟨"col_count", .null⟩]
  return {
    rowCount := ← record.required? "row_count" (·.optional? (·.natural?))
    colCount := ← record.required? "col_count" (·.optional? (·.natural?)) }

end WorksheetSize

/-! ### Queries of rows -/

/-- Which rows are wanted: those that a structured query accepts, all if it is blank, ordered by a
column, and in reverse if they are to descend. -/
structure RowQuery where
  query : String := ""
  sort : Option String := none
  descending : Bool := false
deriving DecidableEq

namespace RowQuery

/-- The parameters of a request for rows. -/
def params (q : RowQuery) : String :=
  (if q.query = "" then "" else "&sq=" ++ q.query) ++
    (match q.sort with
      | none => ""
      | some column => "&orderby=column:" ++ column) ++
    (if q.descending then "&reverse=true" else "")

/-- The query that a document describes. -/
def ofWritten? (document : WrittenJson) : Option RowQuery := do
  let record ← document.record? [⟨"query", .refused⟩, ⟨"sort", .null⟩, ⟨"descending", .refused⟩]
  return {
    query := ← record.required? "query" (·.string?)
    sort := ← record.required? "sort" (·.optional? (·.string?))
    descending := ← record.required? "descending" (·.flag?) }

end RowQuery

end GridStore
