import GridStore.Json.Reader
import GridStore.Json.Record
import GridStore.Time.Rfc3339
import GridStore.Workbook.Basic

/-!
# Workbooks as documents

A workbook is stored as a JSON document. Timestamps are written with as many digits as they need,
and the positions of columns are keys in decimal digits.

## Main definitions

* `Workbook.toJson`: the document of a workbook.
* `Workbook.ofWritten?`: the workbook that a document describes.
* `Workbook.text`, `Workbook.read?`: the text of the document.
-/

namespace GridStore

/-! ### Writing -/

/-- The document of a timestamp. -/
def Instant.toJson (t : Instant) : Json := .text (t.text .shortest)

/-- The document of an author. -/
def Author.toJson (author : Author) : Json :=
  .object [("name", .text author.name), ("email", .text author.email)]

/-- The document of a header cell. -/
def HeaderCell.toJson (cell : HeaderCell) : Json :=
  .object [("name", .text cell.name), ("updated", cell.updated.toJson)]

/-- The document of a stored row. -/
def StoredRow.toJson (row : StoredRow) : Json :=
  .object [
    ("updated", row.updated.toJson),
    ("cells", .object (row.cells.entries.map fun (name, text) => (name, .text text)))]

/-- The document of a worksheet. -/
def StoredWorksheet.toJson (ws : StoredWorksheet) : Json :=
  .object [
    ("id", .text ws.id),
    ("title", .text ws.title),
    ("updated", ws.updated.toJson),
    ("row_count", .number (.integer ws.rowCount)),
    ("col_count", .number (.integer ws.colCount)),
    ("header", .object (ws.header.entries.map fun (col, cell) => (countText col, cell.toJson))),
    ("rows", .array (ws.rows.map StoredRow.toJson))]

/-- The document of a sheet. -/
def StoredSheet.toJson (sheet : StoredSheet) : Json :=
  .object [
    ("title", .text sheet.title),
    ("updated", sheet.updated.toJson),
    ("authors", .array (sheet.authors.map Author.toJson)),
    ("worksheets", .array (sheet.worksheets.map StoredWorksheet.toJson))]

/-- The document of a workbook. -/
def Workbook.toJson (book : Workbook) : Json :=
  .object [("sheets", .object (book.sheets.entries.map fun (id, sheet) => (id, sheet.toJson)))]

/-! ### Reading -/

/-- The timestamp that a document writes. -/
def Instant.ofWritten? (document : WrittenJson) : Option Instant :=
  document.string?.bind Rfc3339.readLenient?

/-- The dictionary that an object describes, with keys and values read one after another. -/
def Dictionary.ofWritten? {κ α : Type} [Ord κ] [Std.TransOrd κ] [Std.LawfulEqOrd κ]
    (key? : JsonText → Option κ) (value? : WrittenJson → Option α) :
    WrittenJson → Option (Dictionary κ α)
  | .object fields => do
    let entries ← fields.mapM fun (key, value) => do return (← key? key, ← value? value)
    return ofList entries
  | _ => none

/-- The position of a column that a key writes: plain digits without a leading zero. -/
def columnOfKey? (key : JsonText) : Option Nat := do
  let digits ← key.plain?
  let col ← countOfDigits? digits.toList
  if countText col = digits then some col else none

/-- The author that a document describes. -/
def Author.ofWritten? (document : WrittenJson) : Option Author := do
  let record ← document.record? [⟨"name", .refused⟩, ⟨"email", .refused⟩]
  return {
    name := ← record.required? "name" (·.string?)
    email := ← record.required? "email" (·.string?) }

/-- The header cell that a document describes. -/
def HeaderCell.ofWritten? (document : WrittenJson) : Option HeaderCell := do
  let record ← document.record? [⟨"name", .refused⟩, ⟨"updated", .refused⟩]
  return {
    name := ← record.required? "name" (·.string?)
    updated := ← record.required? "updated" Instant.ofWritten? }

/-- The stored row that a document describes. -/
def StoredRow.ofWritten? (document : WrittenJson) : Option StoredRow := do
  let record ← document.record? [⟨"updated", .refused⟩, ⟨"cells", .refused⟩]
  return {
    updated := ← record.required? "updated" Instant.ofWritten?
    cells := ← record.required? "cells"
      (Dictionary.ofWritten? JsonText.decode? (·.string?)) }

/-- The worksheet that a document describes. -/
def StoredWorksheet.ofWritten? (document : WrittenJson) : Option StoredWorksheet := do
  let record ← document.record?
    [⟨"id", .refused⟩, ⟨"title", .refused⟩, ⟨"updated", .refused⟩, ⟨"row_count", .refused⟩,
      ⟨"col_count", .refused⟩, ⟨"header", .default⟩, ⟨"rows", .default⟩]
  return {
    id := ← record.required? "id" (·.string?)
    title := ← record.required? "title" (·.string?)
    updated := ← record.required? "updated" Instant.ofWritten?
    rowCount := ← record.required? "row_count" (·.natural?)
    colCount := ← record.required? "col_count" (·.natural?)
    header := ← record.defaulted? "header"
      (Dictionary.ofWritten? columnOfKey? HeaderCell.ofWritten?) .empty
    rows := ← record.defaulted? "rows" (·.listOf? StoredRow.ofWritten?) [] }

/-- The sheet that a document describes. -/
def StoredSheet.ofWritten? (document : WrittenJson) : Option StoredSheet := do
  let record ← document.record?
    [⟨"title", .refused⟩, ⟨"updated", .refused⟩, ⟨"authors", .default⟩, ⟨"worksheets", .default⟩]
  return {
    title := ← record.required? "title" (·.string?)
    updated := ← record.required? "updated" Instant.ofWritten?
    authors := ← record.defaulted? "authors" (·.listOf? Author.ofWritten?) []
    worksheets := ← record.defaulted? "worksheets"
      (·.listOf? StoredWorksheet.ofWritten?) [] }

/-- The workbook that a document describes. -/
def Workbook.ofWritten? (document : WrittenJson) : Option Workbook := do
  let record ← document.record? [⟨"sheets", .refused⟩]
  return ⟨← record.required? "sheets"
    (Dictionary.ofWritten? JsonText.decode? StoredSheet.ofWritten?)⟩

/-! ### Text -/

namespace Workbook

/-- The text in which a workbook is stored. -/
def text (book : Workbook) : String := book.toJson.indented

/-- The workbook that a stored text describes. A key of a record that is given twice is a fault. -/
def read? (text : String) : Option Workbook := (WrittenJson.read? text).bind ofWritten?

end Workbook

end GridStore
