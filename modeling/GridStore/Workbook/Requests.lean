import GridStore.Workbook.Basic

/-!
# Requests to a workbook

How a workbook answers requests. Row writes and new column names stamp the worksheet with the
current time, new worksheets stamp the sheet, and dropping a worksheet stamps nothing.

## Main definitions

* `RowQuery.arrange`: rows in the order that a query demands.
* `StoredWorksheet.queryRows`, `insertRow`, `updateRow`, `deleteRow`, `createField`: requests to one
  worksheet.
* `Workbook.addSheet`, `createWorksheet`, `dropWorksheet`: requests to a sheet.
* `Workbook.answer`: the answer to a request and the workbook after it.
-/

namespace GridStore

/-! ### One worksheet -/

/-- Rows in the order that a query demands, unless sorting them breaks off. -/
def RowQuery.arrange (query : RowQuery) (sorter : Sorter (Nat × StoredRow))
    (rows : List (Nat × StoredRow)) : Option (List (Nat × StoredRow)) :=
  let sorted := match query.sort with
    | none => some rows
    | some column =>
      sorter.sort (fun (_, a) (_, b) => compareCells (a.cell column) (b.cell column)) rows
  sorted.map fun rows => if query.descending then rows.reverse else rows

namespace StoredWorksheet

/-- The rows that a query accepts, with their positions. -/
def acceptedRows (ws : StoredWorksheet) (accepted : Option Query) : List (Nat × StoredRow) :=
  ws.numberedRows.filter fun (_, row) => accepted.all (·.accepts row.cell)

/-- The answer to a query of rows. An engine that does not evaluate queries accepts all rows. -/
def queryRows (ws : StoredWorksheet) (query : RowQuery) (engine : QueryEngine) :
    Except Refusal (List RawRow) := do
  let accepted ←
    if engine.evaluates then (Query.read query.query).mapError .invalidQuery else pure none
  match query.arrange engine.sorter (ws.acceptedRows accepted) with
  | none => throw .brokenOff
  | some rows => return rows.map fun (n, row) => ws.rawRow n row

/-- Refuses cells outside of the columns. -/
def checkColumns (ws : StoredWorksheet) (cells : Cells) : Except Refusal Unit :=
  match ws.unknownColumn? cells with
  | some name => .error (.unknownColumn name)
  | none => .ok ()

/-- The worksheet with a row added at its end, and that row. -/
def insertRow (ws : StoredWorksheet) (cells : Cells) (now : Instant) :
    Except Refusal (RawRow × StoredWorksheet) := do
  ws.checkColumns cells
  let row : StoredRow := ⟨now, .ofList cells⟩
  return (ws.rawRow (ws.rows.length + 1) row, { ws with rows := ws.rows ++ [row], updated := now })

/-- The worksheet with the row of an identity replaced, and that row. -/
def updateRow (ws : StoredWorksheet) (id : String) (cells : Cells) (now : Instant) :
    Except Refusal (RawRow × StoredWorksheet) := do
  match ws.rowIndex? id with
  | none => throw .missingRow
  | some index =>
    ws.checkColumns cells
    let row : StoredRow := ⟨now, .ofList cells⟩
    return (ws.rawRow (index + 1) row, { ws with rows := ws.rows.set index row, updated := now })

/-- The worksheet without the row of an identity. -/
def deleteRow (ws : StoredWorksheet) (id : String) (now : Instant) :
    Except Refusal (Unit × StoredWorksheet) :=
  match ws.rowIndex? id with
  | none => .error .missingRow
  | some index => .ok ((), { ws with rows := ws.rows.eraseIdx index, updated := now })

/-- The worksheet with a column named. -/
def createField (ws : StoredWorksheet) (name : String) (col : Nat) (now : Instant) :
    Except Refusal (Unit × StoredWorksheet) :=
  if name = "" ∨ col = 0 ∨ ws.colCount < col then
    .error (.unusableColumn col ws.colCount name)
  else if ws.header.contains col then
    .error .occupiedColumn
  else
    .ok ((), { ws with header := ws.header.insert col ⟨name, now⟩, updated := now })

end StoredWorksheet

/-! ### Sheets -/

/-- Replaces the first element that satisfies a condition. -/
def replaceFirst {α : Type} (condition : α → Bool) (new : α) : List α → List α
  | [] => []
  | x :: rest => if condition x then new :: rest else x :: replaceFirst condition new rest

namespace Workbook

/-- The workbook with a sheet registered. A sheet that is registered stays as it is. -/
def addSheet (book : Workbook) (sheetId title : String) (now : Instant) : Workbook :=
  if book.sheets.contains sheetId then book
  else ⟨book.sheets.insert sheetId ⟨title, now, [], []⟩⟩

/-- Creates a worksheet, in a new sheet if there is none with the identity. Its title must be new in
the sheet. -/
def createWorksheet (book : Workbook) (sheetId title : String) (size : WorksheetSize)
    (now : Instant) (newId : String) : Except Refusal WorksheetInfo × Workbook :=
  let book := book.addSheet sheetId sheetId now
  match book.sheets.get? sheetId with
  | none => (.error .missingSheet, book)
  | some sheet =>
    if sheet.worksheets.any fun ws => ws.title == title then
      (.error .duplicateTitle, book)
    else
      let ws : StoredWorksheet := ⟨newId, title, now, size.rows, size.cols, .empty, []⟩
      let sheet := { sheet with worksheets := sheet.worksheets ++ [ws], updated := now }
      (.ok (ws.info sheetId), ⟨book.sheets.insert sheetId sheet⟩)

/-- Drops the worksheet with an identity. -/
def dropWorksheet (book : Workbook) (sheetId worksheetId : String) :
    Except Refusal Unit × Workbook :=
  match book.sheets.get? sheetId with
  | none => (.error .missingSheet, book)
  | some sheet =>
    let rest := sheet.worksheets.filter fun ws => ws.id != worksheetId
    if rest.length = sheet.worksheets.length then
      (.error .missingWorksheet, book)
    else
      (.ok (), ⟨book.sheets.insert sheetId { sheet with worksheets := rest }⟩)

/-! ### Worksheets -/

/-- The worksheet that a description names. -/
def worksheet? (book : Workbook) (info : WorksheetInfo) : Option StoredWorksheet :=
  (book.sheets.get? info.sheetId).bind fun sheet =>
    sheet.worksheets.find? fun ws => ws.id == info.worksheetId

/-- The workbook with the worksheet that a description names replaced. -/
def setWorksheet (book : Workbook) (info : WorksheetInfo) (ws : StoredWorksheet) : Workbook :=
  match book.sheets.get? info.sheetId with
  | none => book
  | some sheet =>
    let worksheets := replaceFirst (fun ws => ws.id == info.worksheetId) ws sheet.worksheets
    ⟨book.sheets.insert info.sheetId { sheet with worksheets }⟩

/-- The answer of the worksheet that a description names. -/
def readWorksheet {α : Type} (book : Workbook) (info : WorksheetInfo)
    (read : StoredWorksheet → Except Refusal α) : Except Refusal α × Workbook :=
  match book.worksheet? info with
  | none => (.error .missingWorksheet, book)
  | some ws => (read ws, book)

/-- The answer of the worksheet that a description names, and the workbook with the worksheet
changed. -/
def changeWorksheet {α : Type} (book : Workbook) (info : WorksheetInfo)
    (change : StoredWorksheet → Except Refusal (α × StoredWorksheet)) :
    Except Refusal α × Workbook :=
  match book.worksheet? info with
  | none => (.error .missingWorksheet, book)
  | some ws =>
    match change ws with
    | .error refusal => (.error refusal, book)
    | .ok (a, ws) => (.ok a, book.setWorksheet info ws)

/-! ### All requests -/

/-- The answer to a request, and the workbook after it. A new worksheet gets the given identity. -/
def answer (now : Instant) (newId : String) (engine : QueryEngine) (request : Request)
    (book : Workbook) : Except Refusal request.Answer × Workbook :=
  match request with
  | .sheetInfo sheetId =>
    match book.sheets.get? sheetId with
    | none => (.error .missingSheet, book)
    | some sheet => (.ok (sheet.info sheetId), book)
  | .createWorksheet sheetId title size => book.createWorksheet sheetId title size now newId
  | .dropWorksheet sheetId worksheetId => book.dropWorksheet sheetId worksheetId
  | .queryRows info query => book.readWorksheet info fun ws => ws.queryRows query engine
  | .insertRow info cells => book.changeWorksheet info fun ws => ws.insertRow cells now
  | .updateRow info id cells => book.changeWorksheet info fun ws => ws.updateRow id cells now
  | .deleteRow info id => book.changeWorksheet info fun ws => ws.deleteRow id now
  | .queryFields info => book.readWorksheet info fun ws => .ok ws.fieldCells
  | .createField info name col =>
    book.changeWorksheet info fun ws => ws.createField name col now

end Workbook

end GridStore
