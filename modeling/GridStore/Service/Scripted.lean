import GridStore.Service.Request

/-!
# A service with given answers

A service whose answers are given beforehand. Every sheet has one worksheet, and all changes are
accepted without effect. It shows what happens to answers that no workbook gives.

## Main definitions

* `ScriptedSheets`: the service.
-/

namespace GridStore

/-- The rows of every query, the header cells of every worksheet, and the answer to every write of a
row. -/
structure ScriptedSheets where
  rows : List RawRow
  fields : List FieldCell
  reply : RawRow

namespace ScriptedSheets

/-- The worksheet of every sheet. -/
def worksheet (sheetId : String) : WorksheetInfo where
  sheetId := sheetId
  worksheetId := "w0"
  title := "rows"
  updated := none
  colCount := 50
  rowCount := 5000

/-- The given answer to a request. -/
def answerTo (service : ScriptedSheets) : (request : Request) → request.Answer
  | .sheetInfo sheetId => ⟨"Scripted", none, [worksheet sheetId], []⟩
  | .createWorksheet sheetId _ _ => worksheet sheetId
  | .dropWorksheet .. => ()
  | .queryRows .. => service.rows
  | .insertRow .. => service.reply
  | .updateRow .. => service.reply
  | .deleteRow .. => ()
  | .queryFields .. => service.fields
  | .createField .. => ()

instance : Service ScriptedSheets :=
  ⟨fun _ request service => (.ok (service.answerTo request), service)⟩

end ScriptedSheets

end GridStore
