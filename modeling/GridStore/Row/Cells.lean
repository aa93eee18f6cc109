import GridStore.Cell.Typing
import GridStore.Row.Basic
import GridStore.Service.Sheet

/-!
# Rows and cells

The cells of a row in a sheet are texts: they are written as the texts of the fields, and read by
guessing the values.

## Main definitions

* `Row.cells`: the cells of the fields of a row.
* `Row.ofCells`, `Row.ofRaw`: the row that cells and an answer of the service describe.
-/

namespace GridStore

namespace Row

/-- The cells of the fields of a row. Metadata are no cells. -/
def cells (row : Row) : Cells := row.fields.map fun (name, value) => (name, value.cellText)

/-- The row with the values of cells, set one after another. -/
def ofCells (cells : Cells) : Row :=
  empty.setAll (cells.map fun (name, text) => (name, Cell.value text))

/-- The row in an answer to a request. It has to have an identity and a timestamp. -/
def ofRaw (operation : Operation) (raw : RawRow) : Except MalformedAnswer Row :=
  if raw.id = "" then .error (.unidentifiedRow operation)
  else match Rfc3339.read? raw.updated with
    | none => .error (.invalidTimestamp operation raw.id raw.updated)
    | some t => .ok { ofCells raw.cells with id := some raw.id, updated := some t }

end Row

end GridStore
