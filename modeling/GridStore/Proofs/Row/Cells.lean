import GridStore.Proofs.Cell.Typing
import GridStore.Proofs.Row.Fields
import GridStore.Workbook.Basic

/-!
# Stored rows as a client sees them

A worksheet shows the cells of a row that stand in named columns, and a client types each of them.

## Main definitions

* `StoredRow.ShownAs`: whether a row has the typed values of the cells of a stored row.

## Main results

* `Row.field?_ofCells_rawRow`: the field of a shown row is the typed cell of the column.
* `StoredRow.shownAs_of_ofRaw`: a client that reads a stored row sees its typed cells.
-/

namespace GridStore

/-! ### Fields of shown rows -/

namespace Row

/-- Setting the typed cells of some columns sets the fields of these columns that have cells. -/
theorem field?_setAll_shown (texts : String → Option String) (columns : List String) (row : Row)
    (name : String) :
    (row.setAll ((columns.filterMap fun column => (texts column).map (column, ·)).map
        fun (column, text) => (column, Cell.value text))).field? name =
      if name ∈ columns then ((texts name).map Cell.value).or (row.field? name)
      else row.field? name := by
  induction columns generalizing row with
  | nil => rfl
  | cons column rest ih =>
    cases htext : texts column with
    | none =>
      rw [List.filterMap_cons_none (by rw [htext]; rfl), ih row]
      by_cases hname : name = column
      · subst hname
        simp [htext]
      · simp [hname]
    | some text =>
      rw [List.filterMap_cons_some (by rw [htext]; rfl), List.map_cons, setAll_cons, ih, field?_set]
      by_cases hname : name = column
      · subst hname
        simp [htext]
      · simp [hname, Ne.symm hname]

/-- The field of a shown row is the typed cell of the column with its name. -/
theorem field?_ofCells_rawRow (ws : StoredWorksheet) (position : Nat) (row : StoredRow)
    (name : String) :
    (ofCells (ws.rawRow position row).cells).field? name =
      if name ∈ ws.columnNames then (row.cells.get? name).map Cell.value else none := by
  rw [ofCells, StoredWorksheet.rawRow, field?_setAll_shown]
  simp [empty, field?, Entries.get?]

end Row

/-! ### Reading a stored row -/

namespace StoredRow

/-- Whether a row has the typed values of all cells of a stored row, and no other fields. -/
def ShownAs (row : StoredRow) (shown : Row) : Prop :=
  ∀ name, shown.field? name = (row.cells.get? name).map Cell.value

/-- Whether all cells of a stored row stand in columns of a worksheet. -/
def LiesIn (row : StoredRow) (ws : StoredWorksheet) : Prop :=
  ∀ name ∈ row.cells.keys, name ∈ ws.columnNames

instance (row : StoredRow) (ws : StoredWorksheet) : Decidable (row.LiesIn ws) :=
  inferInstanceAs (Decidable (∀ name ∈ row.cells.keys, name ∈ ws.columnNames))

theorem shownAs_ofCells {ws : StoredWorksheet} {row : StoredRow} (h : row.LiesIn ws)
    (position : Nat) : row.ShownAs (Row.ofCells (ws.rawRow position row).cells) := by
  intro name
  rw [Row.field?_ofCells_rawRow]
  split
  case isTrue => rfl
  case isFalse hname =>
    cases hcell : row.cells.get? name with
    | none => rfl
    | some text => exact absurd (h name (Dictionary.mem_keys_of_get? hcell)) hname

/-- A client that reads a stored row sees the typed values of its cells. -/
theorem shownAs_of_ofRaw {ws : StoredWorksheet} {row : StoredRow} (h : row.LiesIn ws)
    {operation : Operation} {position : Nat} {shown : Row}
    (hread : Row.ofRaw operation (ws.rawRow position row) = .ok shown) : row.ShownAs shown := by
  rw [Row.ofRaw] at hread
  split at hread
  · cases hread
  · split at hread
    · cases hread
    · cases hread
      exact shownAs_ofCells h position

end StoredRow

end GridStore
