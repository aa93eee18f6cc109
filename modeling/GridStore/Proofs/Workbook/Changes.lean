import GridStore.Proofs.Time.ReadBack
import GridStore.Proofs.Row.Cells
import GridStore.Proofs.Workbook.Worksheets

/-!
# Changes of one worksheet

What each accepted change makes of a worksheet, when it is accepted, and what it keeps: the cells of
stored rows stand in columns, their last changes have plain years, and every column has a name and a
position from 1 on.

## Main definitions

* `StoredWorksheet.appended`, `StoredWorksheet.overwritten`, `StoredWorksheet.without`,
  `StoredWorksheet.named`: the worksheets after accepted changes.
* `StoredWorksheet.Sound`: what every change keeps.

## Main results

* `StoredWorksheet.insertRow_eq_ok_iff`, `updateRow_eq_ok_iff`, `deleteRow_eq_ok_iff`,
  `createField_eq_ok_iff`: when changes are accepted, and what they lead to.
-/

namespace GridStore

namespace StoredWorksheet

variable {ws ws' : StoredWorksheet} {cells : Cells} {now : Instant} {raw : RawRow}

/-! ### Accepted changes -/

/-- The worksheet with a row of cells added at its end. -/
def appended (ws : StoredWorksheet) (cells : Cells) (now : Instant) : StoredWorksheet :=
  { ws with rows := ws.rows ++ [⟨now, .ofList cells⟩], updated := now }

/-- The worksheet with the row at an index replaced by cells. -/
def overwritten (ws : StoredWorksheet) (index : Nat) (cells : Cells) (now : Instant) :
    StoredWorksheet :=
  { ws with rows := ws.rows.set index ⟨now, .ofList cells⟩, updated := now }

/-- The worksheet without the row at an index. -/
def without (ws : StoredWorksheet) (index : Nat) (now : Instant) : StoredWorksheet :=
  { ws with rows := ws.rows.eraseIdx index, updated := now }

/-- The worksheet with a column named. -/
def named (ws : StoredWorksheet) (name : String) (col : Nat) (now : Instant) : StoredWorksheet :=
  { ws with header := ws.header.insert col ⟨name, now⟩, updated := now }

/-- Whether all cells stand in columns. -/
def Knows (ws : StoredWorksheet) (cells : Cells) : Prop :=
  ∀ name ∈ cells.map Prod.fst, name ∈ ws.columnNames

theorem unknownColumn?_eq_none_iff : ws.unknownColumn? cells = none ↔ ws.Knows cells := by
  simp [unknownColumn?, Knows, List.find?_eq_none]

theorem checkColumns_of_knows (h : ws.Knows cells) : ws.checkColumns cells = .ok () := by
  rw [checkColumns, unknownColumn?_eq_none_iff.2 h]

theorem knows_of_checkColumns (h : ws.checkColumns cells = .ok ()) : ws.Knows cells := by
  rw [checkColumns] at h
  split at h
  · cases h
  · rename_i hnone
    exact unknownColumn?_eq_none_iff.1 hnone

theorem insertRow_eq_ok_iff : ws.insertRow cells now = .ok (raw, ws') ↔
    ws.Knows cells ∧ raw = ws.rawRow (ws.rows.length + 1) ⟨now, .ofList cells⟩ ∧
      ws' = ws.appended cells now := by
  rw [insertRow]
  constructor
  · intro h
    cases hcheck : ws.checkColumns cells with
    | error e => rw [hcheck] at h; cases h
    | ok u =>
      rw [hcheck] at h
      cases h
      exact ⟨knows_of_checkColumns hcheck, rfl, rfl⟩
  · rintro ⟨hknows, rfl, rfl⟩
    rw [checkColumns_of_knows hknows]
    rfl

theorem updateRow_eq_ok_iff {id : String} : ws.updateRow id cells now = .ok (raw, ws') ↔
    ∃ index, ws.rowIndex? id = some index ∧ ws.Knows cells ∧
      raw = ws.rawRow (index + 1) ⟨now, .ofList cells⟩ ∧ ws' = ws.overwritten index cells now := by
  rw [updateRow]
  cases hindex : ws.rowIndex? id with
  | none => exact ⟨nofun, fun ⟨_, h, _⟩ => nomatch h⟩
  | some index =>
    constructor
    · intro h
      cases hcheck : ws.checkColumns cells with
      | error e => rw [hcheck] at h; cases h
      | ok u =>
        rw [hcheck] at h
        cases h
        exact ⟨index, rfl, knows_of_checkColumns hcheck, rfl, rfl⟩
    · rintro ⟨found, hfound, hknows, rfl, rfl⟩
      cases hfound
      rw [checkColumns_of_knows hknows]
      rfl

theorem deleteRow_eq_ok_iff {id : String} {u : Unit} : ws.deleteRow id now = .ok (u, ws') ↔
    ∃ index, ws.rowIndex? id = some index ∧ ws' = ws.without index now := by
  rw [deleteRow]
  cases ws.rowIndex? id with
  | none => exact ⟨nofun, fun ⟨_, h, _⟩ => nomatch h⟩
  | some index =>
    constructor
    · intro h
      cases h
      exact ⟨index, rfl, rfl⟩
    · rintro ⟨found, hfound, rfl⟩
      cases hfound
      rfl

theorem createField_eq_ok_iff {name : String} {col : Nat} {u : Unit} :
    ws.createField name col now = .ok (u, ws') ↔
      (name ≠ "" ∧ col ≠ 0 ∧ col ≤ ws.colCount) ∧ ws.header.get? col = none ∧
        ws' = ws.named name col now := by
  rw [createField]
  by_cases hunusable : name = "" ∨ col = 0 ∨ ws.colCount < col
  · rw [if_pos hunusable]
    constructor
    · intro h
      cases h
    · rintro ⟨⟨hname, hcol, hle⟩, -⟩
      rcases hunusable with h | h | h
      · exact absurd h hname
      · exact absurd h hcol
      · exact absurd hle (Nat.not_le.2 h)
  · rw [if_neg hunusable]
    simp only [not_or, Nat.not_lt] at hunusable
    cases hget : ws.header.get? col with
    | none =>
      rw [Dictionary.contains, hget, if_neg (by decide)]
      constructor
      · intro h
        cases h
        exact ⟨hunusable, rfl, rfl⟩
      · rintro ⟨-, -, rfl⟩
        rfl
    | some cell =>
      rw [Dictionary.contains, hget, if_pos (by rfl)]
      constructor
      · intro h
        cases h
      · rintro ⟨-, h, -⟩
        cases h

/-! ### Kept facts -/

/-- What every change of a worksheet keeps: the cells of its rows stand in columns, the last changes
of its rows have plain years, and its columns have names and positions from 1 on. -/
structure Sound (ws : StoredWorksheet) : Prop where
  liesIn : ∀ row ∈ ws.rows, row.LiesIn ws
  plainYears : ∀ row ∈ ws.rows, row.updated.HasPlainYear
  header : ∀ column ∈ ws.header.entries, column.1 ≠ 0 ∧ column.2.name ≠ ""

theorem liesIn_of_knows (h : ws.Knows cells) : StoredRow.LiesIn ⟨now, .ofList cells⟩ ws :=
  fun name hname => h name (Dictionary.mem_keys_ofList hname)

theorem columnNames_named {name : String} {col : Nat} (hcol : ws.header.get? col = none)
    {other : String} (h : other = name ∨ other ∈ ws.columnNames) :
    other ∈ (ws.named name col now).columnNames := by
  rcases h with rfl | h
  · exact List.mem_map.2 ⟨⟨other, now⟩, Dictionary.mem_values_insert_self .., rfl⟩
  · obtain ⟨cell, hcell, rfl⟩ := List.mem_map.1 h
    exact List.mem_map_of_mem (Dictionary.mem_values_insert_of_mem hcol hcell)

section

variable (h : ∀ row ∈ ws.rows, row.LiesIn ws)

include h

theorem liesIn_appended (hknows : ws.Knows cells) :
    ∀ row ∈ (ws.appended cells now).rows, row.LiesIn (ws.appended cells now) := by
  intro row hrow
  rcases List.mem_append.1 hrow with hold | hnew
  · exact h row hold
  · rw [List.mem_singleton.1 hnew]
    exact liesIn_of_knows hknows

theorem liesIn_overwritten (index : Nat) (hknows : ws.Knows cells) :
    ∀ row ∈ (ws.overwritten index cells now).rows,
      row.LiesIn (ws.overwritten index cells now) := by
  intro row hrow
  rcases List.mem_or_eq_of_mem_set hrow with hold | rfl
  · exact h row hold
  · exact liesIn_of_knows hknows

theorem liesIn_without (index : Nat) :
    ∀ row ∈ (ws.without index now).rows, row.LiesIn (ws.without index now) :=
  fun row hrow => h row (List.mem_of_mem_eraseIdx hrow)

/-- Rows that were written before a column was named stand in the columns after it as well. -/
theorem liesIn_named {name : String} {col : Nat} (hfree : ws.header.get? col = none) :
    ∀ row ∈ (ws.named name col now).rows, row.LiesIn (ws.named name col now) :=
  fun row hrow other hother => columnNames_named hfree (.inr (h row hrow other hother))

end

theorem sound_appended (h : ws.Sound) (hknows : ws.Knows cells) (hnow : now.HasPlainYear) :
    (ws.appended cells now).Sound where
  liesIn := liesIn_appended h.liesIn hknows
  plainYears row hrow := by
    rcases List.mem_append.1 hrow with hold | hnew
    · exact h.plainYears row hold
    · rw [List.mem_singleton.1 hnew]
      exact hnow
  header := h.header

theorem sound_overwritten (h : ws.Sound) (index : Nat) (hknows : ws.Knows cells)
    (hnow : now.HasPlainYear) : (ws.overwritten index cells now).Sound where
  liesIn := liesIn_overwritten h.liesIn index hknows
  plainYears row hrow := by
    rcases List.mem_or_eq_of_mem_set hrow with hold | rfl
    · exact h.plainYears row hold
    · exact hnow
  header := h.header

theorem sound_without (h : ws.Sound) (index : Nat) (now : Instant) :
    (ws.without index now).Sound where
  liesIn := liesIn_without h.liesIn index
  plainYears row hrow := h.plainYears row (List.mem_of_mem_eraseIdx hrow)
  header := h.header

theorem sound_named (h : ws.Sound) {name : String} {col : Nat} (hname : name ≠ "") (hcol : col ≠ 0)
    (hfree : ws.header.get? col = none) : (ws.named name col now).Sound where
  liesIn := liesIn_named h.liesIn hfree
  plainYears := h.plainYears
  header column hcolumn := by
    rcases Dictionary.mem_put hcolumn with rfl | hold
    · exact ⟨hcol, hname⟩
    · exact h.header column hold

theorem sound_new (id title : String) (now : Instant) (rowCount colCount : Nat) :
    Sound ⟨id, title, now, rowCount, colCount, .empty, []⟩ where
  liesIn _ hrow := nomatch hrow
  plainYears _ hrow := nomatch hrow
  header _ hcolumn := nomatch hcolumn

end StoredWorksheet

end GridStore
