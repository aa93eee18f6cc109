import GridStore.Proofs.Workbook.Found
import GridStore.Proofs.Workbook.Listings

/-!
# Well-formed workbooks

Rows are written into columns that have names, and a header only grows; a column gets a position
within its worksheet, and a worksheet a title that its sheet does not have yet. So in every workbook
that requests lead to, no cell of a row is out of sight: a row is shown with all its cells, under
the position at which it stands.

## Main definitions

* `StoredWorksheet.WellFormed`, `Workbook.WellFormed`: what every request keeps.
* `StoredWorksheet.Shows`: whether a row is shown as it is stored.
* `Request.shownRows`: the rows in an answer.
* `BookStep`, `Workbook.run`: requests one after another.

## Main results

* `Workbook.WellFormed.answer`, `Workbook.WellFormed.run`: requests keep a workbook well formed.
* `Workbook.WellFormed.shows`: the rows in the answers of a well-formed workbook.
* `Workbook.run_empty_wellFormed`: both, for the workbooks that requests lead to.
-/

namespace GridStore

/-! ### Worksheets -/

namespace StoredWorksheet

variable {ws : StoredWorksheet} {cells : Cells} {now : Instant}

/-- Whether all cells of a worksheet stand in columns, and its columns have positions from 1 to
their greatest number and names. -/
structure WellFormed (ws : StoredWorksheet) : Prop where
  liesIn : ∀ row ∈ ws.rows, row.LiesIn ws
  header : ∀ column ∈ ws.header.entries,
    1 ≤ column.1 ∧ column.1 ≤ ws.colCount ∧ column.2.name ≠ ""

theorem wellFormed_new (id title : String) (now : Instant) (rowCount colCount : Nat) :
    WellFormed ⟨id, title, now, rowCount, colCount, .empty, []⟩ where
  liesIn _ hrow := nomatch hrow
  header _ hcolumn := nomatch hcolumn

section

variable (h : ws.WellFormed)

include h

theorem wellFormed_appended (hknows : ws.Knows cells) : (ws.appended cells now).WellFormed :=
  ⟨liesIn_appended h.liesIn hknows, h.header⟩

theorem wellFormed_overwritten (index : Nat) (hknows : ws.Knows cells) :
    (ws.overwritten index cells now).WellFormed :=
  ⟨liesIn_overwritten h.liesIn index hknows, h.header⟩

theorem wellFormed_without (index : Nat) : (ws.without index now).WellFormed :=
  ⟨liesIn_without h.liesIn index, h.header⟩

theorem wellFormed_named {name : String} {col : Nat}
    (husable : name ≠ "" ∧ col ≠ 0 ∧ col ≤ ws.colCount) (hfree : ws.header.get? col = none) :
    (ws.named name col now).WellFormed where
  liesIn := liesIn_named h.liesIn hfree
  header column hcolumn := by
    obtain ⟨hname, hcol, hle⟩ := husable
    rcases Dictionary.mem_put hcolumn with rfl | hold
    · exact ⟨Nat.one_le_iff_ne_zero.2 hcol, hle, hname⟩
    · exact h.header column hold

end

/-! ### Shown rows -/

/-- Whether a row is shown as it is stored: its identity is the position at which it stands, and it
has the cells of the stored row and no others. -/
def Shows (ws : StoredWorksheet) (raw : RawRow) : Prop :=
  ∃ position row, 1 ≤ position ∧ ws.rows[position - 1]? = some row ∧ raw.id = countText position ∧
    ∀ name text, (name, text) ∈ raw.cells ↔ row.cells.get? name = some text

theorem mem_cells_rawRow {position : Nat} {row : StoredRow} {name text : String} :
    (name, text) ∈ (ws.rawRow position row).cells ↔
      name ∈ ws.columnNames ∧ row.cells.get? name = some text := by
  simp only [rawRow, List.mem_filterMap, Option.map_eq_some_iff, Prod.mk.injEq]
  constructor
  · rintro ⟨column, hcolumn, cell, hcell, rfl, rfl⟩
    exact ⟨hcolumn, hcell⟩
  · rintro ⟨hname, htext⟩
    exact ⟨name, hname, text, htext, rfl, rfl⟩

/-- A row whose cells stand in columns is shown as it is stored. -/
theorem shows_rawRow {position : Nat} {row : StoredRow} (hcells : row.LiesIn ws)
    (hposition : 1 ≤ position) (hrow : ws.rows[position - 1]? = some row) :
    ws.Shows (ws.rawRow position row) := by
  refine ⟨position, row, hposition, hrow, rfl, fun name text => ?_⟩
  rw [mem_cells_rawRow]
  exact ⟨And.right, fun htext => ⟨hcells name (Dictionary.mem_keys_of_get? htext), htext⟩⟩

/-- The row that an insertion answers with is the last one of the worksheet. -/
theorem shows_appended (hknows : ws.Knows cells) :
    (ws.appended cells now).Shows (ws.rawRow (ws.rows.length + 1) ⟨now, .ofList cells⟩) := by
  have hrow : (ws.appended cells now).rows[ws.rows.length]? = some ⟨now, .ofList cells⟩ :=
    List.getElem?_concat_length
  have hlies : StoredRow.LiesIn ⟨now, .ofList cells⟩ (ws.appended cells now) :=
    liesIn_of_knows hknows
  exact shows_rawRow hlies (Nat.le_add_left ..) hrow

/-- The row that an update answers with stands where the old one stood. -/
theorem shows_overwritten {id : String} {index : Nat} (hindex : ws.rowIndex? id = some index)
    (hknows : ws.Knows cells) :
    (ws.overwritten index cells now).Shows (ws.rawRow (index + 1) ⟨now, .ofList cells⟩) := by
  have hrow : (ws.overwritten index cells now).rows[index]? = some ⟨now, .ofList cells⟩ :=
    List.getElem?_set_self (rowIndex?_eq_some_iff.1 hindex).2
  have hlies : StoredRow.LiesIn ⟨now, .ofList cells⟩ (ws.overwritten index cells now) :=
    liesIn_of_knows hknows
  exact shows_rawRow hlies (Nat.le_add_left ..) hrow

/-- The rows that a query accepts are shown as they are stored. -/
theorem WellFormed.shows_queryRows (h : ws.WellFormed) {query : RowQuery} {engine : QueryEngine}
    {rows : List RawRow} (hrows : ws.queryRows query engine = .ok rows) {raw : RawRow}
    (hraw : raw ∈ rows) : ws.Shows raw := by
  obtain ⟨accepted, numbered, -, harranged, rfl⟩ := queryRows_eq_ok_iff.1 hrows
  obtain ⟨⟨position, row⟩, hselected, rfl⟩ := List.mem_map.1 hraw
  obtain ⟨hposition, hrow⟩ := mem_numberedRows.1 (mem_numberedRows_of_arrange harranged hselected)
  exact shows_rawRow (h.liesIn row (List.mem_of_getElem? hrow)) hposition hrow

end StoredWorksheet

/-! ### Workbooks -/

namespace Workbook

variable {book book' : Workbook} {sheetId title newId : String} {now : Instant}

/-- Whether all worksheets of a workbook are well formed, and those of one sheet have different
titles. -/
structure WellFormed (book : Workbook) : Prop where
  worksheets : ∀ sheetId ws, book.Stores sheetId ws → ws.WellFormed
  titles : ∀ sheetId, ((book.worksheetsOf sheetId).map StoredWorksheet.title).Nodup

theorem wellFormed_empty : empty.WellFormed where
  worksheets _ _ := fun ⟨_, hsheet, _⟩ => nomatch hsheet
  titles _ := List.nodup_nil

/-- The titles of the worksheets of a sheet are those in its list. -/
theorem map_title_listing (book : Workbook) (sheetId : String) :
    (book.listing sheetId).map WorksheetInfo.title =
      (book.worksheetsOf sheetId).map StoredWorksheet.title := by
  rw [listing, List.map_map]
  rfl

/-! ### What requests keep -/

/-- A change keeps the worksheets well formed if it keeps the one that it changes well formed. -/
theorem wellFormed_of_stores_changeWorksheet {α : Type} {info : WorksheetInfo}
    {change : StoredWorksheet → Except Refusal (α × StoredWorksheet)}
    (hbook : ∀ sheetId ws, book.Stores sheetId ws → ws.WellFormed)
    (hchange : ∀ ws a ws', change ws = .ok (a, ws') → ws.WellFormed → ws'.WellFormed)
    {ws : StoredWorksheet} (h : (book.changeWorksheet info change).2.Stores sheetId ws) :
    ws.WellFormed := by
  rcases stores_changeWorksheet h with hold | ⟨-, old, a, hfind, hresult⟩
  · exact hbook sheetId ws hold
  · exact hchange old a ws hresult (hbook _ old (stores_of_worksheet? hfind).1)

/-- The worksheets that are stored after a request are well formed. -/
theorem wellFormed_of_stores_answer (hbook : ∀ sheetId ws, book.Stores sheetId ws → ws.WellFormed)
    (now : Instant) (newId : String) (engine : QueryEngine) (request : Request)
    {ws : StoredWorksheet} (h : (book.answer now newId engine request).2.Stores sheetId ws) :
    ws.WellFormed := by
  cases request with
  | sheetInfo | queryRows | queryFields =>
    rw [answer_of_isRead book now newId engine rfl] at h
    exact hbook sheetId ws h
  | createWorksheet sheet title size =>
    rcases stores_createWorksheet h with hold | ⟨-, -, rfl⟩
    · exact hbook sheetId ws hold
    · exact StoredWorksheet.wellFormed_new ..
  | dropWorksheet sheet worksheet => exact hbook sheetId ws (stores_dropWorksheet h)
  | insertRow info cells =>
    refine wellFormed_of_stores_changeWorksheet hbook (fun ws raw ws' hok hws => ?_) h
    obtain ⟨hknows, -, rfl⟩ := StoredWorksheet.insertRow_eq_ok_iff.1 hok
    exact StoredWorksheet.wellFormed_appended hws hknows
  | updateRow info id cells =>
    refine wellFormed_of_stores_changeWorksheet hbook (fun ws raw ws' hok hws => ?_) h
    obtain ⟨index, -, hknows, -, rfl⟩ := StoredWorksheet.updateRow_eq_ok_iff.1 hok
    exact StoredWorksheet.wellFormed_overwritten hws index hknows
  | deleteRow info id =>
    refine wellFormed_of_stores_changeWorksheet hbook (fun ws u ws' hok hws => ?_) h
    obtain ⟨index, -, rfl⟩ := StoredWorksheet.deleteRow_eq_ok_iff.1 hok
    exact StoredWorksheet.wellFormed_without hws index
  | createField info name col =>
    refine wellFormed_of_stores_changeWorksheet hbook (fun ws u ws' hok hws => ?_) h
    obtain ⟨husable, hfree, rfl⟩ := StoredWorksheet.createField_eq_ok_iff.1 hok
    exact StoredWorksheet.wellFormed_named hws husable hfree

/-- A worksheet is created only with a title that its sheet does not have. -/
theorem nodup_titles_createWorksheet
    (hbook : ∀ sheetId, ((book.worksheetsOf sheetId).map StoredWorksheet.title).Nodup)
    (size : WorksheetSize) (other : String) :
    (((book.createWorksheet sheetId title size now newId).2.worksheetsOf other).map
      StoredWorksheet.title).Nodup := by
  cases htitled : book.titled? sheetId title with
  | some ws =>
    have hrefused := createWorksheet_of_taken htitled size now newId
    rcases hresult : book.createWorksheet sheetId title size now newId with ⟨result, book'⟩
    rw [hresult] at hrefused
    cases hrefused
    rw [createWorksheet_of_refused hresult]
    exact hbook other
  | none =>
    obtain ⟨info, book', sheet, hcreated, hsheet, hworksheets⟩ :=
      exists_createWorksheet_of_free htitled size now newId
    rw [hcreated]
    by_cases hother : other = sheetId
    · rw [hother, worksheetsOf_of_get? hsheet, hworksheets, List.map_append, List.nodup_append]
      refine ⟨hbook sheetId, List.pairwise_singleton .., fun old hold new hnew heq => ?_⟩
      obtain ⟨ws, hws, rfl⟩ := List.mem_map.1 hold
      exact titled?_eq_none_iff.1 htitled ws hws (heq.trans (List.mem_singleton.1 hnew))
    · have hsame : book'.worksheetsOf other = book.worksheetsOf other := by
        rw [worksheetsOf, (confined_createWorksheet hcreated).sheets other hother, worksheetsOf]
      rw [hsame]
      exact hbook other

theorem worksheetsOf_dropWorksheet_sublist (book : Workbook) (sheetId worksheetId other : String) :
    ((book.dropWorksheet sheetId worksheetId).2.worksheetsOf other).Sublist
      (book.worksheetsOf other) := by
  rw [dropWorksheet]
  split
  · exact .refl _
  · rename_i sheet hsheet
    simp only
    split
    · exact .refl _
    · by_cases hother : other = sheetId
      · rw [hother, worksheetsOf_insert, worksheetsOf_of_get? hsheet]
        exact List.filter_sublist
      · have hsame := book.worksheetsOf_insert_of_ne hother
          { sheet with worksheets := sheet.worksheets.filter fun ws => ws.id != worksheetId }
        exact hsame ▸ .refl _

/-- The titles after a request are those of before, less one that was dropped or with a new one. -/
theorem nodup_titles_answer
    (hbook : ∀ sheetId, ((book.worksheetsOf sheetId).map StoredWorksheet.title).Nodup)
    (now : Instant) (newId : String) (engine : QueryEngine) (request : Request) (sheetId : String) :
    (((book.answer now newId engine request).2.worksheetsOf sheetId).map
      StoredWorksheet.title).Nodup := by
  have hlisting (hrequest : request.isRead = true ∨ ∃ info, request.rewrites? = some info) :
      (((book.answer now newId engine request).2.worksheetsOf sheetId).map
        StoredWorksheet.title).Nodup := by
    rw [← map_title_listing, listing_answer hrequest, map_title_listing]
    exact hbook sheetId
  cases request with
  | sheetInfo | queryRows | queryFields => exact hlisting (.inl rfl)
  | insertRow | updateRow | deleteRow | createField => exact hlisting (.inr ⟨_, rfl⟩)
  | createWorksheet sheet title size => exact nodup_titles_createWorksheet hbook size sheetId
  | dropWorksheet sheet worksheet =>
    exact ((worksheetsOf_dropWorksheet_sublist book sheet worksheet sheetId).map _).nodup
      (hbook sheetId)

/-- A request keeps a workbook well formed. -/
theorem WellFormed.answer (h : book.WellFormed) (now : Instant) (newId : String)
    (engine : QueryEngine) (request : Request) :
    (book.answer now newId engine request).2.WellFormed where
  worksheets _ _ := wellFormed_of_stores_answer h.worksheets now newId engine request
  titles := nodup_titles_answer h.titles now newId engine request

/-- A sheet that is registered has no worksheets of its own. -/
theorem WellFormed.addSheet (h : book.WellFormed) (sheetId title : String) (now : Instant) :
    (book.addSheet sheetId title now).WellFormed where
  worksheets other ws hws := h.worksheets other ws (stores_addSheet hws)
  titles other := by
    by_cases hother : other = sheetId
    · rw [hother, worksheetsOf_addSheet]
      exact h.titles sheetId
    · rw [worksheetsOf, get?_addSheet_of_ne book hother, ← worksheetsOf]
      exact h.titles other

end Workbook

/-! ### Rows in answers -/

namespace Request

/-- The worksheet whose rows a request asks for or writes. -/
def rowsOf? : Request → Option WorksheetInfo
  | queryRows info _ => some info
  | insertRow info _ => some info
  | updateRow info .. => some info
  | _ => none

/-- The rows in an answer to a request. -/
def shownRows : (request : Request) → request.Answer → List RawRow
  | queryRows .., rows => rows
  | insertRow .., row => [row]
  | updateRow .., row => [row]
  | _, _ => []

end Request

namespace Workbook

variable {book book' : Workbook} {newId : String} {now : Instant}

/-- A well-formed workbook shows all rows in its answers as they are stored after the request. -/
theorem WellFormed.shows (h : book.WellFormed) {engine : QueryEngine} {request : Request}
    {a : request.Answer} (hok : book.answer now newId engine request = (.ok a, book'))
    {raw : RawRow} (hraw : raw ∈ request.shownRows a) :
    ∃ info ws, request.rowsOf? = some info ∧ book'.worksheet? info = some ws ∧ ws.Shows raw := by
  cases request with
  | queryRows info query =>
    obtain ⟨⟨ws, hws, hrows⟩, rfl⟩ := readWorksheet_eq_ok_iff.1 hok
    have hwellFormed := h.worksheets _ ws (stores_of_worksheet? hws).1
    exact ⟨info, ws, rfl, hws, hwellFormed.shows_queryRows hrows hraw⟩
  | insertRow info cells =>
    obtain rfl := List.mem_singleton.1 hraw
    obtain ⟨ws, ws', hws, hresult, rfl⟩ := exists_of_changeWorksheet hok
    obtain ⟨hknows, rfl, rfl⟩ := StoredWorksheet.insertRow_eq_ok_iff.1 hresult
    exact ⟨info, _, rfl, worksheet?_setWorksheet hws rfl, StoredWorksheet.shows_appended hknows⟩
  | updateRow info id cells =>
    obtain rfl := List.mem_singleton.1 hraw
    obtain ⟨ws, ws', hws, hresult, rfl⟩ := exists_of_changeWorksheet hok
    obtain ⟨index, hindex, hknows, rfl, rfl⟩ := StoredWorksheet.updateRow_eq_ok_iff.1 hresult
    exact ⟨info, _, rfl, worksheet?_setWorksheet hws rfl,
      StoredWorksheet.shows_overwritten hindex hknows⟩
  | _ => cases hraw

end Workbook

/-! ### Runs -/

/-- A step of a run: a sheet is registered, or a request is answered. -/
inductive BookStep where
  | register (sheetId title : String) (now : Instant)
  | request (now : Instant) (newId : String) (engine : QueryEngine) (request : Request)

namespace Workbook

/-- The workbook after a step. -/
def step (book : Workbook) : BookStep → Workbook
  | .register sheetId title now => book.addSheet sheetId title now
  | .request now newId engine request => (book.answer now newId engine request).2

/-- The workbook after steps. -/
def run (book : Workbook) (steps : List BookStep) : Workbook := steps.foldl step book

/-- Any steps keep a workbook well formed. -/
theorem WellFormed.run {book : Workbook} (h : book.WellFormed) (steps : List BookStep) :
    (book.run steps).WellFormed := by
  induction steps generalizing book with
  | nil => exact h
  | cons step rest ih =>
    refine @ih (book.step step) ?_
    cases step with
    | register sheetId title now => exact h.addSheet sheetId title now
    | request now newId engine request => exact h.answer now newId engine request

/-- Every workbook that steps lead to from the empty one is well formed, and every row in its
answers is shown with all its cells under its position. -/
theorem run_empty_wellFormed (steps : List BookStep) :
    (empty.run steps).WellFormed ∧
      ∀ (now : Instant) (newId : String) (engine : QueryEngine) (request : Request)
        (a : request.Answer) (book' : Workbook),
        (empty.run steps).answer now newId engine request = (.ok a, book') →
        ∀ raw ∈ request.shownRows a, ∃ info ws, request.rowsOf? = some info ∧
          book'.worksheet? info = some ws ∧ ws.Shows raw :=
  have h := wellFormed_empty.run steps
  ⟨h, fun _ _ _ _ _ _ hok _ hraw => h.shows hok hraw⟩

/-- Requests that create a worksheet with a column and write a row into it. -/
def sampleSteps : List BookStep :=
  [.createWorksheet "s1" "rows" {}, .createField firstInfo "a" 1,
    .insertRow firstInfo [("a", "5")]].map (.request sampleTime "W1" { evaluates := true })

/-- The row of a worksheet that requests lead to is shown as it is stored. -/
theorem run_empty_wellFormed_row : (empty.run sampleSteps).WellFormed ∧ ∃ raw book',
    (empty.run sampleSteps).answer sampleTime "W2" { evaluates := true }
        (.queryRows firstInfo {}) = (.ok [raw], book') ∧
      ∃ ws, book'.worksheet? firstInfo = some ws ∧ ws.Shows raw := by
  obtain ⟨hwellFormed, hshows⟩ := run_empty_wellFormed sampleSteps
  have hrows : ((empty.run sampleSteps).answer sampleTime "W2"
      { evaluates := true } (.queryRows firstInfo {})).1.toOption =
        some [⟨"1", sampleTime.cellText, [("a", "5")]⟩] := by decide +kernel
  rcases hanswer : (empty.run sampleSteps).answer sampleTime "W2" { evaluates := true }
      (.queryRows firstInfo {}) with ⟨refusal | rows, book'⟩ <;> rw [hanswer] at hrows <;>
    cases hrows
  obtain ⟨info, ws, hinfo, hws, hraw⟩ := hshows _ _ _ _ _ _ hanswer _ (List.mem_singleton_self _)
  cases hinfo
  exact ⟨hwellFormed, _, book', rfl, ws, hws, hraw⟩

end Workbook

end GridStore
