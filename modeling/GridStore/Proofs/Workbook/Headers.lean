import GridStore.Client.Batch
import GridStore.Proofs.Workbook.Changes

/-!
# Headers that grow at their ends

A header is in order if its columns stand at the positions from 1 on without a gap, and have names
that are usable and different from each other. Only the request for a column touches a header. It is
accepted after the last column or not at all if it comes with the next position as a machine word.

## Main definitions

* `StoredWorksheet.HeaderInOrder`: whether the header of a worksheet is in order.
* `Workbook.HeadersInOrder`: whether all headers of a workbook are in order.
* `Workbook.ColumnsGrow`: whether the worksheets of a workbook have only got columns at the end.

## Main results

* `StoredWorksheet.headerInOrder_named`: a header stays in order if a new name is set after the last
  column.
* `StoredWorksheet.createField_next_eq_ok`: where the next column is accepted.
* `Workbook.headersGrow_answer`: every other request to a worksheet leaves the headers in order.
-/

namespace GridStore

namespace StoredWorksheet

variable {ws ws' : StoredWorksheet} {name : String} {now : Instant}

/-! ### One header -/

/-- Whether the columns of a worksheet stand at the positions from 1 on, and have usable and
different names. -/
structure HeaderInOrder (ws : StoredWorksheet) : Prop where
  positions : ws.header.keys = List.range' 1 ws.columnNames.length
  within : ws.columnNames.length ≤ ws.colCount
  distinct : ws.columnNames.Nodup
  usable : ∀ name ∈ ws.columnNames, isColumnName name = true

theorem headerInOrder_new (id title : String) (rowCount colCount : Nat) :
    HeaderInOrder ⟨id, title, now, rowCount, colCount, .empty, []⟩ :=
  ⟨rfl, Nat.zero_le _, List.nodup_nil, nofun⟩

/-- A worksheet with the same header has its header in order as well. -/
theorem HeaderInOrder.congr (h : ws.HeaderInOrder) (hheader : ws'.header = ws.header)
    (hcount : ws'.colCount = ws.colCount) : ws'.HeaderInOrder := by
  have hnames : ws'.columnNames = ws.columnNames := by rw [columnNames, hheader, columnNames]
  exact ⟨by rw [hheader, hnames, h.positions], by rw [hnames, hcount]; exact h.within,
    hnames ▸ h.distinct, hnames ▸ h.usable⟩

/-- The next column comes after all columns of a header in order. -/
theorem HeaderInOrder.lt_next (h : ws.HeaderInOrder) {column : Nat × HeaderCell}
    (hcolumn : column ∈ ws.header.entries) :
    compare column.1 (ws.columnNames.length + 1) = .lt := by
  have hkey : column.1 ∈ ws.header.keys := List.mem_map_of_mem hcolumn
  rw [h.positions, List.mem_range'_1] at hkey
  exact Nat.compare_eq_lt.2 (by omega)

theorem HeaderInOrder.entries_named (h : ws.HeaderInOrder) (name : String) (now : Instant) :
    (ws.named name (ws.columnNames.length + 1) now).header.entries =
      ws.header.entries ++ [(ws.columnNames.length + 1, ⟨name, now⟩)] :=
  Dictionary.entries_insert_of_lt _ fun _ => h.lt_next

/-- The next column has its name after all others. -/
theorem HeaderInOrder.columnNames_named (h : ws.HeaderInOrder) (name : String) (now : Instant) :
    (ws.named name (ws.columnNames.length + 1) now).columnNames = ws.columnNames ++ [name] := by
  rw [columnNames, Dictionary.values, h.entries_named, List.map_append, List.map_append]
  rfl

/-- A header stays in order if a new and usable name is set after the last column. -/
theorem headerInOrder_named (h : ws.HeaderInOrder) (husable : isColumnName name = true)
    (hnew : name ∉ ws.columnNames) (hwithin : ws.columnNames.length + 1 ≤ ws.colCount) :
    (ws.named name (ws.columnNames.length + 1) now).HeaderInOrder where
  positions := by
    rw [h.columnNames_named, Dictionary.keys, h.entries_named, List.map_append, List.length_append,
      List.length_singleton, List.range'_1_concat, ← h.positions, Nat.add_comm 1]
    rfl
  within := by
    rw [h.columnNames_named, List.length_append]
    exact hwithin
  distinct := by
    rw [h.columnNames_named, List.nodup_append]
    refine ⟨h.distinct, List.pairwise_singleton .., fun old hold new hmem heq => hnew ?_⟩
    rw [← List.mem_singleton.1 hmem, ← heq]
    exact hold
  usable other hother := by
    rw [h.columnNames_named] at hother
    rcases List.mem_append.1 hother with hold | hmem
    · exact h.usable other hold
    · rw [List.mem_singleton.1 hmem]
      exact husable

/-- The position after the last column, as a machine word, is where a column is accepted, or no
column is accepted there. -/
theorem createField_next_eq_ok (h : ws.HeaderInOrder) {u : Unit}
    (hok : ws.createField name ((ws.columnNames.length + 1) % wordBound) now = .ok (u, ws')) :
    ws.columnNames.length + 1 ≤ ws.colCount ∧
      ws' = ws.named name (ws.columnNames.length + 1) now := by
  obtain ⟨⟨-, hpositive, hwithin⟩, hfree, hws'⟩ := createField_eq_ok_iff.1 hok
  have hnext : (ws.columnNames.length + 1) % wordBound = ws.columnNames.length + 1 := by
    rcases Nat.lt_or_eq_of_le (Nat.mod_le (ws.columnNames.length + 1) wordBound) with hlt | heq
    · -- a position that has wrapped around is that of a column
      have hkey : (ws.columnNames.length + 1) % wordBound ∈ ws.header.keys := by
        rw [h.positions, List.mem_range'_1]
        omega
      have hsome := Dictionary.isSome_get?_of_mem_keys hkey
      rw [hfree] at hsome
      cases hsome
    · exact heq
  rw [hnext] at hwithin hws'
  exact ⟨hwithin, hws'⟩

end StoredWorksheet

namespace Workbook

variable {book book' book'' : Workbook} {info : WorksheetInfo} {ws ws' : StoredWorksheet}

/-! ### All headers -/

/-- Whether all worksheets of a workbook have their headers in order. -/
def HeadersInOrder (book : Workbook) : Prop :=
  ∀ sheetId ws, book.Stores sheetId ws → ws.HeaderInOrder

/-- Whether every worksheet of a workbook is still there in another one, and has got columns at its
end only. -/
def ColumnsGrow (book book' : Workbook) : Prop :=
  ∀ info ws, book.worksheet? info = some ws →
    ∃ ws', book'.worksheet? info = some ws' ∧ ws.columnNames <+: ws'.columnNames

theorem ColumnsGrow.refl (book : Workbook) : ColumnsGrow book book :=
  fun _ ws hws => ⟨ws, hws, List.prefix_rfl⟩

theorem ColumnsGrow.trans (h : ColumnsGrow book book') (h' : ColumnsGrow book' book'') :
    ColumnsGrow book book'' := fun info ws hws => by
  obtain ⟨ws', hws', hstarts⟩ := h info ws hws
  obtain ⟨ws'', hws'', hstarts'⟩ := h' info ws' hws'
  exact ⟨ws'', hws'', hstarts.trans hstarts'⟩

theorem columnsGrow_setWorksheet (hws : book.worksheet? info = some ws) (hid : ws'.id = ws.id)
    (hstarts : ws.columnNames <+: ws'.columnNames) :
    ColumnsGrow book (book.setWorksheet info ws') := by
  intro other found hfound
  by_cases hsame : other.sheetId = info.sheetId ∧ other.worksheetId = info.worksheetId
  · rw [worksheet?_congr _ hsame.1 hsame.2] at hfound ⊢
    rw [hws] at hfound
    cases hfound
    exact ⟨ws', worksheet?_setWorksheet hws hid, hstarts⟩
  · rw [worksheet?_setWorksheet_of_ne hws hid (Decidable.not_and_iff_or_not.1 hsame)]
    exact ⟨found, hfound, List.prefix_rfl⟩

theorem headersInOrder_setWorksheet (h : book.HeadersInOrder) (horder : ws'.HeaderInOrder) :
    (book.setWorksheet info ws').HeadersInOrder := fun sheetId found hfound => by
  rcases stores_setWorksheet hfound with ⟨-, rfl⟩ | hold
  · exact horder
  · exact h sheetId found hold

/-- Whether the headers of a workbook are in order after it has only got columns at the ends of its
worksheets. -/
structure HeadersGrow (book book' : Workbook) : Prop where
  inOrder : book'.HeadersInOrder
  grow : ColumnsGrow book book'

theorem HeadersGrow.trans (h : HeadersGrow book book') (h' : HeadersGrow book' book'') :
    HeadersGrow book book'' := ⟨h'.inOrder, h.grow.trans h'.grow⟩

/-- A change that leaves the header of a worksheet leaves all headers in order. -/
theorem headersGrow_changeWorksheet {α : Type} (h : book.HeadersInOrder)
    {change : StoredWorksheet → Except Refusal (α × StoredWorksheet)}
    (hchange : ∀ ws a ws', change ws = .ok (a, ws') →
      ws'.id = ws.id ∧ ws'.header = ws.header ∧ ws'.colCount = ws.colCount) :
    HeadersGrow book (book.changeWorksheet info change).2 := by
  rcases changeWorksheet_cases book info change with
    ⟨refusal, heq⟩ | ⟨ws, a, ws', hws, hresult, heq⟩ <;> rw [heq]
  · exact ⟨h, .refl book⟩
  · obtain ⟨hid, hheader, hcount⟩ := hchange ws a ws' hresult
    have horder := (h _ ws (stores_of_worksheet? hws).1).congr hheader hcount
    have hnames : ws'.columnNames = ws.columnNames := by
      rw [StoredWorksheet.columnNames, hheader, StoredWorksheet.columnNames]
    exact ⟨headersInOrder_setWorksheet h horder,
      columnsGrow_setWorksheet hws hid (hnames ▸ List.prefix_rfl)⟩

end Workbook

/-- Whether a request leaves all headers and all worksheets where they are: it reads, or it changes
rows. -/
def Request.leavesHeaders : Request → Bool
  | createWorksheet .. => false
  | dropWorksheet .. => false
  | createField .. => false
  | _ => true

namespace Workbook

variable {book : Workbook}

/-- Reads and changes of rows leave all headers in order and where they are. -/
theorem headersGrow_answer (h : book.HeadersInOrder) (now : Instant) (newId : String)
    (engine : QueryEngine) {request : Request} (hrequest : request.leavesHeaders = true) :
    HeadersGrow book (book.answer now newId engine request).2 := by
  cases request with
  | sheetInfo sheetId =>
    rw [answer]
    split <;> exact ⟨h, .refl book⟩
  | queryRows info query =>
    rw [answer, readWorksheet]
    split <;> exact ⟨h, .refl book⟩
  | queryFields info =>
    rw [answer, readWorksheet]
    split <;> exact ⟨h, .refl book⟩
  | insertRow info cells =>
    refine headersGrow_changeWorksheet h fun ws raw ws' hok => ?_
    obtain ⟨-, -, rfl⟩ := StoredWorksheet.insertRow_eq_ok_iff.1 hok
    exact ⟨rfl, rfl, rfl⟩
  | updateRow info id cells =>
    refine headersGrow_changeWorksheet h fun ws raw ws' hok => ?_
    obtain ⟨index, -, -, -, rfl⟩ := StoredWorksheet.updateRow_eq_ok_iff.1 hok
    exact ⟨rfl, rfl, rfl⟩
  | deleteRow info id =>
    refine headersGrow_changeWorksheet h fun ws u ws' hok => ?_
    obtain ⟨index, -, rfl⟩ := StoredWorksheet.deleteRow_eq_ok_iff.1 hok
    exact ⟨rfl, rfl, rfl⟩
  | createWorksheet => cases hrequest
  | dropWorksheet => cases hrequest
  | createField => cases hrequest

theorem headersInOrder_empty : empty.HeadersInOrder := fun _ _ ⟨_, hsheet, _⟩ => nomatch hsheet

theorem headersInOrder_addSheet (h : book.HeadersInOrder) (sheetId title : String)
    (now : Instant) : (book.addSheet sheetId title now).HeadersInOrder :=
  fun other ws hws => h other ws (stores_addSheet hws)

/-- A new worksheet has no columns. -/
theorem headersInOrder_createWorksheet (h : book.HeadersInOrder) (sheetId title : String)
    (size : WorksheetSize) (now : Instant) (newId : String) :
    (book.createWorksheet sheetId title size now newId).2.HeadersInOrder := fun other ws hws => by
  rcases stores_createWorksheet hws with hold | ⟨-, -, rfl⟩
  · exact h other ws hold
  · exact StoredWorksheet.headerInOrder_new ..

theorem headersInOrder_dropWorksheet (h : book.HeadersInOrder) (sheetId worksheetId : String) :
    (book.dropWorksheet sheetId worksheetId).2.HeadersInOrder :=
  fun other ws hws => h other ws (stores_dropWorksheet hws)

end Workbook

end GridStore
