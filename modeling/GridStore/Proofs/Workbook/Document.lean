import GridStore.Proofs.Json.Record
import GridStore.Proofs.Text.Count
import GridStore.Proofs.Time.Stored
import GridStore.Proofs.Workbook.Answers
import GridStore.Proofs.Workbook.Changes
import GridStore.Workbook.Document

/-!
# The document of a workbook reads back

A workbook whose counts fit machine words and whose instants can be stored is found again in its
text: the positions of columns are read from their digits, and dictionaries have the order in which
their entries were written. Every answer at a time that can be stored keeps a workbook so.

## Main definitions

* `StoredWorksheet.Storable`, `StoredSheet.Storable`, `Workbook.Storable`: whether counts and
  instants are in the ranges of documents.
* `Request.FitsWords`: whether the sizes that a request demands are machine words.

## Main results

* `Dictionary.readsAs_object`: a dictionary is found in the object of its entries.
* `Workbook.read?_text`: a workbook is found in its text.
* `Workbook.storable_answer`: an answer keeps the workbook storable.
-/

namespace GridStore

/-! ### Dictionaries -/

/-- A dictionary is found in the object of its entries, if the keys are found in their texts and the
values in their documents. -/
theorem Dictionary.readsAs_object {κ α : Type} [Ord κ] [Std.TransOrd κ] [Std.LawfulEqOrd κ]
    (d : Dictionary κ α) (keyText : κ → String) {toJson : α → Json} {key? : JsonText → Option κ}
    {value? : WrittenJson → Option α}
    (hkey : ∀ entry ∈ d.entries, key? (.printed (keyText entry.1)) = some entry.1)
    (hvalue : ∀ entry ∈ d.entries, (toJson entry.2).ReadsAs value? entry.2) :
    (Json.object (d.entries.map fun (key, value) => (keyText key, toJson value))).ReadsAs
      (Dictionary.ofWritten? key? value?) d where
  readsBack := (Json.fieldsReadBack_iff _).2 fun field hfield => by
    obtain ⟨entry, hentry, rfl⟩ := List.mem_map.1 hfield
    exact (hvalue entry hentry).readsBack
  read? := by
    have hentry : ∀ entry ∈ d.entries,
        (do return ((← key? (.printed (keyText entry.1))), (← value? (toJson entry.2).printed)) :
          Option (κ × α)) = some entry := fun entry hentry => by
      rw [hkey entry hentry, (hvalue entry hentry).read?]
      rfl
    rw [Json.printed, Json.printedFields_eq, List.map_map, ofWritten?,
      mapM_map_some (h := id) hentry, List.map_id]
    exact congrArg some (ofList_entries d)

/-- The position of a column is read from its digits. -/
theorem columnOfKey?_printed {col : Nat} (h : col < wordBound) :
    columnOfKey? (.printed (countText col)) = some col := by
  have hplain : JsonText.printed (countText col) = .ofString (countText col) :=
    JsonText.printed_of_plain fun c hc =>
      JsonPiece.ofChar_of_isDigit (isDigit_of_mem_toDigits (String.toList_ofList ▸ hc))
  have hcount : countOfDigits? (countText col).toList = some col := by
    rw [countText, String.toList_ofList, countOfDigits?_toDigits h]
  rw [columnOfKey?, hplain, JsonText.plain?_ofString, Option.bind_eq_bind, Option.bind_some, hcount]
  exact if_pos rfl

/-! ### Parts of a workbook -/

theorem Instant.readsAs_toJson {t : Instant} (h : t.Storable) :
    t.toJson.ReadsAs Instant.ofWritten? t where
  readsBack := trivial
  read? := by
    rw [toJson, ofWritten?, (Json.readsAs_text _).read?, Option.bind_some,
      Rfc3339.readLenient?_text h]

open WrittenRecord

theorem Author.readsAs_toJson (author : Author) :
    author.toJson.ReadsAs Author.ofWritten? author where
  readsBack := ⟨trivial, trivial, trivial⟩
  read? := by
    rw [Author.ofWritten?, Author.toJson, WrittenJson.record?_printed (by decide) rfl,
      Option.bind_eq_bind, Option.bind_some,
      required?_of_readsAs (Json.readsAs_text author.name) rfl,
      required?_of_readsAs (Json.readsAs_text author.email) rfl]
    rfl

theorem HeaderCell.readsAs_toJson {cell : HeaderCell} (h : cell.updated.Storable) :
    cell.toJson.ReadsAs HeaderCell.ofWritten? cell where
  readsBack := ⟨trivial, trivial, trivial⟩
  read? := by
    rw [HeaderCell.ofWritten?, HeaderCell.toJson, WrittenJson.record?_printed (by decide) rfl,
      Option.bind_eq_bind, Option.bind_some, required?_of_readsAs (Json.readsAs_text cell.name) rfl,
      required?_of_readsAs (Instant.readsAs_toJson h) rfl]
    rfl

theorem StoredRow.readsAs_toJson {row : StoredRow} (h : row.updated.Storable) :
    row.toJson.ReadsAs StoredRow.ofWritten? row := by
  have hcells := Dictionary.readsAs_object row.cells id
    (fun entry _ => JsonText.decode?_printed entry.1) fun entry _ => Json.readsAs_text entry.2
  exact {
    readsBack := ⟨trivial, hcells.readsBack, trivial⟩
    read? := by
      rw [StoredRow.ofWritten?, StoredRow.toJson, WrittenJson.record?_printed (by decide) rfl,
        Option.bind_eq_bind, Option.bind_some,
        required?_of_readsAs (Instant.readsAs_toJson h) rfl, required?_of_readsAs hcells rfl]
      rfl }

/-- Whether the counts and the instants of a worksheet are in the ranges of documents. -/
structure StoredWorksheet.Storable (ws : StoredWorksheet) : Prop where
  updated : ws.updated.Storable
  rowCount : ws.rowCount < wordBound
  colCount : ws.colCount < wordBound
  columns : ∀ column ∈ ws.header.entries, column.1 ≤ ws.colCount ∧ column.2.updated.Storable
  rows : ∀ row ∈ ws.rows, row.updated.Storable

theorem StoredWorksheet.readsAs_toJson {ws : StoredWorksheet} (h : ws.Storable) :
    ws.toJson.ReadsAs StoredWorksheet.ofWritten? ws := by
  have hheader := Dictionary.readsAs_object ws.header countText
    (fun column hcolumn =>
      columnOfKey?_printed (Nat.lt_of_le_of_lt (h.columns column hcolumn).1 h.colCount))
    fun column hcolumn => HeaderCell.readsAs_toJson (h.columns column hcolumn).2
  have hrows := Json.readsAs_array fun row hrow => StoredRow.readsAs_toJson (h.rows row hrow)
  have hrowCount := Json.readsAs_count h.rowCount
  have hcolCount := Json.readsAs_count h.colCount
  exact {
    readsBack := ⟨trivial, trivial, trivial, hrowCount.readsBack, hcolCount.readsBack,
      hheader.readsBack, hrows.readsBack, trivial⟩
    read? := by
      rw [StoredWorksheet.ofWritten?, StoredWorksheet.toJson,
        WrittenJson.record?_printed (by decide) rfl, Option.bind_eq_bind, Option.bind_some,
        required?_of_readsAs (Json.readsAs_text ws.id) rfl,
        required?_of_readsAs (Json.readsAs_text ws.title) rfl,
        required?_of_readsAs (Instant.readsAs_toJson h.updated) rfl,
        required?_of_readsAs hrowCount rfl, required?_of_readsAs hcolCount rfl,
        defaulted?_of_readsAs hheader rfl, defaulted?_of_readsAs hrows rfl]
      rfl }

/-- Whether the counts and the instants of a sheet are in the ranges of documents. -/
structure StoredSheet.Storable (sheet : StoredSheet) : Prop where
  updated : sheet.updated.Storable
  worksheets : ∀ ws ∈ sheet.worksheets, ws.Storable

theorem StoredSheet.readsAs_toJson {sheet : StoredSheet} (h : sheet.Storable) :
    sheet.toJson.ReadsAs StoredSheet.ofWritten? sheet := by
  have hauthors := Json.readsAs_array fun author (_ : author ∈ sheet.authors) =>
    author.readsAs_toJson
  have hworksheets := Json.readsAs_array fun ws hws =>
    StoredWorksheet.readsAs_toJson (h.worksheets ws hws)
  exact {
    readsBack := ⟨trivial, trivial, hauthors.readsBack, hworksheets.readsBack, trivial⟩
    read? := by
      rw [StoredSheet.ofWritten?, StoredSheet.toJson, WrittenJson.record?_printed (by decide) rfl,
        Option.bind_eq_bind, Option.bind_some,
        required?_of_readsAs (Json.readsAs_text sheet.title) rfl,
        required?_of_readsAs (Instant.readsAs_toJson h.updated) rfl,
        defaulted?_of_readsAs hauthors rfl, defaulted?_of_readsAs hworksheets rfl]
      rfl }

namespace Workbook

/-- Whether the counts and the instants of a workbook are in the ranges of documents. -/
def Storable (book : Workbook) : Prop := ∀ entry ∈ book.sheets.entries, entry.2.Storable

theorem readsAs_toJson {book : Workbook} (h : book.Storable) :
    book.toJson.ReadsAs Workbook.ofWritten? book := by
  have hsheets := Dictionary.readsAs_object book.sheets id
    (fun entry _ => JsonText.decode?_printed entry.1)
    fun entry hentry => StoredSheet.readsAs_toJson (h entry hentry)
  exact {
    readsBack := ⟨hsheets.readsBack, trivial⟩
    read? := by
      rw [Workbook.ofWritten?, toJson, WrittenJson.record?_printed (by decide) rfl,
        Option.bind_eq_bind, Option.bind_some, required?_of_readsAs hsheets rfl]
      rfl }

/-- A workbook is found in its text. -/
theorem read?_text {book : Workbook} (h : book.Storable) : read? book.text = some book :=
  (readsAs_toJson h).read?_indented

end Workbook

/-! ### Answers -/

/-- Whether the sizes that a request demands are machine words. -/
def Request.FitsWords : Request → Prop
  | createWorksheet _ _ size => size.rows < wordBound ∧ size.cols < wordBound
  | _ => True

namespace StoredWorksheet

variable {ws : StoredWorksheet} {now : Instant}

theorem storable_new (id title : String) {rowCount colCount : Nat}
    (hsize : rowCount < wordBound ∧ colCount < wordBound) (hnow : now.Storable) :
    Storable ⟨id, title, now, rowCount, colCount, .empty, []⟩ where
  updated := hnow
  rowCount := hsize.1
  colCount := hsize.2
  columns _ hcolumn := absurd hcolumn List.not_mem_nil
  rows _ hrow := absurd hrow List.not_mem_nil

theorem storable_appended (h : ws.Storable) (cells : Cells) (hnow : now.Storable) :
    (ws.appended cells now).Storable := { h with
  updated := hnow
  rows := fun row hrow => by
    rcases List.mem_append.1 hrow with hold | hnew
    · exact h.rows row hold
    · rw [List.mem_singleton.1 hnew]
      exact hnow }

theorem storable_overwritten (h : ws.Storable) (index : Nat) (cells : Cells)
    (hnow : now.Storable) : (ws.overwritten index cells now).Storable := { h with
  updated := hnow
  rows := fun row hrow => by
    rcases List.mem_or_eq_of_mem_set hrow with hold | rfl
    · exact h.rows row hold
    · exact hnow }

theorem storable_without (h : ws.Storable) (index : Nat) (hnow : now.Storable) :
    (ws.without index now).Storable := { h with
  updated := hnow
  rows := fun row hrow => h.rows row (List.mem_of_mem_eraseIdx hrow) }

theorem storable_named (h : ws.Storable) (name : String) {col : Nat} (hcol : col ≤ ws.colCount)
    (hnow : now.Storable) : (ws.named name col now).Storable := { h with
  updated := hnow
  columns := fun column hcolumn => by
    rcases Dictionary.mem_put hcolumn with rfl | hold
    · exact ⟨hcol, hnow⟩
    · exact h.columns column hold }

end StoredWorksheet

namespace Workbook

variable {book : Workbook} {now : Instant}

theorem storable_empty : empty.Storable := fun _ hentry => nomatch hentry

theorem Storable.sheet (h : book.Storable) {sheetId : String} {sheet : StoredSheet}
    (hsheet : book.sheets.get? sheetId = some sheet) : sheet.Storable :=
  h (sheetId, sheet) (Dictionary.mem_of_find? hsheet)

theorem storable_insert (h : book.Storable) (sheetId : String) {sheet : StoredSheet}
    (hsheet : sheet.Storable) : Storable ⟨book.sheets.insert sheetId sheet⟩ := by
  intro entry hentry
  rcases Dictionary.mem_put hentry with rfl | hold
  · exact hsheet
  · exact h entry hold

theorem storable_addSheet (h : book.Storable) (sheetId title : String) (hnow : now.Storable) :
    (book.addSheet sheetId title now).Storable := by
  rw [addSheet]
  split
  case isTrue => exact h
  case isFalse =>
    exact storable_insert h sheetId ⟨hnow, fun ws hws => absurd hws List.not_mem_nil⟩

theorem storable_createWorksheet (h : book.Storable) (sheetId title : String) {size : WorksheetSize}
    (hsize : size.rows < wordBound ∧ size.cols < wordBound) (hnow : now.Storable) (newId : String) :
    (book.createWorksheet sheetId title size now newId).2.Storable := by
  have hadded := storable_addSheet h sheetId sheetId hnow
  simp only [createWorksheet]
  split
  case h_1 => exact hadded
  case h_2 sheet hsheet =>
    split
    case isTrue => exact hadded
    case isFalse =>
      refine storable_insert hadded sheetId ⟨hnow, fun ws hws => ?_⟩
      rcases List.mem_append.1 hws with hold | hnew
      · exact (hadded.sheet hsheet).worksheets ws hold
      · rw [List.mem_singleton.1 hnew]
        exact StoredWorksheet.storable_new newId title hsize hnow

theorem storable_dropWorksheet (h : book.Storable) (sheetId worksheetId : String) :
    (book.dropWorksheet sheetId worksheetId).2.Storable := by
  rw [dropWorksheet]
  split
  case h_1 => exact h
  case h_2 sheet hsheet =>
    simp only
    split
    case isTrue => exact h
    case isFalse =>
      have hstorable := h.sheet hsheet
      exact storable_insert h sheetId
        ⟨hstorable.updated, fun ws hws => hstorable.worksheets ws (List.mem_filter.1 hws).1⟩

theorem storable_setWorksheet (h : book.Storable) (info : WorksheetInfo) {ws : StoredWorksheet}
    (hws : ws.Storable) : (book.setWorksheet info ws).Storable := by
  rw [setWorksheet]
  split
  case h_1 => exact h
  case h_2 sheet hsheet =>
    have hstorable := h.sheet hsheet
    refine storable_insert h info.sheetId ⟨hstorable.updated, fun other hother => ?_⟩
    rcases mem_replaceFirst hother with rfl | hold
    · exact hws
    · exact hstorable.worksheets other hold

theorem storable_changeWorksheet {α : Type} (h : book.Storable) {info : WorksheetInfo}
    {change : StoredWorksheet → Except Refusal (α × StoredWorksheet)}
    (hchange : ∀ ws a ws', ws.Storable → change ws = .ok (a, ws') → ws'.Storable) :
    (book.changeWorksheet info change).2.Storable := by
  rcases changeWorksheet_cases book info change with
    ⟨refusal, heq⟩ | ⟨ws, a, ws', hfind, hresult, heq⟩ <;> rw [heq]
  · exact h
  · obtain ⟨⟨sheet, hsheet, hmem⟩, -⟩ := stores_of_worksheet? hfind
    exact storable_setWorksheet h info
      (hchange ws a ws' ((h.sheet hsheet).worksheets ws hmem) hresult)

/-- An answer at a time that can be stored keeps the workbook storable. -/
theorem storable_answer (h : book.Storable) (hnow : now.Storable) (newId : String)
    (engine : QueryEngine) {request : Request} (hrequest : request.FitsWords) :
    (book.answer now newId engine request).2.Storable := by
  cases request with
  | sheetInfo => rw [answer_of_isRead book now newId engine rfl]; exact h
  | queryRows => rw [answer_of_isRead book now newId engine rfl]; exact h
  | queryFields => rw [answer_of_isRead book now newId engine rfl]; exact h
  | createWorksheet sheetId title size =>
    exact storable_createWorksheet h sheetId title hrequest hnow newId
  | dropWorksheet sheetId worksheetId => exact storable_dropWorksheet h sheetId worksheetId
  | insertRow info cells =>
    refine storable_changeWorksheet h fun ws raw ws' hws hok => ?_
    obtain ⟨-, -, rfl⟩ := StoredWorksheet.insertRow_eq_ok_iff.1 hok
    exact StoredWorksheet.storable_appended hws cells hnow
  | updateRow info id cells =>
    refine storable_changeWorksheet h fun ws raw ws' hws hok => ?_
    obtain ⟨index, -, -, -, rfl⟩ := StoredWorksheet.updateRow_eq_ok_iff.1 hok
    exact StoredWorksheet.storable_overwritten hws index cells hnow
  | deleteRow info id =>
    refine storable_changeWorksheet h fun ws u ws' hws hok => ?_
    obtain ⟨index, -, rfl⟩ := StoredWorksheet.deleteRow_eq_ok_iff.1 hok
    exact StoredWorksheet.storable_without hws index hnow
  | createField info name col =>
    refine storable_changeWorksheet h fun ws u ws' hws hok => ?_
    obtain ⟨⟨-, -, hcol⟩, -, rfl⟩ := StoredWorksheet.createField_eq_ok_iff.1 hok
    exact StoredWorksheet.storable_named hws name hcol hnow

end Workbook

end GridStore
