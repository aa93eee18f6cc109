import GridStore.Proofs.Workbook.Locality

/-!
# Lists of worksheets

The worksheets of a sheet with their identities, titles and sizes, and without the times of their
last changes. Changes of rows and columns leave the list as it is.

## Main definitions

* `WorksheetInfo.undated`: a description without a time.
* `StoredWorksheet.listed`: what such a description of a worksheet has to be.
* `Workbook.listing`: the worksheets of a sheet.
* `Workbook.titled?`: the worksheet of a sheet with a title.

## Main results

* `Workbook.listing_answer`: reads and changes of rows and columns leave all lists as they are.
* `Workbook.createWorksheet_of_taken`, `Workbook.exists_createWorksheet_of_free`: when a worksheet
  is created.
-/

namespace GridStore

/-- The description without the time of the last change. -/
def WorksheetInfo.undated (info : WorksheetInfo) : WorksheetInfo := { info with updated := none }

/-- A worksheet of a sheet in a list: its identity, title, and size. -/
def StoredWorksheet.listed (ws : StoredWorksheet) (sheetId : String) : WorksheetInfo where
  sheetId := sheetId
  worksheetId := ws.id
  title := ws.title
  updated := none
  colCount := ws.colCount
  rowCount := ws.rowCount

/-- The description of a worksheet is that in a list but for the time. -/
theorem StoredWorksheet.undated_info (ws : StoredWorksheet) (sheetId : String) :
    (ws.info sheetId).undated = ws.listed sheetId := rfl

/-- A changed form of a worksheet is listed as the worksheet. -/
theorem StoredWorksheet.Revises.listed_eq {ws ws' : StoredWorksheet} (h : ws.Revises ws')
    (sheetId : String) : ws'.listed sheetId = ws.listed sheetId := by
  simp only [StoredWorksheet.listed, h.id, h.title, h.rowCount, h.colCount]

namespace Workbook

variable {book book' : Workbook} {sheetId title : String}

/-- The worksheets of a sheet in their order, with their identities, titles and sizes. -/
def listing (book : Workbook) (sheetId : String) : List WorksheetInfo :=
  (book.worksheetsOf sheetId).map fun ws => ws.listed sheetId

/-- The first worksheet of a sheet with a title. -/
def titled? (book : Workbook) (sheetId title : String) : Option StoredWorksheet :=
  (book.worksheetsOf sheetId).find? fun ws => ws.title == title

theorem titled?_eq_none_iff : book.titled? sheetId title = none ↔
    ∀ ws ∈ book.worksheetsOf sheetId, ws.title ≠ title := by
  simp [titled?, List.find?_eq_none]

/-- A sheet that does not exist has no worksheets. -/
theorem titled?_of_missing (h : book.sheets.get? sheetId = none) (title : String) :
    book.titled? sheetId title = none := by
  rw [titled?, worksheetsOf, h]
  rfl

/-- The description of a sheet lists its worksheets. -/
theorem map_undated_worksheets {sheet : StoredSheet} (h : book.sheets.get? sheetId = some sheet) :
    (sheet.info sheetId).worksheets.map WorksheetInfo.undated = book.listing sheetId := by
  rw [listing, worksheetsOf_of_get? h, StoredSheet.info, List.map_map]
  exact List.map_congr_left fun ws _ => ws.undated_info sheetId

/-- A list that names the worksheets of a sheet has a title where the sheet has it. -/
theorem map_undated_find? {known : List WorksheetInfo}
    (h : known.map WorksheetInfo.undated = book.listing sheetId) (title : String) :
    (known.find? fun ws => ws.title == title).map WorksheetInfo.undated =
      (book.titled? sheetId title).map fun ws => ws.listed sheetId := by
  have hknown : (known.map WorksheetInfo.undated).find? (fun ws => ws.title == title) =
      (known.find? fun ws => ws.title == title).map WorksheetInfo.undated := List.find?_map
  rw [← hknown, h, listing, List.find?_map]
  rfl

/-! ### Changes of rows and columns -/

/-- A change that neither creates nor drops a worksheet leaves all lists as they are. -/
theorem Confined.listing_eq {newId : String} {request : Request} {info : WorksheetInfo}
    (h : Confined newId request book book') (hrewrites : request.rewrites? = some info)
    (sheetId : String) : book'.listing sheetId = book.listing sheetId := by
  by_cases hsheet : sheetId = request.sheetId
  · have hedits := h.worksheets
    rw [listing, listing, hsheet]
    generalize book.worksheetsOf request.sheetId = old at hedits
    generalize book'.worksheetsOf request.sheetId = new at hedits
    cases hedits with
    | created ws id creates =>
      obtain ⟨title, size, heq⟩ := creates
      rw [heq] at hrewrites
      cases hrewrites
    | dropped before after ws drops =>
      rw [drops] at hrewrites
      cases hrewrites
    | changed before after ws ws' addressed revises =>
      simp only [List.map_append, List.map_cons, revises.listed_eq]
  · rw [listing, listing, worksheetsOf, worksheetsOf, h.sheets sheetId hsheet]

/-- Reads and changes of rows and columns leave all lists as they are. -/
theorem listing_answer {request : Request}
    (hrequest : request.isRead = true ∨ ∃ info, request.rewrites? = some info) (now : Instant)
    (newId : String) (engine : QueryEngine) (sheetId : String) :
    (book.answer now newId engine request).2.listing sheetId = book.listing sheetId := by
  rcases hrequest with hread | ⟨info, hrewrites⟩
  · rw [answer_of_isRead book now newId engine hread]
  · rcases h : book.answer now newId engine request with ⟨refusal | a, book'⟩
    · rw [answer_of_refused h]
    · exact (confined_rewrite hrewrites h).listing_eq hrewrites sheetId

/-! ### New worksheets -/

/-- A sheet that is registered is found with the worksheets that it had. -/
theorem exists_get?_addSheet (book : Workbook) (sheetId title : String) (now : Instant) :
    ∃ sheet, (book.addSheet sheetId title now).sheets.get? sheetId = some sheet ∧
      sheet.worksheets = book.worksheetsOf sheetId := by
  have hsome : ∃ sheet, (book.addSheet sheetId title now).sheets.get? sheetId = some sheet := by
    rw [addSheet]
    split
    case isTrue hknown => exact Option.isSome_iff_exists.1 hknown
    case isFalse => exact ⟨_, Dictionary.get?_insert_self ..⟩
  obtain ⟨sheet, hsheet⟩ := hsome
  refine ⟨sheet, hsheet, ?_⟩
  rw [← worksheetsOf_of_get? hsheet, worksheetsOf_addSheet]

theorem any_title_eq_isSome (book : Workbook) (sheetId title : String) :
    ((book.worksheetsOf sheetId).any fun ws => ws.title == title) =
      (book.titled? sheetId title).isSome := by
  rw [titled?, Bool.eq_iff_iff, List.any_eq_true, List.find?_isSome]

/-- A worksheet with a title that the sheet has is refused. -/
theorem createWorksheet_of_taken {ws : StoredWorksheet} (h : book.titled? sheetId title = some ws)
    (size : WorksheetSize) (now : Instant) (newId : String) :
    (book.createWorksheet sheetId title size now newId).1 = .error .duplicateTitle := by
  obtain ⟨sheet, hsheet, hworksheets⟩ := exists_get?_addSheet book sheetId sheetId now
  have htaken : (sheet.worksheets.any fun ws => ws.title == title) = true := by
    rw [hworksheets, any_title_eq_isSome, h]
    rfl
  rw [createWorksheet]
  simp only [hsheet]
  rw [if_pos htaken]

/-- A worksheet with a new title is put at the end of its sheet. -/
theorem exists_createWorksheet_of_free (h : book.titled? sheetId title = none)
    (size : WorksheetSize) (now : Instant) (newId : String) : ∃ info book' sheet,
    book.createWorksheet sheetId title size now newId = (.ok info, book') ∧
      book'.sheets.get? sheetId = some sheet ∧
      sheet.worksheets = book.worksheetsOf sheetId ++
        [⟨newId, title, now, size.rows, size.cols, .empty, []⟩] := by
  obtain ⟨sheet, hsheet, hworksheets⟩ := exists_get?_addSheet book sheetId sheetId now
  have hfree : ¬(sheet.worksheets.any fun ws => ws.title == title) = true := by
    rw [hworksheets, any_title_eq_isSome, h]
    exact Bool.false_ne_true
  rw [createWorksheet]
  simp only [hsheet]
  rw [if_neg hfree]
  exact ⟨_, _, _, rfl, Dictionary.get?_insert_self .., by rw [hworksheets]⟩

end Workbook

end GridStore
