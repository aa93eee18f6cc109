import GridStore.Proofs.Workbook.Worksheets

/-!
# Answers that leave a workbook as it is

## Main results

* `Workbook.answer_of_isRead`: a request that reads leaves the workbook as it is.
* `Workbook.answer_of_refused`: a refused request leaves the workbook as it is.
-/

namespace GridStore

namespace Workbook

variable {book book' : Workbook}

/-! ### Requests that read -/

theorem answer_of_isRead (book : Workbook) (now : Instant) (newId : String)
    (engine : QueryEngine) {request : Request} (h : request.isRead = true) :
    (book.answer now newId engine request).2 = book := by
  cases request with
  | sheetInfo sheetId =>
    rw [answer]
    split <;> rfl
  | queryRows info query =>
    rw [answer, readWorksheet]
    split <;> rfl
  | queryFields info =>
    rw [answer, readWorksheet]
    split <;> rfl
  | _ => cases h

/-- The answer to a request that reads does not depend on the time. -/
theorem answer_now (book : Workbook) (now later : Instant) (newId otherId : String)
    (engine : QueryEngine) {request : Request} (h : request.isRead = true) :
    book.answer now newId engine request = book.answer later otherId engine request := by
  cases request with
  | sheetInfo => rfl
  | queryRows => rfl
  | queryFields => rfl
  | _ => cases h

/-! ### Requests that are refused -/

/-- The sheet of a refused worksheet was registered before: a new sheet has no title yet. -/
theorem createWorksheet_of_refused {sheetId title newId : String} {size : WorksheetSize}
    {now : Instant} {refusal : Refusal}
    (h : book.createWorksheet sheetId title size now newId = (.error refusal, book')) :
    book' = book := by
  by_cases hknown : book.sheets.contains sheetId = true
  · have hadd : book.addSheet sheetId sheetId now = book := if_pos hknown
    rw [createWorksheet, hadd] at h
    simp only at h
    split at h
    · exact (Prod.mk.inj h).2.symm
    · split at h
      · exact (Prod.mk.inj h).2.symm
      · cases (Prod.mk.inj h).1
  · have hadd : book.addSheet sheetId sheetId now =
        ⟨book.sheets.insert sheetId ⟨sheetId, now, [], []⟩⟩ := if_neg hknown
    rw [createWorksheet, hadd] at h
    simp only [Dictionary.get?_insert_self] at h
    cases (Prod.mk.inj h).1

theorem dropWorksheet_of_refused {sheetId worksheetId : String} {refusal : Refusal}
    (h : book.dropWorksheet sheetId worksheetId = (.error refusal, book')) : book' = book := by
  rw [dropWorksheet] at h
  split at h
  · exact (Prod.mk.inj h).2.symm
  · simp only at h
    split at h
    · exact (Prod.mk.inj h).2.symm
    · cases (Prod.mk.inj h).1

theorem changeWorksheet_of_refused {α : Type} {info : WorksheetInfo}
    {change : StoredWorksheet → Except Refusal (α × StoredWorksheet)} {refusal : Refusal}
    (h : book.changeWorksheet info change = (.error refusal, book')) : book' = book := by
  rcases changeWorksheet_cases book info change with ⟨_, heq⟩ | ⟨_, _, _, -, -, heq⟩ <;>
    rw [heq] at h
  · exact (Prod.mk.inj h).2.symm
  · cases (Prod.mk.inj h).1

/-- A refused request leaves the workbook as it is. -/
theorem answer_of_refused {now : Instant} {newId : String} {engine : QueryEngine}
    {request : Request} {refusal : Refusal}
    (h : book.answer now newId engine request = (.error refusal, book')) :
    book' = book := by
  cases hread : request.isRead with
  | true =>
    rw [← answer_of_isRead book now newId engine hread, h]
  | false =>
    cases request with
    | createWorksheet => exact createWorksheet_of_refused h
    | dropWorksheet => exact dropWorksheet_of_refused h
    | insertRow => exact changeWorksheet_of_refused h
    | updateRow => exact changeWorksheet_of_refused h
    | deleteRow => exact changeWorksheet_of_refused h
    | createField => exact changeWorksheet_of_refused h
    | _ => cases hread

end Workbook

theorem IdSupply.afterAccepted_of_isRead (ids : IdSupply) {request : Request}
    (h : request.isRead = true) : ids.afterAccepted request = ids := by
  cases request with
  | createWorksheet => cases h
  | _ => rfl

end GridStore
