import GridStore.Proofs.Dictionary
import GridStore.Workbook.Requests

/-!
# Worksheets of a workbook

## Main definitions

* `Workbook.Stores`: whether a worksheet is stored under a sheet.

## Main results

* `Workbook.worksheet?_setWorksheet`: the worksheet that was set is found under its description.
* `Workbook.worksheet?_setWorksheet_of_ne`: no other worksheet changes.
* `Workbook.readWorksheet_eq_ok_iff`, `changeWorksheet_cases`: how one worksheet is read or changed.
* `Workbook.stores_setWorksheet`, `stores_createWorksheet`, `stores_dropWorksheet`: what is stored
  after a change.
-/

namespace GridStore

/-! ### Replacing one element -/

theorem find?_replaceFirst {α : Type} {condition : α → Bool} {new : α} {xs : List α} {old : α}
    (h : xs.find? condition = some old) (hnew : condition new = true) :
    (replaceFirst condition new xs).find? condition = some new := by
  induction xs with
  | nil => cases h
  | cons x rest ih =>
    rw [replaceFirst]
    by_cases hx : condition x = true
    · rw [if_pos hx, List.find?_cons_of_pos hnew]
    · rw [List.find?_cons_of_neg hx] at h
      rw [if_neg hx, List.find?_cons_of_neg hx, ih h]

theorem find?_replaceFirst_of_disjoint {α : Type} {condition other : α → Bool} {new : α}
    (xs : List α) (hnew : other new = false)
    (hdisjoint : ∀ x, condition x = true → other x = false) :
    (replaceFirst condition new xs).find? other = xs.find? other := by
  induction xs with
  | nil => rfl
  | cons x rest ih =>
    rw [replaceFirst]
    by_cases hx : condition x = true
    · rw [if_pos hx, List.find?_cons_of_neg (by simp [hnew]),
        List.find?_cons_of_neg (by simp [hdisjoint x hx])]
    · rw [if_neg hx, List.find?_cons, List.find?_cons, ih]

theorem mem_replaceFirst {α : Type} {condition : α → Bool} {new x : α} {xs : List α}
    (h : x ∈ replaceFirst condition new xs) : x = new ∨ x ∈ xs := by
  induction xs with
  | nil => cases h
  | cons y rest ih =>
    rw [replaceFirst] at h
    split at h
    · exact (List.mem_cons.1 h).imp_right (List.mem_cons_of_mem _)
    · rcases List.mem_cons.1 h with rfl | hrest
      · exact .inr (List.mem_cons_self ..)
      · exact (ih hrest).imp_right (List.mem_cons_of_mem _)

namespace Workbook

/-! ### Stored worksheets -/

/-- Whether a worksheet is stored under the identity of a sheet. -/
def Stores (book : Workbook) (sheetId : String) (ws : StoredWorksheet) : Prop :=
  ∃ sheet, book.sheets.get? sheetId = some sheet ∧ ws ∈ sheet.worksheets

variable {book : Workbook} {info : WorksheetInfo} {ws : StoredWorksheet}

/-- A worksheet that is found is stored under its sheet and has the identity it is found by. -/
theorem stores_of_worksheet? (h : book.worksheet? info = some ws) :
    book.Stores info.sheetId ws ∧ ws.id = info.worksheetId := by
  obtain ⟨sheet, hsheet, hfind⟩ := Option.bind_eq_some_iff.1 h
  exact ⟨⟨sheet, hsheet, List.mem_of_find?_eq_some hfind⟩,
    eq_of_beq (List.find?_some (p := fun ws : StoredWorksheet => ws.id == info.worksheetId) hfind)⟩

/-- Descriptions with the same identities name the same worksheet. -/
theorem worksheet?_congr (book : Workbook) {info other : WorksheetInfo}
    (hsheet : other.sheetId = info.sheetId) (hid : other.worksheetId = info.worksheetId) :
    book.worksheet? other = book.worksheet? info := by
  rw [worksheet?, worksheet?, hsheet, hid]

theorem sheets_setWorksheet {sheet : StoredSheet} (h : book.sheets.get? info.sheetId = some sheet)
    (ws' : StoredWorksheet) : (book.setWorksheet info ws').sheets =
      book.sheets.insert info.sheetId
        { sheet with worksheets :=
            replaceFirst (fun ws => ws.id == info.worksheetId) ws' sheet.worksheets } := by
  rw [setWorksheet, h]

/-- The worksheet that was set is found under its description. -/
theorem worksheet?_setWorksheet (h : book.worksheet? info = some ws) {ws' : StoredWorksheet}
    (hid : ws'.id = ws.id) : (book.setWorksheet info ws').worksheet? info = some ws' := by
  have hinfo := (stores_of_worksheet? h).2
  obtain ⟨sheet, hsheet, hfind⟩ := Option.bind_eq_some_iff.1 h
  rw [worksheet?, sheets_setWorksheet hsheet, Dictionary.get?_insert_self, Option.bind_some]
  exact find?_replaceFirst hfind (by rw [hid, hinfo]; exact beq_self_eq_true _)

/-- No other worksheet changes when one is set. -/
theorem worksheet?_setWorksheet_of_ne (h : book.worksheet? info = some ws) {ws' : StoredWorksheet}
    (hid : ws'.id = ws.id) {other : WorksheetInfo}
    (hother : other.sheetId ≠ info.sheetId ∨ other.worksheetId ≠ info.worksheetId) :
    (book.setWorksheet info ws').worksheet? other = book.worksheet? other := by
  have hinfo := (stores_of_worksheet? h).2
  obtain ⟨sheet, hsheet, hfind⟩ := Option.bind_eq_some_iff.1 h
  rw [worksheet?, worksheet?, sheets_setWorksheet hsheet]
  by_cases hsame : other.sheetId = info.sheetId
  · have hne : other.worksheetId ≠ info.worksheetId := hother.resolve_left (absurd hsame)
    rw [hsame, Dictionary.get?_insert_self, hsheet, Option.bind_some, Option.bind_some]
    refine find?_replaceFirst_of_disjoint _ ?_ fun x hx => ?_
    · rw [hid, hinfo]
      exact beq_false_of_ne (Ne.symm hne)
    · rw [eq_of_beq hx]
      exact beq_false_of_ne (Ne.symm hne)
  · rw [Dictionary.get?_insert_of_ne _ hsame]

/-- Registering a sheet gives and takes no worksheets. -/
theorem worksheet?_addSheet (book : Workbook) (sheetId title : String) (now : Instant)
    (info : WorksheetInfo) :
    (book.addSheet sheetId title now).worksheet? info = book.worksheet? info := by
  rw [addSheet]
  split
  case isTrue => rfl
  case isFalse hnew =>
    rw [worksheet?, worksheet?]
    by_cases hsame : info.sheetId = sheetId
    · have hnone : book.sheets.get? sheetId = none := by
        simpa [Dictionary.contains] using hnew
      rw [hsame, Dictionary.get?_insert_self, hnone]
      rfl
    · rw [Dictionary.get?_insert_of_ne _ hsame]

/-! ### Reads and changes of a worksheet -/

/-- The worksheet that a description names is read, and the workbook stays as it is. -/
theorem readWorksheet_eq_ok_iff {α : Type} {read : StoredWorksheet → Except Refusal α} {a : α}
    {book' : Workbook} : book.readWorksheet info read = (.ok a, book') ↔
      (∃ ws, book.worksheet? info = some ws ∧ read ws = .ok a) ∧ book' = book := by
  rw [readWorksheet]
  cases book.worksheet? info with
  | none => simp
  | some ws => simp [eq_comm]

/-- A change of a worksheet is refused, and the workbook stays as it is, or the worksheet that the
description names is replaced by what the change makes of it. -/
theorem changeWorksheet_cases {α : Type} (book : Workbook) (info : WorksheetInfo)
    (change : StoredWorksheet → Except Refusal (α × StoredWorksheet)) :
    (∃ refusal, book.changeWorksheet info change = (.error refusal, book)) ∨
      ∃ ws a ws', book.worksheet? info = some ws ∧ change ws = .ok (a, ws') ∧
        book.changeWorksheet info change = (.ok a, book.setWorksheet info ws') := by
  rw [changeWorksheet]
  cases hws : book.worksheet? info with
  | none => exact .inl ⟨_, rfl⟩
  | some ws =>
    simp only
    cases hresult : change ws with
    | error refusal => exact .inl ⟨refusal, rfl⟩
    | ok result => exact .inr ⟨ws, result.1, result.2, rfl, hresult, rfl⟩

/-- What an accepted change of a worksheet makes of the workbook. -/
theorem exists_of_changeWorksheet {α : Type} {a : α} {book' : Workbook}
    {change : StoredWorksheet → Except Refusal (α × StoredWorksheet)}
    (h : book.changeWorksheet info change = (.ok a, book')) :
    ∃ ws ws', book.worksheet? info = some ws ∧ change ws = .ok (a, ws') ∧
      book' = book.setWorksheet info ws' := by
  rcases changeWorksheet_cases book info change with
    ⟨refusal, heq⟩ | ⟨ws, b, ws', hws, hresult, heq⟩ <;> rw [heq] at h
  · cases (Prod.mk.inj h).1
  · cases h
    exact ⟨ws, ws', hws, hresult, rfl⟩

/-! ### What is stored after a change -/

theorem stores_insert {sheetId other : String} {sheet : StoredSheet} {ws : StoredWorksheet}
    (h : (Workbook.mk (book.sheets.insert sheetId sheet)).Stores other ws) :
    (other = sheetId ∧ ws ∈ sheet.worksheets) ∨ book.Stores other ws := by
  obtain ⟨found, hfound, hmem⟩ := h
  by_cases hsame : other = sheetId
  · subst hsame
    rw [Dictionary.get?_insert_self] at hfound
    cases hfound
    exact .inl ⟨rfl, hmem⟩
  · rw [Dictionary.get?_insert_of_ne _ hsame] at hfound
    exact .inr ⟨found, hfound, hmem⟩

theorem stores_addSheet {sheetId title other : String} {now : Instant} {ws : StoredWorksheet}
    (h : (book.addSheet sheetId title now).Stores other ws) : book.Stores other ws := by
  rw [addSheet] at h
  split at h
  · exact h
  · rcases stores_insert h with ⟨-, hmem⟩ | hold
    · cases hmem
    · exact hold

theorem stores_setWorksheet {other : String} {ws' found : StoredWorksheet}
    (h : (book.setWorksheet info ws').Stores other found) :
    (other = info.sheetId ∧ found = ws') ∨ book.Stores other found := by
  rw [setWorksheet] at h
  split at h
  · exact .inr h
  · rename_i sheet hsheet
    rcases stores_insert h with ⟨rfl, hmem⟩ | hold
    · rcases mem_replaceFirst hmem with rfl | hmem
      · exact .inl ⟨rfl, rfl⟩
      · exact .inr ⟨sheet, hsheet, hmem⟩
    · exact .inr hold

/-- A change of the worksheet that a description names leaves the others, and puts its result in the
place of the worksheet. -/
theorem stores_changeWorksheet {α : Type}
    {change : StoredWorksheet → Except Refusal (α × StoredWorksheet)} {sheetId : String}
    {found : StoredWorksheet} (h : (book.changeWorksheet info change).2.Stores sheetId found) :
    book.Stores sheetId found ∨ sheetId = info.sheetId ∧ ∃ ws a, book.worksheet? info = some ws ∧
      change ws = .ok (a, found) := by
  rcases changeWorksheet_cases book info change with
    ⟨refusal, heq⟩ | ⟨ws, a, ws', hws, hresult, heq⟩ <;> rw [heq] at h
  · exact .inl h
  · rcases stores_setWorksheet h with ⟨rfl, rfl⟩ | hold
    · exact .inr ⟨rfl, ws, a, hws, hresult⟩
    · exact .inl hold

theorem stores_createWorksheet {sheetId title newId other : String} {size : WorksheetSize}
    {now : Instant} {found : StoredWorksheet}
    (h : (book.createWorksheet sheetId title size now newId).2.Stores other found) :
    book.Stores other found ∨
      (∃ info, (book.createWorksheet sheetId title size now newId).1 = .ok info) ∧
        other = sheetId ∧ found = ⟨newId, title, now, size.rows, size.cols, .empty, []⟩ := by
  simp only [createWorksheet] at h ⊢
  split at h
  · exact .inl (stores_addSheet h)
  · rename_i sheet hsheet
    split at h
    · exact .inl (stores_addSheet h)
    · rename_i htitle
      rw [if_neg htitle]
      rcases stores_insert h with ⟨rfl, hmem⟩ | hold
      · rcases List.mem_append.1 hmem with hmem | hnew
        · exact .inl (stores_addSheet ⟨sheet, hsheet, hmem⟩)
        · exact .inr ⟨⟨_, rfl⟩, rfl, List.mem_singleton.1 hnew⟩
      · exact .inl (stores_addSheet hold)

theorem stores_dropWorksheet {sheetId worksheetId other : String} {found : StoredWorksheet}
    (h : (book.dropWorksheet sheetId worksheetId).2.Stores other found) :
    book.Stores other found := by
  rw [dropWorksheet] at h
  split at h
  · exact h
  · rename_i sheet hsheet
    simp only at h
    split at h
    · exact h
    · rcases stores_insert h with ⟨rfl, hmem⟩ | hold
      · exact ⟨sheet, hsheet, (List.mem_filter.1 hmem).1⟩
      · exact hold

end Workbook

end GridStore
