import GridStore.Proofs.Workbook.Answers
import GridStore.Proofs.Workbook.Changes

/-!
# Changes stay in their places

A request that changes a workbook is refused and changes nothing, or it changes one place: the
worksheet that it addresses, or the end of the list of worksheets if it creates one. No other sheet
and no other worksheet is touched, and a header cell is lost only with its worksheet.

## Main definitions

* `Workbook.DistinctIds`: whether the worksheets of each sheet have different identities.
* `StoredWorksheet.Revises`: whether a worksheet is a changed form of another one.
* `Request.Edits`: how a request may change the worksheets of the sheet that it addresses.
* `Workbook.HeaderHolds`: whether a worksheet has a cell in its header.
* `Workbook.Confined`: whether one workbook comes from another one by the change of one place.

## Main results

* `Workbook.answer_unchanged_or_confined`: a change is refused without a trace, or confined.
-/

namespace GridStore

/-! ### Lists with one place changed -/

/-- The first element that satisfies a condition is replaced in its place. -/
theorem exists_replaceFirst_eq {α : Type} {condition : α → Bool} {xs : List α} {old : α}
    (h : xs.find? condition = some old) (new : α) : ∃ before after,
      xs = before ++ old :: after ∧ replaceFirst condition new xs = before ++ new :: after := by
  induction xs with
  | nil => cases h
  | cons x rest ih =>
    rw [replaceFirst]
    by_cases hx : condition x = true
    · rw [List.find?_cons_of_pos hx] at h
      cases h
      exact ⟨[], rest, rfl, if_pos hx⟩
    · rw [List.find?_cons_of_neg hx] at h
      obtain ⟨before, after, hrest, hnew⟩ := ih h
      refine ⟨x :: before, after, congrArg (x :: ·) hrest, ?_⟩
      rw [if_neg hx, hnew]
      rfl

/-- Leaving out what has one of several different keys leaves out one element or none. -/
theorem exists_filter_key_eq {α : Type} {key : α → String} {k : String} {xs : List α}
    (hdistinct : (xs.map key).Nodup) :
    xs.filter (fun x => key x != k) = xs ∨ ∃ before x after, key x = k ∧
      xs = before ++ x :: after ∧ xs.filter (fun x => key x != k) = before ++ after := by
  induction xs with
  | nil => exact .inl rfl
  | cons x rest ih =>
    obtain ⟨hnew, hdistinct⟩ := List.nodup_cons.1 hdistinct
    by_cases hx : key x = k
    · have hrest : rest.filter (fun x => key x != k) = rest := by
        refine List.filter_eq_self.2 fun y hy => bne_iff_ne.2 fun heq => hnew ?_
        rw [hx, ← heq]
        exact List.mem_map_of_mem hy
      refine .inr ⟨[], x, rest, hx, rfl, ?_⟩
      rw [List.filter_cons_of_neg (by simp [hx]), hrest]
      rfl
    · rw [List.filter_cons_of_pos (p := fun x => key x != k) (bne_iff_ne.2 hx)]
      rcases ih hdistinct with hkept | ⟨before, y, after, hy, hrest, hfilter⟩
      · exact .inl (by rw [hkept])
      · refine .inr ⟨x :: before, y, after, hy, by rw [hrest]; rfl, ?_⟩
        rw [hfilter]
        rfl

/-! ### Changed forms of a worksheet -/

namespace StoredWorksheet

variable {ws : StoredWorksheet} {now : Instant}

/-- Whether a worksheet is a changed form of another one: its identity, its title and its size are
the same, and every cell of the header is still there. -/
structure Revises (ws ws' : StoredWorksheet) : Prop where
  id : ws'.id = ws.id
  title : ws'.title = ws.title
  rowCount : ws'.rowCount = ws.rowCount
  colCount : ws'.colCount = ws.colCount
  header : ∀ {col cell}, ws.header.get? col = some cell → ws'.header.get? col = some cell

/-- A new column takes no place of another one. -/
theorem revises_named {name : String} {col : Nat} (hfree : ws.header.get? col = none) :
    ws.Revises (ws.named name col now) where
  id := rfl
  title := rfl
  rowCount := rfl
  colCount := rfl
  header {other cell} hcell := by
    have hne : other ≠ col := by
      rintro rfl
      rw [hfree] at hcell
      cases hcell
    rw [named, Dictionary.get?_insert_of_ne _ hne]
    exact hcell

end StoredWorksheet

/-! ### Places of changes -/

namespace Request

/-- The identity of the sheet that a request addresses. -/
def sheetId : Request → String
  | sheetInfo sheetId => sheetId
  | createWorksheet sheetId .. => sheetId
  | dropWorksheet sheetId _ => sheetId
  | queryRows info _ => info.sheetId
  | insertRow info _ => info.sheetId
  | updateRow info .. => info.sheetId
  | deleteRow info _ => info.sheetId
  | queryFields info => info.sheetId
  | createField info .. => info.sheetId

/-- The identity of the worksheet that a request addresses. A worksheet that is created has the new
identity. -/
def worksheetId? (newId : String) : Request → Option String
  | sheetInfo _ => none
  | createWorksheet .. => some newId
  | dropWorksheet _ worksheetId => some worksheetId
  | queryRows info _ => some info.worksheetId
  | insertRow info _ => some info.worksheetId
  | updateRow info .. => some info.worksheetId
  | deleteRow info _ => some info.worksheetId
  | queryFields info => some info.worksheetId
  | createField info .. => some info.worksheetId

/-- The worksheet whose rows or columns a request changes. -/
def rewrites? : Request → Option WorksheetInfo
  | insertRow info _ => some info
  | updateRow info .. => some info
  | deleteRow info _ => some info
  | createField info .. => some info
  | _ => none

/-- How a request may change a list of worksheets: one is put at the end, one is taken away, or one
is changed in its place. It is the worksheet that the request addresses. -/
inductive Edits (newId : String) (request : Request) :
    List StoredWorksheet → List StoredWorksheet → Prop
  | created {worksheets : List StoredWorksheet} (ws : StoredWorksheet)
      (id : request.worksheetId? newId = some ws.id)
      (creates : ∃ title size, request = .createWorksheet request.sheetId title size) :
      Edits newId request worksheets (worksheets ++ [ws])
  | dropped (before after : List StoredWorksheet) (ws : StoredWorksheet)
      (drops : request = .dropWorksheet request.sheetId ws.id) :
      Edits newId request (before ++ ws :: after) (before ++ after)
  | changed (before after : List StoredWorksheet) (ws ws' : StoredWorksheet)
      (addressed : request.worksheetId? newId = some ws.id) (revises : ws.Revises ws') :
      Edits newId request (before ++ ws :: after) (before ++ ws' :: after)

end Request

namespace Workbook

variable {book book' : Workbook} {newId : String}

/-- Whether the worksheets of each sheet have different identities. -/
def DistinctIds (book : Workbook) : Prop :=
  ∀ sheetId sheet, book.sheets.get? sheetId = some sheet →
    (sheet.worksheets.map StoredWorksheet.id).Nodup

/-- The worksheets of a sheet, none if it is not registered. -/
def worksheetsOf (book : Workbook) (sheetId : String) : List StoredWorksheet :=
  ((book.sheets.get? sheetId).map StoredSheet.worksheets).getD []

/-- Whether the worksheet that a description names has a cell at a position of its header. -/
def HeaderHolds (book : Workbook) (info : WorksheetInfo) (col : Nat) (cell : HeaderCell) : Prop :=
  ∃ ws, book.worksheet? info = some ws ∧ ws.header.get? col = some cell

/-- Whether a workbook is what a request makes of another one if it changes nothing but the
worksheet that it addresses, and takes no header cell away except with the worksheet. -/
structure Confined (newId : String) (request : Request) (book book' : Workbook) : Prop where
  sheets : ∀ sheetId, sheetId ≠ request.sheetId →
    book'.sheets.get? sheetId = book.sheets.get? sheetId
  worksheets : request.Edits newId (book.worksheetsOf request.sheetId)
    (book'.worksheetsOf request.sheetId)
  header : ∀ info col cell, book.HeaderHolds info col cell →
    request ≠ .dropWorksheet info.sheetId info.worksheetId → book'.HeaderHolds info col cell

theorem worksheetsOf_of_get? {sheetId : String} {sheet : StoredSheet}
    (h : book.sheets.get? sheetId = some sheet) : book.worksheetsOf sheetId = sheet.worksheets := by
  rw [worksheetsOf, h]
  rfl

theorem worksheetsOf_insert (sheetId : String) (sheet : StoredSheet) :
    (Workbook.mk (book.sheets.insert sheetId sheet)).worksheetsOf sheetId = sheet.worksheets :=
  worksheetsOf_of_get? (Dictionary.get?_insert_self ..)

theorem worksheetsOf_insert_of_ne (book : Workbook) {sheetId other : String}
    (h : other ≠ sheetId) (sheet : StoredSheet) :
    (Workbook.mk (book.sheets.insert sheetId sheet)).worksheetsOf other =
      book.worksheetsOf other := by
  rw [worksheetsOf, Dictionary.get?_insert_of_ne _ h, ← worksheetsOf]

/-- A worksheet is looked for among the worksheets of its sheet. -/
theorem worksheet?_eq_find? (book : Workbook) (info : WorksheetInfo) :
    book.worksheet? info =
      (book.worksheetsOf info.sheetId).find? fun ws => ws.id == info.worksheetId := by
  rw [worksheet?, worksheetsOf]
  cases book.sheets.get? info.sheetId <;> rfl

/-- Registering a sheet leaves the other sheets as they are. -/
theorem get?_addSheet_of_ne (book : Workbook) {sheetId other : String} (hne : other ≠ sheetId)
    (title : String) (now : Instant) :
    (book.addSheet sheetId title now).sheets.get? other = book.sheets.get? other := by
  rw [addSheet]
  split
  · rfl
  · exact Dictionary.get?_insert_of_ne _ hne _

theorem worksheetsOf_addSheet (book : Workbook) (sheetId title : String) (now : Instant) :
    (book.addSheet sheetId title now).worksheetsOf sheetId = book.worksheetsOf sheetId := by
  rw [addSheet]
  split
  case isTrue => rfl
  case isFalse hnew =>
    have hnone : book.sheets.get? sheetId = none := by simpa [Dictionary.contains] using hnew
    rw [worksheetsOf_insert, worksheetsOf, hnone]
    rfl

/-- A worksheet is found as before if the worksheets of its sheet are as before. -/
theorem HeaderHolds.congr {info : WorksheetInfo} {col : Nat} {cell : HeaderCell}
    (h : book.HeaderHolds info col cell) (hfound : book'.worksheet? info = book.worksheet? info) :
    book'.HeaderHolds info col cell := by
  obtain ⟨ws, hws, hcell⟩ := h
  exact ⟨ws, hfound.trans hws, hcell⟩

/-! ### Accepted changes -/

/-- A change of a worksheet to another form of it is confined to the worksheet. -/
theorem confined_changeWorksheet {α : Type} {info : WorksheetInfo} {request : Request}
    {change : StoredWorksheet → Except Refusal (α × StoredWorksheet)} {a : α}
    (hsheet : request.sheetId = info.sheetId)
    (hworksheet : request.worksheetId? newId = some info.worksheetId)
    (hchange : ∀ ws a ws', change ws = .ok (a, ws') → ws.Revises ws')
    (h : book.changeWorksheet info change = (.ok a, book')) :
    Confined newId request book book' := by
  obtain ⟨ws, ws', hws, hresult, rfl⟩ := exists_of_changeWorksheet h
  have hrevises := hchange ws a ws' hresult
  obtain ⟨sheet, hfound, hfind⟩ := Option.bind_eq_some_iff.1 hws
  have hsheets := sheets_setWorksheet hfound ws'
  refine ⟨fun other hother => ?_, ?_, fun other col cell hholds _ => ?_⟩
  · rw [hsheets, Dictionary.get?_insert_of_ne _ (hsheet ▸ hother)]
  · obtain ⟨before, after, hold, hnew⟩ := exists_replaceFirst_eq hfind ws'
    have hworksheets : (book.setWorksheet info ws').worksheetsOf info.sheetId =
        before ++ ws' :: after := by
      rw [worksheetsOf, hsheets, Dictionary.get?_insert_self, ← hnew]
      rfl
    rw [hsheet, hworksheets, worksheetsOf_of_get? hfound, hold]
    refine .changed before after ws ws' ?_ hrevises
    rw [hworksheet, (stores_of_worksheet? hws).2]
  · by_cases hsame : other.sheetId = info.sheetId ∧ other.worksheetId = info.worksheetId
    · obtain ⟨held, hheld, hcell⟩ := hholds
      rw [worksheet?_congr book hsame.1 hsame.2, hws] at hheld
      cases hheld
      refine ⟨ws', ?_, hrevises.header hcell⟩
      rw [worksheet?_congr _ hsame.1 hsame.2]
      exact worksheet?_setWorksheet hws hrevises.id
    · exact hholds.congr
        (worksheet?_setWorksheet_of_ne hws hrevises.id (Decidable.not_and_iff_or_not.1 hsame))

/-- A worksheet is created at the end of its sheet, which may be registered for it. -/
theorem confined_createWorksheet {sheetId title : String} {size : WorksheetSize} {now : Instant}
    {info : WorksheetInfo}
    (h : book.createWorksheet sheetId title size now newId = (.ok info, book')) :
    Confined newId (.createWorksheet sheetId title size) book book' := by
  rw [createWorksheet] at h
  simp only at h
  cases hfound : (book.addSheet sheetId sheetId now).sheets.get? sheetId with
  | none =>
    rw [hfound] at h
    cases (Prod.mk.inj h).1
  | some sheet =>
    rw [hfound] at h
    simp only at h
    split at h
    · cases (Prod.mk.inj h).1
    · obtain ⟨-, rfl⟩ := Prod.mk.inj h
      have hold : sheet.worksheets = book.worksheetsOf sheetId := by
        rw [← worksheetsOf_of_get? hfound, worksheetsOf_addSheet]
      refine ⟨fun other hother => ?_, ?_, fun other col cell hholds _ => ?_⟩
      · exact (Dictionary.get?_insert_of_ne _ hother _).trans (get?_addSheet_of_ne book hother ..)
      · show Request.Edits _ _ (book.worksheetsOf sheetId) (worksheetsOf _ sheetId)
        rw [worksheetsOf_insert, hold]
        exact .created _ rfl ⟨title, size, rfl⟩
      · obtain ⟨ws, hws, hcell⟩ := hholds
        refine ⟨ws, ?_, hcell⟩
        by_cases hsame : other.sheetId = sheetId
        · rw [worksheet?_eq_find?, hsame] at hws ⊢
          rw [worksheetsOf_insert, hold, List.find?_append, hws]
          rfl
        · rw [worksheet?, Dictionary.get?_insert_of_ne _ hsame, ← worksheet?, worksheet?_addSheet]
          exact hws

/-- The one worksheet with an identity is dropped. -/
theorem confined_dropWorksheet (hids : book.DistinctIds) {sheetId worksheetId : String} {u : Unit}
    (h : book.dropWorksheet sheetId worksheetId = (.ok u, book')) :
    Confined newId (.dropWorksheet sheetId worksheetId) book book' := by
  rw [dropWorksheet] at h
  cases hfound : book.sheets.get? sheetId with
  | none =>
    rw [hfound] at h
    cases (Prod.mk.inj h).1
  | some sheet =>
    rw [hfound] at h
    simp only at h
    split at h
    case isTrue => cases (Prod.mk.inj h).1
    case isFalse hlost =>
      obtain ⟨-, rfl⟩ := Prod.mk.inj h
      refine ⟨fun other hother => Dictionary.get?_insert_of_ne _ hother _, ?_,
        fun other col cell hholds hdrops => ?_⟩
      · show Request.Edits _ _ (book.worksheetsOf sheetId) (worksheetsOf _ sheetId)
        rw [worksheetsOf_insert, worksheetsOf_of_get? hfound]
        rcases exists_filter_key_eq (k := worksheetId) (hids sheetId sheet hfound) with
          hkept | ⟨before, ws, after, hid, hworksheets, hfilter⟩
        · exact absurd (congrArg List.length hkept) hlost
        · simp only
          rw [hfilter, hworksheets]
          exact .dropped before after ws (by rw [hid]; rfl)
      · refine hholds.congr ?_
        by_cases hsame : other.sheetId = sheetId
        · have hother : other.worksheetId ≠ worksheetId := fun heq => hdrops (by rw [hsame, heq])
          rw [worksheet?_eq_find?, worksheet?_eq_find?, hsame, worksheetsOf_insert,
            worksheetsOf_of_get? hfound]
          simp only [List.find?_filter]
          refine congrArg (List.find? · sheet.worksheets) (funext fun ws => ?_)
          by_cases hws : ws.id = other.worksheetId <;> simp [hws, hother]
        · rw [worksheet?, worksheet?, Dictionary.get?_insert_of_ne _ hsame]

/-- A change of rows or columns is confined to their worksheet. -/
theorem confined_rewrite {now : Instant} {engine : QueryEngine} {request : Request}
    {info : WorksheetInfo} (hrewrites : request.rewrites? = some info) {a : request.Answer}
    (h : book.answer now newId engine request = (.ok a, book')) :
    Confined newId request book book' := by
  cases request with
  | insertRow =>
    refine confined_changeWorksheet rfl rfl (fun ws raw ws' hok => ?_) h
    obtain ⟨-, -, rfl⟩ := StoredWorksheet.insertRow_eq_ok_iff.1 hok
    exact ⟨rfl, rfl, rfl, rfl, id⟩
  | updateRow =>
    refine confined_changeWorksheet rfl rfl (fun ws raw ws' hok => ?_) h
    obtain ⟨index, -, -, -, rfl⟩ := StoredWorksheet.updateRow_eq_ok_iff.1 hok
    exact ⟨rfl, rfl, rfl, rfl, id⟩
  | deleteRow =>
    refine confined_changeWorksheet rfl rfl (fun ws u ws' hok => ?_) h
    obtain ⟨index, -, rfl⟩ := StoredWorksheet.deleteRow_eq_ok_iff.1 hok
    exact ⟨rfl, rfl, rfl, rfl, id⟩
  | createField =>
    refine confined_changeWorksheet rfl rfl (fun ws u ws' hok => ?_) h
    obtain ⟨-, hfree, rfl⟩ := StoredWorksheet.createField_eq_ok_iff.1 hok
    exact StoredWorksheet.revises_named hfree
  | _ => cases hrewrites

/-- A request that changes a workbook is refused and leaves the workbook as it is, or it is confined
to the worksheet that it addresses. -/
theorem answer_unchanged_or_confined (hids : book.DistinctIds) (now : Instant) (newId : String)
    (engine : QueryEngine) {request : Request} (hchange : request.isRead = false) :
    match book.answer now newId engine request with
    | (.error _, book') => book' = book
    | (.ok _, book') => Confined newId request book book' := by
  rcases h : book.answer now newId engine request with ⟨refusal | a, book'⟩
  · exact answer_of_refused h
  · cases request with
    | createWorksheet => exact confined_createWorksheet h
    | dropWorksheet => exact confined_dropWorksheet hids h
    | insertRow => exact confined_rewrite rfl h
    | updateRow => exact confined_rewrite rfl h
    | deleteRow => exact confined_rewrite rfl h
    | createField => exact confined_rewrite rfl h
    | _ => cases hchange

/-! ### A worksheet with a column -/

/-- The description of the first worksheet of the sample. -/
def firstInfo : WorksheetInfo := ⟨"s1", "W1", "rows", none, 50, 5000⟩

/-- A time at which the sample is changed. -/
def sampleTime : Instant := .startOf ⟨2033, 11, 24, by decide, by decide⟩

/-- A sheet with two worksheets, of which the first one has a column. -/
def sampleBook : Workbook where
  sheets := .ofList [("s1", {
    title := "S"
    updated := sampleTime
    authors := []
    worksheets := [
      ⟨"W1", "rows", sampleTime, 5000, 50, .ofList [(1, ⟨"a", sampleTime⟩)], []⟩,
      ⟨"W2", "more", sampleTime, 5000, 50, .empty, []⟩] })]

theorem distinctIds_sampleBook : sampleBook.DistinctIds := by
  intro sheetId sheet hsheet
  have hmem : (sheetId, sheet) ∈ sampleBook.sheets.entries := Dictionary.mem_of_find? hsheet
  obtain ⟨-, rfl⟩ := Prod.mk.inj (List.mem_singleton.1 hmem)
  decide

/-- Naming a second column changes the first worksheet alone. -/
theorem answer_unchanged_or_confined_named :
    sampleBook.DistinctIds ∧ (Request.createField firstInfo "b" 2).isRead = false ∧
      ∃ book', sampleBook.answer sampleTime "W3" { evaluates := true }
          (.createField firstInfo "b" 2) = (.ok (), book') ∧
        Confined "W3" (.createField firstInfo "b" 2) sampleBook book' := by
  refine ⟨distinctIds_sampleBook, rfl, ?_⟩
  have hconfined := @answer_unchanged_or_confined _ distinctIds_sampleBook sampleTime "W3"
    { evaluates := true } (.createField firstInfo "b" 2) rfl
  have hok : (sampleBook.answer sampleTime "W3" { evaluates := true }
      (.createField firstInfo "b" 2)).1.isOk = true := by decide +kernel
  rcases h : sampleBook.answer sampleTime "W3" { evaluates := true }
      (.createField firstInfo "b" 2) with ⟨refusal | u, book'⟩
  · rw [h] at hok
    cases hok
  · rw [h] at hconfined
    exact ⟨book', rfl, hconfined⟩

end Workbook

end GridStore
