import GridStore.Proofs.Spreadsheet.Known

/-!
# Creating a worksheet again

Creating a worksheet is meant to return the worksheet that the sheet has under the title, if it has
one. That works if the worksheets are known. Otherwise the service is asked to create the worksheet,
and refuses a title that is taken.

## Main definitions

* `Spreadsheet.CreatesOnce`: whether creating a worksheet succeeds, and returns the worksheet that
  is there if there is one.

## Main results

* `Spreadsheet.createsOnce_iff`: after any calls, creating a worksheet fails exactly if the
  worksheets are not known and one has the title.
* `Spreadsheet.exists_not_createsOnce`: a worksheet that was created before and cannot be created
  again.
-/

namespace GridStore

namespace Spreadsheet

variable {sheet : Spreadsheet MemorySheets} {clock : Clock} {title : String} {size : WorksheetSize}

/-- Whether creating a worksheet succeeds with a worksheet of the title and, if the sheet has one
already, returns that one and changes nothing in the workbook. -/
def CreatesOnce (sheet : Spreadsheet MemorySheets) (clock : Clock) (title : String)
    (size : WorksheetSize) : Prop :=
  ∃ info sheet', createWorksheet clock title size sheet = (.ok info, sheet') ∧
    info.title = title ∧
    ∀ ws, sheet.client.service.book.titled? sheet.id title = some ws →
      info.undated = ws.listed sheet.id ∧
        sheet'.client.service.book = sheet.client.service.book

theorem title_of_known? {ws : WorksheetInfo} (h : sheet.known? title = some ws) :
    ws.title = title :=
  eq_of_beq (List.find?_some (p := fun ws : WorksheetInfo => ws.title == title) h)

/-- A client whose sheet has a worksheet with a title describes it if no failure is due. -/
theorem UpToDate.ends_sheetInfo_titled (h : sheet.UpToDate) {stored : StoredSheet}
    {ws : StoredWorksheet} (hcalm : sheet.client.service.faults = [])
    (hstored : sheet.client.service.book.sheets.get? sheet.id = some stored)
    (hmem : ws ∈ stored.worksheets) (htitle : ws.title = title) (clock : Clock) :
    StoreM.Ends (Client.sheetInfo clock sheet.id) sheet.client
      (fun info _ => ∃ ws ∈ info.worksheets, ws.title = title) (fun _ _ => False) := by
  refine (h.ends_sheetInfo clock).mono ?_ ?_
  · rintro info c' ⟨-, -, -, stored', hstored', rfl⟩
    rw [hstored] at hstored'
    cases hstored'
    exact ⟨ws.info sheet.id, List.mem_map_of_mem hmem, htitle⟩
  · rintro e c' ⟨-, -, -, hdue | hmissing⟩
    · exact MemorySheets.not_due_of_calm hcalm _ hdue
    · rw [hstored] at hmissing
      cases hmissing

namespace Consistent

variable (h : sheet.Consistent)

include h

/-- A worksheet that is known is returned. -/
theorem createsOnce_of_known? {info : WorksheetInfo} (hknown : sheet.known? title = some info)
    (clock : Clock) (size : WorksheetSize) : sheet.CreatesOnce clock title size := by
  obtain ⟨ws, hws, heq⟩ := h.toUpToDate.titled?_of_known? hknown
  refine ⟨info, sheet, createWorksheet_of_known h.token hknown size, title_of_known? hknown,
    fun ws' hws' => ?_⟩
  rw [hws] at hws'
  cases hws'
  exact ⟨heq, rfl⟩

/-- A worksheet with a free title is created, and described afterwards, if no failure is due. -/
theorem ends_createWorksheet_titled (hcalm : sheet.client.service.faults = [])
    (hfree : sheet.client.service.book.titled? sheet.id title = none) (clock : Clock)
    (size : WorksheetSize) :
    StoreM.Ends (Client.createWorksheet clock sheet.id title size) sheet.client
      (fun _ c' => StoreM.Ends (Client.sheetInfo clock sheet.id) c'
        (fun info _ => ∃ ws ∈ info.worksheets, ws.title = title) fun _ _ => False)
      (fun _ _ => False) := by
  refine (Client.ends_createWorksheet_listed h.token clock sheet.id title size).mono ?_ ?_
  · rintro info c' ⟨hcache, -, hcalm', -, stored, ws, hstored, htitle, hworksheets⟩
    have hfresh : UpToDate ⟨sheet.id, c', none⟩ := upToDate_of_fresh hcache rfl
    refine hfresh.ends_sheetInfo_titled (hcalm' hcalm) hstored ?_ htitle clock
    rw [hworksheets]
    exact List.mem_append_right _ (List.mem_singleton_self ws)
  · rintro e c' ⟨-, -, -, hfaults | htaken⟩
    · exact hfaults hcalm
    · exact htaken hfree

/-- A worksheet with a free title is created and returned if no failure is due. -/
theorem createsOnce_of_free (hcalm : sheet.client.service.faults = [])
    (hfree : sheet.client.service.book.titled? sheet.id title = none) (clock : Clock)
    (size : WorksheetSize) : sheet.CreatesOnce clock title size := by
  have hends := ends_createWorksheet h.token title size fun _ =>
    h.ends_createWorksheet_titled hcalm hfree clock size
  rcases hrun : createWorksheet clock title size sheet with ⟨e | info, sheet'⟩
  · obtain ⟨-, ⟨info, c', ⟨ws, hws, htitle⟩, rfl, hmissing, -⟩ | ⟨_, hfalse, -⟩ | ⟨_, hfalse, -⟩⟩ :=
      (StoreM.ends_error hrun).1 hends
    · exact absurd htitle (by simpa using List.find?_eq_none.1 hmissing ws hws)
    · exact hfalse.elim
    · exact hfalse.elim
  · refine ⟨info, sheet', hrun, ?_, fun ws hws => ?_⟩
    · rcases (StoreM.ends_ok hrun).1 hends with ⟨hknown, -⟩ | ⟨-, -, -, -, -, hknown⟩
      · exact title_of_known? hknown
      · exact title_of_known? hknown
    · rw [hfree] at hws
      cases hws

/-- A worksheet with a title that is taken is refused if the worksheets are not known. -/
theorem not_createsOnce (hknown : sheet.known = none)
    (htaken : sheet.client.service.book.titled? sheet.id title ≠ none) :
    ¬sheet.CreatesOnce clock title size := by
  rintro ⟨info, sheet', hrun, -⟩
  have hcreate : StoreM.Ends (Client.createWorksheet clock sheet.id title size) sheet.client
      (fun _ c' => StoreM.Ends (Client.sheetInfo clock sheet.id) c' (fun _ _ => False)
        fun _ _ => True) (fun _ _ => True) := by
    refine (Client.ends_createWorksheet_listed h.token clock sheet.id title size).mono ?_
      fun _ _ _ => trivial
    rintro info c' ⟨-, -, -, hfree, -⟩
    exact absurd hfree htaken
  rcases (ends_createWorksheet h.token title size fun _ => hcreate).of_ok hrun with
    ⟨hremembered, -⟩ | ⟨-, -, -, hfalse, -⟩
  · rw [known?, hknown] at hremembered
    cases hremembered
  · exact hfalse

end Consistent

/-- After any calls through an open spreadsheet with a token that starts without anything kept or
known, and with no failure due, creating a worksheet succeeds and leaves a worksheet with the title
as it is, unless the worksheets are not known and one has the title. -/
theorem createsOnce_iff {start : Spreadsheet MemorySheets}
    (htoken : start.client.isAuthenticated = true) (hcache : start.client.cache.entries = [])
    (hknown : start.known = none) (steps : List SheetStep)
    (hcalm : (start.run steps).client.service.faults = []) (clock : Clock) (title : String)
    (size : WorksheetSize) : (start.run steps).CreatesOnce clock title size ↔
      ¬((start.run steps).known = none ∧ ∃ ws ∈ (start.run steps).client.service.book.worksheetsOf
        (start.run steps).id, ws.title = title) := by
  have h := (consistent_of_fresh htoken hcache hknown).run steps
  have htaken : (∃ ws ∈ (start.run steps).client.service.book.worksheetsOf (start.run steps).id,
      ws.title = title) ↔
        (start.run steps).client.service.book.titled? (start.run steps).id title ≠ none := by
    rw [ne_eq, Workbook.titled?_eq_none_iff]
    simp
  rw [htaken]
  constructor
  · rintro hcreates ⟨hunknown, htaken⟩
    exact h.not_createsOnce hunknown htaken hcreates
  · intro hnot
    cases hremembered : (start.run steps).known? title with
    | some info => exact h.createsOnce_of_known? hremembered clock size
    | none =>
      refine h.createsOnce_of_free hcalm ?_ clock size
      by_cases hunknown : (start.run steps).known = none
      · exact Decidable.not_not.1 fun htaken => hnot ⟨hunknown, htaken⟩
      · exact h.toUpToDate.titled?_eq_none_of_known hunknown hremembered

/-- An open spreadsheet without worksheets. -/
def sampleStart : Spreadsheet MemorySheets := ⟨"s1", Client.sampleClient, none⟩

/-- A call on an open spreadsheet as a step. -/
def sampleStep (call : SheetCall) : SheetStep := .sheetCall Client.sampleClock call

/-- A worksheet that has just been created can be created again. -/
theorem createsOnce_iff_created : sampleStart.client.isAuthenticated = true ∧
    sampleStart.client.cache.entries = [] ∧ sampleStart.known = none ∧
    (sampleStart.run [sampleStep (.createWorksheet "a" {})]).client.service.faults = [] ∧
    (sampleStart.run [sampleStep (.createWorksheet "a" {})]).CreatesOnce
      Client.sampleClock "a" {} := by
  have hcalm : (sampleStart.run
      [sampleStep (.createWorksheet "a" {})]).client.service.faults = [] := by decide +kernel
  have hknown : (sampleStart.run [sampleStep (.createWorksheet "a" {})]).known ≠ none := by
    decide +kernel
  exact ⟨rfl, rfl, rfl, hcalm, (createsOnce_iff rfl rfl rfl _ hcalm Client.sampleClock "a" {}).2
    fun hunknown => hknown hunknown.1⟩

/-- Not every worksheet that was created can be created again: dropping another one makes the
spreadsheet forget it. -/
theorem exists_not_createsOnce : ¬∀ (start : Spreadsheet MemorySheets) (steps : List SheetStep),
    start.client.isAuthenticated = true → start.client.cache.entries = [] → start.known = none →
    (start.run steps).client.service.faults = [] →
    ∀ clock title size, (start.run steps).CreatesOnce clock title size := by
  intro h
  let steps := [.createWorksheet "a" {}, .createWorksheet "b" {}, .dropWorksheet "a"].map sampleStep
  have hcalm : (sampleStart.run steps).client.service.faults = [] := by decide +kernel
  obtain ⟨info, sheet', hrun, -⟩ :=
    h sampleStart steps rfl rfl rfl hcalm Client.sampleClock "b" {}
  have hrefused : (createWorksheet Client.sampleClock "b" {} (sampleStart.run steps)).1.isOk =
      false := by decide +kernel
  rw [hrun] at hrefused
  cases hrefused

end Spreadsheet

end GridStore
