import GridStore.Proofs.Spreadsheet.Creations

/-!
# Looking for a worksheet

A worksheet is looked for in what the spreadsheet remembers, which may be answers from some time
ago. As these are still right, the worksheet is found exactly if the sheet has it now, and it is
described as it is now.

## Main definitions

* `Spreadsheet.Finds`: whether a worksheet is found exactly if the sheet has it now.

## Main results

* `Spreadsheet.UpToDate.ends_worksheet_titled`: what looking for a worksheet leads to.
* `Spreadsheet.lookups_run`: after any calls, the remembered list is that of the sheet, and a
  worksheet is found exactly if the sheet has it, unless a failure was made to happen.
-/

namespace GridStore

namespace Spreadsheet

variable {sheet : Spreadsheet MemorySheets} {title : String}

/-- The worksheets are known after looking for one, and the workbook is as it was. -/
theorem Consults.book_eq {ok : SheetInfo → Client MemorySheets → Prop}
    {s' : Spreadsheet MemorySheets} (h : Consults ok sheet s')
    (hok : ∀ info c', ok info c' → c'.service.book = sheet.client.service.book) :
    s'.id = sheet.id ∧ s'.known ≠ none ∧
      s'.client.service.book = sheet.client.service.book := by
  cases h with
  | remembered known => exact ⟨rfl, known, rfl⟩
  | asked unknown answer => exact ⟨rfl, Option.some_ne_none _, hok _ _ answer⟩

/-- If what is remembered is right, looking for a worksheet leads to the worksheet that the sheet
has under the title. It fails if there is none, or if the sheet has to be asked for its description
and a failure is due. -/
theorem UpToDate.ends_worksheet_titled (h : sheet.UpToDate) (clock : Clock) (title : String) :
    StoreM.Ends (worksheet clock title) sheet
      (fun info _ => ∃ ws, sheet.client.service.book.titled? sheet.id title = some ws ∧
        info.undated = ws.listed sheet.id)
      (fun _ _ => sheet.client.service.book.titled? sheet.id title = none ∨
        sheet.known = none ∧ sheet.client.service.Due .sheetInfo) := by
  refine (ends_worksheet title fun _ => h.ends_sheetInfo clock).mono ?_ ?_
  · rintro info s' ⟨hs', hfound⟩
    obtain ⟨hid, -, hbook⟩ := hs'.book_eq fun _ _ hok => hok.2.1
    have htitled := (h.consults hs' fun _ _ hok => hok.1).titled?_of_known? hfound
    rwa [hid, hbook] at htitled
  · rintro e s' (⟨hs', hmissing, -⟩ | ⟨hunknown, c', ⟨-, -, -, hdue | hnone⟩, rfl⟩)
    · obtain ⟨hid, hknown, hbook⟩ := hs'.book_eq fun _ _ hok => hok.2.1
      have htitled :=
        (h.consults hs' fun _ _ hok => hok.1).titled?_eq_none_of_known hknown hmissing
      rw [hid, hbook] at htitled
      exact .inl htitled
    · exact .inr ⟨hunknown, hdue⟩
    · exact .inl (Workbook.titled?_of_missing hnone title)

/-- Whether looking for a worksheet succeeds exactly if the sheet has one with the title now, and
then describes it with the identity, title and size that it has now. -/
def Finds (sheet : Spreadsheet MemorySheets) (clock : Clock) (title : String) : Prop :=
  (worksheet clock title sheet).1.toOption.map WorksheetInfo.undated =
    (sheet.client.service.book.titled? sheet.id title).map fun ws => ws.listed sheet.id

/-- A worksheet of the sheet is found, unless the sheet has to be asked for its description and a
failure is due. -/
theorem UpToDate.finds_or_fails (h : sheet.UpToDate) (clock : Clock) (title : String) :
    sheet.Finds clock title ∨ sheet.known = none ∧ sheet.client.service.Due .sheetInfo ∧
      ∃ e, (worksheet clock title sheet).1 = .error e := by
  have hends := h.ends_worksheet_titled clock title
  rcases hrun : worksheet clock title sheet with ⟨e | info, s'⟩
  · rcases (StoreM.ends_error hrun).1 hends with hnone | ⟨hunknown, hdue⟩
    · left
      rw [Finds, hrun, hnone]
      rfl
    · exact .inr ⟨hunknown, hdue, e, rfl⟩
  · obtain ⟨ws, hws, heq⟩ := (StoreM.ends_ok hrun).1 hends
    left
    rw [Finds, hrun, hws]
    exact congrArg some heq

/-- After any calls through an open spreadsheet that starts without anything kept or known, what is
remembered is the list of worksheets that the sheet has now. Looking for a worksheet finds it
exactly if the sheet has it now, unless a failure was made to happen, which calls alone never do. -/
theorem lookups_run {start : Spreadsheet MemorySheets} (hcache : start.client.cache.entries = [])
    (hknown : start.known = none) (steps : List SheetStep) :
    (∀ list, (start.run steps).known = some list → list.map WorksheetInfo.undated =
      (start.run steps).client.service.book.listing (start.run steps).id) ∧
    (∀ clock title, (start.run steps).Finds clock title ∨ (start.run steps).known = none ∧
      (start.run steps).client.service.Due .sheetInfo ∧
        ∃ e, (worksheet clock title (start.run steps)).1 = .error e) ∧
    (start.client.service.faults = [] → (∀ step ∈ steps, step.isCall = true) →
      ∀ clock title, (start.run steps).Finds clock title) := by
  have hrun := (upToDate_of_fresh hcache hknown).run steps
  refine ⟨hrun.known, hrun.finds_or_fails, fun hcalm hcalls clock title => ?_⟩
  refine (hrun.finds_or_fails clock title).resolve_right fun hfails => ?_
  exact MemorySheets.not_due_of_calm (calm_run hcalm hcalls) _ hfails.2.1

/-- A worksheet that was created is remembered, and found with its identity and size. -/
theorem lookups_run_created : sampleStart.client.cache.entries = [] ∧ sampleStart.known = none ∧
    (∃ list, (sampleStart.run [sampleStep (.createWorksheet "a" {})]).known = some list ∧
      list.map WorksheetInfo.undated =
        (sampleStart.run [sampleStep (.createWorksheet "a" {})]).client.service.book.listing
          (sampleStart.run [sampleStep (.createWorksheet "a" {})]).id) ∧
    (sampleStart.run [sampleStep (.createWorksheet "a" {})]).Finds Client.sampleClock "a" ∧
    (worksheet Client.sampleClock "a"
        (sampleStart.run [sampleStep (.createWorksheet "a" {})])).1.toOption.map
      WorksheetInfo.undated = some ⟨"s1", "3f2a91c", "a", none, 50, 5000⟩ := by
  have hknown : (sampleStart.run [sampleStep (.createWorksheet "a" {})]).known ≠ none := by
    decide +kernel
  obtain ⟨list, hlist⟩ := Option.ne_none_iff_exists'.1 hknown
  have hcall : ∀ step ∈ [sampleStep (.createWorksheet "a" {})], step.isCall = true :=
    List.forall_mem_singleton.2 rfl
  have hfinds := (@lookups_run sampleStart rfl rfl _).2.2 rfl hcall Client.sampleClock "a"
  have hcreated : ((sampleStart.run
      [sampleStep (.createWorksheet "a" {})]).client.service.book.titled? "s1" "a").map
        (fun ws => ws.listed "s1") = some ⟨"s1", "3f2a91c", "a", none, 50, 5000⟩ := by
    decide +kernel
  exact ⟨rfl, rfl, ⟨list, hlist, (lookups_run rfl rfl _).1 list hlist⟩, hfinds,
    hfinds.trans hcreated⟩

end Spreadsheet

end GridStore
