import GridStore.Proofs.StoreM
import GridStore.Spreadsheet

/-!
# What calls on an open spreadsheet lead to

The calls on an open spreadsheet, in terms of what the requests of its client lead to.

## Main definitions

* `Spreadsheet.Consults`: how the list of worksheets comes to be known.

## Main results

* `Spreadsheet.ends_info`, `Spreadsheet.ends_worksheet`: what reads lead to.
* `Spreadsheet.ends_createWorksheet`, `Spreadsheet.ends_dropWorksheet`: what changes lead to.
-/

namespace GridStore

/-- With a token, an operation is not refused. -/
theorem Client.requireToken_of_isAuthenticated {σ : Type} {c : Client σ}
    (h : c.isAuthenticated = true) (operation : Operation) :
    requireToken operation c = (.ok (), c) := by
  rw [requireToken, StoreM.bind_apply, StoreM.get_apply]
  simp only
  rw [h]
  rfl

namespace Spreadsheet

variable {σ : Type} {sheet : Spreadsheet σ} {clock : Clock} {α : Type}

/-- A computation of the client leaves the identity and the known worksheets as they are. -/
theorem ends_onClient {action : StoreM (Client σ) α} {ok : α → Client σ → Prop}
    {fail : StoreError → Client σ → Prop} (h : StoreM.Ends action sheet.client ok fail) :
    StoreM.Ends (onClient action) sheet
      (fun a s' => ∃ c', ok a c' ∧ s' = { sheet with client := c' })
      (fun e s' => ∃ c', fail e c' ∧ s' = { sheet with client := c' }) := by
  rcases haction : action sheet.client with ⟨e | a, c'⟩
  · have hon : onClient action sheet = (.error e, { sheet with client := c' }) := by
      rw [onClient, haction]
    exact (StoreM.ends_error hon).2 ⟨c', (StoreM.ends_error haction).1 h, rfl⟩
  · have hon : onClient action sheet = (.ok a, { sheet with client := c' }) := by
      rw [onClient, haction]
    exact (StoreM.ends_ok hon).2 ⟨c', (StoreM.ends_ok haction).1 h, rfl⟩

/-- A call without a token is refused, and nothing changes. -/
theorem requireToken_apply (refusal : Precondition) (sheet : Spreadsheet σ) :
    requireToken refusal sheet =
      if sheet.client.isAuthenticated then (.ok (), sheet)
      else (.error (.precondition refusal), sheet) := by
  rw [requireToken, StoreM.bind_apply, StoreM.get_apply]
  simp only
  cases sheet.client.isAuthenticated <;> rfl

theorem requireToken_of_isAuthenticated (h : sheet.client.isAuthenticated = true)
    (refusal : Precondition) : requireToken refusal sheet = (.ok (), sheet) := by
  rw [requireToken_apply, if_pos h]

/-- A worksheet is looked for among those that are remembered. -/
theorem ends_known? {Q : Spreadsheet σ → Prop} {bad : StoreError → Spreadsheet σ → Prop}
    (title : String) (h : Q sheet) :
    StoreM.Ends (do
        match (← get).known? title with
        | some ws => return ws
        | none => throw (.worksheetNotFound title)) sheet
      (fun ws s' => Q s' ∧ s'.known? title = some ws)
      (fun e s' => (Q s' ∧ s'.known? title = none ∧ e = .worksheetNotFound title) ∨ bad e s') := by
  refine ⟨?_⟩
  rw [StoreM.bind_apply, StoreM.get_apply]
  simp only
  cases hknown : sheet.known? title with
  | some ws => exact ⟨h, hknown⟩
  | none => exact .inl ⟨h, hknown, rfl⟩

variable [Service σ] {ok : SheetInfo → Client σ → Prop} {fail : StoreError → Client σ → Prop}

/-- The worksheets in the description of the sheet are remembered. -/
theorem ends_info (h : StoreM.Ends (Client.sheetInfo clock sheet.id) sheet.client ok fail) :
    StoreM.Ends (info clock) sheet
      (fun info s' => ∃ c', ok info c' ∧ s' = ⟨sheet.id, c', some info.worksheets⟩)
      (fun e s' => ∃ c', fail e c' ∧ s' = { sheet with client := c' }) := by
  rcases hinfo : Client.sheetInfo clock sheet.id sheet.client with ⟨e | answer, c'⟩
  · have hrun : info clock sheet = (.error e, { sheet with client := c' }) := by
      rw [info, StoreM.bind_apply, StoreM.get_apply]
      simp only
      rw [StoreM.bind_apply, onClient, hinfo]
    exact (StoreM.ends_error hrun).2 ⟨c', (StoreM.ends_error hinfo).1 h, rfl⟩
  · have hrun : info clock sheet = (.ok answer, ⟨sheet.id, c', some answer.worksheets⟩) := by
      rw [info, StoreM.bind_apply, StoreM.get_apply]
      simp only
      rw [StoreM.bind_apply, onClient, hinfo]
      rfl
    exact (StoreM.ends_ok hrun).2 ⟨c', (StoreM.ends_ok hinfo).1 h, rfl⟩

/-- How the worksheets of an open spreadsheet come to be known: they were remembered, or the sheet
has been asked for its description. -/
inductive Consults (ok : SheetInfo → Client σ → Prop) (sheet : Spreadsheet σ) : Spreadsheet σ → Prop
  | remembered (known : sheet.known ≠ none) : Consults ok sheet sheet
  | asked {info : SheetInfo} {c' : Client σ} (unknown : sheet.known = none) (answer : ok info c') :
      Consults ok sheet ⟨sheet.id, c', some info.worksheets⟩

/-- A worksheet is looked for among those that are remembered, or else among those that the sheet
describes. -/
theorem ends_worksheet (title : String) (h : sheet.known = none →
      StoreM.Ends (Client.sheetInfo clock sheet.id) sheet.client ok fail) :
    StoreM.Ends (worksheet clock title) sheet
      (fun ws s' => Consults ok sheet s' ∧ s'.known? title = some ws)
      (fun e s' => (Consults ok sheet s' ∧ s'.known? title = none ∧ e = .worksheetNotFound title) ∨
        sheet.known = none ∧ ∃ c', fail e c' ∧ s' = { sheet with client := c' }) := by
  refine StoreM.ends_bind_of_eq (StoreM.get_apply sheet) ?_
  simp only
  split
  case isTrue hunknown =>
    have hnone : sheet.known = none := Option.isNone_iff_eq_none.1 hunknown
    refine (ends_info (h hnone)).andThen (fun e s' hfail => .inr ⟨hnone, hfail⟩) ?_
    rintro answer - ⟨c', hok, rfl⟩
    exact ends_known? title (.asked hnone hok)
  case isFalse hknown =>
    exact ends_known? title (.remembered fun hnone => hknown (by rw [hnone]; rfl))

/-- A worksheet that is remembered is returned. -/
theorem worksheet_of_known {title : String} {ws : WorksheetInfo}
    (h : sheet.known? title = some ws) : worksheet clock title sheet = (.ok ws, sheet) := by
  cases hknown : sheet.known with
  | none =>
    rw [known?, hknown] at h
    cases h
  | some list =>
    rw [worksheet, StoreM.bind_apply, StoreM.get_apply]
    simp only
    rw [hknown, Option.isNone_some, if_neg Bool.false_ne_true, StoreM.bind_apply, StoreM.get_apply]
    simp only
    rw [h]
    rfl

/-- With a token, a worksheet that is known need not be created. -/
theorem createWorksheet_of_known {title : String} {ws : WorksheetInfo}
    (htoken : sheet.client.isAuthenticated = true) (h : sheet.known? title = some ws)
    (size : WorksheetSize) : createWorksheet clock title size sheet = (.ok ws, sheet) := by
  rw [createWorksheet, StoreM.bind_apply, requireToken_of_isAuthenticated htoken]
  simp only
  rw [StoreM.bind_apply, StoreM.get_apply]
  simp only
  rw [h, Option.isNone_some, if_neg Bool.false_ne_true]
  exact worksheet_of_known h

/-- With a token, a worksheet that is known is returned. Otherwise one is created, and the sheet is
asked for its description to return it. -/
theorem ends_createWorksheet (htoken : sheet.client.isAuthenticated = true) (title : String)
    (size : WorksheetSize) {refused : StoreError → Client σ → Prop}
    (hcreate : sheet.known? title = none →
      StoreM.Ends (Client.createWorksheet clock sheet.id title size) sheet.client
        (fun _ c' => StoreM.Ends (Client.sheetInfo clock sheet.id) c' ok fail) refused) :
    StoreM.Ends (createWorksheet clock title size) sheet
      (fun ws s' => sheet.known? title = some ws ∧ s' = sheet ∨
        sheet.known? title = none ∧ ∃ info c', ok info c' ∧
          s' = ⟨sheet.id, c', some info.worksheets⟩ ∧ s'.known? title = some ws)
      (fun e s' => sheet.known? title = none ∧ ((∃ info c', ok info c' ∧
          s' = ⟨sheet.id, c', some info.worksheets⟩ ∧ s'.known? title = none ∧
            e = .worksheetNotFound title) ∨
        (∃ c', refused e c' ∧ s' = { sheet with client := c' }) ∨
        ∃ c', fail e c' ∧ s' = ⟨sheet.id, c', none⟩)) := by
  cases hknown : sheet.known? title with
  | some ws =>
    exact (StoreM.ends_ok (createWorksheet_of_known htoken hknown size)).2 (.inl ⟨rfl, rfl⟩)
  | none =>
    refine StoreM.ends_bind_of_eq (requireToken_of_isAuthenticated htoken _) ?_
    refine StoreM.ends_bind_of_eq (StoreM.get_apply sheet) ?_
    simp only [hknown, Option.isNone_none, if_true]
    refine StoreM.ends_bind_of_eq (StoreM.get_apply sheet) ?_
    refine (ends_onClient (hcreate hknown)).andThen ?_ ?_
    · rintro e - ⟨c', hrefused, rfl⟩
      exact ⟨trivial, .inr (.inl ⟨c', hrefused, rfl⟩)⟩
    · rintro new - ⟨c', hinfo, rfl⟩
      refine StoreM.ends_bind_of_eq (StoreM.modify_apply ..) ?_
      refine (ends_worksheet title fun _ => hinfo).mono ?_ ?_
      · rintro ws - ⟨hs' | @⟨info, c'', -, hok⟩, hfound⟩
        · exact absurd rfl ‹_›
        · exact .inr ⟨trivial, info, c'', hok, rfl, hfound⟩
      · rintro e - (⟨hs' | @⟨info, c'', -, hok⟩, hfound, rfl⟩ | ⟨-, c'', hfail, rfl⟩)
        · exact absurd rfl ‹_›
        · exact ⟨trivial, .inl ⟨info, c'', hok, rfl, hfound, rfl⟩⟩
        · exact ⟨trivial, .inr (.inr ⟨c'', hfail, rfl⟩)⟩

/-- With a token, the worksheet with a title is looked for, and dropped. The worksheets are not
known afterwards. -/
theorem ends_dropWorksheet (htoken : sheet.client.isAuthenticated = true) (title : String)
    (done : Client σ → Prop) (hinfo : sheet.known = none →
      StoreM.Ends (Client.sheetInfo clock sheet.id) sheet.client ok fail)
    (hdrop : ∀ ws s', Consults ok sheet s' → s'.known? title = some ws →
      StoreM.Ends (Client.dropWorksheet clock sheet.id ws.worksheetId) s'.client
        (fun _ c' => done c') fail) :
    StoreM.Ends (dropWorksheet clock title) sheet
      (fun _ s' => ∃ c', done c' ∧ s' = ⟨sheet.id, c', none⟩)
      (fun e s' => (Consults ok sheet s' ∧ s'.known? title = none ∧ e = .worksheetNotFound title) ∨
        ∃ c', fail e c' ∧ s' = ⟨sheet.id, c', none⟩) := by
  refine StoreM.ends_bind_of_eq (requireToken_of_isAuthenticated htoken _) ?_
  refine (ends_worksheet title hinfo).andThen ?_ ?_
  · rintro e s' (hmissing | ⟨hnone, c', hfail, rfl⟩)
    · exact .inl hmissing
    · exact .inr ⟨c', hfail, by rw [hnone]⟩
  · rintro ws s' ⟨hconsults, hfound⟩
    have hid : s'.id = sheet.id := by cases hconsults <;> rfl
    have hends := hdrop ws s' hconsults hfound
    rw [← hid] at hends
    have hclient : StoreM.Ends (Client.dropWorksheet clock s'.id ws.worksheetId)
      (Spreadsheet.mk s'.id s'.client none).client (fun _ c' => done c') fail := hends
    refine StoreM.ends_bind_of_eq (StoreM.modify_apply ..) ?_
    refine StoreM.ends_bind_of_eq (StoreM.get_apply _) ?_
    refine (ends_onClient hclient).mono ?_ ?_
    · rintro u - ⟨c', hdone, rfl⟩
      exact ⟨c', hdone, by rw [hid]⟩
    · rintro e - ⟨c', hfail, rfl⟩
      exact .inr ⟨c', hfail, by rw [hid]⟩

end Spreadsheet

end GridStore
