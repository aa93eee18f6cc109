import GridStore.Proofs.Client.Asks
import GridStore.Proofs.Client.Kept
import GridStore.Proofs.Client.Reached
import GridStore.Proofs.Spreadsheet.Outcomes
import GridStore.Proofs.Workbook.Listings

/-!
# Worksheets that are remembered

An open spreadsheet remembers its worksheets, and its client keeps the description of the sheet. As
long as only this spreadsheet and its worksheets change the workbook, both stay right: what could
make them wrong makes them forgotten.

## Main definitions

* `Client.SheetsCurrent`: whether all kept descriptions of sheets are what the workbook says.
* `SheetStep`, `Spreadsheet.run`: runs of calls on an open spreadsheet and on worksheets.
* `Spreadsheet.UpToDate`: whether what is remembered is right.
* `Spreadsheet.Consistent`: whether it is, and the client has a token.

## Main results

* `Spreadsheet.UpToDate.step`, `Spreadsheet.UpToDate.run`: calls keep what is remembered right.
* `Spreadsheet.calm_run`: calls alone make no failure due.
* `Spreadsheet.Consistent.run`: the token is kept, too.
-/

namespace GridStore

theorem ResponseCache.sheetKey_injective {sheetId other : String}
    (h : sheetKey sheetId = sheetKey other) : sheetId = other := by
  rw [sheetKey, sheetKey] at h
  exact String.append_right_inj _ |>.1 h

namespace Client

variable {c c' : Client MemorySheets} {clock : Clock} {worksheet : WorksheetInfo}

/-! ### Kept descriptions of sheets -/

/-- Whether a description is what the workbook says about a sheet. -/
def Describes (c : Client MemorySheets) (sheetId : String) (info : SheetInfo) : Prop :=
  ∃ sheet, c.service.book.sheets.get? sheetId = some sheet ∧ info = sheet.info sheetId

theorem describes_of_answer {now : Instant} {newId : String} {engine : QueryEngine}
    {sheetId : String} {info : SheetInfo}
    (h : (c.service.book.answer now newId engine (.sheetInfo sheetId)).1 = .ok info) :
    c.Describes sheetId info := by
  rw [Workbook.answer] at h
  split at h
  · cases h
  · rename_i sheet hsheet
    exact ⟨sheet, hsheet, (Except.ok.inj h).symm⟩

/-- Whether all kept descriptions of sheets are what the workbook says. -/
def SheetsCurrent (c : Client MemorySheets) : Prop :=
  ∀ key stored info, (key, (stored, .sheet info)) ∈ c.cache.entries →
    ∃ sheetId, key = ResponseCache.sheetKey sheetId ∧ c.Describes sheetId info

theorem sheetsCurrent_of_nil (h : c.cache.entries = []) : c.SheetsCurrent := fun _ _ _ hmem => by
  rw [h] at hmem
  cases hmem

theorem SheetsCurrent.mono (h : c.SheetsCurrent) (hbook : c'.service.book = c.service.book)
    (hsub : ∀ entry ∈ c'.cache.entries, entry ∈ c.cache.entries) : c'.SheetsCurrent := by
  intro key stored info hmem
  obtain ⟨sheetId, hkey, hdescribes⟩ := h key stored info (hsub _ hmem)
  exact ⟨sheetId, hkey, by rwa [Describes, hbook]⟩

/-- A read keeps its answer, which is a description only if a sheet was asked for. -/
theorem SheetsCurrent.reads (h : c.SheetsCurrent) {request : Request} {key : String}
    (hkey : request.key? = some key) (hreads : ReadsTo clock request key c c') :
    c'.SheetsCurrent := by
  cases hreads with
  | kept shrinks log => exact h.mono shrinks.book shrinks.entries.subset
  | @asked c₁ answer shrinks log current readable =>
    intro k stored info hmem
    rcases ResponseCache.mem_put hmem with heq | hold
    · cases heq
      obtain ⟨a, hanswer, hkept⟩ := current clock.instant
      cases request with
      | sheetInfo sheetId =>
        cases hkept
        cases hkey
        have hbook := MemorySheets.answer_calm_eq_ok_iff.1 hanswer
        exact ⟨sheetId, rfl, describes_of_answer hbook⟩
      | _ => cases hkept
    · exact h.mono shrinks.book shrinks.entries.subset k stored info hold

theorem SheetsCurrent.settles (h : c.SheetsCurrent) {α : Type}
    {x : StoreM (Client MemorySheets) α} (hx : Settles x) : (x c).2.SheetsCurrent := by
  rcases hx c with hnone | ⟨hservice, hcache⟩
  · exact sheetsCurrent_of_nil hnone
  · exact h.mono (by rw [hservice]) fun entry hmem => by rwa [hcache] at hmem

/-- Calls on worksheets keep all kept descriptions current. -/
theorem rowSteps_sheetsCurrent (clock : Clock) (worksheet : WorksheetInfo) :
    RowSteps SheetsCurrent clock worksheet where
  query filter options := StoreM.keeps_of_ends fun c h =>
    (ends_reads_queryRows clock worksheet _ c).mono (fun _ _ => h.reads rfl)
      fun _ _ hshrinks => h.mono hshrinks.book hshrinks.entries.subset
  fields := StoreM.keeps_of_ends fun c h =>
    (ends_reads_queryFields clock worksheet c).mono (fun _ _ => h.reads rfl)
      fun _ _ hshrinks => h.mono hshrinks.book hshrinks.entries.subset
  ensure rows := by
    have hfresh : StoreM.Keeps SheetsCurrent (freshFields clock worksheet) :=
      StoreM.keeps_of_ends fun c h =>
        (ends_reads_freshFields clock worksheet c).mono (fun _ _ => h.reads rfl)
          fun _ _ hshrinks => h.mono hshrinks.book hshrinks.entries.subset
    refine hfresh.bind fun cells => ?_
    simp only
    split
    · exact StoreM.Keeps.bind (fun c h => h.settles (settles_createColumns clock worksheet _ _))
        fun _ => StoreM.keeps_pure _
    · exact StoreM.keeps_pure _
  insert rows c h := h.settles (settles_insertRows clock worksheet rows)
  update rows c h := h.settles (settles_updateRows clock worksheet rows)
  delete ids c h := h.settles (settles_deleteRows clock worksheet ids)

/-- A description that is kept or asked for is what the workbook says. It can be had unless a
failure is due or there is no such sheet. -/
theorem ends_sheetInfo_current (h : c.SheetsCurrent) (clock : Clock) (sheetId : String) :
    StoreM.Ends (sheetInfo clock sheetId) c
      (fun info c' => c'.SheetsCurrent ∧ c'.service.book = c.service.book ∧ c'.token = c.token ∧
        c.Describes sheetId info)
      (fun _ c' => c'.SheetsCurrent ∧ c'.service.book = c.service.book ∧ c'.token = c.token ∧
        (c.service.Due .sheetInfo ∨ c.service.book.sheets.get? sheetId = none)) := by
  let c₁ : Client MemorySheets :=
    { c with cache := (c.cache.get clock.elapsed (ResponseCache.sheetKey sheetId)).2 }
  have hc₁ : c₁.SheetsCurrent := h.mono rfl fun _ hmem => ResponseCache.sublist_get.subset hmem
  have hkept : kept? clock (ResponseCache.sheetKey sheetId) c =
      (.ok (c.cache.get clock.elapsed (ResponseCache.sheetKey sheetId)).1, c₁) := rfl
  refine StoreM.ends_bind_of_eq hkept ?_
  split
  case h_1 info hinfo =>
    obtain ⟨stored, hmem⟩ := ResponseCache.mem_of_get hinfo
    obtain ⟨other, hkey, hdescribes⟩ := h _ stored info hmem
    obtain rfl := ResponseCache.sheetKey_injective hkey
    exact StoreM.ends_pure ⟨hc₁, rfl, rfl, hdescribes⟩
  case h_2 =>
    refine ((@ends_ask_isRead clock (.sheetInfo sheetId) rfl c₁).and
      (fun c' => c'.token = c.token) rfl).with_eq.andThen ?_ ?_
    · rintro e c' ⟨hask, ⟨hunchanged, -⟩, htoken⟩
      refine ⟨hc₁.mono hunchanged.book fun _ hmem => hunchanged.cache ▸ hmem, hunchanged.book,
        htoken, ?_⟩
      have hanswer : (c.service.answer clock.instant (.sheetInfo sheetId)).1 = .error e :=
        congrArg Prod.fst hask
      obtain ⟨status, hdue, -⟩ | ⟨refusal, hrefused, -⟩ := MemorySheets.error_cases hanswer
      · exact .inl fun hnone => nomatch hdue.symm.trans hnone
      · cases hsheet : c.service.book.sheets.get? sheetId with
        | none => exact .inr rfl
        | some sheet =>
          rw [Workbook.answer, hsheet] at hrefused
          cases hrefused
    · rintro info c' ⟨-, ⟨hunchanged, hanswer⟩, htoken⟩
      have hdescribes : c.Describes sheetId info := describes_of_answer (hanswer clock.instant "")
      refine ⟨fun key stored other hmem => ?_, hunchanged.book, htoken, hdescribes⟩
      rcases ResponseCache.mem_put hmem with heq | hold
      · cases heq
        exact ⟨sheetId, rfl, by rwa [Describes, hunchanged.book]⟩
      · exact hc₁.mono hunchanged.book (fun _ hmem => hunchanged.cache ▸ hmem) key stored other hold

/-! ### New and dropped worksheets -/

/-- With a token, a worksheet is created exactly if the sheet has none with its title, unless a
failure is due. Nothing is kept afterwards. -/
theorem ends_createWorksheet_listed (htoken : c.isAuthenticated = true) (clock : Clock)
    (sheetId title : String) (size : WorksheetSize) :
    StoreM.Ends (createWorksheet clock sheetId title size) c
      (fun _ c' => c'.cache.entries = [] ∧ c'.token = c.token ∧
        (c.service.faults = [] → c'.service.faults = []) ∧
        c.service.book.titled? sheetId title = none ∧
        ∃ sheet ws, c'.service.book.sheets.get? sheetId = some sheet ∧ ws.title = title ∧
          sheet.worksheets = c.service.book.worksheetsOf sheetId ++ [ws])
      (fun _ c' => c'.cache.entries = [] ∧ c'.token = c.token ∧
        c'.service.book = c.service.book ∧
        (c.service.faults ≠ [] ∨ c.service.book.titled? sheetId title ≠ none)) := by
  refine StoreM.ends_bind_of_eq (requireToken_of_isAuthenticated htoken _) ?_
  refine ends_forgetting ((ends_ask clock (.createWorksheet sheetId title size) c).mono ?_ ?_)
  · rintro info c' ⟨s', rfl, hanswered⟩
    refine ⟨rfl, rfl, ?_⟩
    cases hanswered with
    | accepted book engine ids calm =>
      rw [Workbook.answer] at book
      have hfree : c.service.book.titled? sheetId title = none := by
        cases htitled : c.service.book.titled? sheetId title with
        | none => rfl
        | some ws =>
          have hrefused := Workbook.createWorksheet_of_taken htitled size clock.instant
            c.service.ids.next
          rw [book] at hrefused
          cases hrefused
      obtain ⟨new, book', sheet, hcreated, hsheet, hworksheets⟩ :=
        Workbook.exists_createWorksheet_of_free hfree size clock.instant c.service.ids.next
      rw [hcreated] at book
      cases book
      exact ⟨calm, hfree, sheet, _, hsheet, rfl, hworksheets⟩
  · rintro e c' ⟨s', rfl, hanswered⟩
    refine ⟨rfl, rfl, ?_⟩
    cases hanswered with
    | struck due book engine ids => exact ⟨book, .inl due⟩
    | refused book engine ids calm =>
      refine ⟨Workbook.answer_of_refused book, .inr fun hfree => ?_⟩
      obtain ⟨new, book', sheet, hcreated, -⟩ :=
        Workbook.exists_createWorksheet_of_free hfree size clock.instant c.service.ids.next
      rw [Workbook.answer, hcreated] at book
      cases book

/-- With a token, a worksheet is dropped or not, and nothing is kept afterwards. -/
theorem ends_dropWorksheet_forgets (htoken : c.isAuthenticated = true) (clock : Clock)
    (sheetId worksheetId : String) :
    StoreM.Ends (dropWorksheet clock sheetId worksheetId) c
      (fun _ c' => c'.cache.entries = [] ∧ c'.token = c.token)
      (fun _ c' => c'.cache.entries = [] ∧ c'.token = c.token) := by
  refine StoreM.ends_bind_of_eq (requireToken_of_isAuthenticated htoken _) ?_
  refine ends_forgetting ((ends_ask clock (.dropWorksheet sheetId worksheetId) c).mono ?_ ?_)
  · rintro u c' ⟨s', rfl, -⟩
    exact ⟨rfl, rfl⟩
  · rintro e c' ⟨s', rfl, -⟩
    exact ⟨rfl, rfl⟩

/-! ### Calls on worksheets -/

/-- Whether a state of a client has the same worksheets in all sheets as another one, and the same
token. -/
structure SameWorksheets (c c' : Client MemorySheets) : Prop where
  listing : ∀ sheetId, c'.service.book.listing sheetId = c.service.book.listing sheetId
  token : c'.token = c.token

/-- Calls on worksheets neither create worksheets nor drop them. -/
theorem rowSteps_sameWorksheets (c : Client MemorySheets) (clock : Clock)
    (worksheet : WorksheetInfo) : RowSteps (SameWorksheets c) clock worksheet := by
  refine AsksKeep.rowSteps ⟨fun request hrequest c' h => ?_, fun c' cache h => ?_⟩ worksheet
  case refine_2 => exact ⟨h.listing, h.token⟩
  refine ⟨fun sheetId => ?_, h.token⟩
  rw [← h.listing sheetId]
  rcases (MemorySheets.answered clock.instant request c'.service).book_eq with hbook | hbook
  · exact congrArg (Workbook.listing · sheetId) hbook
  · exact (congrArg (Workbook.listing · sheetId) hbook).trans
      (Workbook.listing_answer hrequest ..)

end Client

/-! ### Runs -/

/-- A step of a run: a call on an open spreadsheet, a call on a worksheet through its client, or a
failure that is going to happen. -/
inductive SheetStep where
  | sheetCall (clock : Clock) (call : SheetCall)
  | rowCall (clock : Clock) (worksheet : WorksheetInfo) (call : RowCall)
  | fault (fault : Fault)

/-- Whether a step is a call. -/
def SheetStep.isCall : SheetStep → Bool
  | sheetCall .. => true
  | rowCall .. => true
  | fault _ => false

namespace Spreadsheet

/-- The open spreadsheet after a step. -/
def step (sheet : Spreadsheet MemorySheets) : SheetStep → Spreadsheet MemorySheets
  | .sheetCall clock call => call.run clock sheet
  | .rowCall clock worksheet call =>
    { sheet with client := call.run clock worksheet sheet.client }
  | .fault fault =>
    { sheet with client := { sheet.client with service := sheet.client.service.failing fault } }

/-- The open spreadsheet after steps. -/
def run (sheet : Spreadsheet MemorySheets) (steps : List SheetStep) : Spreadsheet MemorySheets :=
  steps.foldl step sheet

/-- Whether what an open spreadsheet remembers is right: the kept descriptions of sheets are what
the workbook says, and the known worksheets are those of the sheet. -/
structure UpToDate (sheet : Spreadsheet MemorySheets) : Prop where
  current : sheet.client.SheetsCurrent
  known : ∀ list, sheet.known = some list →
    list.map WorksheetInfo.undated = sheet.client.service.book.listing sheet.id

/-- Whether what an open spreadsheet remembers is right, and its client has a token. -/
structure Consistent (sheet : Spreadsheet MemorySheets) : Prop extends UpToDate sheet where
  token : sheet.client.isAuthenticated = true

variable {sheet : Spreadsheet MemorySheets}

/-- A fresh spreadsheet remembers nothing. -/
theorem upToDate_of_fresh (hcache : sheet.client.cache.entries = []) (hknown : sheet.known = none) :
    sheet.UpToDate where
  current := Client.sheetsCurrent_of_nil hcache
  known list hlist := by
    rw [hknown] at hlist
    cases hlist

/-- A fresh spreadsheet with a token. -/
theorem consistent_of_fresh (htoken : sheet.client.isAuthenticated = true)
    (hcache : sheet.client.cache.entries = []) (hknown : sheet.known = none) :
    sheet.Consistent where
  toUpToDate := upToDate_of_fresh hcache hknown
  token := htoken

namespace UpToDate

variable (h : sheet.UpToDate)

include h

theorem rowCall (clock : Clock) (worksheet : WorksheetInfo) (call : RowCall) :
    (sheet.step (.rowCall clock worksheet call)).UpToDate := by
  have hcurrent := call.keeps (Client.rowSteps_sheetsCurrent clock worksheet) h.current
  have hsame := call.keeps (Client.rowSteps_sameWorksheets sheet.client clock worksheet)
    ⟨fun _ => rfl, rfl⟩
  exact ⟨hcurrent, fun list hlist => (h.known list hlist).trans (hsame.listing sheet.id).symm⟩

theorem fault (fault : Fault) : (sheet.step (.fault fault)).UpToDate := ⟨h.current, h.known⟩

/-- A state with the workbook and current answers of another one, and with the same worksheets
known. -/
theorem withClient {c : Client MemorySheets} (hcurrent : c.SheetsCurrent)
    (hbook : c.service.book = sheet.client.service.book) : UpToDate { sheet with client := c } where
  current := hcurrent
  known list hlist := by
    rw [hbook]
    exact h.known list hlist

omit h in
/-- A state that knows the worksheets in the description of its sheet. -/
theorem of_described {c : Client MemorySheets} {id : String} {info : SheetInfo}
    (hcurrent : c.SheetsCurrent) (hdescribes : c.Describes id info) :
    UpToDate ⟨id, c, some info.worksheets⟩ where
  current := hcurrent
  known list hlist := by
    obtain ⟨stored, hstored, rfl⟩ := hdescribes
    cases hlist
    exact Workbook.map_undated_worksheets hstored

/-- What asking for the description of the sheet leads to. -/
theorem ends_sheetInfo (clock : Clock) :
    StoreM.Ends (Client.sheetInfo clock sheet.id) sheet.client
      (fun info c' => UpToDate ⟨sheet.id, c', some info.worksheets⟩ ∧
        c'.service.book = sheet.client.service.book ∧ c'.token = sheet.client.token ∧
        sheet.client.Describes sheet.id info)
      (fun _ c' => UpToDate { sheet with client := c' } ∧ UpToDate ⟨sheet.id, c', none⟩ ∧
        c'.service.book = sheet.client.service.book ∧
        (sheet.client.service.Due .sheetInfo ∨
          sheet.client.service.book.sheets.get? sheet.id = none)) := by
  refine (Client.ends_sheetInfo_current h.current clock sheet.id).mono ?_ ?_
  · rintro info c' ⟨hcurrent, hbook, htoken, hdescribes⟩
    refine ⟨of_described hcurrent ?_, hbook, htoken, hdescribes⟩
    rwa [Client.Describes, hbook]
  · rintro e c' ⟨hcurrent, hbook, -, hreason⟩
    exact ⟨h.withClient hcurrent hbook, ⟨hcurrent, nofun⟩, hbook, hreason⟩

/-- If the worksheets are known, the one that is known under a title is the one of the sheet. -/
theorem map_undated_known? (hknown : sheet.known ≠ none) (title : String) :
    (sheet.known? title).map WorksheetInfo.undated =
      (sheet.client.service.book.titled? sheet.id title).map fun ws => ws.listed sheet.id := by
  obtain ⟨list, hlist⟩ := Option.ne_none_iff_exists'.1 hknown
  rw [known?, hlist]
  exact Workbook.map_undated_find? (h.known list hlist) title

/-- A worksheet that is known is the one that the sheet has under the title. -/
theorem titled?_of_known? {title : String} {info : WorksheetInfo}
    (hfound : sheet.known? title = some info) :
    ∃ ws, sheet.client.service.book.titled? sheet.id title = some ws ∧
      info.undated = ws.listed sheet.id := by
  have hknown : sheet.known ≠ none := fun hnone => by
    rw [known?, hnone] at hfound
    cases hfound
  have hmap := h.map_undated_known? hknown title
  rw [hfound] at hmap
  obtain ⟨ws, hws, heq⟩ := Option.map_eq_some_iff.1 hmap.symm
  exact ⟨ws, hws, heq.symm⟩

/-- A title that is not known is free if the worksheets are known. -/
theorem titled?_eq_none_of_known {title : String} (hknown : sheet.known ≠ none)
    (hnone : sheet.known? title = none) :
    sheet.client.service.book.titled? sheet.id title = none := by
  have hmap := h.map_undated_known? hknown title
  rw [hnone] at hmap
  exact Option.map_eq_none_iff.1 hmap.symm

/-- What is known after looking for a worksheet is right. -/
theorem consults {ok : SheetInfo → Client MemorySheets → Prop} {s' : Spreadsheet MemorySheets}
    (hs' : Consults ok sheet s')
    (hok : ∀ info c', ok info c' → UpToDate ⟨sheet.id, c', some info.worksheets⟩) :
    s'.UpToDate := by
  cases hs' with
  | remembered => exact h
  | asked unknown answer => exact hok _ _ answer

end UpToDate

theorem keeps_upToDate_info (clock : Clock) : StoreM.Keeps UpToDate (info clock) :=
  StoreM.keeps_of_ends fun sheet h => by
    refine (ends_info (h.ends_sheetInfo clock)).mono ?_ ?_
    · rintro info - ⟨c', ⟨hc', -⟩, rfl⟩
      exact hc'
    · rintro e - ⟨c', ⟨hc', -⟩, rfl⟩
      exact hc'

theorem keeps_upToDate_worksheet (clock : Clock) (title : String) :
    StoreM.Keeps UpToDate (worksheet clock title) :=
  StoreM.keeps_of_ends fun sheet h => by
    refine (ends_worksheet title fun _ => h.ends_sheetInfo clock).mono ?_ ?_
    · rintro ws s' ⟨hs', -⟩
      exact h.consults hs' fun _ _ hok => hok.1
    · rintro e s' (⟨hs', -⟩ | ⟨-, c', ⟨hc', -⟩, rfl⟩)
      · exact h.consults hs' fun _ _ hok => hok.1
      · exact hc'

/-- A call without a token is refused, so that only calls with a token can fail to keep a
property. -/
theorem keeps_of_token {α : Type} {P : Spreadsheet MemorySheets → Prop} (refusal : Precondition)
    {f : Unit → StoreM (Spreadsheet MemorySheets) α}
    (h : ∀ sheet, P sheet → sheet.client.isAuthenticated = true →
      StoreM.Ends (requireToken refusal >>= f) sheet (fun _ => P) fun _ => P) :
    StoreM.Keeps P (requireToken refusal >>= f) :=
  StoreM.keeps_of_ends fun sheet hsheet => by
    by_cases htoken : sheet.client.isAuthenticated = true
    · exact h sheet hsheet htoken
    · have hrefused : (requireToken refusal >>= f) sheet =
          (.error (.precondition refusal), sheet) := by
        rw [StoreM.bind_apply, requireToken_apply, if_neg htoken]
      exact (StoreM.ends_error hrefused).2 hsheet

/-- What is known after a change that leaves nothing kept, and asking for the description of the
sheet, is right. -/
theorem ends_sheetInfo_forgotten {c : Client MemorySheets} (hcache : c.cache.entries = [])
    (id : String) (clock : Clock) :
    StoreM.Ends (Client.sheetInfo clock id) c
      (fun info c' => UpToDate ⟨id, c', some info.worksheets⟩)
      (fun _ c' => UpToDate ⟨id, c', none⟩) :=
  ((@upToDate_of_fresh ⟨id, c, none⟩ hcache rfl).ends_sheetInfo clock).mono
    (fun _ _ hok => hok.1) fun _ _ hfail => hfail.2.1

theorem keeps_upToDate_createWorksheet (clock : Clock) (title : String) (size : WorksheetSize) :
    StoreM.Keeps UpToDate (createWorksheet clock title size) :=
  keeps_of_token _ fun sheet h htoken => by
    have hcreate := (Client.ends_createWorksheet_listed htoken clock sheet.id title size).mono
      (fun _ c' hc' => ends_sheetInfo_forgotten hc'.1 sheet.id clock) fun _ _ he => he
    refine (ends_createWorksheet htoken title size fun _ => hcreate).mono ?_ ?_
    · rintro ws s' (⟨-, rfl⟩ | ⟨-, info, c', hc', rfl, -⟩)
      · exact h
      · exact hc'
    · rintro e s' ⟨-, ⟨info, c', hc', rfl, -⟩ | ⟨c', ⟨hcache, -, hbook, -⟩, rfl⟩ | ⟨c', hc', rfl⟩⟩
      · exact hc'
      · exact h.withClient (Client.sheetsCurrent_of_nil hcache) hbook
      · exact hc'

theorem keeps_upToDate_dropWorksheet (clock : Clock) (title : String) :
    StoreM.Keeps UpToDate (dropWorksheet clock title) :=
  keeps_of_token _ fun sheet h htoken => by
    have hinfo : StoreM.Ends (Client.sheetInfo clock sheet.id) sheet.client
        (fun info c' => UpToDate ⟨sheet.id, c', some info.worksheets⟩ ∧
          c'.token = sheet.client.token) (fun _ c' => UpToDate ⟨sheet.id, c', none⟩) :=
      (h.ends_sheetInfo clock).mono (fun _ _ hok => ⟨hok.1, hok.2.2.1⟩)
        fun _ _ hfail => hfail.2.1
    refine (ends_dropWorksheet htoken title (fun c' => UpToDate ⟨sheet.id, c', none⟩)
      (fun _ => hinfo) fun ws s' hs' _ => ?_).mono ?_ ?_
    · have hsame : s'.client.isAuthenticated = true := by
        cases hs' with
        | remembered => exact htoken
        | asked unknown answer => rwa [Client.isAuthenticated, answer.2]
      exact (Client.ends_dropWorksheet_forgets hsame clock sheet.id ws.worksheetId).mono
        (fun _ _ hc' => upToDate_of_fresh hc'.1 rfl) fun _ _ hc' => upToDate_of_fresh hc'.1 rfl
    · rintro - s' ⟨c', hc', rfl⟩
      exact hc'
    · rintro e s' (⟨hs', -⟩ | ⟨c', hc', rfl⟩)
      · exact h.consults hs' fun _ _ hok => hok.1
      · exact hc'

theorem keeps_upToDate_changeToken (token : String) :
    StoreM.Keeps UpToDate (changeToken token : StoreM (Spreadsheet MemorySheets) Unit) := by
  intro sheet h
  by_cases hempty : token = ""
  · rw [changeToken, onClient, Client.setToken, if_pos hempty]
    exact h
  · rw [changeToken, onClient, Client.setToken, if_neg hempty]
    exact ⟨h.current, h.known⟩

/-- A step keeps what is remembered right. -/
theorem UpToDate.step {sheet : Spreadsheet MemorySheets} (h : sheet.UpToDate) (step : SheetStep) :
    (sheet.step step).UpToDate := by
  cases step with
  | sheetCall clock call =>
    cases call with
    | info => exact keeps_upToDate_info clock sheet h
    | worksheet title => exact keeps_upToDate_worksheet clock title sheet h
    | createWorksheet title size => exact keeps_upToDate_createWorksheet clock title size sheet h
    | dropWorksheet title => exact keeps_upToDate_dropWorksheet clock title sheet h
    | changeToken token => exact keeps_upToDate_changeToken token sheet h
  | rowCall clock worksheet call => exact h.rowCall clock worksheet call
  | fault fault => exact h.fault fault

/-- Any steps keep what is remembered right. -/
theorem UpToDate.run {sheet : Spreadsheet MemorySheets} (h : sheet.UpToDate)
    (steps : List SheetStep) : (sheet.run steps).UpToDate := by
  induction steps generalizing sheet with
  | nil => exact h
  | cons step rest ih => exact ih (h.step step)

/-! ### Tokens and failures -/

/-- What requests keep, whatever is done to the kept answers and to the token, is kept by calls. -/
theorem keeps_step_of_isCall {P : Client MemorySheets → Prop}
    (hask : ∀ clock request, StoreM.Keeps P (Client.ask clock request))
    (hcache : ∀ (c : Client MemorySheets) cache, P c → P { c with cache })
    (htoken : ∀ (c : Client MemorySheets) token, P c → P (c.withToken token))
    {sheet : Spreadsheet MemorySheets} (h : P sheet.client) {step : SheetStep}
    (hcall : step.isCall = true) : P (sheet.step step).client := by
  have hasks : ∀ clock, Client.AsksKeep P clock := fun clock =>
    ⟨fun request _ => hask clock request, hcache⟩
  cases step with
  | sheetCall clock call =>
    refine call.keeps (hasks clock).sheetInfo (fun id title size => ?_) (fun id worksheetId => ?_)
      (fun token _ => ?_) h
    · exact (Client.keeps_requireToken _).bind fun _ => (hasks clock).forgetting (hask clock _)
    · exact (Client.keeps_requireToken _).bind fun _ => (hasks clock).forgetting (hask clock _)
    · rw [Client.setToken]
      split
      · exact StoreM.keeps_throw _
      · exact fun c hc => htoken c token hc
  | rowCall clock worksheet call => exact call.keeps ((hasks clock).rowSteps worksheet) h
  | fault fault => cases hcall

theorem isAuthenticated_step (h : sheet.client.isAuthenticated = true) (step : SheetStep) :
    (sheet.step step).client.isAuthenticated = true := by
  cases step with
  | fault fault => exact h
  | _ =>
    exact keeps_step_of_isCall (P := fun c => c.isAuthenticated = true) (fun _ _ _ hc => hc)
      (fun _ _ hc => hc) (fun _ _ _ => rfl) h rfl

theorem isAuthenticated_run (h : sheet.client.isAuthenticated = true) (steps : List SheetStep) :
    (sheet.run steps).client.isAuthenticated = true := by
  induction steps generalizing sheet with
  | nil => exact h
  | cons step rest ih => exact ih (isAuthenticated_step h step)

/-- Calls on a service without failures that are going to happen add none. -/
theorem calm_step (h : sheet.client.service.faults = []) {step : SheetStep}
    (hcall : step.isCall = true) : (sheet.step step).client.service.faults = [] := by
  refine keeps_step_of_isCall (P := fun c => c.service.faults = []) (fun clock request c hc => ?_)
    (fun _ _ hc => hc) (fun _ _ hc => hc) h hcall
  have hanswered := MemorySheets.answered clock.instant request c.service
  show (c.service.answer clock.instant request).2.faults = []
  generalize (c.service.answer clock.instant request).1 = result at hanswered
  generalize (c.service.answer clock.instant request).2 = s' at hanswered ⊢
  cases hanswered with
  | struck due => exact absurd hc due
  | refused book engine ids calm => exact calm hc
  | accepted book engine ids calm => exact calm hc

theorem calm_run (h : sheet.client.service.faults = []) {steps : List SheetStep}
    (hcalls : ∀ step ∈ steps, step.isCall = true) :
    (sheet.run steps).client.service.faults = [] := by
  induction steps generalizing sheet with
  | nil => exact h
  | cons step rest ih =>
    obtain ⟨hstep, hrest⟩ := List.forall_mem_cons.1 hcalls
    exact ih (calm_step h hstep) hrest

/-- Any steps keep what is remembered right, and the token. -/
theorem Consistent.run (h : sheet.Consistent) (steps : List SheetStep) :
    (sheet.run steps).Consistent where
  toUpToDate := h.toUpToDate.run steps
  token := isAuthenticated_run h.token steps

end Spreadsheet

end GridStore
