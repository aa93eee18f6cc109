import GridStore.Proofs.Client.Writes
import GridStore.Spreadsheet

/-!
# Clients that calls lead to

A client of a service in memory that only it changes, after any calls on worksheets and on open
spreadsheets. Calls succeed or fail, and any failures may be made to happen before any of them.

## Main definitions

* `RowCall`, `SheetCall`: calls on a worksheet and on an open spreadsheet.
* `RowCall.run`, `SheetCall.run`: calls through a client of any service.
* `Client.Reached`: the clients that calls lead to.

## Main results

* `RowCall.keeps`, `SheetCall.keeps`: calls keep what the operations of the client keep.
* `Client.Reached.sound`: the clients that calls lead to are sound.
-/

namespace GridStore

/-! ### Calls -/

/-- A call on a worksheet. -/
inductive RowCall where
  | find (filter : Filter) (options : FindOptions)
  | insert (rows : List Row)
  | update (selector : Filter) (update : Update) (options : UpdateOptions)
  | remove (selector : Filter) (options : RemoveOptions)
  | columns

/-- The client after a call on a worksheet, whether it succeeds or not. -/
def RowCall.run {σ : Type} [Service σ] (clock : Clock) (worksheet : WorksheetInfo) (call : RowCall)
    (c : Client σ) : Client σ :=
  match call with
  | find filter options => (Client.find clock worksheet filter options c).2
  | insert rows => (Client.insert clock worksheet rows c).2
  | update selector u options => (Client.update clock worksheet selector u options c).2
  | remove selector options => (Client.remove clock worksheet selector options c).2
  | columns => (Client.columns clock worksheet c).2

/-- A call on an open spreadsheet. -/
inductive SheetCall where
  | info
  | worksheet (title : String)
  | createWorksheet (title : String) (size : WorksheetSize)
  | dropWorksheet (title : String)
  | changeToken (token : String)

/-- The open spreadsheet after a call, whether it succeeds or not. -/
def SheetCall.run {σ : Type} [Service σ] (clock : Clock) (call : SheetCall)
    (sheet : Spreadsheet σ) : Spreadsheet σ :=
  match call with
  | info => (Spreadsheet.info clock sheet).2
  | worksheet title => (Spreadsheet.worksheet clock title sheet).2
  | createWorksheet title size => (Spreadsheet.createWorksheet clock title size sheet).2
  | dropWorksheet title => (Spreadsheet.dropWorksheet clock title sheet).2
  | changeToken token => (Spreadsheet.changeToken token sheet).2

namespace Client

/-- The clients that calls lead to from a client of an empty workbook without kept answers, whatever
identities are going to be drawn. -/
inductive Reached : Client MemorySheets → Prop
  | start {c : Client MemorySheets} (engine : QueryEngine) (ids : IdSupply)
      (hservice : c.service = .create engine ids) (hcache : c.cache.entries = []) : Reached c
  | register {c : Client MemorySheets} (h : Reached c) (sheetId title : String) (now : Instant) :
      Reached { c with service := c.service.withSheet sheetId title now }
  | fault {c : Client MemorySheets} (h : Reached c) (fault : Fault) :
      Reached { c with service := c.service.failing fault }
  | rowCall {c : Client MemorySheets} (h : Reached c) (clock : Clock)
      (hclock : clock.instant.HasPlainYear) (worksheet : WorksheetInfo) (call : RowCall) :
      Reached (call.run clock worksheet c)
  | sheetCall {c : Client MemorySheets} (h : Reached c) (clock : Clock)
      (hclock : clock.instant.HasPlainYear) (id : String) (known : Option (List WorksheetInfo))
      (call : SheetCall) : Reached (call.run clock ⟨id, c, known⟩).client

end Client

/-! ### What calls keep of a client -/

namespace Spreadsheet

variable {σ : Type} {P : Client σ → Prop}

/-- Whether the client of an open spreadsheet has a property. -/
def ClientHas (P : Client σ → Prop) (sheet : Spreadsheet σ) : Prop := P sheet.client

theorem keeps_onClient {α : Type} {action : StoreM (Client σ) α}
    (h : StoreM.Keeps P action) : StoreM.Keeps (ClientHas P) (onClient action) :=
  fun sheet hsheet => h sheet.client hsheet

theorem keeps_requireToken (refusal : Precondition) :
    StoreM.Keeps (ClientHas P) (requireToken refusal) := by
  refine StoreM.keeps_get.bind fun sheet => ?_
  split
  · exact StoreM.keeps_throw _
  · exact StoreM.keeps_pure _

theorem keeps_forgetWorksheets : StoreM.Keeps (ClientHas P) forgetWorksheets := fun _ h => h

section

variable [Service σ] {clock : Clock} (hinfo : ∀ id, StoreM.Keeps P (Client.sheetInfo clock id))

include hinfo

theorem keeps_info : StoreM.Keeps (ClientHas P) (info clock) := by
  refine StoreM.keeps_get.bind fun sheet => ?_
  refine (keeps_onClient (hinfo sheet.id)).bind fun info => ?_
  exact StoreM.Keeps.bind (fun _ h => h) fun _ => StoreM.keeps_pure info

theorem keeps_worksheet (title : String) : StoreM.Keeps (ClientHas P) (worksheet clock title) := by
  refine StoreM.keeps_get.bind fun sheet => ?_
  simp only
  split
  case' isTrue => refine (keeps_info hinfo).bind fun _ => ?_
  all_goals
    refine StoreM.keeps_get.bind fun sheet => ?_
    split
    · exact StoreM.keeps_pure _
    · exact StoreM.keeps_throw _

theorem keeps_createWorksheet {title : String} {size : WorksheetSize}
    (hcreate : ∀ id, StoreM.Keeps P (Client.createWorksheet clock id title size)) :
    StoreM.Keeps (ClientHas P) (createWorksheet clock title size) := by
  refine (keeps_requireToken _).bind fun _ => StoreM.keeps_get.bind fun sheet => ?_
  simp only
  split
  · refine StoreM.keeps_get.bind fun sheet => ?_
    exact (keeps_onClient (hcreate sheet.id)).bind fun _ =>
      keeps_forgetWorksheets.bind fun _ => keeps_worksheet hinfo title
  · exact keeps_worksheet hinfo title

theorem keeps_dropWorksheet (title : String)
    (hdrop : ∀ id worksheetId, StoreM.Keeps P (Client.dropWorksheet clock id worksheetId)) :
    StoreM.Keeps (ClientHas P) (dropWorksheet clock title) := by
  refine (keeps_requireToken _).bind fun _ => (keeps_worksheet hinfo title).bind fun ws => ?_
  refine keeps_forgetWorksheets.bind fun _ => StoreM.keeps_get.bind fun sheet => ?_
  exact keeps_onClient (hdrop sheet.id ws.worksheetId)

end

end Spreadsheet

section

variable {σ : Type} [Service σ] {P : Client σ → Prop} {clock : Clock} {worksheet : WorksheetInfo}

/-- A call on a worksheet keeps what the steps that calls are made of keep. -/
theorem RowCall.keeps (hsteps : Client.RowSteps P clock worksheet) (call : RowCall)
    {c : Client σ} (h : P c) : P (call.run clock worksheet c) := by
  cases call with
  | find filter options => exact hsteps.keeps_find filter options c h
  | insert rows => exact hsteps.keeps_insert rows c h
  | update selector u options => exact hsteps.keeps_update selector u options c h
  | remove selector options => exact hsteps.keeps_remove selector options c h
  | columns => exact hsteps.keeps_columns c h

/-- A call on an open spreadsheet keeps what the operations of the client keep, where the token is
changed only to the one that the call supplies. -/
theorem SheetCall.keeps (call : SheetCall)
    (hinfo : ∀ id, StoreM.Keeps P (Client.sheetInfo clock id))
    (hcreate : ∀ id title size, StoreM.Keeps P (Client.createWorksheet clock id title size))
    (hdrop : ∀ id worksheetId, StoreM.Keeps P (Client.dropWorksheet clock id worksheetId))
    (htoken : ∀ token, call = .changeToken token → StoreM.Keeps P (Client.setToken token))
    {sheet : Spreadsheet σ} (h : P sheet.client) : P (call.run clock sheet).client := by
  cases call with
  | info => exact Spreadsheet.keeps_info hinfo sheet h
  | worksheet title => exact Spreadsheet.keeps_worksheet hinfo title sheet h
  | createWorksheet title size =>
    exact Spreadsheet.keeps_createWorksheet hinfo (fun id => hcreate id title size) sheet h
  | dropWorksheet title => exact Spreadsheet.keeps_dropWorksheet hinfo title hdrop sheet h
  | changeToken token => exact Spreadsheet.keeps_onClient (htoken token rfl) sheet h

end

namespace Client

theorem Sound.rowCall {c : Client MemorySheets} (h : c.Sound) {clock : Clock}
    (hclock : clock.instant.HasPlainYear) (worksheet : WorksheetInfo) (call : RowCall) :
    (call.run clock worksheet c).Sound :=
  call.keeps (rowSteps_sound hclock worksheet) h

theorem Sound.sheetCall {sheet : Spreadsheet MemorySheets} (h : sheet.client.Sound) {clock : Clock}
    (hclock : clock.instant.HasPlainYear) (call : SheetCall) :
    (call.run clock sheet).client.Sound :=
  call.keeps (keeps_sheetInfo clock) (keeps_createWorksheet hclock) (keeps_dropWorksheet hclock)
    (fun token _ => keeps_setToken token) h

/-- A failure that is going to happen leaves a client sound. -/
theorem Sound.failing {c : Client MemorySheets} (h : c.Sound) (fault : Fault) :
    Sound { c with service := c.service.failing fault } :=
  ⟨⟨h.service.worksheets, h.service.drawn⟩, h.rows⟩

/-- The clients that calls lead to are sound. -/
theorem Reached.sound {c : Client MemorySheets} (h : Reached c) : c.Sound := by
  induction h with
  | start engine ids hservice hcache =>
    exact ⟨hservice ▸ MemorySheets.sound_create engine ids, rowsCurrent_of_nil hcache⟩
  | @register c _ sheetId title now ih =>
    refine ⟨MemorySheets.sound_withSheet ih.service sheetId title now, ?_⟩
    intro key stored raw hmem
    obtain ⟨worksheet, q, ws, filter, hq, hkey, hws, hanswer⟩ := ih.rows key stored raw hmem
    refine ⟨worksheet, q, ws, filter, hq, hkey, ?_, hanswer⟩
    exact (Workbook.worksheet?_addSheet c.service.book sheetId title now worksheet).trans hws
  | fault _ fault ih => exact ih.failing fault
  | rowCall _ clock hclock worksheet call ih => exact ih.rowCall hclock worksheet call
  | sheetCall _ clock hclock id known call ih => exact ih.sheetCall hclock call

/-! ### Worksheets with given rows -/

/-- A time at which calls are made. -/
def sampleClock : Clock := ⟨Filter.sampleDay, 0⟩

theorem plainYear_sampleClock : sampleClock.instant.HasPlainYear := ⟨by decide, by decide⟩

/-- The description of the first worksheet that is created in a sheet. -/
def sampleInfo : WorksheetInfo := ⟨"s1", "3f2a91c", "rows", none, 50, 5000⟩

/-- A client of a service that evaluates queries, without worksheets. -/
def sampleClient : Client MemorySheets :=
  { service := .create { evaluates := true } .sample, token := some "t" }

/-- A client after creating a worksheet and inserting rows. -/
def holding (rows : List Row) : Client MemorySheets :=
  let created := SheetCall.run sampleClock (.createWorksheet "rows" {}) ⟨"s1", sampleClient, none⟩
  RowCall.run sampleClock sampleInfo (.insert rows) created.client

theorem reached_holding (rows : List Row) : (holding rows).Reached := by
  have hstart : sampleClient.Reached := .start _ .sample rfl rfl
  exact (hstart.sheetCall sampleClock plainYear_sampleClock "s1" none _).rowCall sampleClock
    plainYear_sampleClock sampleInfo (.insert rows)

/-- A client of a worksheet with two rows. -/
def holdingTwo : Client MemorySheets :=
  holding [⟨none, none, [("a", .text "x")]⟩, ⟨none, none, [("a", .text "y")]⟩]

/-- The worksheet with two rows. -/
def sheetOfTwo : StoredWorksheet where
  id := "3f2a91c"
  title := "rows"
  updated := sampleClock.instant
  rowCount := 5000
  colCount := 50
  header := .ofList [(1, ⟨"a", sampleClock.instant⟩)]
  rows := [⟨sampleClock.instant, .ofList [("a", "x")]⟩, ⟨sampleClock.instant, .ofList [("a", "y")]⟩]

theorem worksheet?_holdingTwo :
    holdingTwo.service.book.worksheet? sampleInfo = some sheetOfTwo := by
  decide +kernel

theorem reliable_holdingTwo : holdingTwo.service.ids.Reliable :=
  IdSupply.reliable_of_sample (by decide +kernel) (by decide +kernel)

end Client

end GridStore
