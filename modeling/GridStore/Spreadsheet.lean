import GridStore.Client.Basic

/-!
# Spreadsheets

A spreadsheet that is open through a client. The list of its worksheets is remembered once it is
known, and forgotten when a worksheet is created or dropped.

## Main definitions

* `Spreadsheet`: an open spreadsheet.
* `Spreadsheet.info`, `Spreadsheet.worksheet`: what it holds.
* `Spreadsheet.createWorksheet`, `Spreadsheet.dropWorksheet`.
-/

namespace GridStore

/-- An open spreadsheet: its identity, the client through which it is open, and its worksheets as
far as they are known. -/
structure Spreadsheet (σ : Type) where
  id : String
  client : Client σ
  known : Option (List WorksheetInfo) := none

namespace Spreadsheet

variable {σ : Type}

/-- A computation of the client. -/
def onClient {α : Type} (action : StoreM (Client σ) α) : StoreM (Spreadsheet σ) α :=
  fun sheet =>
    let (result, client) := action sheet.client
    (result, { sheet with client })

/-- Replaces the token of the client. -/
def changeToken (token : String) : StoreM (Spreadsheet σ) Unit := onClient (Client.setToken token)

/-- Refuses a call without a token. -/
def requireToken (refusal : Precondition) : StoreM (Spreadsheet σ) Unit := do
  if !(← get).client.isAuthenticated then throw (.precondition refusal)

/-- Forgets the worksheets. -/
def forgetWorksheets : StoreM (Spreadsheet σ) Unit :=
  modify fun sheet => { sheet with known := none }

/-- The worksheet with a title among those that are known. -/
def known? (sheet : Spreadsheet σ) (title : String) : Option WorksheetInfo :=
  (sheet.known.getD []).find? fun ws => ws.title == title

variable [Service σ]

/-- The description of the sheet. Its worksheets are remembered. -/
def info (clock : Clock) : StoreM (Spreadsheet σ) SheetInfo := do
  let info ← onClient (Client.sheetInfo clock (← get).id)
  modify fun sheet => { sheet with known := some info.worksheets }
  return info

/-- The worksheet with a title. The worksheets are asked for if they are not known. -/
def worksheet (clock : Clock) (title : String) : StoreM (Spreadsheet σ) WorksheetInfo := do
  if (← get).known.isNone then
    let _ ← info clock
  match (← get).known? title with
  | some ws => return ws
  | none => throw (.worksheetNotFound title)

/-- Creates a worksheet, unless one with its title is known, and returns the worksheet with that
title. -/
def createWorksheet (clock : Clock) (title : String) (size : WorksheetSize) :
    StoreM (Spreadsheet σ) WorksheetInfo := do
  requireToken .creatingUnauthenticated
  if ((← get).known? title).isNone then
    let _ ← onClient (Client.createWorksheet clock (← get).id title size)
    forgetWorksheets
  worksheet clock title

/-- Drops the worksheet with a title. -/
def dropWorksheet (clock : Clock) (title : String) : StoreM (Spreadsheet σ) Unit := do
  requireToken .droppingUnauthenticated
  let ws ← worksheet clock title
  forgetWorksheets
  onClient (Client.dropWorksheet clock (← get).id ws.worksheetId)

end Spreadsheet

end GridStore
