import GridStore.Cache
import GridStore.Config
import GridStore.Row.Cells
import GridStore.Service.Request
import GridStore.Sorting

/-!
# Clients

A client sends requests to a service, types the cells of the rows in its answers, and keeps the
answers to reads. Every change forgets all kept answers, whether it succeeds or not, because a
change that fails halfway has still changed something.

## Main definitions

* `Client`: clients.
* `Client.ask`: one request.
* `Client.sheetInfo`, `Client.queryRows`, `Client.queryFields`: reads, with kept answers.
* `Client.createWorksheet`, `Client.dropWorksheet`: changes that need a token.
-/

namespace GridStore

/-- The time of a computation: an instant, and milliseconds that have passed since some start. -/
structure Clock where
  instant : Instant
  elapsed : Nat := 0

/-- The clock some milliseconds later. -/
def Clock.later (clock : Clock) (milliseconds : Nat) : Clock where
  instant := clock.instant.later (milliseconds * 1000000)
  elapsed := clock.elapsed + milliseconds

/-- A kept answer. -/
inductive KeptAnswer where
  | sheet (info : SheetInfo)
  | rows (rows : List RawRow)
  | fields (cells : List FieldCell)
deriving DecidableEq

/-- A client of a service: kept answers, the token that gives access, and the number of writes that
may be under way at once. -/
structure Client (σ : Type) where
  service : σ
  cache : ResponseCache KeptAnswer := {}
  token : Option String := none
  maxInFlight : Nat := 4

namespace Client

variable {σ : Type}

/-! ### Set-up -/

/-- The client that a configuration describes. -/
def ofConfig (service : σ) (config : Config) : Client σ where
  service := service
  cache := { enabled := config.cacheEnabled, maxAge := config.cacheMaxAge }
  token := config.usableToken
  maxInFlight := config.writesInFlight

/-- The client with another number of writes under way at once, at least one. -/
def withMaxInFlight (client : Client σ) (n : Nat) : Client σ :=
  { client with maxInFlight := max n 1 }

/-- The client with a token. -/
def withToken (client : Client σ) (token : String) : Client σ := { client with token := some token }

/-- Whether the client has a token. -/
def isAuthenticated (client : Client σ) : Bool := client.token.isSome

/-- Replaces the token, which must not be empty. -/
def setToken (token : String) : StoreM (Client σ) Unit := do
  if token = "" then throw (.precondition .emptyAccessToken)
  modify fun client => client.withToken token

/-- Refuses an operation without a token. -/
def requireToken (operation : Operation) : StoreM (Client σ) Unit := do
  if !(← get).isAuthenticated then throw (.precondition (.missingAccessToken operation))

/-! ### Requests and kept answers -/

/-- Sends a request to the service. -/
def ask [Service σ] (clock : Clock) (request : Request) : StoreM (Client σ) request.Answer :=
  fun client =>
    let (result, service) := Service.answer clock.instant request client.service
    (result, { client with service })

/-- The answer kept under a key. -/
def kept? (clock : Clock) (key : String) : StoreM (Client σ) (Option KeptAnswer) :=
  fun client =>
    let (answer, cache) := client.cache.get clock.elapsed key
    (.ok answer, { client with cache })

/-- Keeps an answer under a key. -/
def keep (clock : Clock) (key : String) (answer : KeptAnswer) : StoreM (Client σ) Unit :=
  modify fun client => { client with cache := client.cache.put clock.elapsed key answer }

/-- Forgets all kept answers after a change, whether it succeeds or not. -/
def forgetting {α : Type} (change : StoreM (Client σ) α) : StoreM (Client σ) α :=
  fun client =>
    let (result, client) := change client
    (result, { client with cache := client.cache.clear })

/-- A row in an answer to an operation. -/
def decodeRow (operation : Operation) (raw : RawRow) : StoreM (Client σ) Row :=
  ((Row.ofRaw operation raw).mapError .malformed : Except StoreError Row)

/-! ### Reads -/

variable [Service σ]

/-- The description of a sheet. -/
def sheetInfo (clock : Clock) (sheetId : String) : StoreM (Client σ) SheetInfo := do
  let key := ResponseCache.sheetKey sheetId
  match ← kept? clock key with
  | some (.sheet info) => return info
  | _ =>
    let info ← ask clock (.sheetInfo sheetId)
    keep clock key (.sheet info)
    return info

/-- The key of the answer to a query of rows. -/
def rowsKey (worksheet : WorksheetInfo) (query : RowQuery) : String :=
  ResponseCache.rowsKey worksheet.worksheetId query.query { query with query := "" }.params

/-- The rows that a query accepts, in the order of the service. An answer that cannot be used is not
kept. -/
def queryRows (clock : Clock) (worksheet : WorksheetInfo) (query : RowQuery) :
    StoreM (Client σ) (List Row) := do
  let key := rowsKey worksheet query
  match ← kept? clock key with
  | some (.rows raw) => raw.mapM (decodeRow .queryRows)
  | _ =>
    let raw ← ask clock (.queryRows worksheet query)
    let rows ← raw.mapM (decodeRow .queryRows)
    keep clock key (.rows raw)
    return rows

/-- The header cells in the order of their positions, as the service has them now. The answer is
kept. -/
def freshFields (clock : Clock) (worksheet : WorksheetInfo) :
    StoreM (Client σ) (List FieldCell) := do
  let cells ← ask clock (.queryFields worksheet)
  match cells.find? fun field => field.col == 0 || field.cell == "" with
  | some field => throw (.malformed (.unnamedHeaderCell field.id))
  | none =>
    let cells := sortedBy (fun a b => a.col < b.col) cells
    keep clock (ResponseCache.fieldsKey worksheet.worksheetId) (.fields cells)
    return cells

/-- The header cells in the order of their positions. -/
def queryFields (clock : Clock) (worksheet : WorksheetInfo) :
    StoreM (Client σ) (List FieldCell) := do
  match ← kept? clock (ResponseCache.fieldsKey worksheet.worksheetId) with
  | some (.fields cells) => return cells
  | _ => freshFields clock worksheet

/-! ### Worksheets -/

/-- Creates a worksheet. -/
def createWorksheet (clock : Clock) (sheetId title : String) (size : WorksheetSize) :
    StoreM (Client σ) WorksheetInfo := do
  requireToken .createWorksheet
  forgetting (ask clock (.createWorksheet sheetId title size))

/-- Drops a worksheet. -/
def dropWorksheet (clock : Clock) (sheetId worksheetId : String) : StoreM (Client σ) Unit := do
  requireToken .dropWorksheet
  forgetting (ask clock (.dropWorksheet sheetId worksheetId))

end Client

end GridStore
