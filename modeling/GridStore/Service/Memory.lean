import GridStore.Workbook.Requests

/-!
# A service in memory

A workbook in memory answers requests. It keeps a log of the requests that it received, and it can
be told to fail some of them. It may evaluate queries or answer each one with all rows.

## Main definitions

* `MemorySheets`: the service.
* `Fault`: a failure that is going to happen.
-/

namespace GridStore

/-- A failure that is going to happen: of a kind of request, after letting some of them pass. -/
structure Fault where
  operation : Operation
  skip : Nat
  status : Nat
deriving DecidableEq

namespace Fault

/-- The failure of the `nth` request of a kind, counted from 1 on. -/
def nth (operation : Operation) (n status : Nat) : Fault := ⟨operation, n - 1, status⟩

/-- The status with which a request fails, if it does, and the failures that are left. Only the
first failure of a kind counts a request. -/
def strike (operation : Operation) : List Fault → Option Nat × List Fault
  | [] => (none, [])
  | fault :: rest =>
    if fault.operation = operation then
      match fault.skip with
      | 0 => (some fault.status, rest)
      | skip + 1 => (none, { fault with skip := skip } :: rest)
    else
      let (status, rest) := strike operation rest
      (status, fault :: rest)

end Fault

/-- A workbook in memory, with the failures that are going to happen and the requests received. -/
structure MemorySheets where
  book : Workbook
  engine : QueryEngine
  faults : List Fault
  log : List Request
  ids : IdSupply

namespace MemorySheets

/-- The service with an empty workbook. -/
def create (engine : QueryEngine) (ids : IdSupply) : MemorySheets := ⟨.empty, engine, [], [], ids⟩

/-- The service with a sheet registered. -/
def withSheet (service : MemorySheets) (sheetId title : String) (now : Instant) : MemorySheets :=
  { service with book := service.book.addSheet sheetId title now }

/-- The service with one more failure that is going to happen. -/
def failing (service : MemorySheets) (fault : Fault) : MemorySheets :=
  { service with faults := service.faults ++ [fault] }

/-- The service with an empty log. -/
def clearLog (service : MemorySheets) : MemorySheets := { service with log := [] }

/-- The answer of the workbook to a request. -/
def answerFromBook (now : Instant) (request : Request) (service : MemorySheets) :
    Except StoreError request.Answer × MemorySheets :=
  match service.book.answer now service.ids.next service.engine request with
  | (.error refusal, book) => (.error (refusal.toError request), { service with book })
  | (.ok a, book) => (.ok a, { service with book, ids := service.ids.afterAccepted request })

/-- The answer to a request: the request is logged and fails if a failure is due. -/
def answer (now : Instant) (request : Request) (service : MemorySheets) :
    Except StoreError request.Answer × MemorySheets :=
  let (status, faults) := Fault.strike request.operation service.faults
  let service := { service with log := service.log ++ [request], faults }
  match status with
  | some status =>
    let e : ApiError := ⟨status, request.operation, request.context, some "injected failure"⟩
    (.error (.api e), service)
  | none => answerFromBook now request service

instance : Service MemorySheets := ⟨answer⟩

end MemorySheets

end GridStore
