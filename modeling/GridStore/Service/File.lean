import GridStore.Files.Access
import GridStore.Workbook.Document
import GridStore.Workbook.Requests

/-!
# A service on a file

A workbook in a file answers requests. Every request reads the file, and one that changes the
workbook saves it, unless it fails.

## Main definitions

* `Workbook.ofFile`: the workbook in a file.
* `FileSheets`: the service.
-/

namespace GridStore

/-- The workbook in the file at a path. Without a file it is empty. -/
def Workbook.ofFile (files : FileTree) (path : String) : Except StoreError Workbook := do
  match ← files.read path with
  | none => return empty
  | some content =>
    match read? content with
    | some book => return book
    | none => throw .unreadableDocument

/-- A workbook in the file at a path of a tree. -/
structure FileSheets where
  files : FileTree
  path : String
  ids : IdSupply
  sorter : Sorter (Nat × StoredRow) := .insertion

namespace FileSheets

/-- A workbook in a file evaluates all queries. -/
def engine (service : FileSheets) : QueryEngine := ⟨true, service.sorter⟩

/-- The answer to a request that changes the workbook, if the workbook can be saved, and the service
after it. -/
def answerSaved (request : Request) (a : request.Answer) (book : Workbook) (service : FileSheets) :
    Except StoreError request.Answer × FileSheets :=
  match FileTree.save service.path book.text service.files with
  | (.error e, files) => (.error e, { service with files })
  | (.ok _, files) => (.ok a, { service with files, ids := service.ids.afterAccepted request })

/-- The answer to a request, and the service after it. -/
def answer (now : Instant) (request : Request) (service : FileSheets) :
    Except StoreError request.Answer × FileSheets :=
  match Workbook.ofFile service.files service.path with
  | .error e => (.error e, service)
  | .ok book =>
    match book.answer now service.ids.next service.engine request with
    | (.error refusal, _) => (.error (refusal.toError request), service)
    | (.ok a, book) =>
      if request.isRead then (.ok a, service) else service.answerSaved request a book

instance : Service FileSheets := ⟨answer⟩

end FileSheets

end GridStore
