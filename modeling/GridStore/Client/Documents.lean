import GridStore.Client.Rows
import GridStore.Filter.Reader
import GridStore.Update.Reader

/-!
# Row operations on documents

The operations on the rows of a worksheet with filters, updates and rows given as documents. A
document that cannot be read is refused before any request.

## Main definitions

* `Client.findDocument`, `Client.insertDocuments`, `Client.updateDocument`,
  `Client.removeDocument`.
-/

namespace GridStore

/-- The filter that a document describes. -/
def readFilter (document : Json) : Except StoreError Filter :=
  (Filter.read document).mapError .filter

/-- The rows that an array of documents or a single document describes. -/
def readRows : Json → Except StoreError (List Row)
  | .array documents => (documents.mapM Row.ofJson).mapError .precondition
  | document => (Row.ofJson document).mapError .precondition |>.map ([·])

namespace Client

variable {σ : Type} [Service σ]

/-- The rows that a filter document means. -/
def findDocument (clock : Clock) (worksheet : WorksheetInfo) (filter : Json)
    (options : FindOptions) : StoreM (Client σ) (List Row) := do
  find clock worksheet (← readFilter filter) options

/-- Adds the rows of one document or several. -/
def insertDocuments (clock : Clock) (worksheet : WorksheetInfo) (documents : Json) :
    StoreM (Client σ) (List Row) := do
  insert clock worksheet (← readRows documents)

/-- Updates the rows that a selector document means. -/
def updateDocument (clock : Clock) (worksheet : WorksheetInfo) (selector change : Json)
    (options : UpdateOptions) : StoreM (Client σ) (List Row) := do
  let selector ← readFilter selector
  let change ← Update.read change
  update clock worksheet selector change options

/-- Removes the rows that a selector document means. -/
def removeDocument (clock : Clock) (worksheet : WorksheetInfo) (selector : Json)
    (options : RemoveOptions) : StoreM (Client σ) Nat := do
  remove clock worksheet (← readFilter selector) options

end Client

end GridStore
