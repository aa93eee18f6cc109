import GridStore.Client.Basic
import GridStore.Text.Blank

/-!
# Batches of changes

A batch is sent one request after another and stops at the first one that fails. What can be
refused is refused before the first request.

## Main definitions

* `Client.createColumns`, `Client.insertRows`, `Client.updateRows`, `Client.deleteRows`.
* `deletionOrder`: the order in which rows are deleted.
-/

namespace GridStore

/-- The identities of rows in the order in which the rows are deleted: the last one first, so that
those still waiting keep their positions. Identities that are not all positions are taken in
reverse. -/
def deletionOrder (ids : List String) : List String :=
  match ids.mapM fun id => (count? id).map fun position => (position, id) with
  | some numbered => (sortedBy (fun a b => b.1 < a.1) numbered).map Prod.snd
  | none => ids.reverse

/-- Whether a name can be given to a column. -/
def isColumnName (name : String) : Bool := trimBlanks name != "" && !isMetaField name

namespace Client

variable {σ : Type} [Service σ]

/-- Names the columns after the first `start` ones. Positions are counted in machine words. -/
def createColumns (clock : Clock) (worksheet : WorksheetInfo) (names : List String) (start : Nat) :
    StoreM (Client σ) Unit := do
  match names.find? fun name => !isColumnName name with
  | some name => throw (.precondition (.invalidColumnName name))
  | none =>
    if names.isEmpty then return ()
    forgetting <| (names.zipIdx (start + 1)).forM fun (name, col) =>
      ask clock (.createField worksheet name (col % wordBound))

/-- Adds rows, and returns them as they are stored. -/
def insertRows (clock : Clock) (worksheet : WorksheetInfo) (rows : List Row) :
    StoreM (Client σ) (List Row) := do
  if rows.isEmpty then return []
  forgetting <| rows.mapM fun row => do
    decodeRow .insertRow (← ask clock (.insertRow worksheet row.cells))

/-- Writes rows over those with their identities, and returns them as they are stored. -/
def updateRows (clock : Clock) (worksheet : WorksheetInfo) (rows : List Row) :
    StoreM (Client σ) (List Row) := do
  match rows.mapM fun row => row.id.map fun id => (id, row.cells) with
  | none => throw (.precondition .updateWithoutIdentity)
  | some writes =>
    if writes.isEmpty then return []
    forgetting <| writes.mapM fun (id, cells) => do
      decodeRow .updateRow (← ask clock (.updateRow worksheet id cells))

/-- Deletes the rows with identities, and returns their number. -/
def deleteRows (clock : Clock) (worksheet : WorksheetInfo) (ids : List String) :
    StoreM (Client σ) Nat := do
  if ids.isEmpty then return 0
  forgetting <| (deletionOrder ids).forM fun id => ask clock (.deleteRow worksheet id)
  return ids.length

end Client

end GridStore
