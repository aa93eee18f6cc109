import GridStore.Client.Batch
import GridStore.Filter.Match
import GridStore.Filter.PushDown
import GridStore.Options
import GridStore.Update.Basic

/-!
# Rows of a worksheet

Finding, inserting, updating and removing the rows of a worksheet. The service narrows the rows as
far as it can, the window is taken of what it answers, and the filter has the final word.

## Main definitions

* `Client.find`, `Client.insert`, `Client.update`, `Client.remove`.
* `Client.columns`, `Client.ensureColumns`: the columns of a worksheet.
-/

namespace GridStore

namespace Client

variable {σ : Type} [Service σ]

/-! ### Columns -/

/-- The names of the columns in their order. -/
def columns (clock : Clock) (worksheet : WorksheetInfo) : StoreM (Client σ) (List String) := do
  return (← queryFields clock worksheet).map FieldCell.cell

/-- The names of the fields of rows that name no column. -/
def missingColumns (cells : List FieldCell) (rows : List Row) : List String :=
  (fieldNames rows).filter fun name => !cells.any fun field => field.cell == name

/-- The position of the last column. -/
def lastColumn (cells : List FieldCell) : Nat := (cells.map FieldCell.col).foldl max 0

/-- Names new columns after the last one for the fields of rows that have none, in the order in
which they first occur. -/
def ensureColumns (clock : Clock) (worksheet : WorksheetInfo) (rows : List Row) :
    StoreM (Client σ) (List String) := do
  let cells ← freshFields clock worksheet
  let missing := missingColumns cells rows
  if !missing.isEmpty then createColumns clock worksheet missing (lastColumn cells)
  return missing

/-! ### Rows -/

/-- The rows that a filter means. -/
def find (clock : Clock) (worksheet : WorksheetInfo) (filter : Filter) (options : FindOptions) :
    StoreM (Client σ) (List Row) := do
  let rows ← queryRows clock worksheet (options.rowQuery filter.queryText)
  return filter.select (options.window rows)

/-- Adds rows and the columns that they need, and returns the rows as they are stored. -/
def insert (clock : Clock) (worksheet : WorksheetInfo) (rows : List Row) :
    StoreM (Client σ) (List Row) := do
  if rows.isEmpty then return []
  let _ ← ensureColumns clock worksheet rows
  insertRows clock worksheet rows

/-- The options that find all rows or the first one. -/
def allOrFirst (all : Bool) : FindOptions := { limit := if all then none else some 1 }

/-- Updates the first row that a selector means, or all of them, and returns the rows as they are
stored. If there are none, a row may be inserted instead. -/
def update (clock : Clock) (worksheet : WorksheetInfo) (selector : Filter) (update : Update)
    (options : UpdateOptions) : StoreM (Client σ) (List Row) := do
  let matched ← find clock worksheet selector (allOrFirst options.multiple)
  if matched.isEmpty then
    if options.upsert then
      insert clock worksheet [update.upsertRow selector clock.instant]
    else
      return []
  else
    let updated := update.apply clock.instant matched
    if update.isReplacement then
      let _ ← ensureColumns clock worksheet updated
    updateRows clock worksheet updated

/-- Removes the rows that a selector means, or the first of them, and returns their number. A
selector that names an identity removes the row with that identity without looking for it. -/
def remove (clock : Clock) (worksheet : WorksheetInfo) (selector : Filter)
    (options : RemoveOptions) : StoreM (Client σ) Nat := do
  match selector.identity? with
  | some id => deleteRows clock worksheet [id]
  | none =>
    let rows ← find clock worksheet selector (allOrFirst !options.justOne)
    deleteRows clock worksheet (rows.filterMap Row.id)

end Client

end GridStore
