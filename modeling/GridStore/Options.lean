import GridStore.Service.Sheet

/-!
# Options of row operations

How many rows a call finds, changes or removes, and in which order they are found.

## Main definitions

* `FindOptions`, `UpdateOptions`, `RemoveOptions`.
* `FindOptions.window`: the part of the rows that is wanted.
-/

namespace GridStore

/-! ### Finding -/

/-- The window and the order in which rows are found. No limit and a limit of zero mean all rows. -/
structure FindOptions where
  skip : Nat := 0
  limit : Option Nat := none
  sort : Option String := none
  descending : Bool := false
deriving DecidableEq

namespace FindOptions

/-- The request for rows that a structured query accepts. -/
def rowQuery (options : FindOptions) (query : String) : RowQuery :=
  ⟨query, options.sort, options.descending⟩

/-- The wanted part of rows in order. -/
def window {α : Type} (options : FindOptions) (rows : List α) : List α :=
  let rest := rows.drop options.skip
  match options.limit with
  | none => rest
  | some 0 => rest
  | some limit => rest.take limit

/-- The options that a document describes. -/
def ofWritten? (document : WrittenJson) : Option FindOptions := do
  let record ← document.record?
    [⟨"skip", .default⟩, ⟨"limit", .default⟩, ⟨"sort", .default⟩, ⟨"descending", .default⟩]
  return {
    skip := ← record.defaulted? "skip" (·.natural?) 0
    limit := ← record.defaulted? "limit" (·.optional? (·.natural?)) none
    sort := ← record.defaulted? "sort" (·.optional? (·.string?)) none
    descending := ← record.defaulted? "descending" (·.flag?) false }

/-- The document of options. -/
def toJson (options : FindOptions) : Json :=
  .object [
    ("skip", .number (.integer options.skip)),
    ("limit", (options.limit.map fun n => Json.number (.integer n)).getD .null),
    ("sort", (options.sort.map Json.text).getD .null),
    ("descending", .bool options.descending)]

end FindOptions

/-! ### Updating -/

/-- Whether an update changes all rows that match or the first one, and whether it inserts a row if
none matches. -/
structure UpdateOptions where
  multiple : Bool := false
  upsert : Bool := false
deriving DecidableEq

namespace UpdateOptions

/-- The options that a document describes. -/
def ofWritten? (document : WrittenJson) : Option UpdateOptions := do
  let record ← document.record? [⟨"multiple", .default⟩, ⟨"upsert", .default⟩]
  return {
    multiple := ← record.defaulted? "multiple" (·.flag?) false
    upsert := ← record.defaulted? "upsert" (·.flag?) false }

/-- The document of options. -/
def toJson (options : UpdateOptions) : Json :=
  .object [("multiple", .bool options.multiple), ("upsert", .bool options.upsert)]

end UpdateOptions

/-! ### Removing -/

/-- Whether only the first row that matches is removed. -/
structure RemoveOptions where
  justOne : Bool := false
deriving DecidableEq

namespace RemoveOptions

/-- The options that a document describes. -/
def ofWritten? (document : WrittenJson) : Option RemoveOptions := do
  let record ← document.record? [⟨"justOne", .default⟩]
  return { justOne := ← record.defaulted? "justOne" (·.flag?) false }

/-- The document of options. -/
def toJson (options : RemoveOptions) : Json := .object [("justOne", .bool options.justOne)]

end RemoveOptions

end GridStore
