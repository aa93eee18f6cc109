import GridStore.Cell.Value
import GridStore.Error
import GridStore.Time.Rfc3339

/-!
# Rows

A row has named fields in the order in which they were first set, and may have an identity and the
time of its last change. Names that start with an underscore are reserved for such metadata.

## Main definitions

* `Row`: rows.
* `Row.set`, `Row.remove`, `Row.field?`, `Row.lookup`.
* `Row.ofJson`, `Row.toJson`: documents.
* `fieldNames`: the names of the fields of several rows.
-/

namespace GridStore

/-- The name under which documents and filters refer to the identity of a row. -/
def idField : String := "_id"

/-- The name under which documents and filters refer to the last change of a row. -/
def updatedField : String := "_updated"

/-- Whether a name is reserved for metadata. -/
def isMetaField (name : String) : Bool := name.toList.head? == some '_'

/-- A row of a worksheet. -/
structure Row where
  id : Option String := none
  updated : Option Instant := none
  fields : Entries Value := []
deriving DecidableEq

namespace Row

/-! ### Fields -/

/-- The row without fields and metadata. -/
def empty : Row := {}

/-- Sets a field, in place if the row has it and else at the end. -/
def set (row : Row) (name : String) (value : Value) : Row :=
  { row with fields := Entries.set row.fields name value }

/-- Removes a field. -/
def remove (row : Row) (name : String) : Row := { row with fields := Entries.erase row.fields name }

/-- The value of a field. -/
def field? (row : Row) (name : String) : Option Value := Entries.get? row.fields name

/-- Whether the row has a field. -/
def contains (row : Row) (name : String) : Bool := (row.field? name).isSome

/-- The names of the fields in order. -/
def names (row : Row) : List String := Entries.names row.fields

/-- The value of a field that the row has, changed. -/
def modify (row : Row) (name : String) (change : Value → Value) : Row :=
  match row.field? name with
  | some value => row.set name (change value)
  | none => row

/-- The value of a field or of the metadata with a name. -/
def lookup (row : Row) (name : String) : Option Value :=
  if name = idField then row.id.map .text
  else if name = updatedField then row.updated.map .date
  else row.field? name

/-- The row with another identity. -/
def withId (row : Row) (id : String) : Row := { row with id := some id }

/-- The row with the metadata of another one. -/
def withMetaOf (row source : Row) : Row := { row with id := source.id, updated := source.updated }

/-- The row with fields set one after another. -/
def setAll (row : Row) (fields : List (String × Value)) : Row :=
  fields.foldl (fun row (name, value) => row.set name value) row

/-! ### Documents -/

/-- The identity in a document: a text, or the text of a number. -/
def idOfJson : Json → Except Precondition (Option String)
  | .text s => .ok (some s)
  | .number n => .ok (some n.text)
  | .null => .ok none
  | other => .error (.identityNotText other)

/-- The time of the last change in a document. What is not a text is no time. -/
def updatedOfJson : Json → Except Precondition (Option Instant)
  | .text s =>
    match Rfc3339.read? s with
    | some t => .ok (some t)
    | none => .error (.invalidUpdatedTimestamp s)
  | _ => .ok none

/-- The row with one more field of a document. Metadata other than the identity and the time of the
last change is dropped. -/
def setJson (row : Row) (key : String) (value : Json) : Except Precondition Row :=
  if key = idField then return { row with id := ← idOfJson value }
  else if key = updatedField then return { row with updated := ← updatedOfJson value }
  else if isMetaField key then return row
  else match Value.ofJson? value with
    | some cell => return row.set key cell
    | none => throw (.fieldNotScalar key)

/-- The row that a document describes; its fields are read in order. -/
def ofJson : Json → Except Precondition Row
  | .object fields => fields.foldlM (fun row (key, value) => row.setJson key value) empty
  | other => .error (.documentNotObject other)

/-- The document of a row: the metadata, then the fields. -/
def toJson (row : Row) : Json :=
  let identity := (row.id.map fun id => (idField, Json.text id)).toList
  let updated := (row.updated.map fun t => (updatedField, Json.text t.cellText)).toList
  let fields := row.fields.map fun (name, value) => (name, value.toJson)
  .object (Entries.ofList (identity ++ updated ++ fields))

end Row

/-- The names of the fields of rows, each once, in the order in which they first occur. -/
def fieldNames (rows : List Row) : List String :=
  (rows.flatMap Row.names).foldl (fun seen name => if name ∈ seen then seen else seen ++ [name]) []

end GridStore
