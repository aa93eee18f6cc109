/-!
# Operations of the spreadsheet service

The kinds of requests that the service understands, under the names by which messages call them.

## Main definitions

* `Operation`: the kinds of requests.
* `Operation.name`.
-/

namespace GridStore

/-- A kind of request to the spreadsheet service. -/
inductive Operation where
  | sheetInfo
  | createWorksheet
  | dropWorksheet
  | queryRows
  | insertRow
  | updateRow
  | deleteRow
  | queryFields
  | createField
deriving DecidableEq

namespace Operation

/-- The name of an operation in messages. -/
def name : Operation → String
  | sheetInfo => "sheet_info"
  | createWorksheet => "create_worksheet"
  | dropWorksheet => "drop_worksheet"
  | queryRows => "query_worksheet"
  | insertRow => "create_entry"
  | updateRow => "update_entry"
  | deleteRow => "delete_entry"
  | queryFields => "query_fields"
  | createField => "create_field"

/-- All operations. -/
def all : List Operation :=
  [sheetInfo, createWorksheet, dropWorksheet, queryRows, insertRow, updateRow, deleteRow,
    queryFields, createField]

/-- The operation with a name. -/
def ofName? (name : String) : Option Operation := all.find? fun op => op.name == name

end Operation

end GridStore
