import GridStore.Service.Sheet
import GridStore.StoreM

/-!
# Requests

The requests that a spreadsheet service understands, and what it answers to each. A service is a
state that answers requests; an answer may be a failure, and either may change the state.

## Main definitions

* `Request`: requests.
* `Request.Answer`: what a request is answered with.
* `Request.operation`, `Request.context`: the kind of a request and what it addresses.
* `Service`: the states that answer requests.
* `IdSupply`: the identities that new worksheets are given.
-/

namespace GridStore

/-- A request to a spreadsheet service. -/
inductive Request where
  | sheetInfo (sheet : String)
  | createWorksheet (sheet title : String) (size : WorksheetSize)
  | dropWorksheet (sheet worksheet : String)
  | queryRows (worksheet : WorksheetInfo) (query : RowQuery)
  | insertRow (worksheet : WorksheetInfo) (cells : Cells)
  | updateRow (worksheet : WorksheetInfo) (id : String) (cells : Cells)
  | deleteRow (worksheet : WorksheetInfo) (id : String)
  | queryFields (worksheet : WorksheetInfo)
  | createField (worksheet : WorksheetInfo) (name : String) (col : Nat)
deriving DecidableEq

namespace Request

/-- What a request is answered with. -/
@[reducible] def Answer : Request → Type
  | sheetInfo .. => SheetInfo
  | createWorksheet .. => WorksheetInfo
  | dropWorksheet .. => Unit
  | queryRows .. => List RawRow
  | insertRow .. => RawRow
  | updateRow .. => RawRow
  | deleteRow .. => Unit
  | queryFields .. => List FieldCell
  | createField .. => Unit

/-- The kind of a request. -/
def operation : Request → Operation
  | sheetInfo .. => .sheetInfo
  | createWorksheet .. => .createWorksheet
  | dropWorksheet .. => .dropWorksheet
  | queryRows .. => .queryRows
  | insertRow .. => .insertRow
  | updateRow .. => .updateRow
  | deleteRow .. => .deleteRow
  | queryFields .. => .queryFields
  | createField .. => .createField

/-- Whether a request leaves everything as it is. -/
def isRead : Request → Bool
  | sheetInfo .. => true
  | queryRows .. => true
  | queryFields .. => true
  | _ => false

/-! ### Places -/

/-- The sheet or worksheet that a request addresses. -/
def target : Request → String
  | sheetInfo sheet => "sheet=" ++ sheet
  | createWorksheet sheet _ _ => "sheet=" ++ sheet
  | dropWorksheet sheet worksheet => "sheet=" ++ sheet ++ " worksheet=" ++ worksheet
  | queryRows worksheet _ => worksheet.describe
  | insertRow worksheet _ => worksheet.describe
  | updateRow worksheet _ _ => worksheet.describe
  | deleteRow worksheet _ => worksheet.describe
  | queryFields worksheet => worksheet.describe
  | createField worksheet _ _ => worksheet.describe

/-- The part of its target that a request addresses. -/
def part : Request → String
  | createWorksheet _ title _ => " title=" ++ title
  | updateRow _ id _ => " row=" ++ id
  | deleteRow _ id => " row=" ++ id
  | createField _ _ col => " cell=R1C" ++ countText col
  | _ => ""

/-- What a request addresses, in messages. -/
def context (request : Request) : String := request.target ++ request.part

end Request

/-! ### Services -/

/-- The states of a service, which answer requests at given times. -/
class Service (σ : Type) where
  answer : Instant → (request : Request) → StoreM σ request.Answer

/-! ### Identities of new worksheets -/

/-- A supply of identities: all that are ever drawn, one after another, and how many of them have
been drawn. -/
structure IdSupply where
  stream : Nat → String
  drawn : Nat := 0

namespace IdSupply

/-- The next identity. -/
def next (ids : IdSupply) : String := ids.stream ids.drawn

/-- The supply after an accepted request: the creation of a worksheet takes an identity. -/
def afterAccepted (ids : IdSupply) : Request → IdSupply
  | .createWorksheet .. => { ids with drawn := ids.drawn + 1 }
  | _ => ids

end IdSupply

end GridStore
