import GridStore.Json.Printer
import GridStore.Service.Operation
import GridStore.Text.Quoted

/-!
# Errors

Every failure is a cause with the values that its message shows. The wording is in one place, the
`message` functions.

## Main definitions

* `ApiError`: an answer of the service that refuses a request.
* `MalformedAnswer`: an answer of the service that cannot be used.
* `Precondition`: an argument or a state in which a call is refused before any request.
* `FilterError`, `UpdateError`: the ways in which a document is no filter and no update.
* `StoreError`: all of these, together with files that cannot be used and with sorts that break off.
* `StoreError.message`.
-/

namespace GridStore

/-! ### Answers of the service -/

/-- The class of a refusal, by which its status is described. -/
inductive RefusalKind where
  | methodNotAllowed
  | unauthorized
  | failure
deriving DecidableEq

namespace RefusalKind

/-- The class of a status code. -/
def ofStatus (status : Nat) : RefusalKind :=
  if status = 405 then methodNotAllowed
  else if status = 401 ∨ status = 403 then unauthorized
  else failure

/-- The words for a class of refusals. -/
def description : RefusalKind → String
  | methodNotAllowed => "Method not allowed"
  | unauthorized => "Unauthorized"
  | failure => "Something went wrong"

end RefusalKind

/-- A refused request: the status, the operation, the sheet, worksheet, row or cell that it
addressed, and what else the service says about it. -/
structure ApiError where
  status : Nat
  operation : Operation
  context : String
  detail : Option String
deriving DecidableEq

namespace ApiError

/-- The class of a refusal. -/
def kind (e : ApiError) : RefusalKind := .ofStatus e.status

/-- The detail of a refusal between braces. -/
def detailText : Option String → String
  | none => ""
  | some detail => " \x7b" ++ detail ++ "\x7d"

/-- The text of a refusal. -/
def message (e : ApiError) : String :=
  e.kind.description ++ " (" ++ toString e.status ++ " " ++ e.operation.name ++ ": " ++ e.context ++
    ")" ++ detailText e.detail

end ApiError

/-- An answer of the service that breaks its own rules. -/
inductive MalformedAnswer where
  | unnamedHeaderCell (id : String)
  | unidentifiedRow (operation : Operation)
  | invalidTimestamp (operation : Operation) (id updated : String)
deriving DecidableEq

/-- The text of a broken answer. -/
def MalformedAnswer.message : MalformedAnswer → String
  | unnamedHeaderCell id =>
    Operation.queryFields.name ++ ": header cell " ++ id ++ " has no column name or position"
  | unidentifiedRow operation => operation.name ++ ": row without identity"
  | invalidTimestamp operation id updated =>
    operation.name ++ ": row " ++ id ++ " has invalid timestamp " ++ quotedText updated

/-! ### Refused calls -/

/-- Why a call is refused before any request is sent. -/
inductive Precondition where
  | documentNotObject (document : Json)
  | identityNotText (value : Json)
  | invalidUpdatedTimestamp (text : String)
  | fieldNotScalar (name : String)
  | emptyAccessToken
  | missingAccessToken (operation : Operation)
  | creatingUnauthenticated
  | droppingUnauthenticated
  | invalidColumnName (name : String)
  | updateWithoutIdentity

/-- The text of a refused call. -/
def Precondition.message : Precondition → String
  | documentNotObject document => "documents must be JSON objects, got " ++ document.compact
  | identityNotText value => "row identity must be a string, got " ++ value.compact
  | invalidUpdatedTimestamp text => "invalid _updated timestamp " ++ quotedText text
  | fieldNotScalar name => "field " ++ quotedText name ++ " must hold a scalar value"
  | emptyAccessToken => "access token must not be empty"
  | missingAccessToken operation => operation.name ++ " requires an access token"
  | creatingUnauthenticated => "creating a worksheet requires authentication"
  | droppingUnauthenticated => "dropping a worksheet requires authentication"
  | invalidColumnName name => "invalid column name " ++ quotedText name
  | updateWithoutIdentity => "cannot update a row without _id"

/-- Why a document is no filter. -/
inductive FilterError where
  | notObject (document : Json)
  | unknownTopLevelOperator (operator : String)
  | branchesNotArray (operator : String)
  | branchNotObject (operator : String) (branch : Json)
  | operandNotScalar (field : String)
  | noOperatorDocument (field : String)
  | operandNotArray (field operator : String)
  | patternNotText (field : String)
  | optionsNotText (field : String)
  | unsupportedFlag (flag : Char)
  | invalidPattern
  | unknownOperator (field operator : String)

/-- The text about a document that is no filter. -/
def FilterError.message : FilterError → String
  | notObject document => "a filter must be an object, got " ++ document.compact
  | unknownTopLevelOperator operator => "unknown top-level operator " ++ operator
  | branchesNotArray operator => operator ++ " expects an array of filters"
  | branchNotObject operator branch =>
    operator ++ " branches must be objects, got " ++ branch.compact
  | operandNotScalar field =>
    "field " ++ quotedText field ++ ": nested documents and arrays cannot be compared"
  | noOperatorDocument field =>
    "field " ++ quotedText field ++ ": expected an operator document like \x7b\"$gt\": 1\x7d"
  | operandNotArray field operator =>
    "field " ++ quotedText field ++ ": " ++ operator ++ " expects an array"
  | patternNotText field => "field " ++ quotedText field ++ ": $regex expects a string"
  | optionsNotText field => "field " ++ quotedText field ++ ": $options expects a string"
  | unsupportedFlag flag => "unsupported $options flag " ++ quotedChar flag
  | invalidPattern => "invalid $regex"
  | unknownOperator field operator =>
    "field " ++ quotedText field ++ ": unknown operator " ++ operator

/-- Why a document is no update. -/
inductive UpdateError where
  | notObject (document : Json)
  | fieldsNotObject (operator : String)
  | operandNotScalar (operator field : String)
  | operandNotNumber (operator field : String)

/-- The text about a document that is no update. -/
def UpdateError.message : UpdateError → String
  | notObject document => "an update must be an object, got " ++ document.compact
  | fieldsNotObject operator => operator ++ " expects an object of fields"
  | operandNotScalar operator field =>
    operator ++ " " ++ quotedText field ++ ": value must be a scalar"
  | operandNotNumber operator field =>
    operator ++ " " ++ quotedText field ++ ": value must be a number"

/-! ### All failures -/

/-- Why a call failed. -/
inductive StoreError where
  | api (error : ApiError)
  | malformed (error : MalformedAnswer)
  | precondition (error : Precondition)
  | filter (error : FilterError)
  | update (error : UpdateError)
  | worksheetNotFound (title : String)
  | unusableFile
  | unreadableDocument
  | brokenOff

namespace StoreError

/-- The text of a failure. -/
def message : StoreError → String
  | api e => "Api error: " ++ e.message
  | malformed e => "The response contains invalid data: " ++ e.message
  | precondition e => "Precondition failed: " ++ e.message
  | filter e => "Invalid filter: " ++ e.message
  | update e => "Invalid update: " ++ e.message
  | worksheetNotFound title => "Worksheet not found: " ++ title
  | unusableFile => "IO error"
  | unreadableDocument => "Serialization error"
  | brokenOff => "user-provided comparison function does not correctly implement a total order"

/-- The status of a failure that is a refusal of the service. -/
def status? : StoreError → Option Nat
  | api e => some e.status
  | _ => none

end StoreError

end GridStore
