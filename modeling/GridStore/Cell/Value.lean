import GridStore.Json.Basic
import GridStore.Time.Instant

/-!
# Cell values

The values that a field of a row can hold: nothing, a flag, a number, a text or an instant.

## Main definitions

* `Value`: the values of cells.
* `Value.ofJson?`, `Value.toJson`: scalars of JSON documents.
* `Value.cellText`: the text that stands for a value in a sheet.
* `Value.isTruthy`: the value as a flag.
-/

namespace GridStore

/-- The value of a cell. -/
inductive Value where
  | null
  | bool (value : Bool)
  | number (value : Number)
  | text (value : String)
  | date (value : Instant)
deriving DecidableEq

namespace Value

/-- The value of a JSON scalar. Arrays and objects have no place in a cell. -/
def ofJson? : Json → Option Value
  | .null => some null
  | .bool b => some (bool b)
  | .number n => some (number n.toNumber)
  | .text s => some (text s)
  | .array _ => none
  | .object _ => none

/-- The JSON form of a value: an instant is its text in milliseconds. -/
def toJson : Value → Json
  | null => .null
  | bool b => .bool b
  | number n => .ofNumber n
  | text s => .text s
  | date t => .text t.cellText

/-- Whether there is no value. -/
def isNull : Value → Bool
  | null => true
  | _ => false

/-- Whether a value counts as true: all but no value, `false`, zero, not-a-number and the empty
text. -/
def isTruthy : Value → Bool
  | null => false
  | bool b => b
  | number n => n.isTruthy
  | text s => s != ""
  | date _ => true

/-- The text of a flag. -/
def flagText (b : Bool) : String := if b then "true" else "false"

/-- The text that stands for a value in a cell. -/
def cellText : Value → String
  | null => ""
  | bool b => flagText b
  | number n => n.cellText
  | text s => s
  | date t => t.cellText

end Value

end GridStore
