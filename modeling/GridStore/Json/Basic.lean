import GridStore.Entries
import GridStore.Number.Layout

/-!
# JSON values

JSON values with objects in written order. A number is an integer, if it is written without
fraction and exponent and fits 64 bits, and a double-precision number otherwise.

## Main definitions

* `JsonNumber`, `Json`.
* `Json.merged`: the value in which every object has each key once.
* `Json.isTruthy`: the value as a flag.
-/

namespace GridStore

/-- A JSON number. -/
inductive JsonNumber where
  | integer (value : Int)
  | double (value : Number)
deriving DecidableEq

namespace JsonNumber

/-- The nearest number. -/
def toNumber : JsonNumber → Number
  | integer i => .ofInt i
  | double n => n

/-- The text of a number in a document. -/
def text : JsonNumber → String
  | integer i => toString i
  | double n => NumberLayout.json.text n

end JsonNumber

/-- A JSON value; the keys of an object are in written order. -/
inductive Json where
  | null
  | bool (value : Bool)
  | number (value : JsonNumber)
  | text (value : String)
  | array (items : List Json)
  | object (fields : List (String × Json))

namespace Json

mutual

/-- The value in which every object, at any depth, has each key once: at its first place and with
its last value. -/
def merged : Json → Json
  | array items => array (mergedItems items)
  | object fields => object (Entries.ofList (mergedFields fields))
  | value => value

/-- The items of an array with their objects merged. -/
def mergedItems : List Json → List Json
  | [] => []
  | item :: rest => merged item :: mergedItems rest

/-- The fields of an object with the objects in them merged. -/
def mergedFields : List (String × Json) → List (String × Json)
  | [] => []
  | (key, value) :: rest => (key, merged value) :: mergedFields rest

end

/-- The value of a key, if the value is an object that has it. -/
def field? : Json → String → Option Json
  | object fields, key => Entries.get? fields key
  | _, _ => none

/-- Whether a value counts as true: all but `null`, `false`, zero, not-a-number and the empty
text. -/
def isTruthy : Json → Bool
  | null => false
  | bool b => b
  | number n => n.toNumber.isTruthy
  | text s => s != ""
  | array _ => true
  | object _ => true

/-- The number nearest to an integer text: whole numbers below `2⁵³` are integers, infinities and
not-a-number are `null`, and others are doubles. -/
def ofNumber (n : Number) : Json :=
  match n.toInt? with
  | some i => number (.integer i)
  | none => if n.isFinite then number (.double n) else null

end Json

end GridStore
