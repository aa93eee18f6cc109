import GridStore.Json.Basic
import GridStore.Json.Text

/-!
# JSON as written

What a JSON text says before it is known what is wanted of it. A part that nobody asks for has to be
well written and no more: its numbers may be beyond all doubles and its texts need not stand for
anything.

## Main definitions

* `WrittenJson`: JSON values as written.
* `WrittenJson.value?`: the value that is meant.
* `Json.written`: a value as written plainly.

## Main results

* `Json.value?_written`: a value written plainly means itself.
-/

namespace GridStore

/-- A JSON value as it is written. A number beyond all doubles has no value. -/
inductive WrittenJson where
  | null
  | bool (value : Bool)
  | number (value : Option JsonNumber)
  | text (written : JsonText)
  | array (items : List WrittenJson)
  | object (fields : List (JsonText × WrittenJson))

namespace WrittenJson

mutual

/-- The value that is meant, if all numbers and texts in it have a meaning. -/
def value? : WrittenJson → Option Json
  | null => some .null
  | bool b => some (.bool b)
  | number n => n.map .number
  | text written => written.decode?.map .text
  | array items => (itemValues? items).map .array
  | object fields => (fieldValues? fields).map .object

/-- The values of the items of an array. -/
def itemValues? : List WrittenJson → Option (List Json)
  | [] => some []
  | item :: rest => do return (← value? item) :: (← itemValues? rest)

/-- The keys and values of an object. -/
def fieldValues? : List (JsonText × WrittenJson) → Option (List (String × Json))
  | [] => some []
  | (key, item) :: rest => do return ((← key.decode?), (← value? item)) :: (← fieldValues? rest)

end

end WrittenJson

namespace Json

mutual

/-- A value as it is written without escapes. -/
def written : Json → WrittenJson
  | null => .null
  | bool b => .bool b
  | number n => .number (some n)
  | text s => .text (.ofString s)
  | array items => .array (writtenItems items)
  | object fields => .object (writtenFields fields)

/-- The items of an array as they are written. -/
def writtenItems : List Json → List WrittenJson
  | [] => []
  | item :: rest => written item :: writtenItems rest

/-- The fields of an object as they are written. -/
def writtenFields : List (String × Json) → List (JsonText × WrittenJson)
  | [] => []
  | (key, value) :: rest => (.ofString key, written value) :: writtenFields rest

end

mutual

theorem value?_written : (value : Json) → value.written.value? = some value
  | null => rfl
  | bool _ => rfl
  | number _ => rfl
  | text s => by simp [written, WrittenJson.value?]
  | array items => by simp [written, WrittenJson.value?, itemValues?_writtenItems items]
  | object fields => by simp [written, WrittenJson.value?, fieldValues?_writtenFields fields]

theorem itemValues?_writtenItems :
    (items : List Json) → WrittenJson.itemValues? (writtenItems items) = some items
  | [] => rfl
  | item :: rest => by
    simp [writtenItems, WrittenJson.itemValues?, value?_written item,
      itemValues?_writtenItems rest]

theorem fieldValues?_writtenFields :
    (fields : List (String × Json)) →
      WrittenJson.fieldValues? (writtenFields fields) = some fields
  | [] => rfl
  | (key, value) :: rest => by
    simp [writtenFields, WrittenJson.fieldValues?, value?_written value,
      fieldValues?_writtenFields rest]

end

end Json

end GridStore
