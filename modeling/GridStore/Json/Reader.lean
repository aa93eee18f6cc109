import GridStore.Json.Token

/-!
# Reading JSON text

Tokens are read one at a time with a stack of the arrays and objects that are still open, so that
reading ends with the last token. A document whose whole value is wanted has a limited depth.

## Main definitions

* `JsonReader`: the state of reading.
* `JsonReader.step?`: reading one token.
* `WrittenJson.read?`: a text as it is written.
* `Json.read?`: the value of a text of limited depth, repeated keys merged.
-/

namespace GridStore

/-- An array or object that is still open, its parts in reverse order. An object also has the key of
the field that is being read. -/
inductive JsonFrame where
  | array (items : List WrittenJson)
  | object (fields : List (JsonText × WrittenJson)) (key : JsonText)

/-- What has been read of a value: what may come next, and what is still open around it. -/
inductive JsonReader where
  | value (stack : List JsonFrame)
  | firstItem (stack : List JsonFrame)
  | firstKey (stack : List JsonFrame)
  | nextKey (fields : List (JsonText × WrittenJson)) (stack : List JsonFrame)
  | afterKey (fields : List (JsonText × WrittenJson)) (key : JsonText) (stack : List JsonFrame)
  | afterItem (frame : JsonFrame) (stack : List JsonFrame)
  | done (value : WrittenJson)

namespace JsonReader

/-- A complete value inside what is open around it. -/
def complete (value : WrittenJson) : List JsonFrame → JsonReader
  | [] => done value
  | .array items :: stack => afterItem (.array (value :: items)) stack
  | .object fields key :: stack => afterItem (.object ((key, value) :: fields) key) stack

/-- A token where a value may start. -/
def start? (stack : List JsonFrame) : JsonToken → Option JsonReader
  | .scalar v => some (complete v stack)
  | .text written => some (complete (.text written) stack)
  | .openArray => some (firstItem stack)
  | .openObject => some (firstKey stack)
  | _ => none

/-- The state after one more token. -/
def step? : JsonReader → JsonToken → Option JsonReader
  | value stack, token => start? stack token
  | firstItem stack, .closeArray => some (complete (.array []) stack)
  | firstItem stack, token => start? (.array [] :: stack) token
  | firstKey stack, .closeObject => some (complete (.object []) stack)
  | firstKey stack, .text key => some (afterKey [] key stack)
  | nextKey fields stack, .text key => some (afterKey fields key stack)
  | afterKey fields key stack, .colon => some (value (.object fields key :: stack))
  | afterItem (.array items) stack, .comma => some (value (.array items :: stack))
  | afterItem (.array items) stack, .closeArray => some (complete (.array items.reverse) stack)
  | afterItem (.object fields _) stack, .comma => some (nextKey fields stack)
  | afterItem (.object fields _) stack, .closeObject =>
    some (complete (.object fields.reverse) stack)
  | _, _ => none

/-- The value, once it is complete. -/
def result? : JsonReader → Option WrittenJson
  | done v => some v
  | _ => none

end JsonReader

namespace WrittenJson

/-- The value that tokens write. -/
def ofTokens? (tokens : List JsonToken) : Option WrittenJson := do
  (← tokens.foldlM JsonReader.step? (.value [])).result?

/-- What a text says, if it is JSON. Objects keep repeated keys. -/
def read? (text : String) : Option WrittenJson := do
  ofTokens? (← JsonToken.ofChars? text.toList)

end WrittenJson

namespace Json

/-- The number of arrays and objects that may be open at once. -/
def depthLimit : Nat := 127

/-- The value of a text, if it is JSON of limited depth, each key of an object at its first place
and with its last value. -/
def read? (text : String) : Option Json := do
  let tokens ← JsonToken.ofChars? text.toList
  if JsonToken.depth tokens ≤ depthLimit then
    return (← (← WrittenJson.ofTokens? tokens).value?).merged
  else none

end Json

end GridStore
