import GridStore.Json.Written
import GridStore.Text.Count

/-!
# Records in JSON documents

A record is written as an object with known keys, each at most once, or as an array of the values in
the order of the keys. Keys that are not known are ignored with what stands behind them, whether it
has a value or not; but every key has to be a text.

## Main definitions

* `RecordField`: a known key and what its absence means.
* `WrittenRecord`: a record, with `required?` and `defaulted?` for the values of its keys.
* `WrittenJson.record?`: the values of the known keys.
* `WrittenJson.natural?`, `flag?`, `string?`, `optional?`, `listOf?`: values.
-/

namespace GridStore

/-- What the absence of a key means: a failure, `null` if the record is an object and a failure if
it is an array, or a default value. -/
inductive Absence where
  | refused
  | null
  | default
deriving DecidableEq

/-- A known key of a record. -/
structure RecordField where
  name : String
  absence : Absence := .refused

/-- The known keys of a record with what stands behind them. -/
abbrev WrittenRecord := Entries WrittenJson

namespace WrittenRecord

/-- The values of the known keys in an array; the last ones may be left out if they have
defaults. -/
def ofItems? : List RecordField → List WrittenJson → Option WrittenRecord
  | [], [] => some []
  | [], _ :: _ => none
  | field :: fields, [] =>
    if field.absence = .default then ofItems? fields [] else none
  | field :: fields, value :: values => (ofItems? fields values).map ((field.name, value) :: ·)

/-- The values of the known keys in an object, none of them given twice. -/
def ofFields? (entries : List (String × WrittenJson)) :
    List RecordField → Option WrittenRecord
  | [] => some []
  | field :: fields => do
    let rest ← ofFields? entries fields
    match entries.filter fun (key, _) => key == field.name with
    | [(_, value)] => some ((field.name, value) :: rest)
    | [] =>
      match field.absence with
      | .refused => none
      | .null => some ((field.name, .null) :: rest)
      | .default => some rest
    | _ => none

/-- The value of a key of a record. -/
def required? {α : Type} (record : WrittenRecord) (name : String)
    (read? : WrittenJson → Option α) : Option α :=
  (Entries.get? record name).bind read?

/-- The value of a key of a record, or a default if the key is absent. -/
def defaulted? {α : Type} (record : WrittenRecord) (name : String)
    (read? : WrittenJson → Option α) (default : α) : Option α :=
  match Entries.get? record name with
  | none => some default
  | some value => read? value

end WrittenRecord

namespace WrittenJson

/-- The values of the known keys of a record; a key that is absent and has a default is left out. -/
def record? (fields : List RecordField) : WrittenJson → Option WrittenRecord
  | object written => do
    let entries ← written.mapM fun (key, value) => do return ((← key.decode?), value)
    WrittenRecord.ofFields? entries fields
  | array items => WrittenRecord.ofItems? fields items
  | _ => none

/-! ### Values -/

/-- A natural number that fits a machine word, written as an integer. -/
def natural? : WrittenJson → Option Nat
  | number (some (.integer i)) => if 0 ≤ i ∧ i < wordBound then some i.toNat else none
  | _ => none

/-- A flag. -/
def flag? : WrittenJson → Option Bool
  | bool b => some b
  | _ => none

/-- A text. -/
def string? : WrittenJson → Option String
  | text written => written.decode?
  | _ => none

/-- A value, or none for `null`. -/
def optional? {α : Type} (read? : WrittenJson → Option α) : WrittenJson → Option (Option α)
  | null => some none
  | value => (read? value).map some

/-- A list of values. -/
def listOf? {α : Type} (read? : WrittenJson → Option α) : WrittenJson → Option (List α)
  | array items => items.mapM read?
  | _ => none

end WrittenJson

end GridStore
