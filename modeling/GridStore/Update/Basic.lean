import GridStore.Error
import GridStore.Filter.Selector
import GridStore.Row.Basic

/-!
# Updates

An update replaces the fields of a row, or changes the fields that a row has by operators. Operators
act in a fixed order: set, add, multiply, lower to a bound, raise to a bound, and stamp with the
current time.

## Main definitions

* `UpdateOps`: the operands of each operator.
* `Update`: updates.
* `Update.apply`: rows with an update applied.
* `Update.upsertRow`: the row that stands for the result of an update of no row.
-/

namespace GridStore

/-- An operator of an update. -/
inductive UpdateOp where
  | set
  | inc
  | mul
  | min
  | max
  | currentDate
deriving DecidableEq

namespace UpdateOp

/-- The key of an operator in an update document. -/
def key : UpdateOp → String
  | set => "$set"
  | inc => "$inc"
  | mul => "$mul"
  | min => "$min"
  | max => "$max"
  | currentDate => "$currentDate"

/-- All operators in the order in which they act. -/
def all : List UpdateOp := [set, inc, mul, min, max, currentDate]

/-- The operator with a key. -/
def ofKey? (name : String) : Option UpdateOp := all.find? fun op => op.key == name

end UpdateOp

/-- The fields that each operator names, with their operands. A field is stamped with the current
time if its flag is set. -/
structure UpdateOps where
  set : List (String × Value) := []
  inc : List (String × Number) := []
  mul : List (String × Number) := []
  min : List (String × Number) := []
  max : List (String × Number) := []
  currentDate : List (String × Bool) := []
deriving DecidableEq

/-- A change of rows. -/
inductive Update where
  | replacement (row : Row)
  | operators (ops : UpdateOps)
deriving DecidableEq

/-! ### Application -/

namespace UpdateOps

/-- The result of a numeric operator: a value that is no number stays as it is. -/
def onNumber (change : Number → Number) : Value → Value
  | .number n => .number (change n)
  | value => value

/-- A row with the fields that an operator names changed, if the row has them. -/
def modifyAll {α : Type} (change : α → Value → Value) (operands : List (String × α)) (row : Row) :
    Row :=
  operands.foldl (fun row (name, operand) => row.modify name (change operand)) row

/-- A row with all operators applied in their order. -/
def applyTo (ops : UpdateOps) (now : Instant) (row : Row) : Row :=
  row
    |> modifyAll (fun value _ => value) ops.set
    |> modifyAll (fun term => onNumber fun n => n.add term) ops.inc
    |> modifyAll (fun factor => onNumber fun n => n.mul factor) ops.mul
    |> modifyAll (fun bound => onNumber (Number.lowerTo bound)) ops.min
    |> modifyAll (fun bound => onNumber (Number.raiseTo bound)) ops.max
    |> modifyAll (fun stamp value => if stamp then .date now else value) ops.currentDate

/-- The row inserted in place of an update of no row: the given fields, then those that the
operators name. Products of nothing are zero. -/
def upsertRow (ops : UpdateOps) (fields : List (String × Value)) (now : Instant) : Row :=
  let numbers (operands : List (String × Number)) : List (String × Value) :=
    operands.map fun (name, n) => (name, .number n)
  let zeros : List (String × Value) := ops.mul.map fun (name, _) => (name, .number (.zero false))
  let stamps : List (String × Value) :=
    (ops.currentDate.filter Prod.snd).map fun (name, _) => (name, .date now)
  Row.empty.setAll (fields ++ ops.set ++ numbers ops.inc ++ numbers ops.min ++ numbers ops.max ++
    zeros ++ stamps)

end UpdateOps

namespace Update

/-- Whether an update replaces all fields. -/
def isReplacement : Update → Bool
  | replacement _ => true
  | operators _ => false

/-- A row with an update applied. A replacement keeps the metadata of the row. -/
def applyTo (update : Update) (now : Instant) (row : Row) : Row :=
  match update with
  | replacement document => document.withMetaOf row
  | operators ops => ops.applyTo now row

/-- Rows with an update applied to each. -/
def apply (update : Update) (now : Instant) (rows : List Row) : List Row :=
  rows.map (update.applyTo now)

/-- The row inserted in place of an update of no row. A replacement is inserted without metadata;
operators start from the fields that the selector demands to equal a value. -/
def upsertRow (update : Update) (selector : Filter) (now : Instant) : Row :=
  match update with
  | replacement document => { document with id := none, updated := none }
  | operators ops => ops.upsertRow selector.equalities now

end Update

end GridStore
