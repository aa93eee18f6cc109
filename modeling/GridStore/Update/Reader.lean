import GridStore.Update.Basic

/-!
# Reading updates

A document with at least one operator among its keys describes operators, and its other keys are
ignored. Any other document is a replacement.

## Main definitions

* `Update.isDescriptor`: whether a document describes operators.
* `Update.read`: the update that a document describes.
-/

namespace GridStore

namespace Update

/-- Whether a document has an operator among its keys. -/
def isDescriptor : Json → Bool
  | .object fields => fields.any fun (key, _) => (UpdateOp.ofKey? key).isSome
  | _ => false

/-- The fields of an operator with scalars as operands. -/
def scalarFields (op : String) (fields : List (String × Json)) :
    Except UpdateError (List (String × Value)) :=
  fields.mapM fun (name, raw) =>
    match Value.ofJson? raw with
    | some value => .ok (name, value)
    | none => .error (.operandNotScalar op name)

/-- The fields of an operator with numbers as operands. -/
def numberFields (op : String) (fields : List (String × Json)) :
    Except UpdateError (List (String × Number)) :=
  fields.mapM fun (name, raw) =>
    match raw with
    | .number n => .ok (name, n.toNumber)
    | _ => .error (.operandNotNumber op name)

/-- The operators with the fields of one more of them. -/
def addOperator (ops : UpdateOps) (key : String) (value : Json) : Except UpdateError UpdateOps :=
  match UpdateOp.ofKey? key with
  | none => .ok ops
  | some op =>
    match value with
    | .object fields =>
      match op with
      | .set => return { ops with set := ← scalarFields key fields }
      | .inc => return { ops with inc := ← numberFields key fields }
      | .mul => return { ops with mul := ← numberFields key fields }
      | .min => return { ops with min := ← numberFields key fields }
      | .max => return { ops with max := ← numberFields key fields }
      | .currentDate =>
        return { ops with currentDate := fields.map fun (name, flag) => (name, flag.isTruthy) }
    | _ => .error (.fieldsNotObject key)

/-- The update that a document describes. -/
def read (document : Json) : Except StoreError Update :=
  match document with
  | .object fields =>
    if isDescriptor document then
      match fields.foldlM (fun ops (key, value) => addOperator ops key value) {} with
      | .ok ops => .ok (.operators ops)
      | .error e => .error (.update e)
    else
      match Row.ofJson document with
      | .ok row => .ok (.replacement row)
      | .error e => .error (.precondition e)
  | _ => .error (.update (.notObject document))

end Update

end GridStore
