import GridStore.Cell.Typing
import GridStore.Filter.Basic

/-!
# Rows that a filter means

Values are compared if they are of one kind, and besides that an instant with the text of a
timestamp and a flag with a text that spells it. All other pairs are neither equal nor ordered.

## Main definitions

* `Value.compare?`: the order of two values.
* `Condition.holds`: whether a value, or its absence, satisfies a condition.
* `Filter.holds`: whether a row is meant.
* `Filter.select`: the rows that are meant.
-/

namespace GridStore

namespace Value

/-- The flag that a text spells, in lower or upper case. -/
def spelledFlag? (text : String) : Option Bool :=
  if text = "true" ∨ text = "TRUE" then some true
  else if text = "false" ∨ text = "FALSE" then some false
  else none

/-- The order of two values that can be compared. -/
def compare? (actual expected : Value) : Option Ordering :=
  match actual, expected with
  | number a, number b => a.compare? b
  | text a, text b => some (Ord.compare a b)
  | bool a, bool b => some (Ord.compare a b)
  | date a, date b => some (a.compare b)
  | date a, text b => (Cell.timestamp? b).map a.compare
  | text a, date b => (Cell.timestamp? a).map (·.compare b)
  | text a, bool b => (spelledFlag? a).map (Ord.compare · b)
  | bool a, text b => (spelledFlag? b).map (Ord.compare a ·)
  | _, _ => none

end Value

namespace Condition

/-- Whether a field equals a value. An absent field and one without value equal no value. -/
def equals (actual : Option Value) (expected : Value) : Bool :=
  match actual, expected with
  | none, .null => true
  | some .null, .null => true
  | none, _ => false
  | some _, .null => false
  | some actual, expected => actual.compare? expected == some .eq

/-- Whether a field is present and in an accepted order with a value. -/
def ordered (actual : Option Value) (expected : Value) (accepted : Ordering → Bool) : Bool :=
  match actual with
  | none => false
  | some actual => (actual.compare? expected).any accepted

/-- Whether a comparison holds of a field. -/
def compares (op : Comparison) (actual : Option Value) (expected : Value) : Bool :=
  match op with
  | .eq => equals actual expected
  | .ne => !equals actual expected
  | .gt => ordered actual expected (· == .gt)
  | .gte => ordered actual expected (· != .lt)
  | .lt => ordered actual expected (· == .lt)
  | .lte => ordered actual expected (· != .gt)

mutual

/-- Whether the value of a field, or its absence, satisfies a condition. -/
def holds (actual : Option Value) : Condition → Bool
  | compare op expected => compares op actual expected
  | isIn operands => operands.any (equals actual)
  | notIn operands => !operands.any (equals actual)
  | all conditions => holdsAll actual conditions
  | any conditions => holdsAny actual conditions
  | present expected => actual.isSome == expected
  | pattern p =>
    match actual with
    | some (.text text) => p.isMatch text
    | _ => false
  | not condition => !holds actual condition

/-- Whether a field satisfies all of several conditions. -/
def holdsAll (actual : Option Value) : List Condition → Bool
  | [] => true
  | condition :: rest => holds actual condition && holdsAll actual rest

/-- Whether a field satisfies one of several conditions. -/
def holdsAny (actual : Option Value) : List Condition → Bool
  | [] => false
  | condition :: rest => holds actual condition || holdsAny actual rest

end

end Condition

namespace Filter

mutual

/-- Whether a row is meant by a filter. -/
def holds (row : Row) : Filter → Bool
  | and parts => holdsAll row parts
  | or parts => holdsAny row parts
  | nor parts => !holdsAny row parts
  | field name condition => condition.holds (row.lookup name)

/-- Whether a row is meant by all of several filters. -/
def holdsAll (row : Row) : List Filter → Bool
  | [] => true
  | part :: rest => holds row part && holdsAll row rest

/-- Whether a row is meant by one of several filters. -/
def holdsAny (row : Row) : List Filter → Bool
  | [] => false
  | part :: rest => holds row part || holdsAny row rest

end

/-- The rows that a filter means, in order. -/
def select (filter : Filter) (rows : List Row) : List Row := rows.filter (filter.holds ·)

end Filter

end GridStore
