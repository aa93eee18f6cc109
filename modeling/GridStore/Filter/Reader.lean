import GridStore.Filter.Basic

/-!
# Reading filters

A filter document is an object whose keys are fields with conditions and the operators `$and`, `$or`
and `$nor` with arrays of filters. A condition is a scalar, which the field has to equal, or an
object of operators.

## Main definitions

* `Filter.read`: the filter that a document describes.
-/

namespace GridStore

namespace Filter

/-- Whether a key names an operator. -/
def isOperatorKey (key : String) : Bool := key.toList.head? == some '$'

/-- The operators that join filters. -/
def join? (key : String) : Option (List Filter → Filter) :=
  if key = "$and" then some .and
  else if key = "$or" then some .or
  else if key = "$nor" then some .nor
  else none

/-- The operators that join conditions of one field. -/
def joinConditions? (key : String) : Option (List Condition → Condition) :=
  if key = "$and" then some .all
  else if key = "$or" then some .any
  else none

/-- The scalar with which a field is compared. -/
def scalar (field : String) (value : Json) : Except FilterError Value :=
  match Value.ofJson? value with
  | some v => .ok v
  | none => .error (.operandNotScalar field)

/-- The scalars of an array. -/
def scalars (field operator : String) : Json → Except FilterError (List Value)
  | .array items => items.mapM (scalar field)
  | _ => .error (.operandNotArray field operator)

/-- The options that stand beside a pattern; without them there are none. -/
def optionsOf (field : String) (operators : List (String × Json)) : Except FilterError String :=
  match Entries.get? operators "$options" with
  | some (.text options) => .ok options
  | some _ => .error (.optionsNotText field)
  | none => .ok ""

/-- The pattern that an operator describes. -/
def patternOf (field : String) (operators : List (String × Json)) :
    Json → Except FilterError Pattern
  | .text source => do Pattern.read source (← optionsOf field operators)
  | _ => .error (.patternNotText field)

/-- The conditions that an operator without conditions inside describes: one, or none for options,
which belong to the pattern beside them. -/
def operator (field : String) (operators : List (String × Json)) (key : String) (operand : Json) :
    Except FilterError (List Condition) :=
  match Comparison.ofKey? key with
  | some op => return [.compare op (← scalar field operand)]
  | none =>
    if key = "$in" then return [.isIn (← scalars field key operand)]
    else if key = "$nin" then return [.notIn (← scalars field key operand)]
    else if key = "$exists" then return [.present operand.isTruthy]
    else if key = "$regex" then return [.pattern (← patternOf field operators operand)]
    else if key = "$options" ∧ (Entries.get? operators "$regex").isSome then return []
    else throw (.unknownOperator field key)

/-- Several conditions on one field; one condition stands alone. -/
def allOf : List Condition → Condition
  | [condition] => condition
  | conditions => .all conditions

/-- Several filters that all have to hold; one filter stands alone. -/
def conjunction : List Filter → Filter
  | [part] => part
  | parts => .and parts

/-- Whether the fields of an object are operators, and at least one. -/
def isOperatorDocument (fields : List (String × Json)) : Bool :=
  !fields.isEmpty && fields.all fun (key, _) => isOperatorKey key

mutual

/-- The condition on a field that a value describes. -/
def condition (field : String) : Json → Except FilterError Condition
  | .object operators =>
    if isOperatorDocument operators then do
      return allOf (← conditions field operators operators)
    else throw (.noOperatorDocument field)
  | value => do return .compare .eq (← scalar field value)

/-- The conditions on a field that operators describe. -/
def conditions (field : String) (operators : List (String × Json)) :
    List (String × Json) → Except FilterError (List Condition)
  | [] => return []
  | (key, operand) :: rest => do
    let found ←
      if key = "$not" then do
        let inner ← condition field operand
        pure [Condition.not inner]
      else match joinConditions? key with
        | some join =>
          match operand with
          | .array items => do
            let inner ← conditionList field items
            pure [join inner]
          | _ => throw (.operandNotArray field key)
        | none => operator field operators key operand
    return found ++ (← conditions field operators rest)

/-- The conditions on a field that the items of an array describe. -/
def conditionList (field : String) : List Json → Except FilterError (List Condition)
  | [] => return []
  | item :: rest => return (← condition field item) :: (← conditionList field rest)

end

mutual

/-- The filters that the fields of a document describe. -/
def clauses : List (String × Json) → Except FilterError (List Filter)
  | [] => return []
  | (key, value) :: rest => do
    let clause ←
      match join? key with
      | some join =>
        match value with
        | .array items => do
          let parts ← branches key items
          pure (join parts)
        | _ => throw (.branchesNotArray key)
      | none =>
        if isOperatorKey key then throw (.unknownTopLevelOperator key)
        else do
          let inner ← condition key value
          pure (Filter.field key inner)
    return clause :: (← clauses rest)

/-- The filters that the items of an array describe. -/
def branches (operator : String) : List Json → Except FilterError (List Filter)
  | [] => return []
  | item :: rest => do
    let part ← branch operator item
    return part :: (← branches operator rest)

/-- The filter that an item of an array describes. -/
def branch (operator : String) : Json → Except FilterError Filter
  | .object fields => do return conjunction (← clauses fields)
  | other => throw (.branchNotObject operator other)

end

/-- The filter that a document describes; no document means every row. -/
def read : Json → Except FilterError Filter
  | .null => .ok everything
  | .object fields => do return conjunction (← clauses fields)
  | other => .error (.notObject other)

end Filter

end GridStore
