import GridStore.Cell.Typing
import GridStore.Filter.Basic
import GridStore.Query.Basic
import GridStore.Text.Alphanumeric

/-!
# The query of a filter

The service can evaluate comparisons of columns with flags, numbers and texts. What it cannot
evaluate is left out of a conjunction, which lets more rows through; a disjunction with such a part
is left out as a whole, since leaving out a part of it would hide rows. Texts of timestamps are not
compared by the service, which does not know that two of them may name one instant.

## Main definitions

* `isColumnWord`: the names of columns that a query can contain.
* `Condition.pushDown?`, `Filter.pushDown?`: the query of a condition and of a filter.
* `Filter.queryText`: the text of the query, empty if there is none.
-/

namespace GridStore

/-- Whether a text is a word, whatever the case of its letters. -/
def isWordIgnoringCase (text word : String) : Bool := text.map Char.toLower == word

/-- Whether a query can contain the name of a column: a word of letters, numerals and underscores
that is no metadata and joins no comparisons. -/
def isColumnWord (name : String) : Bool :=
  !isMetaField name && name != "" && name.toList.all (fun c => isAlphanumeric c || c == '_') &&
    !isWordIgnoringCase name "and" && !isWordIgnoringCase name "or"

/-- The comparison of the service that stands for a comparison of a filter. -/
def Comparison.queryOp : Comparison → QueryOp
  | eq => .eq
  | ne => .ne
  | gt => .gt
  | gte => .gte
  | lt => .lt
  | lte => .lte

namespace Condition

/-- The literal for an operand, unless it is no value, an instant, or the text of a timestamp. -/
def literal? : Value → Option Literal
  | .null => none
  | .bool b => some (.bool b)
  | .number n => some (.number n)
  | .text s => if (Cell.timestamp? s).isSome then none else some (.text s)
  | .date _ => none

/-- The query of a comparison. -/
def comparison? (column : String) (op : Comparison) (operand : Value) : Option Query :=
  (literal? operand).map fun literal => .compare column op.queryOp literal

/-- The conjunction of queries, unless there are none. -/
def conjunction? (parts : List Query) : Option Query :=
  if parts.isEmpty then none else some (.and parts)

/-- The disjunction of queries, unless one of them is missing or there are none. -/
def disjunction? (parts : List (Option Query)) : Option Query := do
  let parts ← parts.mapM id
  if parts.isEmpty then none else some (.or parts)

mutual

/-- The query of a condition on a column. -/
def pushDown? (column : String) : Condition → Option Query
  | compare op operand => comparison? column op operand
  | isIn operands => disjunction? (operands.map (comparison? column .eq))
  | notIn operands => conjunction? (operands.filterMap (comparison? column .ne))
  | all conditions => conjunction? ((pushDownAll column conditions).filterMap id)
  | any conditions => disjunction? (pushDownAll column conditions)
  | present _ => none
  | pattern _ => none
  | not _ => none

/-- The queries of several conditions on a column. -/
def pushDownAll (column : String) : List Condition → List (Option Query)
  | [] => []
  | condition :: rest => pushDown? column condition :: pushDownAll column rest

end

end Condition

namespace Filter

mutual

/-- The query of a filter. -/
def pushDown? : Filter → Option Query
  | and parts => Condition.conjunction? ((pushDownAll parts).filterMap id)
  | or parts => Condition.disjunction? (pushDownAll parts)
  | nor _ => none
  | field name condition => if isColumnWord name then condition.pushDown? name else none

/-- The queries of several filters. -/
def pushDownAll : List Filter → List (Option Query)
  | [] => []
  | part :: rest => pushDown? part :: pushDownAll rest

end

/-- The text of the query of a filter, empty if the service cannot narrow the rows. -/
def queryText (filter : Filter) : String := (filter.pushDown?.map Query.text).getD ""

end Filter

end GridStore
