import GridStore.Error
import GridStore.Pattern.Matcher
import GridStore.Pattern.Reader
import GridStore.Row.Basic

/-!
# Filters

A filter says which rows are meant, by conditions on single fields joined by conjunction,
disjunction and joint denial.

## Main definitions

* `Comparison`: the binary comparisons.
* `Pattern`: a regular expression with its source and options.
* `Condition`: what the value of a field has to satisfy.
* `Filter`: filters.
-/

namespace GridStore

/-- A binary comparison. -/
inductive Comparison where
  | eq
  | ne
  | gt
  | gte
  | lt
  | lte
deriving DecidableEq

namespace Comparison

/-- The key of a comparison in a filter document. -/
def key : Comparison → String
  | eq => "$eq"
  | ne => "$ne"
  | gt => "$gt"
  | gte => "$gte"
  | lt => "$lt"
  | lte => "$lte"

/-- All comparisons. -/
def all : List Comparison := [eq, ne, gt, gte, lt, lte]

/-- The comparison with a key. -/
def ofKey? (name : String) : Option Comparison := all.find? fun op => op.key == name

end Comparison

/-- A regular expression with the source and the options from which it was read. -/
structure Pattern where
  source : String
  options : String
  regex : Regex
deriving DecidableEq

namespace Pattern

/-- Whether an option says how a pattern is read: in any case of letters, line by line, or with
points that also stand for line feeds. -/
def isOption (c : Char) : Bool := c == 'i' || c == 'm' || c == 's'

/-- The expression with its options in front. -/
def expression (source options : String) : String :=
  if options = "" then source else "(?" ++ options ++ ")" ++ source

/-- The pattern with a source and options. -/
def read (source options : String) : Except FilterError Pattern :=
  match options.toList.find? fun c => !isOption c with
  | some flag => .error (.unsupportedFlag flag)
  | none =>
    match Regex.read? (expression source options) with
    | some regex => .ok ⟨source, options, regex⟩
    | none => .error .invalidPattern

/-- Whether some part of a text matches. -/
def isMatch (pattern : Pattern) (text : String) : Bool := pattern.regex.isMatch text

end Pattern

/-- What the value of a field has to satisfy. -/
inductive Condition where
  | compare (op : Comparison) (operand : Value)
  | isIn (operands : List Value)
  | notIn (operands : List Value)
  | all (conditions : List Condition)
  | any (conditions : List Condition)
  | present (expected : Bool)
  | pattern (pattern : Pattern)
  | not (condition : Condition)

/-- Which rows are meant. -/
inductive Filter where
  | and (parts : List Filter)
  | or (parts : List Filter)
  | nor (parts : List Filter)
  | field (name : String) (condition : Condition)

namespace Filter

/-- The filter that means every row. -/
def everything : Filter := .and []

/-- Whether a filter is the one that means every row because it has no conditions. -/
def isEverything : Filter → Bool
  | .and [] => true
  | _ => false

end Filter

end GridStore
