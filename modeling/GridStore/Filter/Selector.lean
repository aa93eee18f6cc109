import GridStore.Filter.Basic

/-!
# Selectors

What a filter says about the rows it means before any row is looked at: the identity of a single
row, and the values that some fields have to equal.

## Main definitions

* `Filter.identity?`: the identity that a filter demands and nothing else.
* `Filter.equalities`: the fields that a filter demands to equal a value.
-/

namespace GridStore

namespace Filter

/-- The identity of the one row that a filter means, if it demands that identity and nothing
else. -/
def identity? : Filter → Option String
  | field name (.compare .eq (.text id)) => if name = idField then some id else none
  | _ => none

mutual

/-- The fields that a filter demands to equal a value, by itself or in a conjunction. -/
def equalities : Filter → List (String × Value)
  | field name (.compare .eq value) =>
    if isMetaField name || value.isNull then [] else [(name, value)]
  | and parts => equalitiesOfAll parts
  | _ => []

/-- The fields that several filters together demand to equal a value. -/
def equalitiesOfAll : List Filter → List (String × Value)
  | [] => []
  | part :: rest => equalities part ++ equalitiesOfAll rest

end

end Filter

end GridStore
