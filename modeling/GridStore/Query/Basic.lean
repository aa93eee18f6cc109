import GridStore.Cell.Typing

/-!
# Structured queries

The service filters rows by comparisons of a column with a literal, joined by `and` and `or`. A cell
is compared as a number with a numeric literal and as text with any other literal, and a cell that a
row does not have is empty.

## Main definitions

* `QueryOp`, `Literal`, `Query`: comparisons, literals and queries.
* `Query.accepts`: whether a query accepts the cells of a row.
* `compareCells`: the order by which rows are sorted.
* `Query.text`: the text of a query.
-/

namespace GridStore

/-- How a cell is compared with a literal. -/
inductive QueryOp where
  | eq
  | ne
  | lt
  | lte
  | gt
  | gte
deriving DecidableEq

namespace QueryOp

/-- The sign of a comparison. -/
def sign : QueryOp → String
  | eq => "="
  | ne => "<>"
  | lt => "<"
  | lte => "<="
  | gt => ">"
  | gte => ">="

/-- Whether a comparison holds of two operands in a given order. -/
def accepts : QueryOp → Ordering → Bool
  | eq, o => o == .eq
  | ne, o => o != .eq
  | lt, o => o == .lt
  | lte, o => o != .gt
  | gt, o => o == .gt
  | gte, o => o != .lt

end QueryOp

/-- What a cell is compared with. -/
inductive Literal where
  | text (value : String)
  | number (value : Number)
  | bool (value : Bool)
deriving DecidableEq

/-- A query of the service. -/
inductive Query where
  | compare (column : String) (op : QueryOp) (literal : Literal)
  | and (parts : List Query)
  | or (parts : List Query)

namespace Query

/-! ### Evaluation -/

/-- Whether the text of a cell compares with a literal as demanded. A cell that holds no number
differs from every number and is neither below nor above it. -/
def compareCell (cell : String) (op : QueryOp) : Literal → Bool
  | .number expected =>
    match Cell.number? cell with
    | some actual => (actual.compare? expected).any op.accepts
    | none => op == .ne
  | .text expected => op.accepts (Ord.compare cell expected)
  | .bool expected => op.accepts (Ord.compare (cell.map Char.toLower) (Value.flagText expected))

mutual

/-- Whether a query accepts a row, given the text of each column. -/
def accepts (cell : String → String) : Query → Bool
  | compare column op literal => compareCell (cell column) op literal
  | and parts => acceptsAll cell parts
  | or parts => acceptsAny cell parts

/-- Whether all of several queries accept a row. -/
def acceptsAll (cell : String → String) : List Query → Bool
  | [] => true
  | part :: rest => accepts cell part && acceptsAll cell rest

/-- Whether one of several queries accepts a row. -/
def acceptsAny (cell : String → String) : List Query → Bool
  | [] => false
  | part :: rest => accepts cell part || acceptsAny cell rest

end

/-! ### Text -/

/-- A text between double quotes, with a backslash before quotes and backslashes. -/
def quoted (text : String) : String :=
  String.ofList ('"' :: (text.toList.flatMap
    (fun c => if c = '\\' ∨ c = '"' then ['\\', c] else [c]) ++ ['"']))

/-- The text of a literal. -/
def literalText : Literal → String
  | .text s => quoted s
  | .number n => n.cellText
  | .bool b => Value.flagText b

mutual

/-- The text of a query; every conjunction and disjunction stands between parentheses. -/
def text : Query → String
  | compare column op literal => column ++ " " ++ op.sign ++ " " ++ literalText literal
  | and parts => "(" ++ textJoined " and " parts ++ ")"
  | or parts => "(" ++ textJoined " or " parts ++ ")"

/-- The texts of several queries with a word between them. -/
def textJoined (separator : String) : List Query → String
  | [] => ""
  | part :: rest =>
    text part ++ match rest with
      | [] => ""
      | _ :: _ => separator ++ textJoined separator rest

end

end Query

/-! ### Sorting -/

/-- The order of two cells in a sorted column: as numbers if both hold numbers, else as texts. -/
def compareCells (a b : String) : Ordering :=
  match Cell.number? a, Cell.number? b with
  | some x, some y => (x.compare? y).getD .eq
  | _, _ => Ord.compare a b

end GridStore
