import GridStore.Query.Token

/-!
# Reading structured queries

Queries are disjunctions of conjunctions of terms; a term is a comparison or a query between
parentheses. Tokens are read one at a time with a stack of the parentheses that are still open.

## Main definitions

* `QueryReader`: the state of reading.
* `QueryReader.step`: reading one token.
* `Query.read`: the query written by a text.
-/

namespace GridStore

namespace QueryReader

/-- What has been read between two parentheses: the conjunctions that are complete and the terms of
the last one, both in reverse order. -/
structure Level where
  conjunctions : List Query := []
  terms : List Query := []

/-- What may come next. -/
inductive Expected where
  | term
  | operator (column : String)
  | value (column : String) (op : QueryOp)
  | connective

end QueryReader

/-- What has been read of a query: the levels around the one that is being read, and what may come
next. -/
structure QueryReader where
  outer : List QueryReader.Level := []
  level : QueryReader.Level := {}
  expected : QueryReader.Expected := .term

namespace QueryReader

/-- A conjunction or disjunction; of one part, that part. -/
def collapse (join : List Query → Query) : List Query → Query
  | [part] => part
  | parts => join parts

/-- The conjunction of the terms of a level. -/
def Level.conjunction (level : Level) : Query := collapse .and level.terms.reverse

/-- The query read at a level. -/
def Level.query (level : Level) : Query :=
  collapse .or (level.conjunctions.reverse ++ [level.conjunction])

/-- The state with one more term. -/
def addTerm (state : QueryReader) (term : Query) : QueryReader :=
  { state with
    level := { state.level with terms := term :: state.level.terms }
    expected := .connective }

/-- Whether two words differ at most in the case of letters. -/
def sameWord (a b : String) : Bool := a.map Char.toLower == b.map Char.toLower

/-- The literal that a word is: a flag or a number. -/
def literal (word : String) : Except QueryError Literal :=
  if word = "true" then .ok (.bool true)
  else if word = "false" then .ok (.bool false)
  else match Number.read? word with
    | some n => .ok (.number n)
    | none => .error (.invalidValue word)

/-- A token after a complete term. -/
def continueWith (state : QueryReader) (token : QueryToken) : Except QueryError QueryReader :=
  let other : Except QueryError QueryReader :=
    match state.outer, token with
    | outer :: rest, .closing =>
      .ok (addTerm { state with outer := rest, level := outer } state.level.query)
    | _ :: _, token => .error (.expectedClosing (some token))
    | [], token => .error (.tokenAfterQuery token)
  match token with
  | .word w =>
    if sameWord w "and" then .ok { state with expected := .term }
    else if sameWord w "or" then
      .ok { state with
        level := ⟨state.level.conjunction :: state.level.conjunctions, []⟩
        expected := .term }
    else other
  | _ => other

/-- The state after one more token. -/
def step (state : QueryReader) (token : QueryToken) : Except QueryError QueryReader :=
  match state.expected, token with
  | .term, .opening => .ok ⟨state.level :: state.outer, {}, .term⟩
  | .term, .word column => .ok { state with expected := .operator column }
  | .term, token => .error (.expectedComparison (some token))
  | .operator column, .op op => .ok { state with expected := .value column op }
  | .operator column, token => .error (.expectedOperator column (some token))
  | .value column op, .quoted text => .ok (state.addTerm (.compare column op (.text text)))
  | .value column op, .word word => do
    return state.addTerm (.compare column op (← literal word))
  | .value column _, token => .error (.expectedValue column (some token))
  | .connective, token => state.continueWith token

/-- The query, at the end of the tokens. -/
def finish (state : QueryReader) : Except QueryError Query :=
  match state.expected with
  | .term => .error (.expectedComparison none)
  | .operator column => .error (.expectedOperator column none)
  | .value column _ => .error (.expectedValue column none)
  | .connective =>
    match state.outer with
    | [] => .ok state.level.query
    | _ :: _ => .error (.expectedClosing none)

end QueryReader

namespace Query

/-- The query that a list of tokens forms; no tokens are no query. -/
def ofTokens : List QueryToken → Except QueryError (Option Query)
  | [] => .ok none
  | tokens => do return some (← (← tokens.foldlM QueryReader.step {}).finish)

/-- The query written by a text; a blank text is no query. -/
def read (text : String) : Except QueryError (Option Query) := do
  ofTokens (← QueryToken.ofText text)

end Query

end GridStore
