import GridStore.Proofs.Query.Words
import GridStore.Query.Reader

/-!
# The reading of a query

A conjunction or disjunction of one part means that part, and is read as that part. This module says
which queries can be written, which tokens their text consists of, and which query these tokens are
meant to be read as; that they are read so is shown in `GridStore.Proofs.Query.ReadBack`.

## Main definitions

* `Query.Writable`: whether a query can contain its names of columns and no group is empty.
* `Query.tokens`: the tokens of the text of a query.
* `Query.canonical`: the query in which every group has several parts.

## Main results

* `Query.accepts_canonical`: a query accepts the same rows as its reading.
-/

namespace GridStore

namespace Query

mutual

/-- Whether a query has a text that is read as a query: it can contain the names of its columns, and
no group is empty. -/
def Writable : Query → Prop
  | compare column _ _ => isColumnWord column = true
  | and parts => parts ≠ [] ∧ AllWritable parts
  | or parts => parts ≠ [] ∧ AllWritable parts

/-- Whether several queries can be written. -/
def AllWritable : List Query → Prop
  | [] => True
  | part :: rest => Writable part ∧ AllWritable rest

end

theorem allWritable_iff {parts : List Query} :
    AllWritable parts ↔ ∀ part ∈ parts, part.Writable := by
  induction parts with
  | nil => simp [AllWritable]
  | cons part rest ih => simp [AllWritable, ih]

/-! ### Tokens -/

/-- The token of a literal. -/
def literalToken : Literal → QueryToken
  | .text s => .quoted s
  | .number n => .word n.cellText
  | .bool b => .word (Value.flagText b)

mutual

/-- The tokens of the text of a query. -/
def tokens : Query → List QueryToken
  | compare column op literal => [.word column, .op op, literalToken literal]
  | and parts => .opening :: (tokensJoined "and" parts ++ [.closing])
  | or parts => .opening :: (tokensJoined "or" parts ++ [.closing])

/-- The tokens of several queries with a word between them. -/
def tokensJoined (word : String) : List Query → List QueryToken
  | [] => []
  | part :: rest =>
    tokens part ++ match rest with
      | [] => []
      | _ :: _ => .word word :: tokensJoined word rest

end

/-! ### The query that is read -/

mutual

/-- The query with every group of one part replaced by that part. -/
def canonical : Query → Query
  | compare column op literal => compare column op literal
  | and parts => QueryReader.collapse .and (canonicalAll parts)
  | or parts => QueryReader.collapse .or (canonicalAll parts)

/-- Several queries with every group of one part replaced by that part. -/
def canonicalAll : List Query → List Query
  | [] => []
  | part :: rest => canonical part :: canonicalAll rest

end

theorem accepts_collapse_and (cell : String → String) (parts : List Query) :
    (QueryReader.collapse .and parts).accepts cell = acceptsAll cell parts := by
  rcases parts with _ | ⟨part, _ | ⟨second, rest⟩⟩
  · rfl
  · rw [QueryReader.collapse, acceptsAll, acceptsAll, Bool.and_true]
  · rfl

theorem accepts_collapse_or (cell : String → String) (parts : List Query) :
    (QueryReader.collapse .or parts).accepts cell = acceptsAny cell parts := by
  rcases parts with _ | ⟨part, _ | ⟨second, rest⟩⟩
  · rfl
  · rw [QueryReader.collapse, acceptsAny, acceptsAny, Bool.or_false]
  · rfl

mutual

/-- A query accepts the same rows as its reading. -/
theorem accepts_canonical (cell : String → String) :
    (q : Query) → q.canonical.accepts cell = q.accepts cell
  | compare _ _ _ => rfl
  | and parts => by
    rw [canonical, accepts_collapse_and, acceptsAll_canonicalAll cell parts, accepts]
  | or parts => by
    rw [canonical, accepts_collapse_or, acceptsAny_canonicalAll cell parts, accepts]

theorem acceptsAll_canonicalAll (cell : String → String) :
    (parts : List Query) → acceptsAll cell (canonicalAll parts) = acceptsAll cell parts
  | [] => rfl
  | part :: rest => by
    rw [canonicalAll, acceptsAll, acceptsAll, accepts_canonical cell part,
      acceptsAll_canonicalAll cell rest]

theorem acceptsAny_canonicalAll (cell : String → String) :
    (parts : List Query) → acceptsAny cell (canonicalAll parts) = acceptsAny cell parts
  | [] => rfl
  | part :: rest => by
    rw [canonicalAll, acceptsAny, acceptsAny, accepts_canonical cell part,
      acceptsAny_canonicalAll cell rest]

end

end Query

end GridStore
