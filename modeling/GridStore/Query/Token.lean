import GridStore.Query.Basic
import GridStore.Text.Blank
import GridStore.Text.Quoted

/-!
# Tokens of structured queries

The text of a query is cut into parentheses, comparison signs, quoted texts and words. Words end at
blanks, parentheses, comparison signs and quotes.

## Main definitions

* `QueryToken`: the tokens.
* `QueryError`: the ways in which a text is no query.
* `QueryToken.ofText`: the tokens of a text.

## Main results

* `QueryToken.length_quoted`: a quoted text takes at least its closing quote.
-/

namespace GridStore

/-- A token of a query. -/
inductive QueryToken where
  | opening
  | closing
  | op (op : QueryOp)
  | quoted (text : String)
  | word (text : String)
deriving DecidableEq

/-- Why a text is no query. Where the text ends too early, no token is found. -/
inductive QueryError where
  | danglingEscape
  | unterminatedText
  | tokenAfterQuery (token : QueryToken)
  | expectedClosing (found : Option QueryToken)
  | expectedOperator (column : String) (found : Option QueryToken)
  | expectedValue (column : String) (found : Option QueryToken)
  | expectedComparison (found : Option QueryToken)
  | invalidValue (word : String)
deriving DecidableEq

namespace QueryToken

/-! ### Messages -/

/-- The name of a comparison in messages. -/
def opName : QueryOp → String
  | .eq => "Eq"
  | .ne => "Ne"
  | .lt => "Lt"
  | .lte => "Lte"
  | .gt => "Gt"
  | .gte => "Gte"

/-- A token in messages. -/
def shown : QueryToken → String
  | opening => "Open"
  | closing => "Close"
  | op o => "Op(" ++ opName o ++ ")"
  | quoted s => "Quoted(" ++ quotedText s ++ ")"
  | word s => "Word(" ++ quotedText s ++ ")"

/-- A token, or the end of the text, in messages. -/
def shownFound : Option QueryToken → String
  | none => "None"
  | some token => "Some(" ++ token.shown ++ ")"

end QueryToken

/-- The text about a text that is no query. -/
def QueryError.message : QueryError → String
  | danglingEscape => "dangling escape"
  | unterminatedText => "unterminated string"
  | tokenAfterQuery token => "unexpected " ++ token.shown ++ " after expression"
  | expectedClosing found => "expected ')' but found " ++ QueryToken.shownFound found
  | expectedOperator column found =>
    "expected operator after " ++ column ++ " but found " ++ QueryToken.shownFound found
  | expectedValue column found =>
    "expected value after " ++ column ++ " but found " ++ QueryToken.shownFound found
  | expectedComparison found => "expected comparison but found " ++ QueryToken.shownFound found
  | invalidValue word => "invalid value " ++ word

namespace QueryToken

/-! ### Cutting a text -/

/-- A quoted text after its opening quote, and what follows the closing one. A backslash makes the
next character stand for itself. -/
def scanQuoted : List Char → Except QueryError (List Char × List Char)
  | [] => .error .unterminatedText
  | '"' :: rest => .ok ([], rest)
  | ['\\'] => .error .danglingEscape
  | '\\' :: c :: rest => (scanQuoted rest).map fun (text, after) => (c :: text, after)
  | c :: rest => (scanQuoted rest).map fun (text, after) => (c :: text, after)

private theorem length_of_map_cons {r : Except QueryError (List Char × List Char)} {c : Char}
    {n : Nat} {text after : List Char}
    (h : (r.map fun (t, a) => (c :: t, a)) = .ok (text, after))
    (ih : ∀ t a, r = .ok (t, a) → a.length < n) : after.length < n := by
  cases r with
  | error => simp [Except.map] at h
  | ok p =>
    obtain ⟨t, a⟩ := p
    simp only [Except.map, Except.ok.injEq, Prod.mk.injEq] at h
    exact h.2 ▸ ih t a rfl

theorem length_quoted {cs text after : List Char} (h : scanQuoted cs = .ok (text, after)) :
    after.length < cs.length := by
  fun_induction scanQuoted cs generalizing text after with
  | case1 => simp at h
  | case2 rest =>
    simp only [Except.ok.injEq, Prod.mk.injEq] at h
    simp [← h.2]
  | case3 => simp at h
  | case4 c rest ih =>
    have := length_of_map_cons h fun _ _ => ih
    simp only [List.length_cons]
    omega
  | case5 c rest _ _ _ ih =>
    have := length_of_map_cons h fun _ _ => ih
    simp only [List.length_cons]
    omega

/-- Whether a character ends a word. -/
def endsWord (c : Char) : Bool :=
  isBlank c || c == '(' || c == ')' || c == '<' || c == '>' || c == '=' || c == '"'

/-- The comparison sign at the front of a text that starts with `<` or `>`. -/
def scanSign (c : Char) (rest : List Char) : QueryOp × List Char :=
  match c, rest with
  | '<', '>' :: after => (.ne, after)
  | '<', '=' :: after => (.lte, after)
  | '>', '=' :: after => (.gte, after)
  | '<', after => (.lt, after)
  | _, after => (.gt, after)

theorem length_scanSign (c : Char) (rest : List Char) :
    (scanSign c rest).2.length ≤ rest.length := by
  unfold scanSign
  split <;> simp

/-- The tokens of a text. -/
def ofChars : List Char → Except QueryError (List QueryToken)
  | [] => .ok []
  | c :: rest =>
    if isBlank c then ofChars rest
    else if c = '(' then (ofChars rest).map (opening :: ·)
    else if c = ')' then (ofChars rest).map (closing :: ·)
    else if c = '=' then (ofChars rest).map (op .eq :: ·)
    else if c = '<' ∨ c = '>' then
      have := length_scanSign c rest
      (ofChars (scanSign c rest).2).map (op (scanSign c rest).1 :: ·)
    else if c = '"' then
      match h : scanQuoted rest with
      | .error e => .error e
      | .ok (text, after) =>
        have : after.length < rest.length := length_quoted h
        (ofChars after).map (quoted (String.ofList text) :: ·)
    else
      have : (rest.dropWhile fun c => !endsWord c).length ≤ rest.length :=
        (List.dropWhile_sublist _).length_le
      (ofChars (rest.dropWhile fun c => !endsWord c)).map
        (word (String.ofList (c :: rest.takeWhile fun c => !endsWord c)) :: ·)
termination_by cs => cs.length
decreasing_by all_goals simp only [List.length_cons]; omega

/-- The tokens of a text. -/
def ofText (text : String) : Except QueryError (List QueryToken) := ofChars text.toList

end QueryToken

end GridStore
