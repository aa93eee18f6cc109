import GridStore.Json.Written

/-!
# JSON tokens

The first step of reading JSON text: cutting it into punctuation marks, texts, and the words and
numbers between them.

## Main definitions

* `JsonToken`: the tokens.
* `JsonToken.number?`: the number written by a run of characters.
* `JsonToken.ofChars?`: the tokens of a text.
* `JsonToken.depth`: how deep arrays and objects are nested.
-/

namespace GridStore

/-- A token of JSON text. -/
inductive JsonToken where
  | openArray
  | closeArray
  | openObject
  | closeObject
  | comma
  | colon
  | text (written : JsonText)
  | scalar (value : WrittenJson)

namespace JsonToken

/-! ### Numbers and words -/

/-- Whether digits before the point of a number are written as JSON allows: a zero alone, or no zero
in front. -/
def wholeOk (digits : List Char) : Bool :=
  match digits with
  | [] => false
  | [_] => true
  | first :: _ => first != '0'

/-- Whether what follows the whole part of a number starts with a point without a digit. -/
def hasBarePoint : List Char → Bool
  | '.' :: rest => (rest.takeWhile Char.isDigit).isEmpty
  | _ => false

/-- The number written by the characters after the sign of a number. Whole numbers that fit 64 bits
are integers; other numbers are doubles, and have no value if they are beyond all of these. -/
def unsigned? (negative : Bool) (cs : List Char) : Option (Option JsonNumber) :=
  let whole := cs.takeWhile Char.isDigit
  let rest := cs.dropWhile Char.isDigit
  let magnitude := natOfDigits whole
  if !wholeOk whole || hasBarePoint rest then none
  else if rest = [] ∧ !(negative && magnitude == 0) ∧
      magnitude < (if negative then UInt64.size / 2 + 1 else UInt64.size) then
    some (some (.integer (if negative then -magnitude else magnitude)))
  else
    (Decimal.readUnsigned? negative cs).map fun decimal =>
      (some decimal.toNumber).filter Number.isFinite |>.map .double

/-- The number written by a run of characters. -/
def number? : List Char → Option (Option JsonNumber)
  | '-' :: cs => unsigned? true cs
  | cs => unsigned? false cs

/-- Whether a character can occur in a number or a word. -/
def inWord (c : Char) : Bool := c.isAlphanum || c == '-' || c == '+' || c == '.'

/-- The value named by a word, or the number that it writes. -/
def word? (cs : List Char) : Option WrittenJson :=
  if cs = "null".toList then some .null
  else if cs = "true".toList then some (.bool true)
  else if cs = "false".toList then some (.bool false)
  else (number? cs).map .number

/-! ### Tokens of a text -/

/-- The punctuation mark that a character is. -/
def mark? (c : Char) : Option JsonToken :=
  if c = '[' then some openArray
  else if c = ']' then some closeArray
  else if c = '\x7b' then some openObject
  else if c = '\x7d' then some closeObject
  else if c = ',' then some comma
  else if c = ':' then some colon
  else none

/-- Whether a character may stand between tokens. -/
def isSpace (c : Char) : Bool := c == ' ' || c == '\t' || c == '\n' || c == '\r'

/-- The tokens of a text, if it can be cut into tokens. -/
def ofChars? : List Char → Option (List JsonToken)
  | [] => some []
  | c :: rest =>
    if isSpace c then ofChars? rest
    else match mark? c with
      | some token => (ofChars? rest).map (token :: ·)
      | none =>
        if c = '"' then
          match h : JsonText.scan? rest with
          | none => none
          | some (written, after) =>
            have : after.length < rest.length := JsonText.length_scan? h
            (ofChars? after).map (text written :: ·)
        else
          have : (rest.dropWhile inWord).length ≤ rest.length :=
            (List.dropWhile_sublist _).length_le
          match word? (c :: rest.takeWhile inWord) with
          | none => none
          | some value => (ofChars? (rest.dropWhile inWord)).map (scalar value :: ·)
termination_by cs => cs.length
decreasing_by all_goals simp only [List.length_cons]; omega

/-! ### Nesting -/

/-- The number of arrays and objects open after a token, and the greatest such number so far. -/
def nest (counts : Nat × Nat) : JsonToken → Nat × Nat
  | openArray => (counts.1 + 1, max counts.2 (counts.1 + 1))
  | openObject => (counts.1 + 1, max counts.2 (counts.1 + 1))
  | closeArray => (counts.1 - 1, counts.2)
  | closeObject => (counts.1 - 1, counts.2)
  | _ => counts

/-- The greatest number of arrays and objects that are open at once. -/
def depth (tokens : List JsonToken) : Nat := (tokens.foldl nest (0, 0)).2

end JsonToken

end GridStore
