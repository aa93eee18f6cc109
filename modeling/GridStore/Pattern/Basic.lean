import GridStore.Pattern.CharSet

/-!
# Regular expressions

Regular expressions over characters with assertions about the characters on both sides of a
position. Whether a text matches depends neither on which repetitions are greedy nor on groups, so
neither is kept.

## Main definitions

* `Assertion`: conditions on a position of a text.
* `Regex`: regular expressions.
-/

namespace GridStore

/-! ### Assertions -/

/-- A condition on a position of a text. Lines end at a line feed, or, for the two assertions named
after both, at a carriage return, a line feed or the pair of them. Words consist of letters and
digits of ASCII and underscores. -/
inductive Assertion where
  | textStart
  | textEnd
  | lineStart
  | lineEnd
  | returnLineStart
  | returnLineEnd
  | wordBoundary
  | noWordBoundary
  | wordStart
  | wordEnd
  | wordStartHalf
  | wordEndHalf
deriving DecidableEq

/-- Whether a neighbour of a position is a character of a word. -/
def isWordChar : Option Char → Bool
  | some c => c.isAlphanum || c == '_'
  | none => false

/-- Whether an assertion holds between two characters; at an end of the text there is none. -/
def Assertion.holds (before after : Option Char) : Assertion → Bool
  | textStart => before.isNone
  | textEnd => after.isNone
  | lineStart => before.isNone || before == some '\n'
  | lineEnd => after.isNone || after == some '\n'
  | returnLineStart =>
    before.isNone || before == some '\n' || before == some '\r' && after != some '\n'
  | returnLineEnd =>
    after.isNone || after == some '\r' || after == some '\n' && before != some '\r'
  | wordBoundary => isWordChar before != isWordChar after
  | noWordBoundary => isWordChar before == isWordChar after
  | wordStart => !isWordChar before && isWordChar after
  | wordEnd => isWordChar before && !isWordChar after
  | wordStartHalf => !isWordChar before
  | wordEndHalf => !isWordChar after

/-! ### Expressions -/

/-- A regular expression. A repetition without an upper bound has no `most`. -/
inductive Regex where
  | empty
  | char (c : Char)
  | set (members : CharSet)
  | assert (assertion : Assertion)
  | sequence (first second : Regex)
  | either (first second : Regex)
  | repeated (body : Regex) (least : Nat) (most : Option Nat)
deriving DecidableEq

end GridStore
