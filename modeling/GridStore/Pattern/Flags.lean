import GridStore.Pattern.Fragment
import GridStore.Text.Blank

/-!
# Flags of regular expressions

Flags say how an expression is read from a place on: whether the case of letters counts, whether
lines are told apart, and whether blanks and comments have no meaning.

## Main definitions

* `RegexFlags`: the flags in force at a place.
* `RegexFlags.skip`: a text without the blanks and comments that have no meaning.
* `RegexFlags.literal`, `RegexFlags.anyChar`, `RegexFlags.lineStart`, `RegexFlags.lineEnd`: what a
  letter, a point and the two line assertions stand for.

## Main results

* `RegexFlags.length_skip_le`: no text grows when blanks are taken away.
-/

namespace GridStore

/-- The flags in force at a place of an expression. -/
structure RegexFlags where
  ignoreCase : Bool := false
  multiLine : Bool := false
  dotAll : Bool := false
  returns : Bool := false
  verbose : Bool := false
deriving DecidableEq

/-! ### Blanks -/

/-- A text without the blanks and comments in front. A comment runs from a number sign to the end of
its line. -/
def skipBlanks (inComment : Bool) : List Char → List Char
  | [] => []
  | c :: cs =>
    if inComment then skipBlanks (c != '\n') cs
    else if isBlank c then skipBlanks false cs
    else if c = '#' then skipBlanks true cs
    else c :: cs

theorem length_skipBlanks_le (inComment : Bool) (cs : List Char) :
    (skipBlanks inComment cs).length ≤ cs.length := by
  induction cs generalizing inComment with
  | nil => exact Nat.le_refl _
  | cons c cs ih =>
    unfold skipBlanks
    repeat' split
    all_goals first
      | exact Nat.le_succ_of_le (ih _)
      | exact Nat.le_refl _

/-- The first character of a text that is neither blank nor the first number sign. -/
def pastBlanks? (inComment : Bool) : List Char → Option Char
  | [] => none
  | c :: cs =>
    if isBlank c then pastBlanks? inComment cs
    else if !inComment && c == '#' then pastBlanks? true cs
    else some c

namespace RegexFlags

/-- A text without the blanks and comments in front, where they have no meaning. -/
def skip (flags : RegexFlags) (cs : List Char) : List Char :=
  if flags.verbose then skipBlanks false cs else cs

theorem length_skip_le (flags : RegexFlags) (cs : List Char) :
    (flags.skip cs).length ≤ cs.length := by
  unfold skip
  split
  · exact length_skipBlanks_le false cs
  · exact Nat.le_refl _

/-- The character that decides what a hyphen before a text means: the next one or, where blanks have
no meaning, the next one that is not passed over. Of a comment only the number sign and blanks are
passed over, so that a character of the comment decides. -/
def afterHyphen? (flags : RegexFlags) (cs : List Char) : Option Char :=
  if flags.verbose then (pastBlanks? false cs).or cs.head? else cs.head?

/-! ### Meanings -/

/-- A character that stands for itself, or for the letter in both cases if case is ignored. -/
def literal (flags : RegexFlags) (c : Char) : Fragment :=
  if flags.ignoreCase && c.isAlpha then .set (CharSet.range c c).withOtherCase else .char c

/-- All characters that a point stands for. -/
def anyChar (flags : RegexFlags) : CharSet :=
  if flags.dotAll then CharSet.empty.complement
  else if flags.returns then ((CharSet.range '\n' '\n').union (CharSet.range '\r' '\r')).complement
  else (CharSet.range '\n' '\n').complement

/-- What holds at the start of a line, or of the text if lines are not told apart. -/
def lineStart (flags : RegexFlags) : Assertion :=
  if !flags.multiLine then .textStart
  else if flags.returns then .returnLineStart
  else .lineStart

/-- What holds at the end of a line, or of the text if lines are not told apart. -/
def lineEnd (flags : RegexFlags) : Assertion :=
  if !flags.multiLine then .textEnd
  else if flags.returns then .returnLineEnd
  else .lineEnd

end RegexFlags

end GridStore
