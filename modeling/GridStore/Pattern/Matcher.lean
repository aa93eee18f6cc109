import GridStore.Pattern.Basic

/-!
# Matching regular expressions

A set of positions of a text is a list of flags, one for each position from the start to the end.
An expression takes the positions at which a match may start to those at which it may end, and each
form of expression does so in one pass over the text. A repetition without bound adds positions
until nothing changes, which takes at most as many rounds as there are positions.

## Main definitions

* `Regex.ends`: the ends of the matches that start at given positions.
* `Regex.isMatch`: whether some part of a text matches.
-/

namespace GridStore

/-- The two neighbours of every position of a text, after a given character. -/
def neighbours (before : Option Char) : List Char → List (Option Char × Option Char)
  | [] => [(before, none)]
  | c :: cs => (before, some c) :: neighbours (some c) cs

/-- The positions in one of two sets. -/
def unionOf (a b : List Bool) : List Bool := List.zipWith (· || ·) a b

/-- The positions one step later, where the character in between passes a test. -/
def advance (test : Char → Bool) (text : List Char) (positions : List Bool) : List Bool :=
  false :: List.zipWith (fun here c => here && test c) positions text

/-- A function on sets of positions applied a number of times, until nothing changes. -/
def iterate (step : List Bool → List Bool) : Nat → List Bool → List Bool
  | 0, positions => positions
  | n + 1, positions =>
    let next := step positions
    if next = positions then positions else iterate step n next

namespace Regex

/-- The positions at which a match ends that starts at one of the given positions. -/
def ends (text : List Char) : Regex → List Bool → List Bool
  | empty, starts => starts
  | char c, starts => advance (· == c) text starts
  | set members, starts => advance members.contains text starts
  | assert assertion, starts =>
    List.zipWith (fun here (before, after) => here && assertion.holds before after) starts
      (neighbours none text)
  | sequence first second, starts => ends text second (ends text first starts)
  | either first second, starts => unionOf (ends text first starts) (ends text second starts)
  | repeated body least most, starts =>
    let rounds := match most with
      | none => text.length + 1
      | some most => min (most - least) (text.length + 1)
    iterate (fun reached => unionOf reached (ends text body reached)) rounds
      (iterate (ends text body) least starts)

/-- Whether some part of a text matches. -/
def isMatch (regex : Regex) (text : String) : Bool :=
  let chars := text.toList
  (ends chars regex (List.replicate (chars.length + 1) true)).any id

end Regex

end GridStore
