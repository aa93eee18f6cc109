import GridStore.Pattern.Basic

/-!
# Fragments of regular expressions

While an expression is read, every part of it is kept with its depth and with its size as a state
machine. A state takes 32 bytes, and 8 more for each range of characters or 4 for each way out of it
if there is a choice. Repetitions with bounds are written out. Every group takes 16 bytes, also a
group without states if one after it has any, and the name of a group its own length and 4 bytes.

## Main definitions

* `Fragment`: an expression with its depth and size.
* `Fragment.sequence`, `Fragment.alternatives`, `Fragment.group`, `Fragment.repeated`: fragments
  joined.
* `Fragment.fits`: whether an expression is neither too deep nor too large.
-/

namespace GridStore

/-- An expression with the depth of its operators, whether it can match nothing, the size of its
states, the number of groups up to the last one in it, and the size of the names of its groups. -/
structure Fragment where
  regex : Regex
  depth : Nat := 0
  matchesEmpty : Bool := false
  states : Nat := 32
  groups : Nat := 0
  names : Nat := 0

namespace Fragment

/-- The size of a state. -/
def stateSize : Nat := 32

/-- The size of a state with two ways out of it. -/
def choiceSize : Nat := stateSize + 2 * 4

/-- The largest depth of operators. -/
def depthLimit : Nat := 50

/-- The largest size. -/
def sizeLimit : Nat := 10 * 1024 * 1024

/-! ### Single items -/

/-- The fragment that matches nothing but the empty text. -/
def empty : Fragment := { regex := .empty, matchesEmpty := true }

/-- A character. -/
def char (c : Char) : Fragment := { regex := .char c }

/-- A character of a set. -/
def set (members : CharSet) : Fragment :=
  { regex := .set members, states := stateSize + 8 * members.ranges.length }

/-- An assertion. -/
def assert (assertion : Assertion) : Fragment :=
  { regex := .assert assertion, matchesEmpty := true }

/-! ### Operators -/

/-- Several expressions joined two by two from the end on. -/
def joinedRegex (join : Regex → Regex → Regex) (first : Regex) : List Regex → Regex
  | [] => first
  | next :: rest => join first (joinedRegex join next rest)

/-- A fragment of an operator on several fragments, one level deeper than they are. -/
def joined (join : Regex → Regex → Regex) (matchesEmpty : Bool) (extra : Nat)
    (first : Fragment) (rest : List Fragment) : Fragment where
  regex := joinedRegex join first.regex (rest.map Fragment.regex)
  depth := rest.foldl (fun d f => max d f.depth) first.depth + 1
  matchesEmpty := matchesEmpty
  states := rest.foldl (fun n f => n + f.states) first.states + extra
  groups := rest.foldl (fun n f => max n f.groups) first.groups
  names := rest.foldl (fun n f => n + f.names) first.names

/-- Fragments one after another. A single one is left as it is. -/
def sequence : List Fragment → Fragment
  | [] => empty
  | [one] => one
  | first :: rest =>
    joined .sequence (first.matchesEmpty && rest.all Fragment.matchesEmpty) 0 first rest

/-- Alternatives: a state with a way to each of them, and one in which they meet. A single one is
left as it is. -/
def alternatives : List Fragment → Fragment
  | [] => empty
  | [one] => one
  | first :: rest =>
    joined .either (first.matchesEmpty || rest.any Fragment.matchesEmpty)
      (2 * stateSize + 4 * (rest.length + 1)) first rest

/-- A captured group: a state at its start and one at its end. -/
def group (number : Nat) (name : Option (List Char)) (f : Fragment) : Fragment where
  regex := f.regex
  depth := f.depth + 1
  matchesEmpty := f.matchesEmpty
  states := f.states + 2 * stateSize
  groups := max f.groups number
  names := f.names + match name with
    | none => 0
    | some name => (String.ofList name).utf8ByteSize + 4

/-- The size of the states of a repetition that is neither empty nor its body. Without an upper
bound the last round leads back to itself, and a body that can match nothing needs one more choice.
With bounds every round that may be left out is a choice that can lead to the end. -/
def repeatedStates (least : Nat) (most : Option Nat) (body : Fragment) : Nat :=
  match least, most with
  | 0, none =>
    if body.matchesEmpty then body.states + choiceSize + (choiceSize + stateSize)
    else body.states + choiceSize
  | least, none => least * body.states + choiceSize
  | 0, some 1 => body.states + choiceSize + stateSize
  | least, some most =>
    if least = most then least * body.states
    else
      (if least = 0 then stateSize else least * body.states) + stateSize +
        (most - least) * (choiceSize + body.states)

/-- A repetition. Between one and one it is the body, and between zero and zero it is empty. -/
def repeated (least : Nat) (most : Option Nat) (body : Fragment) : Fragment :=
  if least = 0 ∧ most = some 0 then empty
  else if least = 1 ∧ most = some 1 then body
  else { body with
    regex := .repeated body.regex least most
    depth := body.depth + 1
    matchesEmpty := least == 0 || body.matchesEmpty
    states := repeatedStates least most body }

/-! ### Limits -/

/-- The size of an expression: the states of a group around it and one at the end, and its groups
with that one. -/
def size (f : Fragment) : Nat := f.states + 3 * stateSize + 16 * (f.groups + 1) + f.names

/-- Whether an expression is neither too deep nor too large. -/
def fits (f : Fragment) : Bool := f.depth ≤ depthLimit && f.size ≤ sizeLimit

end Fragment

end GridStore
