import GridStore.Pattern.Bracket
import GridStore.Pattern.Repetition
import GridStore.Text.Alphanumeric

/-!
# Reading regular expressions

Expressions are read from left to right with a stack of the groups that are still open. There is no
looking around, no reference back, no class by Unicode property and no set operation. Groups and
operators may be nested fifty deep, and an expression with its repetitions written out has a limited
size.

## Main definitions

* `RegexReader`: what has been read of an expression.
* `RegexReader.step?`: reading one item.
* `Regex.read?`: the expression written by a text.
-/

namespace GridStore

/-! ### Switches -/

namespace RegexFlags

/-- The flags with one of them switched. Greed and Unicode can be switched but make no difference:
characters are always code points, and classes and letter case always those of ASCII. -/
def withFlag? (flags : RegexFlags) (flag : Char) (value : Bool) : Option RegexFlags :=
  match flag with
  | 'i' => some { flags with ignoreCase := value }
  | 'm' => some { flags with multiLine := value }
  | 's' => some { flags with dotAll := value }
  | 'R' => some { flags with returns := value }
  | 'x' => some { flags with verbose := value }
  | 'U' => some flags
  | 'u' => some flags
  | _ => none

/-- Flags up to the colon or parenthesis that ends them: each at most once, those after a hyphen
switched off. -/
def switch? (flags : RegexFlags) (seen : List Char) (value hyphenLast : Bool) :
    List Char → Option (RegexFlags × List Char)
  | [] => none
  | c :: cs =>
    if c = ':' ∨ c = ')' then if hyphenLast then none else some (flags, c :: cs)
    else if c = '-' then if value then switch? flags seen false true cs else none
    else if c ∈ seen then none
    else match flags.withFlag? c value with
      | some flags => switch? flags (c :: seen) value false cs
      | none => none

end RegexFlags

namespace RegexReader

/-- A text without the question mark in front that makes a repetition reluctant. -/
def dropReluctance : List Char → List Char
  | '?' :: cs => cs
  | cs => cs

/-! ### Names of groups -/

/-- Whether a character can occur in the name of a group. -/
def isNameChar (first : Bool) (c : Char) : Bool :=
  if first then c == '_' || isAlphabetic c
  else c == '_' || c == '.' || c == '[' || c == ']' || isAlphanumeric c

/-- The name of a group up to the bracket that ends it. -/
def groupName? (cs : List Char) : Option (List Char × List Char) :=
  let name := cs.takeWhile (· != '>')
  match name, cs.drop name.length with
  | first :: more, '>' :: rest =>
    if isNameChar true first && more.all (isNameChar false) then some (name, rest) else none
  | _, _ => none

/-! ### Levels -/

/-- What has been read of a group: its branches and the items of the last one, both in reverse
order. -/
structure Level where
  branches : List Fragment := []
  items : List Fragment := []

namespace Level

/-- The branch of the items that have been read. -/
def branch (level : Level) : Fragment := Fragment.sequence level.items.reverse

/-- The level at the start of one more branch. -/
def nextBranch (level : Level) : Level := ⟨level.branch :: level.branches, []⟩

/-- The expression of a complete group. -/
def fragment (level : Level) : Fragment :=
  Fragment.alternatives (level.branch :: level.branches).reverse

end Level

/-- The number and the name of a captured group. -/
structure Capture where
  number : Nat
  name : Option (List Char)

/-- A group around the one that is being read: what was read of it, the flags in force there, and
how the group inside is captured, if it is. -/
structure Outer where
  level : Level
  flags : RegexFlags
  capture : Option Capture

end RegexReader

/-- What has been read of an expression. -/
structure RegexReader where
  flags : RegexFlags := {}
  level : RegexReader.Level := {}
  outer : List RegexReader.Outer := []
  groups : Nat := 0
  names : List (List Char) := []

namespace RegexReader

/-- The state with one more item. -/
def push (state : RegexReader) (f : Fragment) : RegexReader :=
  { state with level := { state.level with items := f :: state.level.items } }

/-! ### Groups -/

/-- The state inside a new group. -/
def openGroup? (state : RegexReader) (flags : RegexFlags) (capture : Option Capture) :
    Option RegexReader :=
  if state.outer.length < Fragment.depthLimit then
    some { state with
      flags := flags
      level := {}
      outer := ⟨state.level, state.flags, capture⟩ :: state.outer }
  else
    none

/-- The state inside a new captured group. No two groups have one name. -/
def openCapture? (state : RegexReader) (name : Option (List Char)) : Option RegexReader :=
  if name.any (· ∈ state.names) then none
  else
    let number := state.groups + 1
    { state with groups := number, names := name.toList ++ state.names }.openGroup? state.flags
      (some ⟨number, name⟩)

/-- The state after the end of a group. -/
def closeGroup? (state : RegexReader) : Option RegexReader :=
  match state.outer with
  | [] => none
  | outer :: rest =>
    let inner := state.level.fragment
    some <| push { state with flags := outer.flags, level := outer.level, outer := rest }
      (match outer.capture with
        | some capture => inner.group capture.number capture.name
        | none => inner)

/-- The start of a captured group with a name, after the bracket in front of the name. -/
def namedGroup? (state : RegexReader) (cs : List Char) : Option (RegexReader × List Char) := do
  let (name, rest) ← groupName? cs
  return (← state.openCapture? (some name), rest)

/-- The start of a group with flags, or flags for the rest of the group around them, after the
question mark. -/
def flagGroup? (state : RegexReader) (cs : List Char) : Option (RegexReader × List Char) :=
  match state.flags.switch? [] true false cs with
  | some (flags, ':' :: after) => (state.openGroup? flags none).map (·, after)
  | some (flags, ')' :: after) =>
    if cs.head? = some ')' then none else some ({ state with flags := flags }, after)
  | _ => none

/-- The start of a group or a directive, after the parenthesis. -/
def group? (state : RegexReader) (cs : List Char) : Option (RegexReader × List Char) :=
  match state.flags.skip cs with
  | '?' :: '=' :: _ => none
  | '?' :: '!' :: _ => none
  | '?' :: '<' :: '=' :: _ => none
  | '?' :: '<' :: '!' :: _ => none
  | '?' :: 'P' :: '<' :: rest => state.namedGroup? rest
  | '?' :: '<' :: rest => state.namedGroup? rest
  | '?' :: rest => state.flagGroup? rest
  | rest => (state.openCapture? none).map (·, rest)

/-! ### Items -/

/-- The state with the last item repeated. -/
def repeatLast? (state : RegexReader) (least : Nat) (most : Option Nat) : Option RegexReader :=
  match state.level.items with
  | [] => none
  | f :: items =>
    some { state with level := { state.level with items := f.repeated least most :: items } }

/-- The item that starts with a character, and the text after it. -/
def item? (flags : RegexFlags) (c : Char) (cs : List Char) : Option (Fragment × List Char) :=
  if c = '\\' then flags.escape? cs
  else if c = '[' then (flags.bracket? cs).map fun (set, rest) => (.set set, rest)
  else if c = '.' then some (.set flags.anyChar, cs)
  else if c = '^' then some (.assert flags.lineStart, cs)
  else if c = '$' then some (.assert flags.lineEnd, cs)
  else some (flags.literal c, cs)

/-- The state after the item or operator that starts with a character. -/
def step? (state : RegexReader) (c : Char) (cs : List Char) : Option (RegexReader × List Char) :=
  if c = '(' then state.group? cs
  else if c = ')' then state.closeGroup?.map (·, cs)
  else if c = '|' then some ({ state with level := state.level.nextBranch }, cs)
  else if c = '?' then (state.repeatLast? 0 (some 1)).map (·, dropReluctance cs)
  else if c = '*' then (state.repeatLast? 0 none).map (·, dropReluctance cs)
  else if c = '+' then (state.repeatLast? 1 none).map (·, dropReluctance cs)
  else if c = '\x7b' then do
    let ((least, most), rest) ← state.flags.bounds? cs
    return (← state.repeatLast? least most, dropReluctance rest)
  else (item? state.flags c cs).map fun (f, rest) => (state.push f, rest)

/-- The state after all of a text. Every step takes at least the character it looks at. -/
def run? (state : RegexReader) (cs : List Char) : Option RegexReader :=
  match state.flags.skip cs with
  | [] => some state
  | c :: rest =>
    match state.step? c rest with
    | some (next, after) => if after.length < cs.length then run? next after else none
    | none => none
termination_by cs.length

end RegexReader

/-- The expression written by a text, if it is one. -/
def Regex.read? (text : String) : Option Regex := do
  let state ← RegexReader.run? {} text.toList
  let whole := state.level.fragment
  if state.outer.isEmpty ∧ whole.fits then some whole.regex else none

end GridStore
