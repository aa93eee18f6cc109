import GridStore.Pattern.Escape

/-!
# Sets of characters in brackets

A set in brackets lists characters, ranges of characters and sets with a name, and stands for its
complement if it starts with a caret. A hyphen stands for itself at the start and where no range
can follow it, a closing bracket at the start alone.

## Main definitions

* `RegexFlags.bracket?`: the set that starts with a bracket, and the text after it.
-/

namespace GridStore

namespace RegexFlags

/-- A set with a name between colons, after its opening bracket. -/
def namedSet? (cs : List Char) : Option (CharSet × List Char) :=
  match cs with
  | ':' :: rest =>
    let (negated, rest) := match rest with
      | '^' :: r => (true, r)
      | r => (false, r)
    match rest.dropWhile (· != ':') with
    | ':' :: ']' :: after =>
      (CharSet.named? (String.ofList (rest.takeWhile (· != ':')))).map fun set =>
        (if negated then set.complement else set, after)
    | _ => none
  | _ => none

/-- One character or escape in brackets. -/
def bracketItem? (flags : RegexFlags) : List Char → Option (Regex × List Char)
  | [] => none
  | '\\' :: cs => (flags.escape? cs).map fun (f, rest) => (f.regex, rest)
  | c :: cs => some (.char c, cs)

/-- The characters that an item in brackets stands for. -/
def itemSet? : Regex → Option CharSet
  | .char c => some (.range c c)
  | .set members => some members
  | _ => none

/-- One character, escape or range in brackets. The ends of a range are characters in order. -/
def bracketRange? (flags : RegexFlags) (cs : List Char) : Option (CharSet × List Char) := do
  let (first, rest) ← flags.bracketItem? cs
  match flags.skip rest with
  | [] => none
  | '-' :: more =>
    let next := flags.afterHyphen? more
    if next = some ']' ∨ next = some '-' then (itemSet? first).map (·, '-' :: more)
    else
      let (last, after) ← flags.bracketItem? (flags.skip more)
      match first, last with
      | .char a, .char b => if a ≤ b then some (.range a b, after) else none
      | _, _ => none
  | rest => (itemSet? first).map (·, rest)

/-- The set in brackets with the items up to its closing bracket. Two signs of an operation on sets
may not follow each other. -/
def bracketItems? (flags : RegexFlags) (set : CharSet) (cs : List Char) :
    Option (CharSet × List Char) :=
  let rest := flags.skip cs
  let found : Option (CharSet × List Char) := match rest with
    | '[' :: more => namedSet? more
    | '&' :: '&' :: _ => none
    | '-' :: '-' :: _ => none
    | '~' :: '~' :: _ => none
    | _ => flags.bracketRange? rest
  match rest, found with
  | ']' :: after, _ => some (set, after)
  | _, some (members, after) =>
    if after.length < cs.length then flags.bracketItems? (set.union members) after else none
  | _, none => none
termination_by cs.length

/-- The hyphens at the start of a text, which stand for themselves: whether there are any, and the
text after them. -/
def leadingHyphens (flags : RegexFlags) (cs : List Char) : Bool × List Char :=
  match cs with
  | '-' :: rest =>
    have := flags.length_skip_le rest
    (true, (flags.leadingHyphens (flags.skip rest)).2)
  | cs => (false, cs)
termination_by cs.length

/-- A set of characters after its opening bracket. If case is ignored, letters are added before the
complement is taken. -/
def bracket? (flags : RegexFlags) (cs : List Char) : Option (CharSet × List Char) := do
  let (negated, rest) := match flags.skip cs with
    | '^' :: r => (true, flags.skip r)
    | r => (false, r)
  let (hyphens, rest) := flags.leadingHyphens rest
  let (first, rest) := match hyphens, rest with
    | false, ']' :: r => (CharSet.range ']' ']', r)
    | true, r => (CharSet.range '-' '-', r)
    | false, r => (CharSet.empty, r)
  let (set, after) ← flags.bracketItems? first rest
  let set := if flags.ignoreCase then set.withOtherCase else set
  return (if negated then set.complement else set, after)

end RegexFlags

end GridStore
